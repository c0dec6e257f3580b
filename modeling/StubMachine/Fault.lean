import StubMachine.Bytecode.Record
import StubMachine.Operator
import StubMachine.Query
import StubMachine.Store.TypeTable

/-!
# What can go wrong

A **fault** is a complaint that a script can intercept; its words become the summary of
the error that is raised.  A **fatal cause** is a defect that no script can intercept.
A **failure** is how an operation of the machine ends when it does not end with a
value: the raised error or signal itself is kept by the machine, and the failure only
says that one is on its way.
-/

namespace StubMachine

/-- A complaint of the machine or of a native function. -/
inductive Fault
  -- calling
  | notCallable (kind : Kind)
  | objectNotCallable
  | converterArguments (type : String)
  /-- An argument, unnamed if its name is empty, has no parameter to go to. -/
  | cannotBind (name : String) (legal : List String)
  | argumentType (name got wanted : String)
  | resultType (got wanted : String)
  | depthExceeded
  | loopBody
  | notIterable (kind : Kind)
  | iterationHook (kind : Kind)
  -- executing
  | unknownOpcode (byte : UInt8)
  | poolIndex (operand : Float)
  | unknownStub (id : Float)
  | signatureType (kind : Kind)
  | unknownType (operand : Float)
  | argumentName (kind : Kind)
  | unknownOperator (operand : Float)
  | unknownAssignment (byte : Nat)
  | stackUnderflow
  | referrableRange (slot : Nat)
  | unknownNative (id : Nat)
  | unknownQuery (id : Nat)
  -- members
  | key (fault : KeyFault)
  | noMembers (write : Bool) (kind : Kind)
  | interfaceKey
  | functionMembers
  | memberUnreadable (name : String)
  | memberUnwritable (name : String)
  | memberMissing (name : String)
  | recordKey (shown type : String)
  | recordType (name wanted got : String)
  | enumerationHook (what : String) (kind : Kind)
  -- converting and operating
  | cannotConvert (what wanted : String)
  | conversionResult (wanted : String) (kind : Kind)
  | undefinedOperator (symbol : String) (kind : Kind)
  | queryBase (query : Query) (wanted : String) (kind : Kind)
  | queryImmediate (query : Query)
  -- arguments of natives
  | objectExpected (what : String) (kind : Kind)
  | stringExpected (what : String) (kind : Kind)
  | numberExpected (what : String) (kind : Kind)
  | indexExpected (what : String) (n : Float)
  | functionExpected (what : String) (kind : Kind)
  -- natives on objects
  | insertPosition (position size : Nat)
  | subsetReversed (low high : Nat)
  | subsetText (high length : Nat)
  | subsetIndices (high count : Nat)
  | subsetBase (kind : Kind)
  | sizeTooLarge (size : Nat)
  | recordInterface
  | accessorNeeded (name : String)
  | memberKind (name : String) (kind : Kind)
  -- natives on texts and numbers
  | emptyKey
  | nothingToReplace
  | characterIndex (index length : Nat)
  | characterCode (n : Float)
  | formatNumber
  | formatItem (index : Nat)
  | numberText (text : String)
  | angleBase
  -- natives on types
  | isaType (kind : Kind)
  | parentKind (kind : Kind)
  | parentsKind (kind : Kind)
  | layoutEntry (name : String) (kind : Kind)
  | layoutKind (kind : Kind)
  | type (fault : TypeFault)
  | instanceType (kind : Kind)
  | builtinInstance (name : String)
  -- documents, modules, host functions
  | cyclicDocument
  | documentKey (kind : Kind)
  | documentSyntax (detail : String)
  | externalMissing (name : String)
  | importFailed (name detail : String)
  | fileCount
  /-- A complaint of a function supplied by the embedder, in its own words. -/
  | foreign (message : String)

/-- A byte as two hexadecimal digits after `0x`. -/
def hexByte (b : UInt8) : String :=
  let digits := Nat.toDigits 16 b.toNat
  String.ofList ('0' :: 'x' :: (List.replicate (2 - digits.length) '0' ++ digits))

/-- **The words of a fault.** -/
def Fault.message : Fault → String
  | notCallable kind => kind.name ++ " value is not callable"
  | objectNotCallable => "Object is not callable"
  | converterArguments wanted =>
    "Type " ++ wanted ++ " expects a single 'from' argument to convert"
  | cannotBind name legal =>
    let what := if name.isEmpty then "unnamed argument" else "argument '" ++ name ++ "'"
    "Could not bind " ++ what ++ ". Legal parameter names: [" ++ ", ".intercalate legal ++ "]"
  | argumentType name got wanted =>
    "Argument '" ++ name ++ "' of type " ++ got ++ " does not satisfy " ++ wanted
  | resultType got wanted =>
    "Return value of type " ++ got ++ " does not satisfy " ++ wanted
  | depthExceeded => "Call stack depth exceeded"
  | loopBody => "Loop body must be a script function"
  | notIterable kind => "Cannot iterate a " ++ kind.name ++ " value"
  | iterationHook kind => "foreach attribute must return an Object, got " ++ kind.name
  | unknownOpcode byte => "Unknown opcode " ++ hexByte byte
  | poolIndex operand => "String pool index " ++ Style.plain.text operand ++ " out of range"
  | unknownStub id => "Unknown function stub " ++ Style.plain.text id
  | signatureType kind => "Function signature expects Type values, got " ++ kind.name
  | unknownType operand => "Unknown builtin type " ++ Style.plain.text operand
  | argumentName kind => "Argument names must be strings, got " ++ kind.name
  | unknownOperator operand => "Unknown operator " ++ Style.plain.text operand
  | unknownAssignment byte => s!"Unknown assignment operator {byte}"
  | stackUnderflow => "Value stack underflow"
  | referrableRange slot => s!"Referrable {slot} out of range"
  | unknownNative id => s!"Unknown external function {id}"
  | unknownQuery id => s!"Unknown query {id}"
  | key fault => fault.message
  | noMembers write kind =>
    "Cannot " ++ (if write then "set" else "access") ++ " a member of a " ++ kind.name ++ " value"
  | interfaceKey => "Interface members can only be accessed with string keys"
  | functionMembers => "Functions have no members"
  | memberUnreadable name => "Interface member '" ++ name ++ "' cannot be read"
  | memberUnwritable name => "Interface member '" ++ name ++ "' cannot be written"
  | memberMissing name => "Interface has no member '" ++ name ++ "'"
  | recordKey shown owner => shown ++ " is not a member of record type " ++ owner
  | recordType name wanted got =>
    "Record member '" ++ name ++ "' requires " ++ wanted ++ ", got " ++ got
  | enumerationHook what kind =>
    "'" ++ what ++ "' attribute must produce an Object, got " ++ kind.name
  | cannotConvert what wanted => "Cannot convert " ++ what ++ " to " ++ wanted
  | conversionResult wanted kind =>
    wanted ++ " conversion attribute returned " ++ kind.name ++ " instead"
  | undefinedOperator symbol kind =>
    "Operator '" ++ symbol ++ "' is not defined for " ++ kind.name
  | queryBase query wanted kind =>
    query.title ++ " requires a " ++ wanted ++ " base, got " ++ kind.name
  | queryImmediate query => "Query " ++ query.title ++ " has no immediate form"
  | objectExpected what kind => what ++ " must be an Object, got " ++ kind.name
  | stringExpected what kind => what ++ " must be a String, got " ++ kind.name
  | numberExpected what kind => what ++ " must be a Number, got " ++ kind.name
  | indexExpected what n =>
    what ++ " must be a non-negative index, got " ++ Style.plain.text n
  | functionExpected what kind => what ++ " must be a function, got " ++ kind.name
  | insertPosition position size => s!"insert position {position} is past the end ({size})"
  | subsetReversed low high => s!"subset range {low}..{high} is reversed"
  | subsetText high length =>
    s!"subset end {high} is out of range for a string of length {length}"
  | subsetIndices high count => s!"subset end {high} is out of range for {count} indices"
  | subsetBase kind => "subset requires a String or Object base, got " ++ kind.name
  | sizeTooLarge size => s!"Invalid index {size}"
  | recordInterface => "A record object cannot become an interface"
  | accessorNeeded name => "interface member '" ++ name ++ "' needs a get or set function"
  | memberKind name kind =>
    "interface member '" ++ name ++ "' must be a function or accessor, got " ++ kind.name
  | emptyKey => "search key must not be empty"
  | nothingToReplace => "replace requires 'key' or 'keys'"
  | characterIndex index length =>
    s!"index {index} is out of range for a string of length {length}"
  | characterCode n => Style.plain.text n ++ " is not a valid character code"
  | formatNumber => "number too large to fit in target type"
  | formatItem index => s!"format item ${index} was not supplied"
  | numberText text => "'" ++ text ++ "' is not a valid Number"
  | angleBase => "atan2 requires a Number base"
  | isaType kind => "isa requires a Type, got " ++ kind.name
  | parentKind kind => "inherits may only contain Types, found " ++ kind.name
  | parentsKind kind => "inherits must be an Object of Types, got " ++ kind.name
  | layoutEntry name kind => "layout entry '" ++ name ++ "' must be a Type, got " ++ kind.name
  | layoutKind kind => "layout must be an Object, got " ++ kind.name
  | type fault => fault.message
  | instanceType kind => "instantiate requires a Type, got " ++ kind.name
  | builtinInstance name => "Cannot instantiate builtin type " ++ name
  | cyclicDocument => "cannot encode a cyclic object as JSON"
  | documentKey kind => kind.name ++ " keys cannot be encoded as JSON"
  | documentSyntax detail => "invalid JSON: " ++ detail
  | externalMissing name => "unable to find external function '" ++ name ++ "'"
  | importFailed name detail => "could not import module '" ++ name ++ "': " ++ detail
  | fileCount => "out of range integral type conversion attempted"
  | foreign message => message

/-- A defect that ends the run and that no script can intercept. -/
inductive FatalCause
  | unreadableModule (name : String) (fault : RecordFault)
  | missingEntry (name : String)
  | missingEntryOfFile (file : UInt32)
  /-- A stub captures from one that the scope does not hold. -/
  | captureOffScope (stub slot owner : UInt32)
  | captureRange (stub slot owner : UInt32) (count : Nat)
  | missingNative (id : Nat)
  /-- A defect reported by a function supplied by the embedder, in its own words. -/
  | foreign (message : String)

/-- The words of a fatal cause. -/
def FatalCause.message : FatalCause → String
  | unreadableModule name fault => "cannot load '" ++ name ++ "': " ++ fault.message
  | missingEntry name => "module '" ++ name ++ "' has no entry stub"
  | missingEntryOfFile file => s!"file {file} has no entry stub"
  | captureOffScope stub slot owner =>
    s!"stub {stub} captures slot {slot} of stub {owner}, which is not on the scope chain"
  | captureRange stub slot owner count =>
    s!"stub {stub} captures slot {slot} of stub {owner}, which has only {count} referrables"
  | missingNative id => s!"native {id} is not registered"
  | foreign message => message

/-- An error that no script intercepted: where it was raised, and what it is about. -/
structure UnhandledError where
  file : String
  line : UInt32
  summary : String
deriving DecidableEq, Repr

/-- The words for an unhandled error. -/
def UnhandledError.message (e : UnhandledError) : String :=
  s!"unhandled error ({e.file}:{e.line}): " ++ e.summary

/-- How an operation ends that does not end with a value. -/
inductive Failure
  /-- A raised error or signal is pending in the machine. -/
  | unwinding
  | fatal (cause : FatalCause)
  | unhandled (error : UnhandledError)
  /-- A fault that was not raised in the machine but is handed to the caller. -/
  | plain (fault : Fault)
  /-- The bound on the work of the machine was used up. -/
  | exhausted

/-- The words for a failure. -/
def Failure.message : Failure → String
  | unwinding => "catchable pending"
  | fatal cause => "fatal: " ++ cause.message
  | unhandled error => error.message
  | plain fault => fault.message
  | exhausted => "out of fuel"

end StubMachine
