import StubMachine.Machine.Conversion
import StubMachine.Native.Catalog

/-!
# Calling

A function is called with named arguments; an unnamed one finds its parameter by rule.
**Binding** gives each argument a parameter of its own or fails.  A vararg function
takes all arguments in one new object instead.  The parameter `$` is never bound by an
argument; it receives the private binding of the interface that makes the call.

A function that carries types has its arguments checked before it starts and its result
afterwards.  A type is called with a single argument and converts it.
-/

namespace StubMachine

open StubMachine.Action

/-! ## Binding -/

namespace Stub

/-- The parameters that callers may bind, by position. -/
def bindable (s : Stub) : List Nat :=
  (List.range s.arity).filter fun i => s.parameters[i]? != some privateName

/-- The parameter of an unnamed argument: the only one there is, or, when a base is
supplied, the other one of two. -/
def unnamedIndex? (s : Stub) (baseSupplied : Bool) : Option Nat :=
  match s.bindable with
  | [only] => some only
  | [a, b] =>
    if baseSupplied then
      if s.parameters[a]? = some "base" then some b
      else if s.parameters[b]? = some "base" then some a
      else none
    else none
  | _ => none

/-- The parameter of an argument. -/
def targetIndex? (s : Stub) (baseSupplied : Bool) (name : String) : Option Nat :=
  if name.isEmpty then s.unnamedIndex? baseSupplied
  else if name = privateName then none
  else s.parameterIndex? name

end Stub

/-- The parameters of an activation while they are being bound; one that is not bound
yet has no value. -/
abbrev Binding := Array (Option Value)

/-- Bind one argument, or name it as one that cannot be bound. -/
def bindOne (s : Stub) (baseSupplied : Bool) (b : Binding) (argument : String × Value) :
    Except String Binding :=
  match s.targetIndex? baseSupplied argument.1 with
  | none => .error argument.1
  | some i =>
    match b[i]? with
    | some none => .ok (b.setIfInBounds i (some argument.2))
    | _ => .error argument.1

/-- The arguments of a call with the bound base of the function, if it has one, at the
end. -/
def suppliedArguments (f : FunctionFacet) (arguments : Arguments) : Arguments :=
  arguments ++ (f.boundBase.map fun base => ("base", base)).toList

/-- Bind all arguments; the failure names the first that cannot be bound. -/
def bindNamed (s : Stub) (supplied : Arguments) : Except String (Array Value) := do
  let baseSupplied := supplied.any fun a => a.1 == "base"
  let bound ← supplied.foldlM (bindOne s baseSupplied) (Array.replicate s.arity none)
  return bound.map Value.ofOption

/-- The object that holds all arguments of a vararg function: named ones under their
names, unnamed ones under indices. -/
def argumentBag (supplied : Arguments) : Object :=
  supplied.foldl
    (fun bag a => if a.1.isEmpty then bag.push a.2 else bag.setText a.1 a.2) Object.blank

/-- What holds of a blank object and is kept by each argument holds of the object that has them
all. -/
theorem argumentBag_induction {P : Object → Prop} {supplied : Arguments} (blank : P .blank)
    (push : ∀ bag, ∀ a ∈ supplied, P bag → P (bag.push a.2))
    (setText : ∀ bag, ∀ a ∈ supplied, P bag → P (bag.setText a.1 a.2)) :
    P (argumentBag supplied) := by
  unfold argumentBag
  refine List.foldlRecOn supplied _ blank fun bag kept a listed => ?_
  split
  · exact push bag a listed kept
  · exact setText bag a listed kept

/-- Give the private binding to its parameter, if both are there. -/
def bindPrivate (s : Stub) (binding : Option Value) (parameters : Array Value) : Array Value :=
  match s.parameterIndex? Stub.privateName, binding with
  | some i, some v => parameters.setIfInBounds i v
  | _, _ => parameters

/-- **The parameters of a call.** -/
def bindArguments (f : FunctionFacet) (arguments : Arguments) (binding : Option Value) :
    Action (Array Value) := do
  let supplied := suppliedArguments f arguments
  let blank := Array.replicate f.stub.arity Value.empty
  let parameters ←
    if f.stub.isVararg then do
      let bag ← newObject (argumentBag supplied)
      pure (blank.setIfInBounds 0 (.object bag))
    else
      match bindNamed f.stub supplied with
      | .ok parameters => pure parameters
      | .error name => raise (.cannotBind name f.stub.bindableNames)
  return bindPrivate f.stub binding parameters

/-! ## Checking types -/

/-- The first parameter whose value is not of its type. -/
def mistyped? (m : Machine) (s : Stub) (types : Array TypeId) (parameters : Array Value) :
    Option (String × Value × TypeId) :=
  (List.range s.arity).findSome? fun i =>
    match s.parameters[i]?, types[i]?, parameters[i]? with
    | some name, some t, some v =>
      if name = Stub.privateName || m.isA v t then none else some (name, v, t)
    | _, _, _ => none

/-- Raise an error unless the parameters have their types; `$` needs none. -/
def checkParameters (f : FunctionFacet) (parameters : Array Value) : Action Unit := do
  match f.types with
  | none => return ()
  | some types =>
    match ← read fun m => mistyped? m f.stub types parameters with
    | none => return ()
    | some (name, v, t) =>
      raise (.argumentType name (← typeName v) (← read fun m => m.types.name t))

/-- The result of a call, or an error if it is not of its type. -/
def checkResult (f : FunctionFacet) (v : Value) : Action Value := do
  match f.types.bind fun types => types[f.stub.arity]? with
  | none => return v
  | some t =>
    if ← read fun m => m.isA v t then return v
    raise (.resultType (← typeName v) (← read fun m => m.types.name t))

/-! ## Calling -/

/-- Call a type: its single argument, unnamed or named `from`, is converted. -/
def callType (e : Engine) (t : TypeId) (arguments : Arguments) : Action Value := do
  match arguments with
  | [(name, v)] =>
    if name = "" || name = "from" then convertTo e v t
    else raise (.converterArguments (← read fun m => m.types.name t))
  | _ => raise (.converterArguments (← read fun m => m.types.name t))

/-- Call a function object. -/
def callFacet (host : Host) (e : Engine) (f : FunctionFacet) (arguments : Arguments)
    (binding : Option Value) : Action Value := do
  let parameters ← bindArguments f arguments binding
  checkParameters f parameters
  let result ←
    if f.stub.isNative then callNative host e f.stub parameters
    else e.enter f parameters none
  checkResult f result

/-- **Call a value.** -/
def callValue (host : Host) (e : Engine) (function : Value) (arguments : Arguments)
    (binding : Option Value) : Action Value := do
  match function with
  | .type t => callType e t arguments
  | .object o =>
    match (← objectAt o).function? with
    | some f => callFacet host e f arguments binding
    | none => raise .objectNotCallable
  | v => raise (.notCallable v.kind)

end StubMachine
