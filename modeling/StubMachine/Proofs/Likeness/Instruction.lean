import StubMachine.Proofs.Likeness.Native
import StubMachine.Proofs.Routine.Instruction

/-!
# Calls and instructions are alike

Calling a function, asking a query, starting a loop and executing an instruction do the
same under every likeness, and so does the run of a whole frame.  An instruction works on
one frame, so states must not only be alike but agree on that frame
(`Likeness.Sees`).
-/

namespace StubMachine

open StubMachine.Action

namespace Likeness
variable {L : Likeness} {m n : Machine}

/-- **A frame that is the same** in states that are alike. -/
def Sees (L : Likeness) (i : Nat) : Prop := ∀ m n, L.Rel m n → n.frame i = m.frame i

theorem mistyped (h : L.Rel m n) (s : Stub) (declared : Array TypeId) (parameters : Array Value) :
    mistyped? n s declared parameters = mistyped? m s declared parameters := by
  simp only [mistyped?, isA h]

theorem stubs (h : L.Rel m n) : n.stubs = m.stubs := congrArg Contents.stubs (L.contents h)

theorem slots (h : L.Rel m n) : n.slots = m.slots := congrArg Contents.slots (L.contents h)

theorem referrables (h : L.Rel m n) : n.referrables = m.referrables := by
  funext s
  rw [Machine.referrables, slots h, Machine.referrables]

theorem slotAt (h : L.Rel m n) : n.slot? = m.slot? := by
  funext c
  rw [Machine.slot?, referrables h, Machine.slot?]

theorem resolve (h : L.Rel m n) (scope : Scope) (file stub : UInt32) :
    n.resolve scope file stub = m.resolve scope file stub := by
  funext site
  simp only [Machine.resolve, referrables h]

namespace Same
variable {α : Type}

/-! ## Calls -/

theorem bindArguments (f : FunctionFacet) (arguments : Arguments) (binding : Option Value) :
    L.Same (StubMachine.bindArguments f arguments binding)
      (StubMachine.bindArguments f arguments binding) := by
  delta StubMachine.bindArguments
  refine .ite (.bind (.newObject _) fun bag => .pure _) ?_
  cases bindNamed f.stub (suppliedArguments f arguments) with
  | ok parameters => exact .pure _
  | error name => exact .bind (.raise _) fun _ => .pure _

theorem checkParameters (f : FunctionFacet) (parameters : Array Value) :
    L.Same (StubMachine.checkParameters f parameters) (StubMachine.checkParameters f parameters) := by
  delta StubMachine.checkParameters
  cases f.types with
  | none => exact .pure ()
  | some types =>
    refine .bind (.read fun h => mistyped h _ _ _) fun mistyped? => ?_
    cases mistyped? with
    | none => exact .pure ()
    | some found =>
      exact .bind (.typeName _) fun _ => .bind (.look fun c => c.types.name _) fun _ => .raise _

theorem checkResult (f : FunctionFacet) (v : Value) :
    L.Same (StubMachine.checkResult f v) (StubMachine.checkResult f v) := by
  delta StubMachine.checkResult
  cases f.types.bind fun types => types[f.stub.arity]? with
  | none => exact .pure v
  | some t =>
    refine .bind (.read fun h => isA h v t) fun fits => .ite (.pure v) ?_
    exact .bind (.typeName v) fun _ => .bind (.look fun c => c.types.name _) fun _ => .raise _

theorem readReferrable {i : Nat} (sees : L.Sees i) (slot : Nat) :
    L.Same (StubMachine.readReferrable i slot) (StubMachine.readReferrable i slot) := by
  delta StubMachine.readReferrable
  refine .bind (.read fun h => by rw [sees _ _ h, slotAt h]) fun v? => ?_
  cases v? with
  | some v => exact .pure v
  | none => exact .raise _

theorem writeReferrable {i : Nat} (sees : L.Sees i) (slot : Nat) (v : Value) :
    L.Same (StubMachine.writeReferrable i slot v) (StubMachine.writeReferrable i slot v) := by
  delta StubMachine.writeReferrable
  refine .bind (.read fun h => by rw [sees _ _ h, slotAt h]) fun c? => ?_
  cases c? with
  | some c =>
    exact .refill fun contents => { contents with
      slots := contents.slots.modify c.slots.serial fun a => a.setIfInBounds c.index v }
  | none => exact .raise _

theorem frameOf {i : Nat} (sees : L.Sees i) (f : Frame → α) :
    L.Same (readFrame i f) (readFrame i f) :=
  .read fun h => congrArg f (sees _ _ h)

theorem stubBeside {i : Nat} (sees : L.Sees i) (id : UInt32) :
    L.Same (stubBeside? i id) (stubBeside? i id) :=
  .read fun h => by rw [sees _ _ h, stubs h]

theorem makeClosure {i : Nat} (sees : L.Sees i) (id : UInt32) (declared : Option (Array TypeId)) :
    L.Same (StubMachine.makeClosure i id declared) (StubMachine.makeClosure i id declared) := by
  delta StubMachine.makeClosure
  refine .bind (stubBeside sees id) fun stub? => ?_
  cases stub? with
  | none => exact .raise _
  | some stub =>
    refine .bind (frameOf sees _) fun frame => ?_
    refine .bind (.read fun h => by rw [resolve h]) fun captures => ?_
    cases captures with
    | error cause => exact .throw _
    | ok captures => exact .newFunction _

theorem loopBody (body : Value) : L.Same (StubMachine.loopBody body) (StubMachine.loopBody body) := by
  delta StubMachine.loopBody
  cases body with
  | object o =>
    refine .objectAt o (fun _ _ _ _ => rfl) fun object => .bind (.pure _) fun facet? => ?_
    cases facet? with
    | some f => exact .pure f
    | none => exact .raise _
  | _ => exact .raise _

section Requests
variable {e e' : Engine} (engines : L.Engines e e')
include engines

theorem callType (t : TypeId) (arguments : Arguments) :
    L.Same (StubMachine.callType e t arguments) (StubMachine.callType e' t arguments) := by
  have refused : L.Same
      (Action.read (fun m => m.types.name t) >>= fun name => Action.raise (.converterArguments name))
      (Action.read (fun m => m.types.name t) >>= fun name =>
        (Action.raise (.converterArguments name) : Action Value)) :=
    .bind (.look fun c => c.types.name t) fun _ => .raise _
  delta StubMachine.callType
  split
  · exact .ite (convertTo engines _ t) refused
  · exact refused

/-! ## Queries -/

theorem askObject (q : Query) (o : ObjectId) :
    L.Same (StubMachine.askObject e q o) (StubMachine.askObject e' q o) := by
  cases q with
  | keyCount => exact .bind (objectKeys engines o) fun keys => .pure _
  | keys => exact .bind (objectKeys engines o) fun keys => .newList _
  | values => exact .bind (objectValues engines o) fun values => .newList _
  | pop =>
    refine .objectAt o (fun _ _ _ _ => rfl) fun object => .bind ?_ fun _ => .pure _
    exact .changeObject o (fun _ _ => id) fun _ _ _ => rfl
  | attributes => exact .objectAt o (fun _ _ _ _ => rfl) fun object => .pure _
  | _ => exact .raise _

theorem askImmediate (q : Query) (base : Value) :
    L.Same (StubMachine.askImmediate e q base) (StubMachine.askImmediate e' q base) := by
  delta StubMachine.askImmediate
  split
  · exact .bind (.read fun h => typeOf h base) fun t => .pure _
  · exact .pure _
  · exact .raise _
  · exact .pure _
  · exact .objectAt _ (fun _ _ _ _ => rfl) fun object => .pure _
  · exact .raise _
  · exact .bind (.look fun c => c.types.name _) fun name => .pure _
  · exact .raise _
  · cases q.numeric? with
    | some f =>
      cases base with
      | number n => exact .pure _
      | _ => exact .raise _
    | none =>
      cases q.textual? with
      | some f =>
        cases base with
        | string s => exact .pure _
        | _ => exact .raise _
      | none =>
        cases base with
        | object o => exact askObject engines q o
        | _ => exact .raise _

theorem ask (base : Value) (id : Nat) :
    L.Same (StubMachine.ask e base id) (StubMachine.ask e' base id) := by
  delta StubMachine.ask
  cases Query.ofId? id with
  | none => exact .raise _
  | some q =>
    dsimp only
    cases q.parameterizedIndex? with
    | some i => exact boundNative _ base
    | none => exact askImmediate engines q base

/-! ## Loops -/

theorem countLoop (first stop : Float) (body : Value) :
    L.Same (StubMachine.countLoop e first stop body) (StubMachine.countLoop e' first stop body) :=
  .bind (loopBody body) fun _ => .ite (.pure _) (enterLoop engines (.count first stop _))

theorem foreverLoop (body : Value) :
    L.Same (StubMachine.foreverLoop e body) (StubMachine.foreverLoop e' body) :=
  .bind (loopBody body) fun _ => enterLoop engines .forever

theorem iterated (o : ObjectId) : L.Same (StubMachine.iterated e o) (StubMachine.iterated e' o) := by
  delta StubMachine.iterated
  refine .bind (.read fun h => attributeNamed h o _) fun hook? => ?_
  cases hook? with
  | none => exact .pure o
  | some hook =>
    refine .bind (.call engines _ _) fun v => ?_
    cases v with
    | object o => exact .pure o
    | _ => exact .raise _

theorem entryLoop (target body : Value) :
    L.Same (StubMachine.entryLoop e target body) (StubMachine.entryLoop e' target body) := by
  cases target with
  | object o =>
    refine .bind (iterated engines o) fun o => .bind (loopBody body) fun f => ?_
    refine .bind (objectKeys engines o) fun keys => .bind (objectValues engines o) fun values => ?_
    cases keys with
    | nil => exact .pure _
    | cons key keys => exact enterLoop engines (.entries key keys values)
  | _ => exact .raise _

/-! ## One frame -/

section Frames
variable {i : Nat} (sees : L.Sees i)
include sees

omit engines in
theorem rebindParameters (values : List Value) :
    L.Same (StubMachine.rebind i values) (StubMachine.rebind i values) :=
  .bind (frameOf sees _) fun _ => .forM (fun ⟨v, slot⟩ => writeReferrable sees slot v) _

theorem advance (condition : Restart) :
    L.Same (StubMachine.advance e i condition) (StubMachine.advance e' i condition) := by
  cases condition with
  | count current stop step bindsCounter =>
    suffices finish : ∀ current : Float, L.Same _ _ from
      .ite (.bind (readReferrable sees 0) fun v => .bind (asNumber engines v) finish)
        (.bind (.pure current) finish)
    intro current
    cases bindsCounter with
    | true =>
      exact .ite (.ite (.bind (writeReferrable sees 0 _) fun _ => .pure _) (.pure _)) (.pure none)
    | false => exact .ite (.pure _) (.pure none)
  | forever => exact .pure _
  | entries keys values index =>
    delta StubMachine.advance
    dsimp only
    split
    · exact .bind (rebindParameters sees _) fun _ => .pure _
    · exact .pure none

theorem startOver : L.Same (StubMachine.startOver e i) (StubMachine.startOver e' i) := by
  rw [startOver_eq, startOver_eq]
  refine .bind (frameOf sees _) fun condition? => ?_
  cases condition? with
  | none => exact .pure false
  | some condition =>
    refine .bind (.updateFrame i _) fun _ => .bind (advance engines sees condition) fun next? => ?_
    cases next? with
    | none => exact .pure false
    | some next => exact .bind (.updateFrame i _) fun _ => .pure true

/-! ## The value stack and operands -/

omit engines

omit sees in
theorem pushValue (v : Value) : L.Same (StubMachine.push i v) (StubMachine.push i v) := .updateFrame i _

omit sees in
theorem skip (count : Nat) : L.Same (StubMachine.skip i count) (StubMachine.skip i count) :=
  .updateFrame i _

theorem peek : L.Same (StubMachine.peek i) (StubMachine.peek i) := by
  refine .bind (frameOf sees _) fun stack => ?_
  cases stack with
  | nil => exact .raise _
  | cons v rest => exact .pure v

theorem pop : L.Same (StubMachine.pop i) (StubMachine.pop i) := by
  refine .bind (frameOf sees _) fun stack => ?_
  cases stack with
  | nil => exact .raise _
  | cons v rest => exact .bind (.updateFrame i _) fun _ => .pure v

theorem popMany (count : Nat) : L.Same (StubMachine.popMany i count) (StubMachine.popMany i count) := by
  refine .bind (frameOf sees _) fun stack => .ite (.bind (.raise _) fun _ => ?_) ?_
  · exact .bind (.updateFrame i _) fun _ => .pure _
  · exact .bind (.updateFrame i _) fun _ => .pure _

theorem pooledText (operand : Float) :
    L.Same (StubMachine.pooledText i operand) (StubMachine.pooledText i operand) := by
  refine .bind (frameOf sees _) fun s? => ?_
  cases s? with
  | some s => exact .pure s
  | none => exact .raise _

omit sees in
theorem builtinType (operand : Float) :
    L.Same (StubMachine.builtinType operand) (StubMachine.builtinType operand) := by
  delta StubMachine.builtinType
  dsimp only
  split
  · exact .pure _
  · exact .raise _

omit sees in
theorem namedOperator (operand : Float) :
    L.Same (StubMachine.namedOperator operand) (StubMachine.namedOperator operand) := by
  delta StubMachine.namedOperator
  split
  · exact .pure _
  · exact .raise _

omit sees in
theorem namedAssignment (byte : Nat) :
    L.Same (StubMachine.namedAssignment byte) (StubMachine.namedAssignment byte) := by
  delta StubMachine.namedAssignment
  split
  · exact .pure _
  · exact .raise _

omit sees in
theorem signatureTypes (values : List Value) :
    L.Same (StubMachine.signatureTypes values) (StubMachine.signatureTypes values) := by
  induction values with
  | nil => exact .pure []
  | cons v values ih =>
    cases v with
    | type t => exact .bind ih fun types => .pure _
    | _ => exact .raise _

theorem makeTypedClosure (operand : Float) :
    L.Same (StubMachine.makeTypedClosure i operand) (StubMachine.makeTypedClosure i operand) := by
  delta StubMachine.makeTypedClosure
  refine .bind (stubBeside sees _) fun stub? => ?_
  cases stub? with
  | none => exact .raise _
  | some stub =>
    exact .bind (popMany sees _) fun signature => .bind (signatureTypes signature) fun types =>
      makeClosure sees _ _

omit sees in
theorem collectPairs (entries : List (Value × Value)) :
    L.Same (StubMachine.collectPairs entries) (StubMachine.collectPairs entries) :=
  .bind .newBlank fun o => .bind (.forM (fun entry => writeEntry o entry.1 entry.2) entries) fun _ =>
    .pure _

omit sees in
theorem namedArguments (entries : List (Value × Value)) :
    L.Same (StubMachine.namedArguments entries) (StubMachine.namedArguments entries) := by
  induction entries with
  | nil => exact .pure []
  | cons entry entries ih =>
    obtain ⟨name, v⟩ := entry
    cases name with
    | string name => exact .bind ih fun arguments => .pure _
    | _ => exact .raise _

/-! ## Calling and assigning -/

include engines

theorem callFromStack (count : Nat) :
    L.Same (StubMachine.callFromStack e i count) (StubMachine.callFromStack e' i count) :=
  .bind (popMany sees _) fun _ => .bind (pop sees) fun _ => .bind (namedArguments _) fun _ =>
    .call engines _ _

omit sees in
theorem assignThrough (a : Assignment) (operand : Value) {current current' : Action Value}
    {write write' : Value → Action Value} (hc : L.Same current current')
    (hw : ∀ v, L.Same (write v) (write' v)) :
    L.Same (StubMachine.assignThrough e a operand current write)
      (StubMachine.assignThrough e' a operand current' write') := by
  refine .ite (hw operand) (.bind hc fun v => ?_)
  refine .bind (compoundAssignment engines a v operand) fun next? => ?_
  cases next? with
  | some next => exact hw next
  | none => exact .pure v

theorem assignReferrable (operand : Float) :
    L.Same (StubMachine.assignReferrable e i operand) (StubMachine.assignReferrable e' i operand) := by
  refine .bind (namedAssignment _) fun a => .bind (pop sees) fun v => ?_
  refine assignThrough engines a v (readReferrable sees _) fun v => ?_
  exact .bind (writeReferrable sees _ v) fun _ => .pure v

theorem assignMember (operand : Float) :
    L.Same (StubMachine.assignMember e i operand) (StubMachine.assignMember e' i operand) := by
  refine .bind (namedAssignment _) fun a => .bind (pop sees) fun v => ?_
  refine .bind (pop sees) fun key => .bind (pop sees) fun target => ?_
  exact assignThrough engines a v (getMember engines _ _ _) fun v => setMember engines _ _ v _

theorem operate (op : Operator) :
    L.Same (StubMachine.operate e i op) (StubMachine.operate e' i op) := by
  refine .bind (pop sees) fun r => .ite (unaryOperation engines op r) ?_
  exact .bind (pop sees) fun l => binaryOperation engines op l r

/-! ## One instruction -/

omit engines sees in
theorem pushResult {x x' : Action Value} (h : L.Same x x') :
    L.Same (StubMachine.pushResult i x) (StubMachine.pushResult i x') :=
  .bind h fun v => .bind (pushValue v) fun _ => .pure _

theorem skipWhen (truth : Bool) (count : Nat) :
    L.Same (StubMachine.skipWhen e i truth count) (StubMachine.skipWhen e' i truth count) := by
  refine .bind (peek sees) fun v => .bind (asBoolean engines v) fun b => ?_
  exact .ite (.bind (skip count) fun _ => .pure _) (.bind (pop sees) fun _ => .pure _)

theorem execute (operand : Float) (op : Opcode) :
    L.Same (op.execute e i operand) (op.execute e' i operand) := by
  cases op with
  | nop => exact .pure _
  | pushReferrable => exact pushResult (readReferrable sees _)
  | pushEmpty => exact pushResult (.pure _)
  | pushNumber => exact pushResult (.pure _)
  | pushBoolean => exact pushResult (.pure _)
  | pushString => exact pushResult (.bind (pooledText sees operand) fun _ => .pure _)
  | newObject => exact pushResult (.bind .newBlank fun _ => .pure _)
  | closure => exact pushResult (makeClosure sees _ _)
  | typedClosure => exact pushResult (makeTypedClosure sees operand)
  | collectValues => exact pushResult (.bind (popMany sees _) fun _ => .newList _)
  | collectPairs => exact pushResult (.bind (popMany sees _) fun _ => collectPairs _)
  | pushType => exact pushResult (builtinType operand)
  | call => exact pushResult (callFromStack engines sees _)
  | assignReferrable => exact pushResult (assignReferrable engines sees operand)
  | assignMember => exact pushResult (assignMember engines sees operand)
  | lookUpMember =>
    exact pushResult (.bind (pop sees) fun key => .bind (pop sees) fun target =>
      getMember engines target key _)
  | operate => exact pushResult (.bind (namedOperator operand) fun op => operate engines sees op)
  | pushNative => exact pushResult (nativeValue _)
  | discard => exact .bind (popMany sees _) fun _ => .pure _
  | duplicate => exact pushResult (peek sees)
  | return_ => exact .bind (frameOf sees _) fun _ => .pure _
  | skip => exact .bind (skip _) fun _ => .pure _
  | skipIfFalse =>
    refine .bind (pop sees) fun v => .bind (asBoolean engines v) fun b => ?_
    exact .ite (.bind (skip _) fun _ => .pure _) (.pure _)
  | skipUnlessTrue => exact skipWhen engines sees false _
  | skipUnlessFalse => exact skipWhen engines sees true _
  | countLoop =>
    refine pushResult (.bind (pop sees) fun body => .bind (pop sees) fun stop => ?_)
    refine .bind (pop sees) fun first => .bind (asNumber engines first) fun first => ?_
    exact .bind (asNumber engines stop) fun stop => countLoop engines first stop body
  | foreverLoop => exact pushResult (.bind (pop sees) fun body => foreverLoop engines body)
  | entryLoop =>
    exact pushResult (.bind (pop sees) fun body => .bind (pop sees) fun target =>
      entryLoop engines target body)
  | query => exact pushResult (.bind (pop sees) fun base => ask engines base _)
  | listen =>
    exact pushResult (.bind (pop sees) fun response => .bind (pop sees) fun function =>
      listen engines function response)

/-- **Every instruction does the same.** -/
theorem step (ins : Instruction) :
    L.Same (StubMachine.step e i ins) (StubMachine.step e' i ins) := by
  delta StubMachine.step
  cases Opcode.ofByte? ins.opcode with
  | some op => exact execute engines sees _ op
  | none => exact .raise _

omit engines in
theorem fetchInstruction :
    L.Same (StubMachine.fetchInstruction i) (StubMachine.fetchInstruction i) := by
  refine .bind (frameOf sees _) fun ins? => ?_
  cases ins? with
  | none => exact .pure none
  | some ins => exact .bind (.updateFrame i _) fun _ => .pure _

end Frames
end Requests
end Same
end Likeness

end StubMachine
