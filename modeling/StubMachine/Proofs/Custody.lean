import StubMachine.Proofs.Consulting
import StubMachine.Proofs.Entries
import StubMachine.Proofs.Evolution

/-!
# An object in custody

Some properties of an object last: whatever scripts do, they do not take them away.  A
`Custody` is such a property of one object, about its facet and its index values, with what
makes it last: which changes it survives by itself, and which calls of native functions are
`Barred`, because it would not survive them.

This module takes a custody through the operations of the machine other than native
functions; those come next, and then whole sessions.  The engine is assumed to do its part.
-/

namespace StubMachine

open StubMachine.Action

/-- **A property of one object** that lasts unless a barred native function is called. -/
structure Custody where
  object : ObjectId
  Kept : Object → Prop
  /-- The queries whose native functions must not be called, with their arguments. -/
  Barred : Object → Query → Array Value → Prop
  /-- What is left of the index values was there before. -/
  fewer {earlier o o' : Object} : Kept earlier → Kept o → o'.facet = o.facet →
    o'.indices.toList.Subperm earlier.indices.toList → Kept o'
  entry {o : Object} (k : Key) (v : Value) : Kept o → o.facet = .plain → o.writeFault? k = none →
    Kept (o.set k v)
  /-- The object becomes an interface, or gets another private binding. -/
  enclose {o o' : Object} {members : OrderedMap String Member} {binding : Option Value} : Kept o →
    o.layout? = none → o'.facet = .interface members binding →
    o'.indices = o.indices → Kept o'
  push {o : Object} {args : Array Value} : Kept o → ¬ Barred o .push args →
    Kept (o.push (Native.argument args 1))
  insert {o o' : Object} {args : Array Value} : Kept o → ¬ Barred o .insert args →
    o'.facet = o.facet → o'.indices.size = o.indices.size + 1 → Kept o'
  resize {o : Object} {args : Array Value} {n : Float} : Kept o → ¬ Barred o .setSize args →
    Native.argument args 1 = .number n → Binary64.toUnsigned 64 n ≤ Object.maxIndex + 1 →
    Kept (o.resize (Binary64.toUnsigned 64 n))
  /-- The object is no interface any more. -/
  disclose {o : Object} {args : Array Value} : Kept o → ¬ Barred o .setIsInterface args →
    Native.argument args 1 = .boolean true ∨ ∀ o', Kept o' → o'.interface? ≠ none →
      Kept { o' with facet := .plain }

namespace Custody
variable (K : Custody)

/-- The object is there and has the property. -/
structure Holds (m : Machine) : Prop where
  known : m.Backs K.object
  kept : K.Kept (m.object K.object)

/-- The property is not lost. -/
def Lasts (m m' : Machine) : Prop := K.Holds m → K.Holds m'

variable {K} {m m' : Machine}

/-- The object is as it was. -/
theorem Holds.of_objects (objects : m'.objects = m.objects) (h : K.Holds m) : K.Holds m' := by
  refine ⟨?_, ?_⟩
  · show _ < m'.objects.size
    rw [objects]
    exact h.known
  · rw [Machine.object_of objects]
    exact h.kept

theorem Holds.of_grown (grown : m.Grown (fun _ => False) m') (h : K.Holds m) : K.Holds m' := by
  refine ⟨Nat.lt_of_lt_of_le h.known grown.size, ?_⟩
  rw [grown.object h.known not_false]
  exact h.kept

theorem Holds.pushed (h : K.Holds m) (object : Object) :
    K.Holds { m with objects := m.objects.push object } := by
  refine ⟨?_, ?_⟩
  · show _ < (m.objects.push object).size
    rw [Array.size_push]
    exact Nat.lt_succ_of_lt h.known
  · rw [Machine.object_of_push rfl h.known]
    exact h.kept

/-- A change of one object has to keep the property if the object is the one in custody. -/
theorem Holds.modified (h : K.Holds m) (o : ObjectId) {f : Object → Object}
    (kept : o.serial - 1 = K.object.serial - 1 → m.object o = m.object K.object →
      K.Kept (f (m.object o))) :
    K.Holds { m with objects := m.objects.modify (o.serial - 1) f } := by
  refine ⟨?_, ?_⟩
  · show _ < (m.objects.modify (o.serial - 1) f).size
    rw [Array.size_modify]
    exact h.known
  · rw [Machine.object_modify]
    split
    · rename_i same
      have object : m.object o = m.object K.object := by rw [Machine.object, Machine.object, same.1]
      rw [← object]
      exact kept same.1 object
    · exact h.kept

instance : Machine.Passage K.Lasts where
  refl _ h := h
  trans _ _ _ h h' := h' ∘ h
  aside beside h := h.of_objects beside.objects
  raised detail m h := by
    obtain ⟨o, m', -, grown, run⟩ := raiseError_grows (α := Unit) detail m
    rw [← raiseError_after (α := Unit), Action.after, run]
    exact Holds.of_objects (m := m') rfl (h.of_grown grown)

end Custody

section Elementary
variable {K : Custody} {α β : Type}

theorem update_lasts (f : Machine → Machine) (objects : ∀ m, (f m).objects = m.objects) :
    Along K.Lasts (Action.update f) := fun m h => h.of_objects (objects m)

theorem newObject_lasts (object : Object) : Along K.Lasts (newObject object) := fun _ h =>
  h.pushed object

theorem newBlank_lasts : Along K.Lasts newBlank := newObject_lasts _

theorem newList_lasts (values : Array Value) : Along K.Lasts (newList values) :=
  .bind (newObject_lasts _) fun _ => .pure _

theorem newFunction_lasts (f : FunctionFacet) : Along K.Lasts (newFunction f) :=
  .bind (newObject_lasts _) fun _ => .pure _

theorem updateObject_lasts (o : ObjectId) {f : Object → Object}
    (kept : ∀ object, K.Kept object → K.Kept (f object)) :
    Along K.Lasts (updateObject o f) := fun _ h =>
  h.modified o fun _ same => kept _ (same ▸ h.kept)

/-- Objects at other places may be changed in any way. -/
theorem updateOther_lasts {o : ObjectId} (other : o.serial - 1 ≠ K.object.serial - 1)
    (f : Object → Object) : Along K.Lasts (updateObject o f) := fun _ h =>
  h.modified o fun same => absurd same other

/-- What is done to a new object is done to another one than that in custody. -/
theorem bind_newObject_lasts {object : Object} {k : ObjectId → Action β}
    (next : ∀ o : ObjectId, o.serial - 1 ≠ K.object.serial - 1 → Along K.Lasts (k o)) :
    Along K.Lasts (newObject object >>= k) := by
  intro m h
  have made : newObject object m =
      .ok ⟨m.objects.size + 1⟩ { m with objects := m.objects.push object } := rfl
  rw [Action.after, Action.bind_ok made]
  exact next ⟨m.objects.size + 1⟩ (Nat.ne_of_gt h.known) _ (h.pushed object)

/-- A change that keeps the facet and makes no index value. -/
theorem kept_fewer {o o' : Object} (kept : K.Kept o) (facet : o'.facet = o.facet)
    (fewer : o'.indices.toList.Sublist o.indices.toList) : K.Kept o' :=
  K.fewer kept kept facet fewer.subperm

end Elementary

/-! ## Members -/

section Members
variable {K : Custody}

/-- What a way to an object says about it. -/
def Route.Leads (m : Machine) (o : ObjectId) (key : Value) : Route → Prop
  | .member .. => True
  | .record declared =>
    ∃ layout, (m.object o).facet = .record layout ∧ declared = key.text?.bind layout.get?
  | .plain => (m.object o).facet = .plain

/-- Finding the way changes nothing. -/
theorem routeTo_ok {target key : Value} {write : Bool} {m m' : Machine} {o : ObjectId}
    {route : Route} (ok : routeTo target key write m = .ok (o, route) m') :
    m' = m ∧ route.Leads m o key := by
  cases target with
  | object p =>
    have looked : objectAt p m = .ok (m.object p) m := rfl
    rw [routeTo, Action.bind_ok looked] at ok
    cases facet : (m.object p).facet with
    | function f =>
      rw [facet] at ok
      exact absurd ok (raise_ne_ok _ _ _ _)
    | interface members binding =>
      rw [facet] at ok
      cases key with
      | string name =>
        cases ok
        exact ⟨rfl, trivial⟩
      | _ => exact absurd ok (raise_ne_ok _ _ _ _)
    | record layout =>
      rw [facet] at ok
      cases ok
      exact ⟨rfl, layout, facet, rfl⟩
    | plain =>
      rw [facet] at ok
      cases ok
      exact ⟨rfl, facet⟩
  | _ => exact absurd ok (raise_ne_ok _ _ _ _)

/-- Storing a value does not end a custody that survives the entry. -/
theorem writeEntry_from {o : ObjectId} {key : Value} (v : Value) {m : Machine}
    (kept : ∀ k, Key.ofValue key = .ok k → (m.object o).writeFault? k = none →
      o.serial - 1 = K.object.serial - 1 → K.Kept (m.object o) → K.Kept ((m.object o).set k v)) :
    K.Lasts m ((writeEntry o key v).after m) := by
  intro h
  rcases writeEntry_cases o key v m with ⟨k, stands, near, wrote⟩ | ⟨f, raised⟩
  · rw [Action.after, wrote]
    exact h.modified o fun here same => kept k stands near here (same ▸ h.kept)
  · rw [Action.after, raised]
    exact Along.raise (R := K.Lasts) (α := Unit) f m h

theorem writeOther_lasts {o : ObjectId} (other : o.serial - 1 ≠ K.object.serial - 1)
    (key v : Value) : Along K.Lasts (writeEntry o key v) := fun _ =>
  writeEntry_from v fun _ _ _ here => absurd here other

/-- An entry of a plain object. -/
theorem writePlain_from {o : ObjectId} {key : Value} (v : Value) {m : Machine}
    (plain : (m.object o).facet = .plain) : K.Lasts m ((writeEntry o key v).after m) :=
  writeEntry_from v fun k _ near _ kept => K.entry k v kept plain near

/-- An entry under a name. -/
theorem writeNamed_from {o : ObjectId} {key : Value} {name : String} (v : Value) {m : Machine}
    (named : key.text? = some name) : K.Lasts m ((writeEntry o key v).after m) := by
  refine writeEntry_from v fun k stands _ _ kept => ?_
  cases key with
  | string s =>
    cases stands
    exact kept_fewer kept rfl (.refl _)
  | _ => cases named

variable {e : Engine} [e.CallsAlong K.Lasts]

/-- **Writing a member** does not end a custody. -/
theorem setMember_lasts (target key v : Value) (a : Accessor) :
    Along K.Lasts (setMember e target key v a) := by
  intro m
  refine Along.bind_from (routeTo_along target key true m) fun ⟨o, route⟩ m₁ routed => ?_
  obtain ⟨rfl, leads⟩ := routeTo_ok routed
  have calls (setter : Value) (arguments : Arguments) :
      Along K.Lasts (e.call setter arguments >>= fun _ => pure v) :=
    .bind (.call _ _) fun _ => .pure v
  have written (m : Machine) (h : K.Lasts m ((writeEntry o key v).after m)) :
      K.Lasts m ((writeEntry o key v >>= fun _ => pure v).after m) :=
    Along.bind_from h fun _ m₂ _ => Along.pure v m₂
  cases route with
  | member name member binding =>
    cases member with
    | none => exact Along.raise _ m₁
    | some member =>
      cases member with
      | method function => exact Along.raise _ m₁
      | accessor getter setter =>
        cases setter with
        | some setter => exact Along.bind (.callBound _ _ _) (fun _ => .pure v) m₁
        | none => exact Along.raise _ m₁
  | record declared =>
    obtain ⟨layout, -, known⟩ := leads
    refine Along.bind_from (Along.read _ m₁) fun setter? m₂ read => ?_
    cases read
    dsimp only
    cases m₁.setterOf? o a with
    | some setter => exact calls _ _ m₁
    | none =>
      cases declared with
      | none => exact raiseRecordKey_along o key m₁
      | some t =>
        obtain ⟨name, named, -⟩ := Option.bind_eq_some_iff.mp known.symm
        refine Along.bind_from (Along.read _ m₁) fun fits m₂ read => ?_
        cases read
        dsimp only
        split
        · exact written m₁ (writeNamed_from v named)
        · exact Along.bind (.read _) (fun _ => .bind (.read _) fun _ => .raise _) m₁
  | plain =>
    refine Along.bind_from (Along.read _ m₁) fun setter? m₂ read => ?_
    cases read
    dsimp only
    cases m₁.setterOf? o a with
    | some setter => exact calls _ _ m₁
    | none => exact written m₁ (writePlain_from v leads)

end Members

/-! ## Variables, closures and queries -/

section Operations
variable {K : Custody}

theorem writeReferrable_lasts (i slot : Nat) (v : Value) :
    Along K.Lasts (writeReferrable i slot v) := by
  delta writeReferrable
  refine .bind (.read _) fun site? => ?_
  cases site? with
  | some c => exact update_lasts _ fun _ => rfl
  | none => exact .raise _

theorem makeClosure_lasts (i : Nat) (id : UInt32) (types : Option (Array TypeId)) :
    Along K.Lasts (makeClosure i id types) := by
  delta makeClosure
  refine .bind (.read _) fun stub? => ?_
  cases stub? with
  | none => exact .raise _
  | some stub =>
    refine .bind (.read _) fun frame => .bind (.read _) fun captures? => ?_
    cases captures? with
    | error cause => exact .throw _
    | ok captures => exact newFunction_lasts _

theorem makeTypedClosure_lasts (i : Nat) (operand : Float) :
    Along K.Lasts (makeTypedClosure i operand) := by
  delta makeTypedClosure
  refine .bind (.read _) fun stub? => ?_
  cases stub? with
  | none => exact .raise _
  | some stub =>
    exact .bind (popMany_along i _) fun signature =>
      .bind (signatureTypes_along signature) fun types => makeClosure_lasts i _ _

/-- Objects that an instruction collects are new ones. -/
theorem collectPairs_lasts (entries : List (Value × Value)) :
    Along K.Lasts (collectPairs entries) :=
  bind_newObject_lasts fun _ other =>
    .bind (.forM (fun entry => writeOther_lasts other entry.1 entry.2) entries) fun _ => .pure _

theorem nativeValue_lasts (id : Nat) : Along K.Lasts (nativeValue id) := by
  delta nativeValue
  refine .bind (.read _) fun native? => ?_
  cases native? with
  | none => exact .raise _
  | some native =>
    dsimp only
    cases native.value with
    | some o => exact .pure _
    | none =>
      refine .bind (newFunction_lasts _) fun v => ?_
      cases v with
      | object o => exact .bind (update_lasts _ fun _ => rfl) fun _ => .pure _
      | _ => exact .pure _

theorem boundNative_lasts (id : Nat) (base : Value) : Along K.Lasts (boundNative id base) := by
  delta boundNative
  refine .bind (.read _) fun native? => ?_
  cases native? with
  | none => exact .throw _
  | some native => exact newFunction_lasts _

variable {e : Engine} [runs : e.RunsAlong K.Lasts]

theorem askObject_lasts (q : Query) (o : ObjectId) : Along K.Lasts (askObject e q o) := by
  cases q with
  | keyCount => exact .bind (objectKeys_along o) fun keys => .pure _
  | keys => exact .bind (objectKeys_along o) fun keys => newList_lasts _
  | values => exact .bind (objectValues_along o) fun values => newList_lasts _
  | pop =>
    refine .bind (.objectAt o) fun object => .bind (updateObject_lasts o fun object kept => ?_)
      fun _ => .pure _
    refine kept_fewer kept rfl ?_
    rw [Array.toList_pop]
    exact List.dropLast_sublist _
  | attributes => exact .bind (.objectAt o) fun object => .pure _
  | _ => exact .raise _

theorem askImmediate_lasts (q : Query) (base : Value) : Along K.Lasts (askImmediate e q base) := by
  delta askImmediate
  split
  · exact .bind (.read _) fun t => .pure _
  · exact .pure _
  · exact .raise _
  · exact .pure _
  · exact .bind (.objectAt _) fun object => .pure _
  · exact .raise _
  · exact .bind (.read _) fun name => .pure _
  · exact .raise _
  · cases q.numeric? with
    | some f =>
      cases base with
      | number n => exact .pure _
      | _ => exact .raise _
    | none =>
      cases q.textual? with
      | some f =>
        cases base with
        | string s => exact .pure _
        | _ => exact .raise _
      | none =>
        cases base with
        | object o => exact askObject_lasts q o
        | _ => exact .raise _

theorem ask_lasts (base : Value) (id : Nat) : Along K.Lasts (ask e base id) := by
  delta ask
  cases Query.ofId? id with
  | none => exact .raise _
  | some q =>
    dsimp only
    cases q.parameterizedIndex? with
    | some i => exact boundNative_lasts _ base
    | none => exact askImmediate_lasts q base

/-! ## Assignments and loops -/

theorem assignThrough_lasts (a : Assignment) (operand : Value) {current : Action Value}
    {write : Value → Action Value} (hc : Along K.Lasts current)
    (hw : ∀ v, Along K.Lasts (write v)) :
    Along K.Lasts (assignThrough e a operand current write) := by
  refine .ite (hw operand) (.bind hc fun v => ?_)
  refine .bind (compoundAssignment_along a v operand) fun next? => ?_
  cases next? with
  | some next => exact hw next
  | none => exact .pure v

theorem assignReferrable_lasts (i : Nat) (operand : Float) :
    Along K.Lasts (assignReferrable e i operand) := by
  refine .bind (namedAssignment_along _) fun a => .bind (pop_along i) fun v => ?_
  refine assignThrough_lasts a v (readReferrable_along i _) fun v => ?_
  exact .bind (writeReferrable_lasts i _ v) fun _ => .pure v

theorem assignMember_lasts (i : Nat) (operand : Float) :
    Along K.Lasts (assignMember e i operand) := by
  refine .bind (namedAssignment_along _) fun a => .bind (pop_along i) fun v => ?_
  refine .bind (pop_along i) fun key => .bind (pop_along i) fun target => ?_
  exact assignThrough_lasts a v (getMember_along _ _ _) fun v => setMember_lasts _ _ v _

theorem countLoop_lasts (first stop : Float) (body : Value) :
    Along K.Lasts (countLoop e first stop body) :=
  .bind (loopBody_along body) fun _ => .ite (.pure _) (.enter _ _ _)

theorem foreverLoop_lasts (body : Value) : Along K.Lasts (foreverLoop e body) :=
  .bind (loopBody_along body) fun _ => .enter _ _ _

theorem entryLoop_lasts (target body : Value) : Along K.Lasts (entryLoop e target body) := by
  cases target with
  | object o =>
    refine .bind (iterated_along o) fun o => .bind (loopBody_along body) fun f => ?_
    refine .bind (objectKeys_along o) fun keys => .bind (objectValues_along o) fun values => ?_
    cases keys with
    | nil => exact .pure _
    | cons key keys => exact .enter _ _ _
  | _ => exact .raise _

omit runs in
theorem rebind_lasts (i : Nat) (values : List Value) : Along K.Lasts (rebind i values) := by
  delta rebind
  refine .bind (.read _) fun arity => .forM (fun entry => ?_) _
  exact writeReferrable_lasts i entry.2 entry.1

theorem advance_lasts (i : Nat) (condition : Restart) :
    Along K.Lasts (advance e i condition) := by
  cases condition with
  | count current stop step bindsCounter =>
    suffices finish : ∀ current : Float, Along K.Lasts _ from
      .ite (.bind (readReferrable_along i 0) fun v => .bind (asNumber_along v) finish)
        (.bind (.pure current) finish)
    intro current
    cases bindsCounter with
    | true =>
      exact .ite (.ite (.bind (writeReferrable_lasts i 0 _) fun _ => .pure _) (.pure _)) (.pure none)
    | false => exact .ite (.pure _) (.pure none)
  | forever => exact .pure _
  | entries keys values index =>
    simp only [advance]
    split
    · exact .bind (rebind_lasts i _) fun _ => .pure _
    · exact .pure none

theorem startOver_lasts (i : Nat) : Along K.Lasts (startOver e i) := by
  delta startOver
  refine .bind (.read _) fun condition? => ?_
  cases condition? with
  | none => exact .pure false
  | some condition =>
    refine .bind (.updateFrame i fun _ => rfl) fun _ => .bind (advance_lasts i condition) fun next? => ?_
    cases next? with
    | none => exact .pure false
    | some next => exact .bind (.updateFrame i fun _ => rfl) fun _ => .pure true

/-! ## One instruction -/

theorem pushResult_lasts (i : Nat) {x : Action Value} (h : Along K.Lasts x) :
    Along K.Lasts (pushResult i x) :=
  .bind h fun _ => .bind (.updateFrame i fun _ => rfl) fun _ => .pure _

theorem skipWhen_lasts (i : Nat) (truth : Bool) (count : Nat) :
    Along K.Lasts (skipWhen e i truth count) := by
  refine .bind (peek_along i) fun v => .bind (asBoolean_along v) fun b => ?_
  refine .ite (.bind (.updateFrame i fun _ => rfl) fun _ => .pure _) ?_
  exact .bind (pop_along i) fun _ => .pure _

theorem execute_lasts (i : Nat) (operand : Float) (op : Opcode) :
    Along K.Lasts (op.execute e i operand) := by
  cases op with
  | nop => exact .pure _
  | pushReferrable => exact pushResult_lasts i (readReferrable_along i _)
  | pushEmpty => exact pushResult_lasts i (.pure _)
  | pushNumber => exact pushResult_lasts i (.pure _)
  | pushBoolean => exact pushResult_lasts i (.pure _)
  | pushString => exact pushResult_lasts i (.bind (pooledText_along i operand) fun _ => .pure _)
  | newObject => exact pushResult_lasts i (.bind newBlank_lasts fun _ => .pure _)
  | closure => exact pushResult_lasts i (makeClosure_lasts i _ _)
  | typedClosure => exact pushResult_lasts i (makeTypedClosure_lasts i operand)
  | collectValues =>
    exact pushResult_lasts i (.bind (popMany_along i _) fun _ => newList_lasts _)
  | collectPairs =>
    exact pushResult_lasts i (.bind (popMany_along i _) fun _ => collectPairs_lasts _)
  | pushType => exact pushResult_lasts i (builtinType_along operand)
  | call => exact pushResult_lasts i (callFromStack_along i _)
  | assignReferrable => exact pushResult_lasts i (assignReferrable_lasts i operand)
  | assignMember => exact pushResult_lasts i (assignMember_lasts i operand)
  | lookUpMember =>
    exact pushResult_lasts i (.bind (pop_along i) fun key =>
      .bind (pop_along i) fun target => getMember_along target key _)
  | operate =>
    exact pushResult_lasts i (.bind (namedOperator_along operand) fun op => operate_along i op)
  | pushNative => exact pushResult_lasts i (nativeValue_lasts _)
  | discard => exact .bind (popMany_along i _) fun _ => .pure _
  | duplicate => exact pushResult_lasts i (peek_along i)
  | return_ => exact .bind (.read _) fun _ => .pure _
  | skip => exact .bind (.updateFrame i fun _ => rfl) fun _ => .pure _
  | skipIfFalse =>
    refine .bind (pop_along i) fun v => .bind (asBoolean_along v) fun b => ?_
    exact .ite (.bind (.updateFrame i fun _ => rfl) fun _ => .pure _) (.pure _)
  | skipUnlessTrue => exact skipWhen_lasts i false _
  | skipUnlessFalse => exact skipWhen_lasts i true _
  | countLoop =>
    refine pushResult_lasts i (.bind (pop_along i) fun body => .bind (pop_along i) fun stop => ?_)
    refine .bind (pop_along i) fun first => ?_
    refine .bind (asNumber_along first) fun first => .bind (asNumber_along stop) fun stop => ?_
    exact countLoop_lasts first stop body
  | foreverLoop => exact pushResult_lasts i (.bind (pop_along i) fun body => foreverLoop_lasts body)
  | entryLoop =>
    exact pushResult_lasts i (.bind (pop_along i) fun body =>
      .bind (pop_along i) fun target => entryLoop_lasts target body)
  | query => exact pushResult_lasts i (.bind (pop_along i) fun base => ask_lasts base _)
  | listen =>
    exact pushResult_lasts i (.bind (pop_along i) fun response =>
      .bind (pop_along i) fun function => listen_along function response)

/-- **An instruction does not end a custody** if the engine does not. -/
theorem step_lasts (i : Nat) (ins : Instruction) : Along K.Lasts (step e i ins) := by
  delta step
  cases Opcode.ofByte? ins.opcode with
  | some op => exact execute_lasts i _ op
  | none => exact .raise _

end Operations

end StubMachine
