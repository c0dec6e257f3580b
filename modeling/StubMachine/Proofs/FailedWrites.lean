import StubMachine.Proofs.Consulting
import StubMachine.Proofs.Entries

/-!
# Failed writes

An operation that writes to an object or to a variable checks its arguments, may call
functions of the script, and writes last.  **If it fails, it has not written**: all that
happened since it started is what the functions it called did, and the error objects that
were made.  This is told by the states that it passed through: every failed run is an
interlude.

An operation of which every failed run is an interlude is `Timid`.  It may do as it likes
once nothing can fail any more, so it is put together from a part along interludes and a
part that is `Sure`.
-/

namespace StubMachine

open StubMachine.Action
open Machine (Interlude)

/-! ## Timid and sure actions -/

/-- Every failed run is an interlude. -/
def Action.Timid (e : Engine) {α : Type} (x : Action α) : Prop :=
  ∀ (m : Machine) failure m', x m = .error failure m' → m.Interlude e m'

/-- No run fails. -/
def Action.Sure {α : Type} (x : Action α) : Prop :=
  ∀ m failure m', x m ≠ .error failure m'

namespace Action.Sure
variable {α β : Type}

theorem pure (a : α) : Sure (Pure.pure a) := fun _ _ _ => nofun

theorem update (f : Machine → Machine) : Sure (Action.update f) := fun _ _ _ => nofun

theorem updateObject (o : ObjectId) (f : Object → Object) : Sure (Action.updateObject o f) :=
  .update _

theorem newObject (object : Object) : Sure (Action.newObject object) := fun _ _ _ => nofun

theorem bind {x : Action α} {k : α → Action β} (hx : Sure x) (hk : ∀ a, Sure (k a)) :
    Sure (x >>= k) := by
  intro m failure m' failed
  rw [Action.bind_eq] at failed
  cases run : x m with
  | ok a m₁ => rw [run] at failed; exact hk a m₁ failure m' failed
  | error failure' m₁ => exact hx m failure' m₁ run

end Action.Sure

namespace Action.Timid
variable {e : Engine} {α β : Type}

theorem of_along {x : Action α} (h : Along (Interlude e) x) : Timid e x := by
  intro m failure m' failed
  have passed := h m
  rw [Action.after, failed] at passed
  exact passed

theorem of_sure {x : Action α} (h : Sure x) : Timid e x := fun m failure m' failed =>
  absurd failed (h m failure m')

/-- What consults may come before. -/
theorem bind {x : Action α} {k : α → Action β} (hx : Along (Interlude e) x) (hk : ∀ a, Timid e (k a)) :
    Timid e (x >>= k) := by
  intro m failure m' failed
  have passed := hx m
  rw [Action.after] at passed
  rw [Action.bind_eq] at failed
  cases run : x m with
  | ok a m₁ =>
    rw [run] at failed passed
    exact passed.trans (hk a m₁ failure m' failed)
  | error failure' m₁ =>
    rw [run] at failed passed
    cases failed
    exact passed

/-- What cannot fail may come after. -/
theorem followed {x : Action α} {k : α → Action β} (hx : Timid e x) (hk : ∀ a, Sure (k a)) :
    Timid e (x >>= k) := by
  intro m failure m' failed
  rw [Action.bind_eq] at failed
  cases run : x m with
  | ok a m₁ => rw [run] at failed; exact absurd failed (hk a m₁ failure m')
  | error failure' m₁ =>
    rw [run] at failed
    cases failed
    exact hx m failure m' run

/-- What only consults may take the place of a failure. -/
theorem tryCatch {x : Action α} {k : Failure → Action α} (hx : Timid e x)
    (hk : ∀ failure, Along (Interlude e) (k failure)) : Timid e (tryCatch x k) := by
  intro m failure m' failed
  rw [Action.tryCatch_eq] at failed
  cases run : x m with
  | ok a m₁ => rw [run] at failed; cases failed
  | error failure' m₁ =>
    rw [run] at failed
    exact (hx m failure' m₁ run).trans (of_along (hk failure') m₁ failure m' failed)

theorem raise (f : Fault) : Timid e (Action.raise f : Action α) := of_along (.raise f)

theorem fail (f : Fault) : Timid e (Action.fail f : Action α) := of_along (.fail f)

theorem ite {c : Prop} [Decidable c] {x y : Action α} (hx : Timid e x) (hy : Timid e y) :
    Timid e (if c then x else y) := by
  split
  · exact hx
  · exact hy

/-- Going on unless something is amiss. -/
theorem unlessThen {c : Prop} [Decidable c] (f : Fault) {y : Action α} (hy : Timid e y) :
    Timid e (if c then (Action.fail f >>= fun _ : PUnit => y) else y) :=
  ite (bind (.fail f) fun _ => hy) hy

end Action.Timid

/-! ## Writing -/

section Writing
variable (e : Engine)

theorem writeEntry_timid (o : ObjectId) (key v : Value) : Timid e (writeEntry o key v) := by
  delta writeEntry
  cases Key.ofValue key with
  | error f => exact .raise _
  | ok k =>
    refine .bind (.objectAt o) fun object => ?_
    cases object.writeFault? k with
    | some f => exact .raise _
    | none => exact .of_sure (.updateObject o _)

/-- **Writing a member**: once the entry is written, nothing can fail. -/
theorem setMember_timid (target key v : Value) (a : Accessor) :
    Timid e (setMember e target key v a) := by
  have written (o : ObjectId) : Timid e (writeEntry o key v >>= fun _ => Pure.pure v) :=
    .followed (writeEntry_timid e o key v) fun _ => .pure v
  delta setMember
  refine .bind (routeTo_along target key true) fun ⟨o, route⟩ => ?_
  -- on each of the ways what may fail comes first, and the entry is written last
  cases route with
  | member name member binding =>
    cases member with
    | none => exact .raise _
    | some member =>
      cases member with
      | method function => exact .raise _
      | accessor getter setter =>
        cases setter with
        | some setter => exact .of_along (.bind (.callBound _ _ _) fun _ => .pure v)
        | none => exact .raise _
  | record declared =>
    refine .bind (.read _) fun setter? => ?_
    cases setter? with
    | some setter => exact .of_along (.bind (.call _ _) fun _ => .pure v)
    | none =>
      cases declared with
      | none => exact .of_along (raiseRecordKey_along o key)
      | some t =>
        refine .bind (.read _) fun admitted => .ite (written o) ?_
        exact .bind (.read _) fun wanted => .bind (.read _) fun shown => .raise _
  | plain =>
    refine .bind (.read _) fun setter? => ?_
    cases setter? with
    | some setter => exact .of_along (.bind (.call _ _) fun _ => .pure v)
    | none => exact written o

theorem writeReferrable_timid (i slot : Nat) (v : Value) : Timid e (writeReferrable i slot v) := by
  delta writeReferrable
  refine .bind (.read _) fun site? => ?_
  cases site? with
  | some c => exact .of_sure (.update _)
  | none => exact .raise _

/-- **Assigning** is timid if the writing is: the reading and the operator come before. -/
theorem assignThrough_timid (a : Assignment) (operand : Value) {current : Action Value}
    {write : Value → Action Value} (hc : Along (Interlude e) current) (hw : ∀ v, Timid e (write v)) :
    Timid e (assignThrough e a operand current write) := by
  refine .ite (hw operand) (.bind hc fun v => ?_)
  refine .bind (compoundAssignment_along a v operand) fun next? => ?_
  cases next? with
  | some next => exact hw next
  | none => exact .of_along (.pure v)

theorem assignReferrable_timid (i : Nat) (operand : Float) :
    Timid e (assignReferrable e i operand) := by
  refine .bind (namedAssignment_along _) fun a => .bind (pop_along i) fun v => ?_
  refine assignThrough_timid e a v (readReferrable_along i _) fun v => ?_
  exact .followed (writeReferrable_timid e i _ v) fun _ => .pure v

theorem assignMember_timid (i : Nat) (operand : Float) : Timid e (assignMember e i operand) := by
  refine .bind (namedAssignment_along _) fun a => .bind (pop_along i) fun v => ?_
  refine .bind (pop_along i) fun key => .bind (pop_along i) fun target => ?_
  exact assignThrough_timid e a v (getMember_along _ _ _) fun v => setMember_timid e _ _ v _

/-- The result of an instruction is pushed when nothing can fail any more. -/
theorem pushResult_timid (i : Nat) {x : Action Value} (h : Timid e x) :
    Timid e (pushResult i x) :=
  .followed h fun _ => .bind (.update _) fun _ => .pure _

end Writing

/-! ## Native functions that write -/

namespace Native

section Writing
variable (e : Engine) (args : Array Value)

/-- A change of one object and the result. -/
theorem changed_sure (o : ObjectId) (f : Object → Object) (v : Value) :
    Sure (updateObject o f >>= fun _ => Pure.pure v) :=
  .bind (.updateObject o f) fun _ => .pure v

theorem push_timid : Timid e (push args) :=
  .bind (baseObject_along args) fun _ => .of_sure (changed_sure _ _ _)

theorem insert_timid : Timid e (insert args) := by
  refine .bind (baseObject_along args) fun o => ?_
  refine .bind (indexArgument_along args 1 "at") fun position => ?_
  exact .bind (.objectAt o) fun object => .unlessThen _ (.of_sure (changed_sure _ _ _))

theorem remove_timid : Timid e (remove args) := by
  refine .bind (baseObject_along args) fun o => ?_
  cases Key.ofValue (argument args 1) with
  | error f => exact .fail _
  | ok k => exact .bind (.objectAt o) fun object => .of_sure (changed_sure _ _ _)

theorem setAttributes_timid : Timid e (setAttributes args) := by
  delta setAttributes
  refine .bind (baseObject_along args) fun o => ?_
  suffices finish : ∀ attributes : Option ObjectId, Timid e _ by
    cases argument args 1 with
    | empty => exact .bind (.pure _) finish
    | object a => exact .bind (.pure _) finish
    | _ => exact .bind (.fail _) finish
  exact fun attributes => .of_sure (changed_sure _ _ _)

theorem setSize_timid : Timid e (setSize args) := by
  refine .bind (baseObject_along args) fun o => ?_
  refine .bind (indexArgument_along args 1 "size") fun size => ?_
  exact .unlessThen _ (.of_sure (changed_sure _ _ _))

/-- A subset is a new object, made once the bounds have been checked. -/
theorem subset_timid : Timid e (subset args) := by
  delta subset
  refine .bind (indexArgument_along args 1 "from") fun low => ?_
  refine .bind (indexArgument_along args 2 "to") fun high => .unlessThen _ ?_
  cases argument args 0 with
  | string s => exact .unlessThen _ (.of_sure (.pure _))
  | object o =>
    exact .bind (.objectAt o) fun object =>
      .unlessThen _ (.of_sure (.bind (.newObject _) fun _ => .pure _))
  | _ => exact .fail _

/-- **Sorting** writes once, after the last comparison. -/
theorem sort_timid : Timid e (sort e args) := by
  refine .bind (baseObject_along args) fun o => ?_
  refine .bind (functionArgument_along args 1 "comparator") fun comparator => ?_
  refine .bind (.objectAt o) fun object => ?_
  refine .bind (mergeSort_along (inOrder_along comparator) _) fun sorted => ?_
  -- the comparator runs no more, so nothing is left to fail
  exact .of_sure (changed_sure _ _ _)

/-- The queries that write, or make an object out of another one's values. -/
def writers : List Query := [.push, .insert, .remove, .setAttributes, .setSize, .subset, .sort]

theorem runQuery_timid {q : Query} (writes : q ∈ writers) : Timid e (runQuery e args q) := by
  simp only [writers, List.mem_cons, List.not_mem_nil, or_false] at writes
  rcases writes with rfl | rfl | rfl | rfl | rfl | rfl | rfl
  · exact push_timid e args
  · exact insert_timid e args
  · exact remove_timid e args
  · exact setAttributes_timid e args
  · exact setSize_timid e args
  · exact subset_timid e args
  · exact sort_timid e args

end Writing
end Native

/-- A native function that does what a writing query says is timid, whatever the host. -/
theorem callNative_timid (host : Host) (e : Engine) (stub : Stub) (args : Array Value) {q : Query}
    (writes : q ∈ Native.writers) {m : Machine} {native : Native}
    (known : m.natives[stub.id.toNat]? = some native) (body : native.body = .query q)
    {failure : Failure} {m' : Machine}
    (failed : callNative host e stub args m = .error failure m') : m.Interlude e m' := by
  have run : callNative host e stub args m =
      tryCatch (Native.run host e args native.body) raiseFailure m := by
    rw [callNative, Action.bind_eq, Action.read]
    simp only [known]
  rw [run, body] at failed
  exact Timid.tryCatch (Native.runQuery_timid e args writes) raiseFailure_along m failure m'
    failed

/-! ## The result -/

/-- **A write that fails has not written.**  From where a writing native function, a member
write or an assignment instruction starts to where it fails, no more happens than in an
interlude: functions are called and error objects are made. -/
theorem failed_write_is_interlude (host : Host) (e : Engine) (m m' : Machine)
    (failure : Failure) :
    (∀ (stub : Stub) (args : Array Value) (q : Query) (native : Native), q ∈ Native.writers →
      m.natives[stub.id.toNat]? = some native → native.body = .query q →
      callNative host e stub args m = .error failure m' → m.Interlude e m') ∧
    (∀ (target key v : Value) (a : Accessor),
      setMember e target key v a m = .error failure m' → m.Interlude e m') ∧
    (∀ (i : Nat) (ins : Instruction) (op : Opcode), Opcode.ofByte? ins.opcode = some op →
      op = .assignReferrable ∨ op = .assignMember →
      step e i ins m = .error failure m' → m.Interlude e m') := by
  refine ⟨fun stub args q native writes known body failed =>
    callNative_timid host e stub args writes known body failed,
    fun target key v a failed => setMember_timid e target key v a m failure m' failed, ?_⟩
  intro i ins op named assigns failed
  rw [step, named] at failed
  rcases assigns with rfl | rfl
  · exact pushResult_timid e i (assignReferrable_timid e i _) m failure m' failed
  · exact pushResult_timid e i (assignMember_timid e i _) m failure m' failed

/-- What raises fails. -/
theorem fails_of_raise {α : Type} {x : Action α} {m : Machine} {f : Fault}
    (raised : x m = raise f m) : ∃ m', x m = .error .unwinding m' := by
  obtain ⟨o, m', -, run⟩ := raiseError_eq (α := α) (.string f.message) m
  exact ⟨_, raised.trans run⟩

/-- A machine with one record, as `fielded`, that offers pushing as its only native function. -/
def fieldedOffering : Machine :=
  { fielded with natives := #[⟨"push", Stub.blank 0 0, .query .push, none⟩] }

/-- Its record has no field of another name. -/
theorem setMember_other_raises (e : Engine) :
    ∃ f, setMember e (.object ⟨1⟩) (.string "other") .empty .dot fieldedOffering =
      raise f fieldedOffering := by
  have undeclared : doneLayout.get? "other" = none := by
    simp [doneLayout, OrderedMap.ofList, OrderedMap.get?_insert]
  have routed : routeTo (.object ⟨1⟩) (.string "other") true fieldedOffering =
      .ok (⟨1⟩, .record none) fieldedOffering := by
    rw [← undeclared]
    rfl
  unfold setMember
  rw [Action.bind_ok routed]
  exact ⟨_, rfl⟩

/-- It has no frame, and so no operands. -/
theorem assignMember_bare_raises (e : Engine) (operand : Float) :
    ∃ f, assignMember e 0 operand fieldedOffering = raise f fieldedOffering := by
  unfold assignMember namedAssignment
  cases Assignment.ofId? (Binary64.toUnsigned 64 operand % 256) with
  | none => exact ⟨_, bind_raised rfl _⟩
  | some a =>
    have named : (Pure.pure a : Action Assignment) fieldedOffering = .ok a fieldedOffering := rfl
    have empty : pop 0 fieldedOffering = raise .stackUnderflow fieldedOffering := rfl
    rw [Action.bind_ok named]
    exact ⟨_, bind_raised empty _⟩

/-- Pushing onto a boolean, writing a name that the record does not have and assigning with
nothing on the stack fail, and the record is as it was. -/
theorem failed_write_is_interlude_fielded :
    let host : Host := ⟨fun _ _ => .error "", fun _ => 0, fun _ _ _ => pure .empty⟩
    let e : Engine := ⟨0, fun _ => pure .empty⟩
    let m := fieldedOffering
    (∃ m', callNative host e (Stub.blank 0 0) #[.boolean true, .empty] m = .error .unwinding m' ∧
      m.Untouched m') ∧
    (∃ m', setMember e (.object ⟨1⟩) (.string "other") .empty .dot m = .error .unwinding m' ∧
      m.Untouched m') ∧
    (∀ operand, ∃ m', step e 0 ⟨0, Opcode.assignMember.toByte, operand⟩ m =
      .error .unwinding m' ∧ m.Untouched m') := by
  intro host e m
  have calls (function : Value) (arguments : Arguments) (binding : Option Value) (n : Machine) :
      n.Untouched ((e.callBound function arguments binding).after n) :=
    ⟨Nat.le_refl _, fun _ _ => rfl, rfl⟩
  have result (m' : Machine) := failed_write_is_interlude host e m m' .unwinding
  refine ⟨?_, ?_, fun operand => ?_⟩
  · obtain ⟨m', failed⟩ := fails_of_raise (show
      callNative host e (Stub.blank 0 0) #[.boolean true, .empty] m =
        raise (.objectExpected "base" .boolean) m from rfl)
    exact ⟨m', failed, ((result m').1 _ _ _ _ (by decide) rfl rfl failed).untouched calls⟩
  · obtain ⟨f, raised⟩ := setMember_other_raises e
    obtain ⟨m', failed⟩ := fails_of_raise raised
    exact ⟨m', failed, ((result m').2.1 _ _ _ _ failed).untouched calls⟩
  · obtain ⟨f, raised⟩ := assignMember_bare_raises e operand.toNumber
    have stepped : step e 0 ⟨0, Opcode.assignMember.toByte, operand⟩ m = raise f m :=
      bind_raised raised _
    obtain ⟨m', failed⟩ := fails_of_raise stepped
    exact ⟨m', failed, ((result m').2.2 _ _ .assignMember rfl (.inr rfl) failed).untouched calls⟩

end StubMachine
