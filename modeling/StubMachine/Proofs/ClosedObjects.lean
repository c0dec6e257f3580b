import StubMachine.Proofs.FailedWrites
import StubMachine.Proofs.IndexLimit

/-!
# Records and interfaces take no index values

A record has the fields of its layout and an interface its members.  Neither shows its index
values among its keys, and a bracket write of an index is refused for both.  **The native
functions that write to the index values by themselves do not look at the facet**: appending
to a record succeeds and gives it an index value that only the length, and the functions that
go through index values, will show (`push_fills_record`).

What holds is that nothing else gives one to a record or an interface: under a plan that stops
the calls of these functions, the object stays what it is, and what is left of its index
values was there before.  An interface may also be given up as one, and is then no concern
of this module; calls that can do that are stopped as well.
-/

namespace StubMachine

open StubMachine.Action

namespace Object

/-- **What may become of a record or an interface**: it stays closed, a record if it was one,
and what is left of its index values was there before. -/
structure StaysClosed (o o' : Object) : Prop where
  hides : o'.hidesIndices = true
  record : o'.layout?.isSome = o.layout?.isSome
  left : o'.indices.toList.Subperm o.indices.toList

/-- Calls of native functions that give an object index values, or may end an interface. -/
inductive Opening (o : Object) : Query → Array Value → Prop
  | push (args : Array Value) : Opening o .push args
  | insert (args : Array Value) : Opening o .insert args
  | grow {args : Array Value} {n : Float} : Native.argument args 1 = .number n →
    o.indices.size < Binary64.toUnsigned 64 n → Opening o .setSize args
  | disclose {args : Array Value} : o.layout? = none → Native.argument args 1 ≠ .boolean true →
    Opening o .setIsInterface args

/-- What hides its index values is a record or an interface. -/
theorem hidesIndices_cases {o : Object} (hides : o.hidesIndices = true) :
    (∃ layout, o.facet = .record layout) ∨ ∃ members binding, o.facet = .interface members binding := by
  unfold hidesIndices at hides
  cases facet : o.facet with
  | plain =>
    rw [facet] at hides
    cases hides
  | function f =>
    rw [facet] at hides
    cases hides
  | record layout => exact .inl ⟨layout, rfl⟩
  | interface members binding => exact .inr ⟨members, binding, rfl⟩

theorem StaysClosed.refl {o : Object} (hides : o.hidesIndices = true) : o.StaysClosed o :=
  ⟨hides, rfl, .refl _⟩

end Object

/-- A record or an interface, in custody. -/
def Custody.closed (o : ObjectId) (object : Object) : Custody where
  object := o
  Kept := object.StaysClosed
  Barred := Object.Opening
  fewer earlier kept facet left := by
    refine ⟨?_, ?_, left.trans earlier.left⟩
    · rw [Object.hidesIndices, facet]
      exact kept.hides
    · rw [Object.layout?, facet]
      exact kept.record
  entry k v kept plain _ := by
    have hides := kept.hides
    rw [Object.hidesIndices, plain] at hides
    cases hides
  enclose kept noRecord facet same := by
    refine ⟨by rw [Object.hidesIndices, facet], ?_, same ▸ kept.left⟩
    rw [← kept.record, noRecord, Object.layout?, facet]
  push _ free := absurd (.push _) free
  insert _ free := absurd (.insert _) free
  resize {o args n} kept free number _ := by
    have shrinks : Binary64.toUnsigned 64 n ≤ o.indices.size :=
      Nat.le_of_not_lt fun grows => free (.grow number grows)
    refine ⟨kept.hides, kept.record, ?_⟩
    have taken : (o.resize (Binary64.toUnsigned 64 n)).indices.toList =
        o.indices.toList.take (Binary64.toUnsigned 64 n) := by
      simp [Object.resize, shrinks]
    rw [taken]
    exact (List.take_sublist _ _).subperm.trans kept.left
  disclose {o args} kept free := by
    cases layout : o.layout? with
    | none => exact .inl (Classical.byContradiction fun told => free (.disclose layout told))
    | some layout =>
      refine .inr fun o' kept' interface => absurd ?_ interface
      have record : o'.layout?.isSome = true := by rw [kept'.record, ← kept.record, layout]; rfl
      rw [Object.layout?] at record
      rw [Object.interface?]
      cases facet : o'.facet with
      | interface members binding =>
        rw [facet] at record
        cases record
      | _ => rfl

/-! ## What is refused -/

/-- **A bracket write of an index to a record or an interface is refused**, unless a record has
an attribute that takes over its writes. -/
theorem setMember_index_refused {m : Machine} {o : ObjectId} (hides : (m.object o).hidesIndices = true)
    {a : Accessor} (direct : (m.object o).interface? = none → m.setterOf? o a = none) (e : Engine)
    (n : Float) (v : Value) :
    ∃ f, setMember e (.object o) (.number n) v a m = raise f m := by
  have looked : objectAt o m = .ok (m.object o) m := rfl
  rcases Object.hidesIndices_cases hides with ⟨layout, facet⟩ | ⟨members, binding, facet⟩
  · have noInterface : (m.object o).interface? = none := by rw [Object.interface?, facet]
    have noFunction : (m.object o).function? = none := by rw [Object.function?, facet]
    rcases setMember_direct noFunction noInterface (direct noInterface) e (.number n) v with
      ⟨k, stands, declares, -, -⟩ | refused
    · -- what a record declares has a name, and a number stands for an index
      obtain ⟨s, rfl, -⟩ := declares layout facet
      obtain ⟨i, -, named⟩ := Key.ofValue_number.mp stands
      cases named
    · exact refused
  · refine ⟨.interfaceKey, ?_⟩
    have stuck : routeTo (.object o) (.number n) true m = raise .interfaceKey m := by
      rw [routeTo, Action.bind_ok looked, facet]
    exact bind_raised stuck _

/-! ## The result -/

/-- **Nothing but the functions that write to index values gives one to a record or an
interface.**  Whatever is requested, instructed and asked for in sessions, the object stays what
it is and gets no index value, if such calls on it are stopped; and a bracket write of an index
is refused. -/
theorem closed_objects_take_no_index {host : Host} (scripted : host.Scripted) {o : ObjectId}
    {m : Machine} (known : m.Backs o) (hides : (m.object o).hidesIndices = true) {plan : Plan}
    (guards : (Custody.closed o (m.object o)).Guards plan) (fuel : Nat) :
    (∀ request, (m.object o).StaysClosed
      (((plan.engine host fuel).perform request).after m |>.object o)) ∧
    (∀ i ins, (m.object o).StaysClosed ((step (plan.engine host fuel) i ins).after m |>.object o)) ∧
    (∀ session : Session, (m.object o).StaysClosed
      ((session.run host (plan.engine host fuel) m).2.object o)) ∧
    ∀ a, ((m.object o).interface? = none → m.setterOf? o a = none) → ∀ e n v,
      ∃ f, setMember e (.object o) (.number n) v a m = raise f m := by
  have holds : (Custody.closed o (m.object o)).Holds m := ⟨known, .refl hides⟩
  have runs := guards.engine scripted fuel
  refine ⟨fun request => ?_, fun i ins => ?_, fun session => ?_, fun a direct e n v => ?_⟩
  · exact (runs.performed request m holds).kept
  · exact (step_lasts i ins m holds).kept
  · exact (guards.session scripted fuel session holds).kept
  · exact setMember_index_refused hides direct e n v

/-- The record of a machine stays one, and without index values, when its keys are looked at. -/
theorem closed_objects_take_no_index_fielded :
    let plan := (Custody.closed ⟨1⟩ (fielded.object ⟨1⟩)).stopping
    (fielded.object ⟨1⟩).StaysClosed
      (((Session.deals (.keys ⟨1⟩) fun _ => .ends).run .complaining
        (plan.engine .complaining 1) fielded).2.object ⟨1⟩) := by
  intro plan
  have known : fielded.Backs (⟨1⟩ : ObjectId) := by
    show 0 < 1
    decide
  exact (closed_objects_take_no_index Host.complaining_scripted known rfl
    (Custody.stopping_guards _) 1).2.2.1 _

/-! ## What is not -/

/-- **Appending to a record is not refused**: it makes an index value, where a bracket write of any
index raises an error. -/
theorem push_fills_record :
    let e : Engine := ⟨0, fun _ => pure .empty⟩
    let m := fieldedOffering
    (m.object ⟨1⟩).hidesIndices = true ∧ (m.object ⟨1⟩).indices.size = 0 ∧
    (∀ n v, ∃ f, setMember e (.object ⟨1⟩) (.number n) v .bracket m = raise f m) ∧
    ∃ m', callNative .complaining e (Stub.blank 0 0) #[.object ⟨1⟩, .boolean true] m =
        .ok (.object ⟨1⟩) m' ∧
      (m'.object ⟨1⟩).hidesIndices = true ∧ (m'.object ⟨1⟩).indices = #[.boolean true] := by
  intro e m
  have stored : m.Backs (⟨1⟩ : ObjectId) := by
    show 0 < 1
    decide
  obtain ⟨m', pushed, object⟩ := push_appends m (Stub.blank 0 0) (.boolean true) rfl
    rfl stored rfl .complaining e
  refine ⟨rfl, rfl, fun n v => setMember_index_refused rfl (fun _ => rfl) e n v, m', pushed, ?_, ?_⟩
  · rw [object]
    rfl
  · rw [object]
    rfl

end StubMachine
