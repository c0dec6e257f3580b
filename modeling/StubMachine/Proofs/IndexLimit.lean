import StubMachine.Proofs.Custody.Requests

/-!
# The limit on index values

A write may extend the index values of an object up to the index `Object.maxIndex`, so an
object has at most one more than that.  Writes of a member check this, and so do the
collecting of pairs and the setting of a size.  **Appending and inserting do not**: at the
limit they make one more (`push_exceeds_limit`).

What holds is that nothing else exceeds the limit.  Under a plan that stops the calls of
the two functions on an object that is at the limit, the object stays within it, in whatever
is requested, in every instruction and in whole sessions; and what pairs are collected in
is within the limit.
-/

namespace StubMachine

open StubMachine.Action

namespace Object

/-- The object has no more index values than writes may make. -/
def WithinLimit (o : Object) : Prop := o.indices.size ≤ maxIndex + 1

/-- A call appends or inserts where no more may be made. -/
def Exceeding (o : Object) (q : Query) (_ : Array Value) : Prop :=
  (q = .push ∨ q = .insert) ∧ maxIndex < o.indices.size

theorem WithinLimit.set {o : Object} (within : o.WithinLimit) {k : Key} (v : Value)
    (near : o.writeFault? k = none) : (o.set k v).WithinLimit := by
  cases k with
  | index i =>
    have bounded : o.indices.size ≤ i → i ≤ maxIndex := by
      intro beyond
      rw [writeFault?] at near
      split at near
      · cases near
      · omega
    show (setIndex o.indices i v).size ≤ maxIndex + 1
    unfold setIndex
    split
    · rw [Array.size_setIfInBounds]
      exact within
    · rw [Array.size_push, Array.size_append, Array.size_replicate]
      omega
  | _ => exact within

theorem size_resize (o : Object) (size : Nat) : (o.resize size).indices.size = size := by
  unfold resize
  dsimp only
  split
  · rw [Array.take_eq_extract, Array.size_extract]
    omega
  · rw [Array.size_append, Array.size_replicate]
    omega

end Object

/-- An object within the limit, in custody. -/
def Custody.limited (o : ObjectId) : Custody where
  object := o
  Kept := Object.WithinLimit
  Barred := Object.Exceeding
  fewer within _ _ left := Nat.le_trans left.length_le within
  entry _ v within _ near := within.set v near
  enclose within _ _ same := by
    unfold Object.WithinLimit
    rw [same]
    exact within
  push within free := by
    have below := Nat.le_of_not_lt fun full => free ⟨.inl rfl, full⟩
    show (Array.push _ _).size ≤ _
    rw [Array.size_push]
    exact Nat.succ_le_succ below
  insert within free _ size := by
    have below := Nat.le_of_not_lt fun full => free ⟨.inr rfl, full⟩
    unfold Object.WithinLimit
    rw [size]
    exact Nat.succ_le_succ below
  resize _ _ _ bounded := by
    unfold Object.WithinLimit
    rw [Object.size_resize]
    exact bounded
  disclose _ _ := .inr fun _ within _ => within

/-! ## Collecting pairs -/

/-- Storing a value under a key that may be written does not exceed the limit. -/
theorem writeEntry_limited (o p : ObjectId) (key v : Value) :
    Along (Custody.limited o).Lasts (writeEntry p key v) := fun _ =>
  writeEntry_from v fun _ _ near _ within => within.set v near

/-- **What pairs are collected in is within the limit.** -/
theorem collectPairs_within {entries : List (Value × Value)} {m m' : Machine} {v : Value}
    (ok : collectPairs entries m = .ok v m') :
    ∃ o, v = .object o ∧ (m'.object o).WithinLimit := by
  let o : ObjectId := ⟨m.objects.size + 1⟩
  let m₁ : Machine := { m with objects := m.objects.push Object.blank }
  have made : newBlank m = .ok o m₁ := rfl
  have holds : (Custody.limited o).Holds m₁ := by
    refine ⟨?_, ?_⟩
    · show m.objects.size < (m.objects.push Object.blank).size
      rw [Array.size_push]
      exact Nat.lt_succ_self _
    · have new : o.serial - 1 = m.objects.size := rfl
      show (m₁.object o).indices.size ≤ _
      rw [Machine.object_push, if_pos new]
      exact Nat.zero_le _
  -- the new object is within the limit, and each entry that is written keeps it there
  have stored := Along.forM (fun entry => writeEntry_limited o o entry.1 entry.2) entries m₁ holds
  rw [collectPairs, Action.bind_ok made] at ok
  cases run : (entries.forM fun entry => writeEntry o entry.1 entry.2) m₁ with
  | ok u m₂ =>
    rw [Action.after, run] at stored
    rw [Action.bind_ok run] at ok
    cases ok
    exact ⟨o, rfl, stored.kept⟩
  | error failure m₂ =>
    rw [Action.bind_error run] at ok
    cases ok

/-! ## The limit -/

/-- **Nothing but appending and inserting exceeds the limit.**  An object within the limit stays
within it, whatever is requested, instructed and asked for in sessions, if appending to it and
inserting into it are stopped where it is at the limit; and collecting pairs keeps the limit. -/
theorem index_limit_kept {host : Host} (scripted : host.Scripted) {o : ObjectId} {plan : Plan}
    (guards : (Custody.limited o).Guards plan) (fuel : Nat) {m : Machine} (known : m.Backs o)
    (within : (m.object o).WithinLimit) :
    (∀ request, (((plan.engine host fuel).perform request).after m |>.object o).WithinLimit) ∧
    (∀ i ins, ((step (plan.engine host fuel) i ins).after m |>.object o).WithinLimit) ∧
    (∀ session : Session, ((session.run host (plan.engine host fuel) m).2.object o).WithinLimit) ∧
    ∀ entries v m', collectPairs entries m = .ok v m' →
      ∃ p, v = .object p ∧ (m'.object p).WithinLimit := by
  have holds : (Custody.limited o).Holds m := ⟨known, within⟩
  have runs := guards.engine scripted fuel
  refine ⟨fun request => ?_, fun i ins => ?_, fun session => ?_, fun _ _ _ => collectPairs_within⟩
  · exact (runs.performed request m holds).kept
  · exact (step_lasts i ins m holds).kept
  · exact (guards.session scripted fuel session holds).kept

/-- The record of a machine is within the limit, and is so after its keys have been looked at. -/
theorem index_limit_kept_fielded :
    let plan := (Custody.limited ⟨1⟩).stopping
    (fielded.object ⟨1⟩).WithinLimit ∧
      (((Session.deals (.keys ⟨1⟩) fun _ => .ends).run .complaining
        (plan.engine .complaining 1) fielded).2.object ⟨1⟩).WithinLimit := by
  intro plan
  have known : fielded.Backs (⟨1⟩ : ObjectId) := by
    show 0 < 1
    decide
  have within : (fielded.object ⟨1⟩).WithinLimit := Nat.zero_le _
  exact ⟨within, (index_limit_kept Host.complaining_scripted (Custody.stopping_guards _) 1 known
    within).2.2.1 _⟩

/-! ## Exceeding it -/

/-- Appending makes an index value, whatever the object is and however many it has. -/
theorem push_appends (m : Machine) (stub : Stub) {native : Native} {o : ObjectId} (v : Value)
    (known : m.natives[stub.id.toNat]? = some native) (body : native.body = .query .push)
    (stored : m.Backs o) (entries : (m.object o).isFunction = false) (host : Host) (e : Engine) :
    ∃ m', callNative host e stub #[.object o, v] m = .ok (.object o) m' ∧
      m'.object o = (m.object o).push v := by
  let m' : Machine := { m with objects := m.objects.modify (o.serial - 1) (·.push v) }
  have pushed : Native.push #[.object o, v] m = .ok (.object o) m' := by
    rw [Native.push, Action.bind_ok (Native.baseObject_ok rfl entries)]
    rfl
  refine ⟨m', ?_, ?_⟩
  · rw [callNative, Action.bind_eq, Action.read]
    simp only [known, body]
    have ran : Native.run host e #[.object o, v] (.query .push) m = .ok (.object o) m' := pushed
    rw [Action.tryCatch_eq, ran]
  · rw [Machine.object_modify, if_pos ⟨rfl, stored⟩]

/-- A machine with one object, as full as writes may make it, that offers appending. -/
def brimming : Machine :=
  { Machine.initial .standard with
    objects := #[{ Object.blank with indices := Array.replicate (Object.maxIndex + 1) .empty }]
    natives := #[⟨"push", Stub.blank 0 0, .query .push, none⟩] }

/-- **Appending exceeds the limit.** -/
theorem push_exceeds_limit :
    ∃ m', callNative .complaining ⟨0, fun _ => pure .empty⟩ (Stub.blank 0 0) #[.object ⟨1⟩, .empty]
        brimming = .ok (.object ⟨1⟩) m' ∧
      (brimming.object ⟨1⟩).WithinLimit ∧ ¬ (m'.object ⟨1⟩).WithinLimit := by
  have full : (brimming.object ⟨1⟩).indices.size = Object.maxIndex + 1 := Array.size_replicate
  have stored : brimming.Backs (⟨1⟩ : ObjectId) := by
    show 0 < 1
    decide
  obtain ⟨m', pushed, object⟩ := push_appends brimming (Stub.blank 0 0) .empty rfl rfl
    stored rfl .complaining ⟨0, fun _ => pure .empty⟩
  refine ⟨m', pushed, Nat.le_of_eq full, ?_⟩
  have size : (m'.object ⟨1⟩).indices.size = Object.maxIndex + 1 + 1 := by
    rw [object, ← full]
    exact Array.size_push _
  unfold Object.WithinLimit
  rw [size]
  exact Nat.not_succ_le_self _

end StubMachine
