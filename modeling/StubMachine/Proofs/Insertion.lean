import Mathlib.Data.List.Induction
import StubMachine.Proofs.OrderedMap
import StubMachine.Store.Object

/-!
# The order of insertion

The entries of an object have an order that nothing in it tells.  It comes from what has been
done: a key that is written has the place that it has, or the last one if it is new, and a key that
is removed has none.  A **log** is what has been written and removed.  It says since when each key
has been there (`enteredAt?`), and a list of keys **is in order of insertion** (`Lists`) if it
consists of the keys that are there, those first that have been there longer.

A write and a removal of a key keep a list in order of insertion, if the key is appended, unless it
is listed, or filtered out (`Lists.wrote`, `Lists.removed`).  That is what ordered maps do, and what
is done to the two booleans.
-/

namespace StubMachine

deriving instance DecidableEq for Key

/-- What is done to a key. -/
inductive KeyEvent
  | wrote (k : Key)
  | removed (k : Key)

namespace KeyEvent

/-- The key to which something is done. -/
def key : KeyEvent → Key
  | wrote k => k
  | removed k => k

@[simp] theorem key_wrote (k : Key) : (wrote k).key = k := rfl
@[simp] theorem key_removed (k : Key) : (removed k).key = k := rfl

end KeyEvent

/-- **Since when a key has been there**, if it is there: the number of events before the first write
since it was last removed.  The log has the latest event first. -/
def enteredAt? : List KeyEvent → Key → Option Nat
  | [], _ => none
  | .wrote k' :: log, k =>
    if k' = k then (enteredAt? log k).or (some log.length) else enteredAt? log k
  | .removed k' :: log, k => if k' = k then none else enteredAt? log k

theorem enteredAt?_lt {log : List KeyEvent} {k : Key} {i : Nat}
    (entered : enteredAt? log k = some i) : i < log.length := by
  induction log with
  | nil => cases entered
  | cons event log ih =>
    rw [List.length_cons]
    cases event with
    | wrote k' =>
      rw [enteredAt?] at entered
      split at entered
      · cases before : enteredAt? log k with
        | none =>
          rw [before] at entered
          cases entered
          exact Nat.lt_succ_self _
        | some j =>
          rw [before] at entered
          cases entered
          exact Nat.lt_succ_of_lt (ih before)
      · exact Nat.lt_succ_of_lt (ih entered)
    | removed k' =>
      rw [enteredAt?] at entered
      split at entered
      · cases entered
      · exact Nat.lt_succ_of_lt (ih entered)

section
variable (log : List KeyEvent) {k k' : Key}

@[simp] theorem enteredAt?_wrote (k : Key) :
    enteredAt? (.wrote k :: log) k = (enteredAt? log k).or (some log.length) := if_pos rfl

@[simp] theorem enteredAt?_removed (k : Key) : enteredAt? (.removed k :: log) k = none := if_pos rfl

theorem enteredAt?_wrote_other (other : k' ≠ k) :
    enteredAt? (.wrote k' :: log) k = enteredAt? log k := if_neg other

theorem enteredAt?_removed_other (other : k' ≠ k) :
    enteredAt? (.removed k' :: log) k = enteredAt? log k := if_neg other

/-- What is done to one key is nothing to another. -/
theorem enteredAt?_other {event : KeyEvent} (other : event.key ≠ k) :
    enteredAt? (event :: log) k = enteredAt? log k := by
  cases event with
  | wrote k' => exact enteredAt?_wrote_other log other
  | removed k' => exact enteredAt?_removed_other log other

end

/-! ## Lists of keys -/

/-- **Keys of one kind are listed in order of insertion**: those that are there, each before all
that came later. -/
structure Lists {α : Type} (log : List KeyEvent) (kind : α → Key) (keys : List α) : Prop where
  mem : ∀ a, a ∈ keys ↔ (enteredAt? log (kind a)).isSome
  order : keys.Pairwise fun a b => ∀ i j,
    enteredAt? log (kind a) = some i → enteredAt? log (kind b) = some j → i < j

namespace Lists
variable {α : Type} {log : List KeyEvent} {kind : α → Key} {keys : List α}

theorem nil (kind : α → Key) : Lists [] kind [] := ⟨fun a => by simp [enteredAt?], .nil⟩

/-- No key is listed twice. -/
theorem nodup (lists : Lists log kind keys) : keys.Nodup := by
  refine lists.order.imp_of_mem ?_
  rintro a b mem - before rfl
  obtain ⟨i, entered⟩ := Option.isSome_iff_exists.mp ((lists.mem a).mp mem)
  exact Nat.lt_irrefl i (before i i entered entered)

/-- What is done to keys of other kinds changes nothing. -/
theorem other (lists : Lists log kind keys) {event : KeyEvent} (other : ∀ a, event.key ≠ kind a) :
    Lists (event :: log) kind keys where
  mem a := by
    rw [enteredAt?_other log (other a)]
    exact lists.mem a
  order := lists.order.imp fun before i j => by
    rw [enteredAt?_other log (other _), enteredAt?_other log (other _)]
    exact before i j

/-- A key that was there and is written has been there for as long as before. -/
theorem wrote_old (k : α) (lists : Lists log kind keys) (old : k ∈ keys) :
    Lists (.wrote (kind k) :: log) kind keys := by
  obtain ⟨i, entered⟩ := Option.isSome_iff_exists.mp ((lists.mem k).mp old)
  have same (a : α) : enteredAt? (.wrote (kind k) :: log) (kind a) = enteredAt? log (kind a) := by
    by_cases here : kind k = kind a
    · rw [← here, enteredAt?_wrote, entered, Option.some_or]
    · exact enteredAt?_wrote_other log here
  refine ⟨fun a => ?_, lists.order.imp fun before i j => ?_⟩
  · rw [same]
    exact lists.mem a
  · rw [same, same]
    exact before i j

variable (injective : Function.Injective kind) (k : α)
include injective

/-- **A new key that is written** goes to the end. -/
theorem wrote_new (lists : Lists log kind keys) (new : k ∉ keys) :
    Lists (.wrote (kind k) :: log) kind (keys ++ [k]) := by
  have kept (a : α) (mem : a ∈ keys) :
      enteredAt? (.wrote (kind k) :: log) (kind a) = enteredAt? log (kind a) :=
    enteredAt?_wrote_other log fun same => new (injective same ▸ mem)
  have absent : enteredAt? log (kind k) = none := by
    rw [← Option.not_isSome_iff_eq_none]
    exact fun present => new ((lists.mem k).mpr present)
  have last : enteredAt? (.wrote (kind k) :: log) (kind k) = some log.length := by
    rw [enteredAt?_wrote, absent, Option.none_or]
  refine ⟨fun a => ?_, List.pairwise_append.mpr ⟨?_, List.pairwise_singleton _ _, ?_⟩⟩
  · by_cases here : kind k = kind a
    · simp [← injective here, last]
    · have other : a ≠ k := fun same => here (same ▸ rfl)
      rw [enteredAt?_wrote_other log here, ← lists.mem a]
      simp [other]
  · refine lists.order.imp_of_mem fun first second before i j => ?_
    rw [kept _ first, kept _ second]
    exact before i j
  · intro a mem b single i j first second
    rw [List.mem_singleton.mp single, last] at second
    cases second
    rw [kept a mem] at first
    exact enteredAt?_lt first

/-- **A key that is removed** is filtered out. -/
theorem removed (lists : Lists log kind keys) {others : α → Bool}
    (sieve : ∀ a, others a = true ↔ a ≠ k) :
    Lists (.removed (kind k) :: log) kind (keys.filter others) := by
  have kept (a : α) (other : a ≠ k) :
      enteredAt? (.removed (kind k) :: log) (kind a) = enteredAt? log (kind a) :=
    enteredAt?_removed_other log fun same => other (injective same).symm
  constructor
  · intro a
    rw [List.mem_filter, sieve]
    by_cases here : a = k
    · simp [here, enteredAt?_removed]
    · rw [kept a here, ← lists.mem a]
      simp [here]
  · refine (lists.order.filter _).imp_of_mem fun first second before i j => ?_
    rw [kept _ ((sieve _).mp (List.mem_filter.mp first).2),
      kept _ ((sieve _).mp (List.mem_filter.mp second).2)]
    exact before i j

/-- Keys that have been written one after the other are listed in that order. -/
theorem of_writes (distinct : keys.Nodup) :
    Lists (keys.reverse.map fun k => .wrote (kind k)) kind keys := by
  induction keys using List.reverseRecOn with
  | nil => exact .nil kind
  | append_singleton keys k ih =>
    have new : k ∉ keys := fun mem =>
      (List.nodup_append.mp distinct).2.2 _ mem _ List.mem_cons_self rfl
    rw [List.reverse_append]
    exact wrote_new injective k (ih (List.nodup_append.mp distinct).1) new

end Lists

/-- Only keys that have been written are there. -/
theorem entered_of_writes {α : Type} {kind : α → Key} {keys : List α} {k : Key}
    (entered : (enteredAt? (keys.map fun a => .wrote (kind a)) k).isSome = true) :
    ∃ a ∈ keys, k = kind a := by
  induction keys with
  | nil => cases entered
  | cons a keys ih =>
    by_cases here : kind a = k
    · exact ⟨a, List.mem_cons_self, here.symm⟩
    · rw [List.map_cons, enteredAt?_wrote_other _ here] at entered
      obtain ⟨b, mem, is⟩ := ih entered
      exact ⟨b, List.mem_cons_of_mem _ mem, is⟩

/-! ## The partitions of an object -/

section Maps
variable {K V : Type} [BEq K] [Hashable K] [LawfulBEq K] [LawfulHashable K]
  {log : List KeyEvent} {kind : K → Key} (injective : Function.Injective kind)
include injective

theorem Lists.insert {m : OrderedMap K V} (lists : Lists log kind m.keys) (k : K) (v : V) :
    Lists (.wrote (kind k) :: log) kind (m.insert k v).keys := by
  classical
  rw [OrderedMap.keys_insert]
  by_cases old : k ∈ m.keys
  · rw [if_pos old]
    exact lists.wrote_old k old
  · rw [if_neg old]
    exact lists.wrote_new injective k old

theorem Lists.erase {m : OrderedMap K V} (lists : Lists log kind m.keys) (k : K) :
    Lists (.removed (kind k) :: log) kind (m.erase k).keys := by
  rw [OrderedMap.keys_erase]
  exact lists.removed injective k fun a => by simp

end Maps

/-- A boolean that is written keeps its place, or gets the last one. -/
theorem keys_setBoolean (b : Bool) (v : Value) (entries : List (Bool × Value)) :
    (Object.setBoolean b v entries).map Prod.fst =
      if b ∈ entries.map Prod.fst then entries.map Prod.fst else entries.map Prod.fst ++ [b] := by
  induction entries with
  | nil => rfl
  | cons e entries ih =>
    obtain ⟨b', w⟩ := e
    rw [Object.setBoolean]
    by_cases here : b' = b
    · simp [here]
    · simp only [beq_iff_eq, if_neg here, List.map_cons, ih, List.mem_cons, Ne.symm here, false_or]
      split
      · rfl
      · rfl

theorem Lists.setBoolean {log : List KeyEvent} {entries : List (Bool × Value)}
    (lists : Lists log .boolean (entries.map Prod.fst)) (b : Bool) (v : Value) :
    Lists (.wrote (.boolean b) :: log) .boolean ((Object.setBoolean b v entries).map Prod.fst) := by
  have injective : Function.Injective Key.boolean := fun _ _ same => Key.boolean.inj same
  rw [keys_setBoolean]
  split
  · rename_i old
    exact lists.wrote_old b old
  · rename_i new
    exact lists.wrote_new injective b new

theorem Lists.eraseBoolean {log : List KeyEvent} {entries : List (Bool × Value)}
    (lists : Lists log .boolean (entries.map Prod.fst)) (b : Bool) :
    Lists (.removed (.boolean b) :: log) .boolean
      ((entries.eraseP (·.1 == b)).map Prod.fst) := by
  have injective : Function.Injective Key.boolean := fun _ _ same => Key.boolean.inj same
  have erased : (entries.eraseP (·.1 == b)).map Prod.fst =
      (entries.map Prod.fst).filter (fun b' => !(b' == b)) := by
    have mapped : (entries.eraseP (·.1 == b)).map Prod.fst =
        (entries.map Prod.fst).eraseP (· == b) := by
      rw [List.eraseP_map]
      rfl
    rw [mapped, ← List.erase_eq_eraseP', lists.nodup.erase_eq_filter]
    rfl
  rw [erased]
  exact lists.removed injective b fun a => by simp

end StubMachine
