import StubMachine.Proofs.InTurn
import StubMachine.Proofs.Json.Graph

/-!
# The members of a JSON object

An object that is not a list is written as a JSON object, with the text of each key for a name.
**Different keys may have one name**, and then the last of their entries takes the place of the
others (`document_members`): the boolean true is written under the name that the text `true` has,
an index under that of its digits, and a type under its name, which other types may have, too.
These are the only ways in which keys meet (`Json.Called.meet`), so an object whose keys do not meet
is written entry by entry.
-/

namespace StubMachine

open StubMachine.Action Binary64

/-! ## Names -/

/-- A small whole number is written as its digits. -/
theorem Style.text_ofInteger (s : Style) {k : Int} (small : k.natAbs < 2 ^ 53)
    (whole : k.natAbs < s.integersBelow) : s.text (Binary64.ofInteger k) = toString k := by
  have finite : exponentField (Binary64.ofInteger k) ≠ 0x7ff := by
    simpa [isFinite] using (finite_ofInteger small).1
  have number : ¬ isNaN (Binary64.ofInteger k) = true := by simp [isNaN, finite]
  have integer : s.writesInteger (Binary64.ofInteger k) = true := by
    rw [Style.writesInteger, isIntegral_ofInteger small, wholePart_ofInteger small, Bool.true_and]
    exact decide_eq_true whole
  rw [Style.text, if_neg number, if_pos integer, truncate_ofInteger small]

/-- The text of a boolean is not the digits of a number. -/
theorem toString_nat_ne_bool (i : Nat) (b : Bool) : toString i ≠ toString b := by
  intro same
  have digits : ∀ c ∈ (toString i).toList, c.isDigit = true := by
    intro c mem
    rw [show toString i = i.repr from rfl, Nat.repr_eq_ofList_toDigits, String.toList_ofList] at mem
    exact Nat.isDigit_of_mem_toDigits (by decide) (by decide) mem
  rw [same] at digits
  cases b with
  | true => exact absurd (digits 't' (by decide)) (by decide)
  | false => exact absurd (digits 'f' (by decide)) (by decide)

namespace Json

/-- **A key is written under a name.**  What a type is called is for the machine to say. -/
inductive Called : Value → String → Prop
  | text (s : String) : Called (.string s) s
  | index (i : Nat) : Called (.ofNat i) (toString i)
  | boolean (b : Bool) : Called (.boolean b) (toString b)
  | type (t : TypeId) (name : String) : Called (.type t) name

/-- **Two keys may have one name**: a text with the index or the boolean that is written like it,
a type with any key, and every key with itself. -/
def Meet : Value → Value → Prop
  | .type _, _ => True
  | _, .type _ => True
  | .string s, .number n => ∃ i : Nat, n = ofInteger i ∧ s = toString i
  | .number n, .string s => ∃ i : Nat, n = ofInteger i ∧ s = toString i
  | .string s, .boolean b => s = toString b
  | .boolean b, .string s => s = toString b
  | k, k' => k = k'

/-- **Keys with one name meet.** -/
theorem Called.meet {k k' : Value} {name name' : String} (h : Called k name)
    (h' : Called k' name') (same : name = name') : Meet k k' := by
  cases h' with
  | type t name => cases h <;> trivial
  | text s' =>
    cases h with
    | text s => exact congrArg Value.string same
    | index i => exact ⟨i, rfl, same.symm⟩
    | boolean b => exact same.symm
    | type t name => trivial
  | index i' =>
    cases h with
    | text s => exact ⟨i', rfl, same⟩
    | index i => exact congrArg Value.ofNat (Nat.repr_inj.mp same)
    | boolean b => exact absurd same.symm (toString_nat_ne_bool i' b)
    | type t name => trivial
  | boolean b' =>
    cases h with
    | text s => exact same
    | index i => exact absurd same (toString_nat_ne_bool i b')
    | boolean b =>
      have distinct : ∀ b b' : Bool, toString b = toString b' → b = b' := by decide
      exact congrArg Value.boolean (distinct b b' same)
    | type t name => trivial

end Json

/-- What a key of an object is written under. -/
theorem Object.called_of_memberName {o : Object} (few : o.indices.size ≤ 10 ^ 15) {k : Value}
    (key : k ∈ o.keys) {m : Machine} {name : String} (named : Json.memberName m k = .ok name) :
    Json.Called k name := by
  cases k with
  | empty => cases named
  | object p => cases named
  | string s =>
    cases named
    exact .text _
  | boolean b =>
    cases named
    cases b with
    | true => exact .boolean true
    | false => exact .boolean false
  | type t => exact .type t name
  | number n =>
    obtain ⟨i, shown, rfl⟩ : ∃ i < o.shownIndices.size, ofInteger i = n := by
      simpa [keys, Value.ofNat] using key
    have inside : i < 10 ^ 15 := by
      have : o.shownIndices.size ≤ o.indices.size := by
        rw [shownIndices]
        split
        · exact Nat.zero_le _
        · exact Nat.le_refl _
      omega
    have digits : Style.canonical.text (ofInteger i) = toString i :=
      Style.text_ofInteger _ (by omega) inside
    rw [Json.memberName, digits] at named
    cases named
    exact .index i

/-! ## Members -/

namespace Json
variable {e : Engine} {fuel : Nat} {visiting : List ObjectId} {o : ObjectId} {m m' : Machine}

/-- An entry is written with its name and the document of its value. -/
theorem ofEntry_ok {entry : Value × Value} {member : String × Json}
    (ran : ofEntry e fuel visiting entry m = .ok member m') :
    memberName m entry.1 = .ok member.1 ∧ ofValue e fuel visiting entry.2 m = .ok member.2 m' := by
  obtain ⟨name?, m₁, looked, ran⟩ := Action.bind_eq_ok.mp ran
  have looked : EStateM.Result.ok (memberName m entry.1) m = .ok name? m₁ := looked
  rw [EStateM.Result.ok.injEq] at looked
  obtain ⟨named, rfl⟩ := looked
  cases name? with
  | error f => cases ran
  | ok name =>
    obtain ⟨j, m₂, wrote, same⟩ := Action.bind_eq_ok.mp ran
    cases same
    exact ⟨named, wrote⟩

/-- What is written as a JSON object has been written entry by entry. -/
theorem ofValue_entries (noInterface : (m.object o).interface? = none)
    (noAttributes : (m.object o).attributes = none) {members : List (String × Json)}
    (encoded : ofValue e fuel visiting (.object o) m = .ok (.object members) m') :
    ∃ written, InTurn (ofEntry e (fuel - 1) (o :: visiting)) m (m.object o).entries written m' ∧
      members = (OrderedMap.ofList written).toList := by
  cases fuel with
  | zero => cases encoded
  | succ fuel =>
    have entries : (m.object o).isFunction = false := by
      by_contra function
      rw [ofValue_function (Bool.not_eq_false _ ▸ function)] at encoded
      cases encoded
    have new : o ∉ visiting := by
      intro met
      rw [ofValue_met entries met] at encoded
      cases encoded
    rw [ofValue_object entries noInterface noAttributes new] at encoded
    split at encoded
    · obtain ⟨items, m₁, -, same⟩ := Action.bind_eq_ok.mp encoded
      cases same
    · obtain ⟨written, m₁, ran, same⟩ := Action.bind_eq_ok.mp encoded
      cases same
      exact ⟨written, mapM_eq_ok_iff.mp ran, rfl⟩

/-- Entries whose keys do not meet are written under different names. -/
theorem nodup_names {entries : List (Value × Value)} {written : List (String × Json)}
    (turns : InTurn (ofEntry e fuel visiting) m entries written m') {object : Object}
    (few : object.indices.size ≤ 10 ^ 15) (keys : ∀ entry ∈ entries, entry.1 ∈ object.keys)
    (apart : entries.Pairwise fun entry entry' => ¬ Meet entry.1 entry'.1) :
    (written.map Prod.fst).Nodup := by
  induction turns with
  | done m => exact List.nodup_nil
  | @next entry member entries written m m₁ m' first turns ih =>
    obtain ⟨others, apart⟩ := List.pairwise_cons.mp apart
    have later : ∀ entry' ∈ entries, entry'.1 ∈ object.keys :=
      fun entry' mem => keys entry' (List.mem_cons_of_mem _ mem)
    rw [List.map_cons]
    refine List.nodup_cons.mpr ⟨fun again => ?_, ih later apart⟩
    -- a later entry under the same name would have a key that meets this one
    obtain ⟨member', mem, same⟩ := List.mem_map.mp again
    obtain ⟨entry', mem', m₂, m₃, wrote⟩ := turns.exists_of_mem mem
    have called := Object.called_of_memberName few (keys entry List.mem_cons_self)
      (ofEntry_ok first).1
    have called' := Object.called_of_memberName few (later entry' mem') (ofEntry_ok wrote).1
    exact others entry' mem' (called.meet called' same.symm)

end Json

/-- **Of the entries that have one name the last is a member.**  An object is written entry by entry,
and there are as many members as the entries have different names.  So there is a member for each
entry precisely if no two entries have one name; and they have not if no two keys meet. -/
theorem document_members (e : Engine) {fuel : Nat} {visiting : List ObjectId} {o : ObjectId}
    {m m' : Machine} {members : List (String × Json)}
    (noInterface : (m.object o).interface? = none) (noAttributes : (m.object o).attributes = none)
    (encoded : Json.ofValue e fuel visiting (.object o) m = .ok (.object members) m') :
    ∃ written : List (String × Json),
      InTurn (Json.ofEntry e (fuel - 1) (o :: visiting)) m (m.object o).entries written m' ∧
      written.length = (m.object o).keyCount ∧
      (∀ name j, (name, j) ∈ members ↔ OrderedMap.LastFor written name j) ∧
      members.length = (written.map Prod.fst).dedup.length ∧
      (members.length = (m.object o).keyCount ↔ (written.map Prod.fst).Nodup) ∧
      ((m.object o).indices.size ≤ 10 ^ 15 →
        (m.object o).keys.Pairwise (fun k k' => ¬ Json.Meet k k') → members = written) := by
  obtain ⟨written, turns, rfl⟩ := Json.ofValue_entries noInterface noAttributes encoded
  have paired : (m.object o).values.length = (m.object o).keys.length :=
    Object.values_length noInterface
  have keys : (m.object o).entries.map Prod.fst = (m.object o).keys :=
    List.map_fst_zip (Nat.le_of_eq paired.symm)
  have all : written.length = (m.object o).keyCount := by
    rw [turns.length, ← Object.length_keys, ← keys, List.length_map]
  refine ⟨written, turns, all, fun name j => OrderedMap.mem_ofList_iff, OrderedMap.length_ofList,
    all ▸ OrderedMap.length_ofList_eq_iff, fun few apart => ?_⟩
  rw [← keys, List.pairwise_map] at apart
  refine OrderedMap.toList_ofList (Json.nodup_names turns few (fun entry mem => ?_) apart)
  rw [← keys]
  exact List.mem_map_of_mem mem

/-- An object with a text and a boolean for keys. -/
def Object.keyed (b : Bool) : Object :=
  { Object.blank with
    strings := .ofList [("true", .string "text")], booleans := [(b, .string "flag")] }

namespace Object.keyed
variable (b : Bool)

theorem strings : (keyed b).strings.toList = [("true", .string "text")] :=
  OrderedMap.toList_ofList (List.nodup_singleton _)

theorem keys : (keyed b).keys = [.string "true", .boolean b] := by
  show ((keyed b).strings.toList.map Prod.fst).map Value.string ++ _ ++ _ ++ _ ++ _ = _
  rw [strings]
  rfl

theorem values : (keyed b).values = [.string "text", .string "flag"] := by
  show (keyed b).strings.toList.map Prod.snd ++ _ ++ _ ++ _ ++ _ = _
  rw [strings]
  rfl

/-- What its entries are written as. -/
def written : List (String × Json) := [("true", .string "text"), (toString b, .string "flag")]

theorem ofValue (e : Engine) {m : Machine} {o : ObjectId}
    (held : m.object o = keyed b) :
    Json.ofValue e 2 [] (.object o) m = .ok (.object (OrderedMap.ofList (written b)).toList) m := by
  have noList : ¬ ([Value.string "true", .boolean b].length = (keyed b).indices.size ∧
      [Value.string "true", .boolean b].all Value.isNumber) :=
    fun list => absurd list.2 Bool.false_ne_true
  rw [Json.ofValue_object (held ▸ rfl) (held ▸ rfl) (held ▸ rfl) List.not_mem_nil, held, keys, values,
    if_neg noList]
  cases b with
  | true => rfl
  | false => rfl

end Object.keyed

/-- A machine with two such objects.  The keys of the first have one name. -/
def Machine.keyed : Machine :=
  { Machine.initial .standard with objects := #[.keyed true, .keyed false] }

/-- Where the keys do not meet, all entries are there. -/
theorem document_members_apart :
    let o := Machine.keyed.object ⟨2⟩
    let e : Engine := ⟨2, fun _ => pure .empty⟩
    o.interface? = none ∧ o.attributes = none ∧ ∃ members,
      Json.ofValue e 2 [] (.object ⟨2⟩) .keyed = .ok (.object members) .keyed ∧
      members.length = o.keyCount := by
  intro o e
  have encoded := Object.keyed.ofValue false e (m := .keyed) (o := ⟨2⟩) rfl
  obtain ⟨written, -, all, -, -, -, entire⟩ := document_members e rfl rfl encoded
  have apart : ¬ Json.Meet (.string "true") (.boolean false) := by
    show "true" ≠ toString false
    decide
  refine ⟨rfl, rfl, _, encoded, ?_⟩
  rw [entire (Nat.zero_le _) (Object.keyed.keys false ▸ List.pairwise_pair.mpr apart), all]

/-- The boolean takes the place of the text that is written like it. -/
theorem document_drops_entry :
    let o := Machine.keyed.object ⟨1⟩
    o.interface? = none ∧ o.attributes = none ∧ o.keyCount = 2 ∧ ∀ e : Engine,
      Json.ofValue e 2 [] (.object ⟨1⟩) .keyed = .ok (.object [("true", .string "flag")]) .keyed := by
  refine ⟨rfl, rfl, ?_, fun e => ?_⟩
  · rw [← Object.length_keys]
    exact congrArg List.length (Object.keyed.keys true)
  · have one : (OrderedMap.ofList (Object.keyed.written true)).toList.length = 1 :=
      OrderedMap.length_ofList.trans rfl
    have flag : ("true", .string "flag") ∈ (OrderedMap.ofList (Object.keyed.written true)).toList :=
      OrderedMap.mem_ofList_iff.mpr ⟨[("true", .string "text")], [], rfl, List.not_mem_nil⟩
    obtain ⟨member, only⟩ := List.length_eq_one_iff.mp one
    rw [only] at flag
    rw [Object.keyed.ofValue true e rfl, only, List.mem_singleton.mp flag]

end StubMachine
