import StubMachine.Json.Exchange
import StubMachine.Proofs.Enumeration
import StubMachine.Proofs.Json.Data
import StubMachine.Proofs.Json.Number
import StubMachine.Proofs.Raising

/-!
# Writing and reading documents

**Writing a value that shows a document gives that document** (`Machine.Shows.ofValue`),
with its numbers as documents hold them, and changes nothing.  The induction is on the
document that the value shows; the objects around a value show deeper documents, so
sharing is not taken for a cycle.

**Reading a document gives a value that shows it** (`Json.toValue_shows`), with empty
arrays for its empty objects, and makes new objects only.  The objects of a member are
newer than the object that it is stored in, so they still show what they did when that
object is changed again.

The two together are `json_codec_inverse`.
-/

namespace StubMachine

open StubMachine.Action

/-! ## Writing -/

namespace Object.Data
variable {o : Object} (data : o.Data)
include data

theorem isFunction : o.isFunction = false := by
  rw [Object.isFunction, Object.function?, data.facet]
  rfl

theorem interface? : o.interface? = none := by rw [Object.interface?, data.facet]

theorem keys : o.keys =
    o.strings.keys.map .string ++ (List.range o.indices.size).map .ofNat := by
  have objects : o.objects.keys = [] := by rw [OrderedMap.keys, data.objects]; rfl
  have types : o.types.keys = [] := by rw [OrderedMap.keys, data.types]; rfl
  simp [Object.keys, Object.textKeys, Object.shownIndices, Object.hidesIndices, data.facet,
    objects, data.booleans, types]

theorem values : o.values = o.strings.values ++ o.indices.toList := by
  have objects : o.objects.values = [] := by rw [OrderedMap.values, data.objects]; rfl
  have types : o.types.values = [] := by rw [OrderedMap.values, data.types]; rfl
  simp [Object.values, Object.shownIndices, Object.hidesIndices, data.facet, objects,
    data.booleans, types]

/-- Data without text entries is written as an array: its keys are its indices. -/
theorem indexed (unnamed : o.strings.toList = []) :
    o.keys.length = o.indices.size ∧ o.keys.all Value.isNumber = true := by
  have none : o.strings.keys = [] := by rw [OrderedMap.keys, unnamed]; rfl
  rw [data.keys, none]
  simp [Value.isNumber, Value.ofNat]

/-- Data that has entries under texts only is written as an object. -/
theorem named (unindexed : o.indices = #[]) (some : o.strings.toList ≠ []) :
    ¬ (o.keys.length = o.indices.size ∧ o.keys.all Value.isNumber = true) := by
  rintro ⟨count, -⟩
  rw [data.keys, unindexed, OrderedMap.keys] at count
  simp at count
  exact some count

/-- Its keys and values are then those of its text entries. -/
theorem entries (unindexed : o.indices = #[]) :
    o.keys.zip o.values = o.strings.toList.map fun entry => (.string entry.1, entry.2) := by
  rw [data.keys, data.values, unindexed, OrderedMap.keys, OrderedMap.values]
  simp [List.zip_map']

end Object.Data

namespace Json
variable {e : Engine} {m : Machine} {o : ObjectId}

/-- Write the value of an entry under its name. -/
def ofEntry (e : Engine) (fuel : Nat) (visiting : List ObjectId) (entry : Value × Value) :
    Action (String × Json) := do
  match ← Action.read fun m => Json.memberName m entry.1 with
  | .error f => fail f
  | .ok name => return (name, ← Json.ofValue e fuel visiting entry.2)

/-- What a function holds is not written. -/
theorem ofValue_function (function : (m.object o).isFunction = true) (visiting : List ObjectId)
    (fuel : Nat) : Json.ofValue e (fuel + 1) visiting (.object o) m = .ok .null m := by
  rw [Json.ofValue, Action.bind_eq]
  simp only [objectAt, Action.read, function, if_true]
  rfl

/-- An object that is being written is not written inside itself. -/
theorem ofValue_met (noFunction : (m.object o).isFunction = false) {visiting : List ObjectId}
    (met : o ∈ visiting) (fuel : Nat) :
    Json.ofValue e (fuel + 1) visiting (.object o) m = .error (.plain .cyclicDocument) m := by
  have seen : visiting.contains o = true := by simpa using met
  rw [Json.ofValue, Action.bind_eq]
  simp only [objectAt, Action.read, noFunction, seen, if_true, Bool.false_eq_true, if_false]
  rfl

/-- Writing an object that is neither a function nor an interface and has no attributes, so nothing
takes over the enumeration of what it holds. -/
theorem ofValue_object (noFunction : (m.object o).isFunction = false)
    (noInterface : (m.object o).interface? = none) (noAttributes : (m.object o).attributes = none)
    {visiting : List ObjectId} (new : o ∉ visiting) (fuel : Nat) :
    Json.ofValue e (fuel + 1) visiting (.object o) m =
      (if (m.object o).keys.length = (m.object o).indices.size ∧
          (m.object o).keys.all Value.isNumber then
        (do return .array (← (m.object o).values.mapM (Json.ofValue e fuel (o :: visiting))))
      else do
        let members ← ((m.object o).keys.zip (m.object o).values).mapM
          (ofEntry e fuel (o :: visiting))
        return .object (OrderedMap.ofList members).toList : Action Json) m := by
  have unseen : visiting.contains o = false := by simpa using new
  have noHook (name : String) : m.attribute? o name = none := by
    rw [Machine.attribute?, Machine.attributeAt?, noAttributes]
    rfl
  have keys := objectKeys_eq (noHook "keys") e
  have values : objectValues e o m = .ok (m.object o).values m := by
    rw [objectValues_eq (noHook "values"), noInterface]
    rfl
  rw [Json.ofValue]
  simp only [Action.bind_eq, objectAt, Action.read, noFunction, unseen, keys, values,
    Bool.false_eq_true, if_false]
  split
  · rfl
  · rfl

end Json

namespace Machine
variable {m : Machine} {Kind : ObjectId → Prop}

/-- The objects around a value show documents that are nested more deeply. -/
def Encloses (m : Machine) (Kind : ObjectId → Prop) (visiting : List ObjectId) (n : Nat) : Prop :=
  ∀ o ∈ visiting, ∃ j, m.Shows Kind (.object o) j ∧ n < j.height

/-- Nothing is inside itself, so a value that is being written is not among those around it. -/
theorem Encloses.new {visiting : List ObjectId} {o : ObjectId} {j : Json}
    (around : m.Encloses Kind visiting j.height) (h : m.Shows Kind (.object o) j) :
    o ∉ visiting := by
  intro member
  obtain ⟨j', shown, lower⟩ := around o member
  rw [h.unique shown] at lower
  exact Nat.lt_irrefl _ lower

theorem Encloses.nil (n : Nat) : m.Encloses Kind [] n := fun _ member => by cases member

theorem Encloses.inside {visiting : List ObjectId} {o : ObjectId} {j : Json}
    (around : m.Encloses Kind visiting j.height) (h : m.Shows Kind (.object o) j) {n : Nat}
    (lower : n < j.height) : m.Encloses Kind (o :: visiting) n := by
  intro p member
  rcases List.mem_cons.mp member with rfl | member
  · exact ⟨j, h, lower⟩
  · obtain ⟨j', shown, lower'⟩ := around p member
    exact ⟨j', shown, Nat.lt_trans lower lower'⟩

theorem Encloses.mono {visiting : List ObjectId} {n k : Nat} (around : m.Encloses Kind visiting n)
    (le : k ≤ n) : m.Encloses Kind visiting k := by
  intro o member
  obtain ⟨j, shown, lower⟩ := around o member
  exact ⟨j, shown, Nat.lt_of_le_of_lt le lower⟩

theorem ShowsMembers.names {vs : List (String × Value)} {js : List (String × Json)}
    (h : m.ShowsMembers Kind vs js) : js.map Prod.fst = vs.map Prod.fst := by
  cases h with
  | nil => rfl
  | cons first rest => rw [List.map_cons, List.map_cons, rest.names]

mutual

/-- **Writing a value that shows a document** gives that document, with its numbers as they are
written, and changes nothing. -/
theorem Shows.ofValue {v : Value} {j : Json} (h : m.Shows Kind v j) (e : Engine) {fuel : Nat}
    (deep : j.height < fuel) {visiting : List ObjectId}
    (around : m.Encloses Kind visiting j.height) :
    Json.ofValue e fuel visiting v m = .ok (j.mapNumbers Json.written) m := by
  obtain ⟨fuel, rfl⟩ := Nat.exists_eq_add_of_lt deep
  cases h with
  | null => rfl
  | boolean b => rfl
  | number finite =>
    rw [Json.ofValue, Json.ofNumber_finite finite]
    rfl
  | string s => rfl
  | @array o items kind data unnamed each =>
    have shows : m.Shows Kind (.object o) (.array items) := .array kind data unnamed each
    have values : (m.object o).strings.values = [] := by rw [OrderedMap.values, unnamed]; rfl
    have lower : Json.itemsHeight items < Json.itemsHeight items + 1 + fuel := by omega
    have written := each.ofValue e lower (around.inside shows (Nat.lt_succ_self _))
    rw [Json.height, Json.ofValue_object data.isFunction data.interface?
      data.attributes (around.new shows), if_pos (data.indexed unnamed), data.values, values,
      List.nil_append, Action.bind_ok written]
    rfl
  | @object o members kind data unindexed named each =>
    have shows : m.Shows Kind (.object o) (.object members) :=
      .object kind data unindexed named each
    have some : (m.object o).strings.toList ≠ [] := fun none => named (by
      rw [← List.map_eq_nil_iff (f := Prod.fst), each.names, none, List.map_nil])
    have distinct : ((Json.mapMembers Json.written members).map Prod.fst).Nodup := by
      rw [Json.mapMembers_names, each.names]
      exact (m.object o).strings.nodup_keys
    have lower : Json.membersHeight members < Json.membersHeight members + 1 + fuel := by omega
    have written := each.ofValue e lower (around.inside shows (Nat.lt_succ_self _))
    rw [Json.height, Json.ofValue_object data.isFunction data.interface?
      data.attributes (around.new shows), if_neg (data.named unindexed some), data.entries unindexed,
      Action.bind_ok written, OrderedMap.toList_ofList distinct]
    rfl

theorem ShowsItems.ofValue {vs : List Value} {js : List Json} (h : m.ShowsItems Kind vs js)
    (e : Engine) {fuel : Nat} (deep : Json.itemsHeight js < fuel) {visiting : List ObjectId}
    (around : m.Encloses Kind visiting (Json.itemsHeight js)) :
    vs.mapM (Json.ofValue e fuel visiting) m = .ok (Json.mapItems Json.written js) m := by
  cases h with
  | nil => rfl
  | @cons v j vs js first rest =>
    rw [Json.itemsHeight] at deep around
    have head := first.ofValue e (Nat.lt_of_le_of_lt (Nat.le_max_left ..) deep)
      (around.mono (Nat.le_max_left ..))
    have tail := rest.ofValue e (Nat.lt_of_le_of_lt (Nat.le_max_right ..) deep)
      (around.mono (Nat.le_max_right ..))
    rw [List.mapM_cons, Action.bind_ok head, Action.bind_ok tail]
    rfl

theorem ShowsMembers.ofValue {vs : List (String × Value)} {js : List (String × Json)}
    (h : m.ShowsMembers Kind vs js) (e : Engine) {fuel : Nat}
    (deep : Json.membersHeight js < fuel) {visiting : List ObjectId}
    (around : m.Encloses Kind visiting (Json.membersHeight js)) :
    (vs.map fun entry => (Value.string entry.1, entry.2)).mapM (Json.ofEntry e fuel visiting) m =
      .ok (Json.mapMembers Json.written js) m := by
  cases h with
  | nil => rfl
  | @cons name v j vs js first rest =>
    rw [Json.membersHeight] at deep around
    have head := first.ofValue e (Nat.lt_of_le_of_lt (Nat.le_max_left ..) deep)
      (around.mono (Nat.le_max_left ..))
    have tail := rest.ofValue e (Nat.lt_of_le_of_lt (Nat.le_max_right ..) deep)
      (around.mono (Nat.le_max_right ..))
    have entry : Json.ofEntry e fuel visiting (.string name, v) m =
        .ok (name, j.mapNumbers Json.written) m := by
      show (Json.ofValue e fuel visiting v >>= fun j => pure (name, j)) m = _
      rw [Action.bind_ok head]
      rfl
    rw [List.map_cons, List.mapM_cons, Action.bind_ok entry, Action.bind_ok tail]
    rfl

end

end Machine

/-! ## Reading -/

namespace Machine
variable {m m₁ m₂ : Machine}

/-- What the objects made before show is what they show when the machine has grown further: they
are not those that are changed. -/
theorem Grown.fresh {Changed : Nat → Prop} (grown : m₁.Grown Changed m₂)
    (older : ∀ i, Changed i → i < m.objects.size) (o : ObjectId) (fresh : m.Fresh m₁ o) :
    m.Fresh m₂ o ∧ m₂.object o = m₁.object o := by
  obtain ⟨after, before⟩ := fresh
  refine ⟨Fresh.mono ⟨after, before⟩ (Nat.le_refl _) grown.size,
    grown.object (by omega) fun changed => ?_⟩
  have := older _ changed
  omega

/-- Objects made after the machine has grown are among those made since before; in the form in which
`mono` asks for it. -/
theorem Grown.later {Changed : Nat → Prop} (grown : m.Grown Changed m₁) (o : ObjectId)
    (fresh : m₁.Fresh m₂ o) : m.Fresh m₂ o ∧ m₂.object o = m₂.object o :=
  ⟨fresh.mono grown.size (Nat.le_refl _), rfl⟩

end Machine

namespace Json
variable {m m₁ : Machine}

/-- A new list of values that show documents shows the array of them. -/
theorem newList_shows {vs : List Value} {js : List Json} (grown : m.Grown (fun _ => False) m₁)
    (shown : m₁.ShowsItems (m.Fresh m₁) vs js) :
    ∃ v m₂, newList vs.toArray m₁ = .ok v m₂ ∧ m₁.Grown (fun _ => False) m₂ ∧
      m₂.Shows (m.Fresh m₂) v (.array js) := by
  obtain ⟨m₂, made, grown', size, object⟩ :=
    newObject_grows m₁ { Object.blank with indices := vs.toArray } (fun _ => False)
  have fresh : m.Fresh m₂ ⟨m₁.objects.size + 1⟩ :=
    ⟨Nat.lt_succ_of_le grown.size, Nat.le_of_eq size.symm⟩
  refine ⟨.object ⟨m₁.objects.size + 1⟩, m₂, ?_, grown', .array fresh ?_ ?_ ?_⟩
  · rw [newList, Action.bind_ok made]
    rfl
  · rw [object]
    exact ⟨rfl, rfl, rfl, rfl, rfl⟩
  · rw [object]
    rfl
  · rw [object]
    exact shown.mono (grown'.fresh fun _ => False.elim)

/-- An object that has nothing but an entry for each member shows the object of them, or an empty
array if there are none. -/
theorem entries_show {Kind : ObjectId → Prop} {o : ObjectId} {S : OrderedMap String Value}
    {members : List (String × Json)} (kind : Kind o)
    (object : m.object o = { Object.blank with strings := S })
    (shown : m.ShowsMembers Kind S.toList (membersToArray members)) :
    m.Shows Kind (.object o) (Json.object members).emptyToArray := by
  have data : (m.object o).Data := by
    rw [object]
    exact ⟨rfl, rfl, rfl, rfl, rfl⟩
  have strings : (m.object o).strings = S := by rw [object]
  have indices : (m.object o).indices = #[] := by rw [object]; rfl
  cases members with
  | nil =>
    have none : S.toList = [] := by
      generalize S.toList = entries at shown
      cases shown
      rfl
    refine .array kind data (strings ▸ none) ?_
    rw [indices]
    exact .nil
  | cons member members =>
    refine .object kind data indices ?_ (strings ▸ shown)
    intro none
    cases none

mutual

/-- **Reading a document** makes a value of new objects that shows the document, with empty arrays
for its empty objects. -/
theorem toValue_shows (j : Json) (proper : j.Proper (Binary64.isFinite · = true)) (m : Machine) :
    ∃ v m', j.toValue m = .ok v m' ∧ m.Grown (fun _ => False) m' ∧
      m'.Shows (m.Fresh m') v j.emptyToArray := by
  cases j with
  | null => exact ⟨_, _, rfl, .refl m, .null⟩
  | boolean b => exact ⟨_, _, rfl, .refl m, .boolean b⟩
  | number n => exact ⟨_, _, rfl, .refl m, .number proper⟩
  | string s => exact ⟨_, _, rfl, .refl m, .string s⟩
  | array items =>
    obtain ⟨vs, m₁, read, grown, shown⟩ := itemValues_shows items proper m #[]
    obtain ⟨v, m₂, made, grown', shown'⟩ := newList_shows grown shown
    refine ⟨v, m₂, ?_, grown.trans grown', shown'⟩
    rw [toValue, Action.bind_ok read, Array.empty_append]
    exact made
  | object members =>
    obtain ⟨distinct, proper⟩ := proper
    obtain ⟨m₁, made, grown, size, object⟩ :=
      newObject_grows m Object.blank (· = m.objects.size)
    have known : m.objects.size + 1 - 1 < m₁.objects.size := by omega
    have unused : ((m₁.object ⟨m.objects.size + 1⟩).strings.keys ++ members.map Prod.fst).Nodup := by
      rw [object]
      exact distinct
    obtain ⟨entries, m₂, stored, grown', ⟨S, object', listed⟩, shown⟩ :=
      storeMembers_shows members proper m₁ ⟨m.objects.size + 1⟩ known unused
    rw [object] at object' listed
    cases listed
    have fresh : m.Fresh m₂ ⟨m.objects.size + 1⟩ :=
      ⟨Nat.lt_succ_self _, Nat.le_trans (Nat.le_of_eq size.symm) grown'.size⟩
    refine ⟨.object ⟨m.objects.size + 1⟩, m₂, ?_, ?_,
      entries_show fresh object' (shown.mono grown.later)⟩
    · rw [toValue, newBlank, Action.bind_ok made, Action.bind_ok stored]
      rfl
    · -- the object that is filled is itself new, so none that was there is changed
      exact (grown.trans grown').mono fun i lt same => Nat.ne_of_lt lt same

theorem itemValues_shows (items : List Json)
    (proper : ItemsProper (Binary64.isFinite · = true) items) (m : Machine) (made : Array Value) :
    ∃ vs m', itemValues items made m = .ok (made ++ vs.toArray) m' ∧
      m.Grown (fun _ => False) m' ∧ m'.ShowsItems (m.Fresh m') vs (itemsToArray items) := by
  cases items with
  | nil => exact ⟨[], m, by simp [itemValues]; rfl, .refl m, .nil⟩
  | cons j items =>
    obtain ⟨v, m₁, read, grown, shown⟩ := toValue_shows j proper.1 m
    obtain ⟨vs, m₂, read', grown', shown'⟩ := itemValues_shows items proper.2 m₁ (made.push v)
    refine ⟨v :: vs, m₂, ?_, grown.trans grown', .cons ?_ ?_⟩
    · rw [itemValues, Action.bind_ok read, read']
      simp
    · exact shown.mono (grown'.fresh fun _ => False.elim)
    · exact shown'.mono grown.later

theorem storeMembers_shows (members : List (String × Json))
    (proper : MembersProper (Binary64.isFinite · = true) members) (m : Machine) (o : ObjectId)
    (known : o.serial - 1 < m.objects.size)
    (distinct : ((m.object o).strings.keys ++ members.map Prod.fst).Nodup) :
    ∃ entries m', storeMembers o members m = .ok () m' ∧ m.Grown (· = o.serial - 1) m' ∧
      (∃ S, m'.object o = { m.object o with strings := S } ∧
        S.toList = (m.object o).strings.toList ++ entries) ∧
      m'.ShowsMembers (m.Fresh m') entries (membersToArray members) := by
  cases members with
  | nil => exact ⟨[], m, rfl, .refl m, ⟨_, rfl, (List.append_nil _).symm⟩, .nil⟩
  | cons member members =>
    obtain ⟨name, j⟩ := member
    obtain ⟨v, m₁, read, grown, shown⟩ := toValue_shows j proper.1 m
    have known₁ : o.serial - 1 < m₁.objects.size := Nat.lt_of_lt_of_le known grown.size
    obtain ⟨m₂, written, grown₂, size, object⟩ :=
      updateObject_grows m₁ o (·.setText name v) known₁
    have same : m₁.object o = m.object o := grown.object known id
    have new : name ∉ (m.object o).strings.keys := fun member =>
      (List.nodup_append.mp distinct).2.2 _ member _ (by simp) rfl
    have inserted : (m₂.object o).strings.toList = (m.object o).strings.toList ++ [(name, v)] := by
      rw [object, same]
      exact OrderedMap.toList_insert new v
    have distinct₂ : ((m₂.object o).strings.keys ++ members.map Prod.fst).Nodup := by
      rw [OrderedMap.keys, inserted, List.map_append, List.append_assoc]
      exact distinct
    obtain ⟨entries, m₃, stored, grown₃, ⟨S, object', listed⟩, shown'⟩ :=
      storeMembers_shows members proper.2 m₂ o (size ▸ known₁) distinct₂
    have grown' : m₁.Grown (· = o.serial - 1) m₃ := grown₂.trans grown₃
    refine ⟨(name, v) :: entries, m₃, ?_, ?_, ⟨S, ?_, ?_⟩, .cons ?_ ?_⟩
    · rw [storeMembers, Action.bind_ok read, Action.bind_ok written]
      exact stored
    · exact (grown.mono fun _ _ => False.elim).trans grown'
    · rw [object', object, same]
      rfl
    · rw [listed, inserted, List.append_assoc]
      rfl
    · -- the objects of the value are newer than the one that is filled
      exact shown.mono (grown'.fresh fun _ same => same ▸ known)
    · exact shown'.mono ((grown.mono fun _ _ => False.elim).trans grown₂).later

end

/-! ## There and back -/

mutual

theorem height_emptyToArray (j : Json) : j.emptyToArray.height = j.height := by
  cases j with
  | array items => rw [emptyToArray, height, height, itemsHeight_toArray items]
  | object members =>
    cases members with
    | nil => rfl
    | cons member members =>
      show height (.object (membersToArray (member :: members))) = _
      rw [height, height, membersHeight_toArray]
  | _ => rfl

theorem itemsHeight_toArray (items : List Json) :
    itemsHeight (itemsToArray items) = itemsHeight items := by
  cases items with
  | nil => rfl
  | cons j rest =>
    rw [itemsToArray, itemsHeight, itemsHeight, height_emptyToArray j, itemsHeight_toArray rest]

theorem membersHeight_toArray (members : List (String × Json)) :
    membersHeight (membersToArray members) = membersHeight members := by
  cases members with
  | nil => rfl
  | cons member rest =>
    obtain ⟨name, j⟩ := member
    rw [membersToArray, membersHeight, membersHeight, height_emptyToArray j,
      membersHeight_toArray rest]

end

mutual

/-- Exact numbers are finite, and are written as they are. -/
theorem Proper.written {j : Json} (proper : j.Proper Exact) :
    j.Proper (Binary64.isFinite · = true) ∧
      j.emptyToArray.mapNumbers Json.written = j.emptyToArray := by
  cases j with
  | number n =>
    refine ⟨Exact.finite proper, ?_⟩
    show Json.number (Json.written n) = .number n
    rw [Exact.written proper]
  | array items =>
    obtain ⟨finite, same⟩ := ItemsProper.written proper
    exact ⟨finite, by rw [emptyToArray, mapNumbers, same]⟩
  | object members =>
    obtain ⟨finite, same⟩ := MembersProper.written proper.2
    refine ⟨⟨proper.1, finite⟩, ?_⟩
    cases members with
    | nil => rfl
    | cons member members => exact congrArg Json.object same
  | null => exact ⟨trivial, rfl⟩
  | boolean b => exact ⟨trivial, rfl⟩
  | string s => exact ⟨trivial, rfl⟩

theorem ItemsProper.written {items : List Json} (proper : ItemsProper Exact items) :
    ItemsProper (Binary64.isFinite · = true) items ∧
      mapItems Json.written (itemsToArray items) = itemsToArray items := by
  cases items with
  | nil => exact ⟨trivial, rfl⟩
  | cons j rest =>
    obtain ⟨finite, same⟩ := Proper.written proper.1
    obtain ⟨finite', same'⟩ := ItemsProper.written proper.2
    exact ⟨⟨finite, finite'⟩, by rw [itemsToArray, mapItems, same, same']⟩

theorem MembersProper.written {members : List (String × Json)}
    (proper : MembersProper Exact members) :
    MembersProper (Binary64.isFinite · = true) members ∧
      mapMembers Json.written (membersToArray members) = membersToArray members := by
  cases members with
  | nil => exact ⟨trivial, rfl⟩
  | cons member rest =>
    obtain ⟨name, j⟩ := member
    obtain ⟨finite, same⟩ := Proper.written proper.1
    obtain ⟨finite', same'⟩ := MembersProper.written proper.2
    exact ⟨⟨finite, finite'⟩, by rw [membersToArray, mapMembers, same, same']⟩

end

end Json

namespace Machine
variable {m : Machine} {Kind : ObjectId → Prop}

mutual

/-- What is written of a value can be read, and has no empty objects. -/
theorem Shows.written {v : Value} {j : Json} (h : m.Shows Kind v j) :
    (j.mapNumbers Json.written).Proper (Binary64.isFinite · = true) ∧
      (j.mapNumbers Json.written).emptyToArray = j.mapNumbers Json.written := by
  cases h with
  | null => exact ⟨trivial, rfl⟩
  | boolean b => exact ⟨trivial, rfl⟩
  | number finite => exact ⟨Json.written_finite finite, rfl⟩
  | string s => exact ⟨trivial, rfl⟩
  | array _ _ _ each =>
    obtain ⟨proper, same⟩ := each.written
    exact ⟨proper, congrArg Json.array same⟩
  | @object o members _ _ _ named each =>
    obtain ⟨proper, same⟩ := each.written
    refine ⟨⟨?_, proper⟩, ?_⟩
    · rw [Json.mapMembers_names, each.names]
      exact (m.object o).strings.nodup_keys
    · cases members with
      | nil => exact absurd rfl named
      | cons member members => exact congrArg Json.object same

theorem ShowsItems.written {vs : List Value} {js : List Json} (h : m.ShowsItems Kind vs js) :
    Json.ItemsProper (Binary64.isFinite · = true) (Json.mapItems Json.written js) ∧
      Json.itemsToArray (Json.mapItems Json.written js) = Json.mapItems Json.written js := by
  cases h with
  | nil => exact ⟨trivial, rfl⟩
  | cons first rest =>
    obtain ⟨proper, same⟩ := first.written
    obtain ⟨proper', same'⟩ := rest.written
    exact ⟨⟨proper, proper'⟩, by rw [Json.mapItems, Json.itemsToArray, same, same']⟩

theorem ShowsMembers.written {vs : List (String × Value)} {js : List (String × Json)}
    (h : m.ShowsMembers Kind vs js) :
    Json.MembersProper (Binary64.isFinite · = true) (Json.mapMembers Json.written js) ∧
      Json.membersToArray (Json.mapMembers Json.written js) = Json.mapMembers Json.written js := by
  cases h with
  | nil => exact ⟨trivial, rfl⟩
  | cons first rest =>
    obtain ⟨proper, same⟩ := first.written
    obtain ⟨proper', same'⟩ := rest.written
    exact ⟨⟨proper, proper'⟩, by rw [Json.mapMembers, Json.membersToArray, same, same']⟩

end

end Machine

/-- **Writing and reading undo each other.**  A value that shows a document is written, without
a change, as that document with its numbers as they are written, which are equal to them; and what
is read back shows that document and is made of new objects.  A document whose numbers are exact is
read as a value that is written as the document, with empty arrays for its empty objects. -/
theorem json_codec_inverse (e : Engine) (m : Machine) :
    (∀ v j, m.Shows (fun _ => True) v j →
      (∀ fuel, j.height < fuel →
        Json.ofValue e fuel [] v m = .ok (j.mapNumbers Json.written) m) ∧
      ∃ w m', (j.mapNumbers Json.written).toValue m = .ok w m' ∧ m.Grown (fun _ => False) m' ∧
        m'.Shows (m.Fresh m') w (j.mapNumbers Json.written)) ∧
    (∀ n, Binary64.isFinite n = true → (Json.written n == n) = true) ∧
    ∀ j : Json, j.Proper Json.Exact → ∃ w m', j.toValue m = .ok w m' ∧
      ∀ fuel, j.height < fuel → Json.ofValue e fuel [] w m' = .ok j.emptyToArray m' := by
  refine ⟨fun v j shows => ⟨fun fuel deep => ?_, ?_⟩, fun n => Json.written_beq, ?_⟩
  · exact shows.ofValue e deep (.nil _)
  · obtain ⟨proper, same⟩ := shows.written
    obtain ⟨w, m', read, grown, shown⟩ := Json.toValue_shows _ proper m
    rw [same] at shown
    exact ⟨w, m', read, grown, shown⟩
  · intro j proper
    obtain ⟨finite, same⟩ := proper.written
    obtain ⟨w, m', read, -, shown⟩ := Json.toValue_shows j finite m
    refine ⟨w, m', read, fun fuel deep => ?_⟩
    rw [shown.ofValue e (by rwa [Json.height_emptyToArray]) (.nil _), same]

/-- A list that holds another one twice. -/
def Machine.sharing : Machine :=
  { Machine.initial .standard with
    objects := #[{ Object.blank with indices := #[.object ⟨2⟩, .object ⟨2⟩] },
      { Object.blank with indices := #[.number (-0.0)] }] }

/-- What is shared is written twice, and an empty object is read and written as an empty array. -/
theorem json_codec_shared_and_empty (e : Engine) :
    (∀ fuel, 2 < fuel → Json.ofValue e fuel [] (.object ⟨1⟩) .sharing =
        .ok (.array [.array [.number 0], .array [.number 0]]) .sharing) ∧
      ∃ w m', (Json.object [("a", .object []), ("b", .number 0.5)]).toValue .sharing = .ok w m' ∧
        ∀ fuel, 2 < fuel → Json.ofValue e fuel [] w m' =
          .ok (.object [("a", .array []), ("b", .number 0.5)]) m' := by
  have data : ∀ values, Object.Data { Object.blank with indices := values } :=
    fun values => ⟨rfl, rfl, rfl, rfl, rfl⟩
  have inner : Machine.sharing.Shows (fun _ => True) (.object ⟨2⟩) (.array [.number (-0.0)]) :=
    .array trivial (data _) rfl (.cons (.number (by decide +kernel)) .nil)
  have outer : Machine.sharing.Shows (fun _ => True) (.object ⟨1⟩)
      (.array [.array [.number (-0.0)], .array [.number (-0.0)]]) :=
    .array trivial (data _) rfl (.cons inner (.cons inner .nil))
  have half : Json.Exact 0.5 := .fraction (by decide +kernel) (by decide +kernel)
  obtain ⟨first, -, second⟩ := json_codec_inverse e .sharing
  have zero : Json.written (-0.0) = 0 := by decide +kernel
  have written := (first _ _ outer).1
  simp only [Json.mapNumbers, Json.mapItems, zero] at written
  exact ⟨written, second _ ⟨by decide, ⟨by decide, trivial⟩, half, trivial⟩⟩

end StubMachine
