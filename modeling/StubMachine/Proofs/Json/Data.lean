import StubMachine.Machine.State
import StubMachine.Json.Tree
import StubMachine.Proofs.OrderedMap

/-!
# Values that are data

A value is data if it can be written down: it is Empty, a boolean, a finite number or a
string, or an object without a facet and attributes that holds data, under indices only
or under one or more string keys only.  **What it is written down as is a document**,
and `Machine.Shows` relates the two.  A value shows one document at most
(`Machine.Shows.unique`), whether or not objects in it are shared; and what it shows
depends on nothing but the objects in it (`Machine.Shows.mono`).

Documents have finite depth, so a value that shows one is not inside itself.
-/

namespace StubMachine

/-! ## Documents -/

namespace Json

mutual

/-- How deeply a document is nested. -/
def height : Json → Nat
  | .array items => itemsHeight items + 1
  | .object members => membersHeight members + 1
  | _ => 0

def itemsHeight : List Json → Nat
  | [] => 0
  | j :: rest => max j.height (itemsHeight rest)

def membersHeight : List (String × Json) → Nat
  | [] => 0
  | (_, j) :: rest => max j.height (membersHeight rest)

end

mutual

/-- Replace the numbers of a document. -/
def mapNumbers (f : Float → Float) : Json → Json
  | .number n => .number (f n)
  | .array items => .array (mapItems f items)
  | .object members => .object (mapMembers f members)
  | j => j

def mapItems (f : Float → Float) : List Json → List Json
  | [] => []
  | j :: rest => j.mapNumbers f :: mapItems f rest

def mapMembers (f : Float → Float) : List (String × Json) → List (String × Json)
  | [] => []
  | (name, j) :: rest => (name, j.mapNumbers f) :: mapMembers f rest

end

theorem mapMembers_names (f : Float → Float) (members : List (String × Json)) :
    (mapMembers f members).map Prod.fst = members.map Prod.fst := by
  induction members with
  | nil => rfl
  | cons member rest ih => rw [mapMembers, List.map_cons, List.map_cons, ih]

mutual

/-- Replace the empty objects of a document by empty arrays. -/
def emptyToArray : Json → Json
  | .array items => .array (itemsToArray items)
  | .object members => if members.isEmpty then .array [] else .object (membersToArray members)
  | j => j

def itemsToArray : List Json → List Json
  | [] => []
  | j :: rest => j.emptyToArray :: itemsToArray rest

def membersToArray : List (String × Json) → List (String × Json)
  | [] => []
  | (name, j) :: rest => (name, j.emptyToArray) :: membersToArray rest

end

mutual

/-- **A document** whose objects name each member once and whose numbers are of a kind. -/
def Proper (P : Float → Prop) : Json → Prop
  | .number n => P n
  | .array items => ItemsProper P items
  | .object members => (members.map Prod.fst).Nodup ∧ MembersProper P members
  | _ => True

def ItemsProper (P : Float → Prop) : List Json → Prop
  | [] => True
  | j :: rest => j.Proper P ∧ ItemsProper P rest

def MembersProper (P : Float → Prop) : List (String × Json) → Prop
  | [] => True
  | (_, j) :: rest => j.Proper P ∧ MembersProper P rest

end

end Json

/-! ## Values that are data -/

/-- An object without a facet and attributes, whose keys are strings and indices only. -/
structure Object.Data (o : Object) : Prop where
  facet : o.facet = .plain
  attributes : o.attributes = none
  objects : o.objects.toList = []
  booleans : o.booleans = []
  types : o.types.toList = []

namespace Machine

mutual

/-- **A value shows a document**: it is Empty, a boolean, a finite number or a string, or it is an
object that is data, has only indices or only one or more string keys, and holds values that show
the parts of the document.  All objects in it are of a kind.  Objects may be shared, but since
documents are finite, no object is inside itself. -/
inductive Shows (m : Machine) (Kind : ObjectId → Prop) : Value → Json → Prop
  | null : Shows m Kind .empty .null
  | boolean (b : Bool) : Shows m Kind (.boolean b) (.boolean b)
  | number {n : Float} (finite : Binary64.isFinite n = true) : Shows m Kind (.number n) (.number n)
  | string (s : String) : Shows m Kind (.string s) (.string s)
  | array {o : ObjectId} {items : List Json} (kind : Kind o) (data : (m.object o).Data)
      (unnamed : (m.object o).strings.toList = [])
      (each : ShowsItems m Kind (m.object o).indices.toList items) :
      Shows m Kind (.object o) (.array items)
  | object {o : ObjectId} {members : List (String × Json)} (kind : Kind o)
      (data : (m.object o).Data) (unindexed : (m.object o).indices = #[]) (named : members ≠ [])
      (each : ShowsMembers m Kind (m.object o).strings.toList members) :
      Shows m Kind (.object o) (.object members)

inductive ShowsItems (m : Machine) (Kind : ObjectId → Prop) : List Value → List Json → Prop
  | nil : ShowsItems m Kind [] []
  | cons {v : Value} {j : Json} {vs : List Value} {js : List Json} (first : Shows m Kind v j)
      (rest : ShowsItems m Kind vs js) : ShowsItems m Kind (v :: vs) (j :: js)

inductive ShowsMembers (m : Machine) (Kind : ObjectId → Prop) :
    List (String × Value) → List (String × Json) → Prop
  | nil : ShowsMembers m Kind [] []
  | cons {name : String} {v : Value} {j : Json} {vs : List (String × Value)}
      {js : List (String × Json)} (first : Shows m Kind v j) (rest : ShowsMembers m Kind vs js) :
      ShowsMembers m Kind ((name, v) :: vs) ((name, j) :: js)

end

variable {m m' : Machine} {Kind Kind' : ObjectId → Prop}

mutual

/-- A value shows at most one document. -/
theorem Shows.unique {v : Value} {j j' : Json} (h : m.Shows Kind v j) (h' : m.Shows Kind' v j') :
    j = j' := by
  -- an object cannot show both an array and members, as there is at least one of these
  cases h with
  | null => cases h'; rfl
  | boolean b => cases h'; rfl
  | number finite => cases h'; rfl
  | string s => cases h'; rfl
  | array _ _ unnamed each =>
    cases h' with
    | array _ _ _ each' => rw [each.unique each']
    | object _ _ _ named each' =>
      rw [unnamed] at each'
      cases each'
      exact absurd rfl named
  | object _ _ _ named each =>
    cases h' with
    | array _ _ unnamed _ =>
      rw [unnamed] at each
      cases each
      exact absurd rfl named
    | object _ _ _ _ each' => rw [each.unique each']

theorem ShowsItems.unique {vs : List Value} {js js' : List Json} (h : m.ShowsItems Kind vs js)
    (h' : m.ShowsItems Kind' vs js') : js = js' := by
  cases h with
  | nil => cases h'; rfl
  | cons first rest =>
    cases h' with
    | cons first' rest' => rw [first.unique first', rest.unique rest']

theorem ShowsMembers.unique {vs : List (String × Value)} {js js' : List (String × Json)}
    (h : m.ShowsMembers Kind vs js) (h' : m.ShowsMembers Kind' vs js') : js = js' := by
  cases h with
  | nil => cases h'; rfl
  | cons first rest =>
    cases h' with
    | cons first' rest' => rw [first.unique first', rest.unique rest']

end

mutual

/-- What a value shows depends on the objects in it alone. -/
theorem Shows.mono {v : Value} {j : Json} (h : m.Shows Kind v j)
    (kept : ∀ o, Kind o → Kind' o ∧ m'.object o = m.object o) : m'.Shows Kind' v j := by
  cases h with
  | null => exact .null
  | boolean b => exact .boolean b
  | number finite => exact .number finite
  | string s => exact .string s
  | array kind data unnamed each =>
    obtain ⟨kind', same⟩ := kept _ kind
    rw [← same] at data unnamed each
    exact .array kind' data unnamed (each.mono kept)
  | object kind data unindexed named each =>
    obtain ⟨kind', same⟩ := kept _ kind
    rw [← same] at data unindexed each
    exact .object kind' data unindexed named (each.mono kept)

theorem ShowsItems.mono {vs : List Value} {js : List Json} (h : m.ShowsItems Kind vs js)
    (kept : ∀ o, Kind o → Kind' o ∧ m'.object o = m.object o) : m'.ShowsItems Kind' vs js := by
  cases h with
  | nil => exact .nil
  | cons first rest => exact .cons (first.mono kept) (rest.mono kept)

theorem ShowsMembers.mono {vs : List (String × Value)} {js : List (String × Json)}
    (h : m.ShowsMembers Kind vs js) (kept : ∀ o, Kind o → Kind' o ∧ m'.object o = m.object o) :
    m'.ShowsMembers Kind' vs js := by
  cases h with
  | nil => exact .nil
  | cons first rest => exact .cons (first.mono kept) (rest.mono kept)

end

end Machine

end StubMachine
