/-!
# Tables of settings

A settings document is a tree of tables.  Its lines say where in the tree an entry
goes, and several lines may say so for the same table; **the origin of a table decides
who may add to it**.  A table that a header names is complete when the next header
comes; one that dotted keys make grows by dotted keys of the same section only; one that
is merely on the way to another table may still be named by a header, once.  A dotted key
may lead through the last of several tables under one name, but not end there.  A value,
inline tables included, is never added to, and no entry is defined twice.
-/

namespace StubMachine.Toml

/-- Why a text is no settings document. -/
abbrev SyntaxFault := String

/-- How a table came to be. -/
inductive Origin
  /-- A header names it. -/
  | header
  /-- A header names a table inside it. -/
  | implied
  /-- A dotted key leads through it. -/
  | dotted
deriving DecidableEq, Repr

/-- What a name stands for. -/
inductive Item
  | text (s : String)
  | integer (n : Int)
  | float (x : Float)
  | boolean (b : Bool)
  /-- A date, a time or both, as it is written. -/
  | moment (written : String)
  | array (items : List Item)
  /-- A table written as a value. -/
  | inline (entries : List (String × Item))
  | table (origin : Origin) (entries : List (String × Item))
  /-- Tables under one name, the last one first; each has a header of its own. -/
  | tables (elements : List (List (String × Item)))
deriving Inhabited

/-- The entries of a table in the order in which they were defined. -/
abbrev Entries := List (String × Item)

namespace Entries

/-- Change the entry of a name, or make it if there is none. -/
def alter (change : Option Item → Except SyntaxFault Item) (name : String) :
    Entries → Except SyntaxFault Entries
  | [] => do return [(name, ← change none)]
  | (k, v) :: rest =>
    if k = name then do return (k, ← change (some v)) :: rest
    else do return (k, v) :: (← alter change name rest)

/-- The complaint about a name that is taken. -/
def taken (name : String) : SyntaxFault := "duplicate key '" ++ name ++ "'"

/-- Change the table that a header's path leads to; tables on the way are made. -/
def below (change : Entries → Except SyntaxFault Entries) :
    List String → Entries → Except SyntaxFault Entries
  | [], entries => change entries
  | name :: path, entries =>
    let enter : Option Item → Except SyntaxFault Item := fun
      | none => do return .table .implied (← below change path [])
      | some (.table origin inner) => do return .table origin (← below change path inner)
      | some (.tables (last :: before)) => do
        return .tables ((← below change path last) :: before)
      | some _ => .error (taken name)
    alter enter name entries

/-- Define what a dotted key stands for; the tables that it leads through are its own
kind's. -/
def define (v : Item) (last : String) : List String → Entries → Except SyntaxFault Entries
  | [], entries => alter (fun old => if old.isNone then .ok v else .error (taken last)) last entries
  | name :: path, entries =>
    let enter : Option Item → Except SyntaxFault Item := fun
      | none => do return .table .dotted (← define v last path [])
      | some (.table origin inner) =>
        if origin = .dotted ∨ (origin = .implied ∧ path ≠ []) then do
          return .table origin (← define v last path inner)
        else .error (taken name)
      | some (.tables (newest :: before)) =>
        if path = [] then .error (taken name)
        else do return .tables ((← define v last path newest) :: before)
      | some _ => .error (taken name)
    alter enter name entries

/-- Begin the table that a header names. -/
def beginTable (path : List String) (last : String) : Entries → Except SyntaxFault Entries :=
  below (alter enter last) path
where
  enter : Option Item → Except SyntaxFault Item
    | none => .ok (.table .header [])
    | some (.table .implied inner) => .ok (.table .header inner)
    | some _ => .error (taken last)

/-- Begin one more of the tables that a header names. -/
def beginElement (path : List String) (last : String) : Entries → Except SyntaxFault Entries :=
  below (alter enter last) path
where
  enter : Option Item → Except SyntaxFault Item
    | none => .ok (.tables [[]])
    | some (.tables elements) => .ok (.tables ([] :: elements))
    | some _ => .error (taken last)

end Entries

end StubMachine.Toml
