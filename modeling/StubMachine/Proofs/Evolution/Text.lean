import StubMachine.Json.Exchange
import StubMachine.Proofs.Evolution.Native

/-!
# Native functions on texts, and documents, evolve the store

-/

namespace StubMachine

open StubMachine.Action Std.Do

set_option mvcgen.warning false

namespace Native

/-! ## Texts -/

section
variable [L : Latitude] {m₀ : Machine} {e : Engine} (engine : e.Sound) (args : Array Value)
include engine

@[spec] theorem searchKey_sound : Sound m₀ (m₀.Backs args) (searchKey e args) := by
  apply Sound.intro
  mvcgen [searchKey]
  all_goals grind

@[spec] theorem keyOccurrences_sound : Sound m₀ (m₀.Backs args) (keyOccurrences e args) := by
  apply Sound.intro
  mvcgen [keyOccurrences]
  all_goals grind

@[spec] theorem searchText_sound : Sound m₀ (m₀.Backs args) (searchText e args) := by
  apply Sound.intro
  mvcgen [searchText]
  all_goals grind

@[spec] theorem searchAll_sound : Sound m₀ (m₀.Backs args) (searchAll e args) := by
  apply Sound.intro
  mvcgen [searchAll]
  all_goals grind

@[spec] theorem countText_sound : Sound m₀ (m₀.Backs args) (countText e args) := by
  apply Sound.intro
  mvcgen [countText]
  all_goals grind

@[spec] theorem containsText_sound : Sound m₀ (m₀.Backs args) (containsText e args) := by
  apply Sound.intro
  mvcgen [containsText]
  all_goals grind

@[spec] theorem singleKey_sound : Sound m₀ (m₀.Backs args) (singleKey e args) := by
  apply Sound.intro
  mvcgen [singleKey]
  all_goals grind

@[spec] theorem listedKeys_sound : Sound m₀ (m₀.Backs args) (listedKeys e args) := by
  apply Sound.intro
  mvcgen [listedKeys, mapM_each]
  all_goals grind

@[spec] theorem replacedKeys_sound : Sound m₀ (m₀.Backs args) (replacedKeys e args) := by
  apply Sound.intro
  mvcgen [replacedKeys]
  all_goals grind

@[spec] theorem replaceText_sound : Sound m₀ (m₀.Backs args) (replaceText e args) := by
  apply Sound.intro
  mvcgen [replaceText]
  all_goals grind

@[spec] theorem splitText_sound : Sound m₀ (m₀.Backs args) (splitText e args) := by
  apply Sound.intro
  mvcgen [splitText]
  all_goals grind

omit engine in
@[spec] theorem characterAt_sound (s : String) (i : Nat) : Sound m₀ True (characterAt s i) := by
  apply Sound.intro
  mvcgen [characterAt]
  all_goals grind

omit engine in
@[spec] theorem spliced_sound (s : String) (i : Nat) (replacement : String) :
    Sound m₀ True (spliced s i replacement) := by
  apply Sound.intro
  mvcgen [spliced]
  all_goals grind

omit engine in
@[spec] theorem charCodeAt_sound : Sound m₀ (m₀.Backs args) (charCodeAt args) := by
  apply Sound.intro
  mvcgen [charCodeAt]
  all_goals grind

omit engine in
@[spec] theorem charAt_sound : Sound m₀ (m₀.Backs args) (charAt args) := by
  apply Sound.intro
  mvcgen [charAt]
  all_goals grind

omit engine in
@[spec] theorem removeChar_sound : Sound m₀ (m₀.Backs args) (removeChar args) := by
  apply Sound.intro
  mvcgen [removeChar]
  all_goals grind

@[spec] theorem setCharCodeAt_sound : Sound m₀ (m₀.Backs args) (setCharCodeAt e args) := by
  apply Sound.intro
  mvcgen [setCharCodeAt]
  all_goals grind

@[spec] theorem setCharAt_sound : Sound m₀ (m₀.Backs args) (setCharAt e args) := by
  apply Sound.intro
  mvcgen [setCharAt]
  all_goals grind

@[spec] theorem partText_sound (items : Array Value) (part : TemplatePart) :
    Sound m₀ (m₀.Backs items) (partText e items part) := by
  apply Sound.intro
  mvcgen [partText]
  all_goals grind

@[spec] theorem formatText_sound : Sound m₀ (m₀.Backs args) (formatText e args) := by
  have texts (items : Array Value) (parts : List TemplatePart) (m : Machine)
      (backed : m.Backs items) : Sound m True (parts.mapM (partText e items)) :=
    mapM_sound fun part mem m' evolved => (partText_sound engine items part).of (backed.mono evolved)
  apply Sound.intro
  mvcgen [formatText, texts]
  all_goals grind

end

end Native

/-! ## Documents -/

section
variable [Latitude]

mutual

/-- **Reading a document** makes new objects, and fills no other. -/
theorem toValue_fills : ∀ (j : Json) (m : Machine), Fills m True j.toValue
  | .null, m => by
    apply Fills.intro
    mvcgen [Json.toValue]
    all_goals grind
  | .boolean b, m => by
    apply Fills.intro
    mvcgen [Json.toValue]
    all_goals grind
  | .number n, m => by
    apply Fills.intro
    mvcgen [Json.toValue]
    all_goals grind
  | .string s, m => by
    apply Fills.intro
    mvcgen [Json.toValue]
    all_goals grind
  | .array items, m => by
    have made := itemValues_fills items #[]
    have none : m.Backs (#[] : Array Value) := fun v mem => nomatch mem
    apply Fills.intro
    mvcgen [Json.toValue, made]
    all_goals grind
  | .object members, m => by
    have stored := storeMembers_fills members
    apply Fills.intro
    mvcgen [Json.toValue, stored]
    all_goals grind

theorem itemValues_fills : ∀ (items : List Json) (done : Array Value) (m : Machine),
    Fills m (m.Backs done) (Json.itemValues items done)
  | [], done, m => by
    apply Fills.intro
    mvcgen [Json.itemValues]
    all_goals grind
  | j :: rest, done, m => by
    have first := toValue_fills j
    have others := itemValues_fills rest
    apply Fills.intro
    mvcgen [Json.itemValues, first, others]
    all_goals grind

theorem storeMembers_fills : ∀ (members : List (String × Json)) (o : ObjectId) (m : Machine),
    Fills m (m.Backs o ∧ (m.object o).facet = .plain) (Json.storeMembers o members)
  | [], o, m => by
    apply Fills.intro
    mvcgen [Json.storeMembers]
    all_goals grind
  | (name, j) :: rest, o, m => by
    have first := toValue_fills j
    have others := storeMembers_fills rest
    apply Fills.intro
    mvcgen [Json.storeMembers, first, others]
    all_goals grind

end

end

section
variable [Latitude] {m₀ : Machine} {e : Engine} (engine : e.Sound)

@[spec] theorem decodeJson_sound (text : String) : Sound m₀ True (decodeJson text) := by
  have made := toValue_fills
  apply Sound.intro
  mvcgen [decodeJson, made]
  all_goals grind

include engine

@[spec] theorem ofValue_sound (fuel : Nat) (visiting : List ObjectId) (v : Value) :
    Sound m₀ (m₀.Backs v) (Json.ofValue e fuel visiting v) := by
  induction fuel generalizing visiting v m₀ with
  | zero =>
    apply Sound.intro
    mvcgen [Json.ofValue]
    all_goals grind
  | succ fuel ih =>
    have written := @ih
    apply Sound.intro
    mvcgen [Json.ofValue, mapM_each, written]
    all_goals grind

@[spec] theorem encodeJson_sound (v : Value) : Sound m₀ (m₀.Backs v) (encodeJson e v) := by
  apply Sound.intro
  mvcgen [encodeJson]
  all_goals grind

end

end StubMachine
