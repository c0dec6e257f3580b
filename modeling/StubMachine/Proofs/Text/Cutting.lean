import StubMachine.Proofs.Text.Searching

/-!
# The native functions that cut a text and replace in it

Cutting a text at a token leaves one piece more than the token is counted, and replacing a key in a
text is the same as cutting it there and writing something else between the pieces.  **The three
functions agree** (`split_and_replace_agree`), though each goes through the text for itself.

A replacement is given any number of keys, which are replaced one after the other: what is put in
for one key may contain the next.  All of them are converted to texts before that.
-/

namespace StubMachine.Native

open StubMachine.Action

/-! ## The keys of a replacement -/

section
variable (e : Engine) (args : Array Value)

/-- **The single key that a replacement is given**, unless it is Empty. -/
inductive SingleKey (m : Machine) : List String → Machine → Prop
  | none : argument args 1 = .empty → SingleKey m [] m
  | one {key : String} {m' : Machine} : asString e (argument args 1) m = .ok key m' →
    SingleKey m [key] m'

/-- **The keys that a replacement is given in a list**, if there is one: its values, each
converted. -/
inductive ListedKeys (m : Machine) : List String → Machine → Prop
  | none : (∀ o, argument args 3 ≠ .object o) → ListedKeys m [] m
  | listed {o : ObjectId} {values : List Value} {keys : List String} {m₁ m' : Machine} :
    argument args 3 = .object o → objectValues e o m = .ok values m₁ →
    InTurn (asString e) m₁ values keys m' → ListedKeys m keys m'

/-- A text with something else for a key, unless the key is empty. -/
def replacing (substitute text key : String) : String :=
  if key = "" then text else substitute.intercalate (Text.split key text)

end

section
variable {e : Engine} {args : Array Value} {s : String} {m m₁ m₂ m₃ : Machine}

theorem singleKey_ok {keys : List String} (one : SingleKey e args m keys m₁) :
    singleKey e args m = .ok keys m₁ := by
  rw [singleKey]
  cases one with
  | none given =>
    rw [given]
    rfl
  | one named =>
    cases given : argument args 1 with
    | empty =>
      rw [given] at named
      exact absurd named (raise_ne_ok _ _ _ _)
    | _ =>
      rw [given] at named
      exact Action.bind_ok named

theorem listedKeys_ok {keys : List String} (more : ListedKeys e args m keys m₁) :
    listedKeys e args m = .ok keys m₁ := by
  rw [listedKeys]
  cases more with
  | none other =>
    cases given : argument args 3 with
    | object o => exact absurd given (other o)
    | _ => rfl
  | listed given values turns =>
    rw [given]
    exact (Action.bind_ok values).trans (mapM_eq_ok_iff.mpr turns)

theorem replacedKeys_ok {single listed : List String} (one : SingleKey e args m single m₁)
    (more : ListedKeys e args m₁ listed m₂) :
    replacedKeys e args m = .ok (single ++ listed) m₂ := by
  rw [replacedKeys, Action.bind_ok (singleKey_ok one), Action.bind_ok (listedKeys_ok more)]
  rfl

/-- Leaving out the empty keys is the same as replacing nothing for them. -/
theorem foldl_replacing (substitute : String) (keys : List String) (s : String) :
    (keys.filter fun key => !key.isEmpty).foldl (fun s key => Text.replace key substitute s) s =
      keys.foldl (replacing substitute) s := by
  induction keys generalizing s with
  | nil => rfl
  | cons key keys ih =>
    by_cases empty : key = ""
    · rw [List.filter_cons_of_neg (by simp [empty]), ih, List.foldl_cons, replacing, if_pos empty]
    · rw [List.filter_cons_of_pos (by simp [empty]), List.foldl_cons, ih, List.foldl_cons,
        replacing, if_neg empty, Text.replace_eq empty]

theorem splitText_ok {token : String} (base : argument args 0 = .string s)
    (named : asString e (argument args 1) m = .ok token m₁) :
    splitText e args m = .ok (.object ⟨m₁.objects.size + 1⟩)
      (m₁.withList ((Text.split token s).map Value.string).toArray) := by
  rw [splitText, Action.bind_ok (baseString_ok base m), Action.bind_ok named]
  rfl

theorem replaceText_ok {substitute : String} {single listed : List String}
    (base : argument args 0 = .string s)
    (converted : asString e (argument args 2) m = .ok substitute m₁)
    (one : SingleKey e args m₁ single m₂) (more : ListedKeys e args m₂ listed m₃)
    (some : single ++ listed ≠ []) :
    replaceText e args m = .ok (.string ((single ++ listed).foldl (replacing substitute) s)) m₃ := by
  rw [replaceText, Action.bind_ok (baseString_ok base m), Action.bind_ok converted,
    Action.bind_ok (replacedKeys_ok one more), if_neg (mt List.isEmpty_iff.mp some)]
  rw [← foldl_replacing]
  rfl

end

/-- **Cutting, counting and replacing agree.**  A text is cut at a token that is not empty into one
piece more than the token is counted; no piece contains the token, and with the token between them
the pieces are the text.  Where it is cut is where a search finds the token.  At the empty token it
is cut into its characters.  A text in which a key is replaced is the pieces with the substitute
between them, and several keys are replaced one after the other, the single one first, each in what
the one before it has left. -/
theorem split_and_replace_agree (e : Engine) (s token : String) :
    (∀ (args : Array Value) (m m₁ : Machine), argument args 0 = .string s →
      asString e (argument args 1) m = .ok token m₁ →
      runQuery e args .split m = .ok (.object ⟨m₁.objects.size + 1⟩)
        (m₁.withList ((Text.split token s).map Value.string).toArray) ∧
      (token ≠ "" → ∃ count, runQuery e args .count m = .ok (.ofNat count) m₁ ∧
        (Text.split token s).length = count + 1)) ∧
    (token ≠ "" →
      (∀ piece ∈ Text.split token s, ¬ ∃ p, Text.OccursAt token.toList piece.toList p) ∧
      token.intercalate (Text.split token s) = s ∧
      ∃ positions, Text.Successive token.toList s.toList positions ∧ Text.split token s =
        (Text.between s.toList token.length 0 positions).map String.ofList) ∧
    (token = "" → Text.split token s = s.toList.map fun c => String.ofList [c]) ∧
    (∀ (args : Array Value) (substitute : String) (m m₁ m₂ : Machine),
      argument args 0 = .string s → asString e (argument args 2) m = .ok substitute m₁ →
      asString e (argument args 1) m₁ = .ok token m₂ → (∀ o, argument args 3 ≠ .object o) →
      token ≠ "" → runQuery e args .replace m =
        .ok (.string (substitute.intercalate (Text.split token s))) m₂) ∧
    (∀ (args : Array Value) (substitute : String) (single listed : List String)
      (m m₁ m₂ m₃ : Machine), argument args 0 = .string s →
      asString e (argument args 2) m = .ok substitute m₁ → SingleKey e args m₁ single m₂ →
      ListedKeys e args m₂ listed m₃ → single ++ listed ≠ [] →
      runQuery e args .replace m =
        .ok (.string ((single ++ listed).foldl (replacing substitute) s)) m₃) := by
  refine ⟨?cut, ?pieces, ?characters, ?single, ?several⟩
  case cut =>
    intro args m m₁ base named
    exact ⟨splitText_ok base named, fun nonempty =>
      ⟨_, countText_ok base named nonempty, Text.length_split nonempty s⟩⟩
  case pieces =>
    intro nonempty
    refine ⟨?_, Text.join_split nonempty s, _, Text.occurrences_successive nonempty,
      Text.split_eq_between nonempty s⟩
    rintro piece mem ⟨p, occurs⟩
    exact Text.not_occursAt_split nonempty mem p occurs
  case characters =>
    intro empty
    rw [Text.split, if_pos (String.isEmpty_iff.mpr empty)]
  case single =>
    intro args substitute m m₁ m₂ base converted named alone nonempty
    have replaced := replaceText_ok base converted (.one named) (.none alone)
      (List.cons_ne_nil token [])
    rwa [List.append_nil, List.foldl_cons, List.foldl_nil, replacing, if_neg nonempty] at replaced
  case several =>
    intro args substitute single listed m m₁ m₂ m₃ base converted one more some
    exact replaceText_ok base converted one more some

/-- A token that overlaps itself leaves one piece more than it is counted; and what is put in for a
single key is replaced in turn for a listed one, while an empty key is passed over. -/
theorem split_and_replace_agree_banana :
    let e : Engine := ⟨0, fun _ => pure .empty⟩
    let m := (Machine.initial .standard).withList #[.string "na", .string ""]
    let args := #[Value.string "banana", .string "ana"]
    let replaced := #[Value.string "banana", .string "b", .string "nab", .object ⟨1⟩]
    (argument args 0 = .string "banana" ∧ asString e (argument args 1) m = .ok "ana" m ∧
      runQuery e args .split m = .ok (.object ⟨2⟩)
        (m.withList #[.string "b", .string "na"])) ∧
    (argument replaced 0 = .string "banana" ∧
      asString e (argument replaced 2) m = .ok "nab" m ∧ SingleKey e replaced m ["b"] m ∧
      ListedKeys e replaced m ["na", ""] m ∧ ["b"] ++ ["na", ""] ≠ [] ∧
      runQuery e replaced .replace m = .ok (.string "nabbanabnab") m) := by
  intro e m args replaced
  have one : SingleKey e replaced m ["b"] m := .one rfl
  have turns : InTurn (asString e) m [.string "na", .string ""] ["na", ""] m :=
    .next rfl (.next rfl (.done m))
  have more : ListedKeys e replaced m ["na", ""] m := .listed rfl rfl turns
  have some : ["b"] ++ ["na", ""] ≠ [] := List.cons_ne_nil _ _
  have agree := split_and_replace_agree e "banana" "ana"
  have cut := (agree.1 args m m rfl rfl).1
  have changed := agree.2.2.2.2 replaced "nab" ["b"] ["na", ""] m m m m rfl rfl one more some
  exact ⟨⟨rfl, rfl, cut⟩, rfl, rfl, one, more, some, changed⟩

end StubMachine.Native
