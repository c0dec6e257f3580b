import StubMachine.Proofs.Entry
import StubMachine.Proofs.Evolution.Requests

/-!
# Imports

A machine keeps the result of a module when its run has ended, and asks for a module only if
no result of it is kept.  So **once there is a result the embedder is not asked again**
(`Annals.not_asked`), by whomever and from wherever the module is imported; and if each import
has ended with a result before the next one asks, the embedder is asked at most once
(`modules_imported_once`).

What is between asking and keeping is the run of the module, in which anything can happen.
An import of the module that takes place in the course of it finds no result and asks again:
this is why the condition speaks of imports that have ended.

`Annals` says what can happen to one module, event by event.  Each change of the store
continues the annals of every module (`Machine.Change.told`), and so does everything that
runs.
-/

namespace StubMachine

open StubMachine.Action

/-! ## Histories -/

namespace ModuleEvent

/-- The name of the module. -/
def name : ModuleEvent → String
  | asked name | started name | imported name _ | ran name _ => name

/-- The name for which the embedder was asked. -/
def asked? : ModuleEvent → Option String
  | asked name => some name
  | _ => none

/-- The result of a module that there is from now on. -/
def result? : ModuleEvent → Option Value
  | imported _ v | ran _ v => some v
  | _ => none

end ModuleEvent

/-- **What can happen to a module.**  At each time its result may be known, and some imports may
have asked for it without having been answered. -/
inductive Annals (name : String) :
    Option Value → Nat → List ModuleEvent → Option Value → Nat → Prop
  | nil (known : Option Value) (waiting : Nat) : Annals name known waiting [] known waiting
  /-- The embedder is asked for what is not known. -/
  | asked {waiting waiting' : Nat} {known' : Option Value} {rest : List ModuleEvent} :
      Annals name none (waiting + 1) rest known' waiting' →
      Annals name none waiting (.asked name :: rest) known' waiting'
  /-- An import that has asked ends with its result. -/
  | answered (v : Value) {known known' : Option Value} {waiting waiting' : Nat}
      {rest : List ModuleEvent} : Annals name (some v) waiting rest known' waiting' →
      Annals name known (waiting + 1) (.imported name v :: rest) known' waiting'
  /-- An import ends with what is known. -/
  | recalled (v : Value) {known' : Option Value} {waiting waiting' : Nat}
      {rest : List ModuleEvent} : Annals name (some v) waiting rest known' waiting' →
      Annals name (some v) waiting (.imported name v :: rest) known' waiting'
  | ran (v : Value) {known known' : Option Value} {waiting waiting' : Nat}
      {rest : List ModuleEvent} : Annals name (some v) waiting rest known' waiting' →
      Annals name known waiting (.ran name v :: rest) known' waiting'
  /-- The entry is started, or it is another module to which something happens. -/
  | aside (event : ModuleEvent) {known known' : Option Value} {waiting waiting' : Nat}
      {rest : List ModuleEvent} : (event.name = name → event = .started name) →
      Annals name known waiting rest known' waiting' →
      Annals name known waiting (event :: rest) known' waiting'

namespace Annals
variable {name : String} {known known₁ known₂ : Option Value} {waiting waiting₁ waiting₂ : Nat}
  {l l' : List ModuleEvent} {v : Value}

/-- Something happens to another module. -/
theorem other {event : ModuleEvent} (ne : event.name ≠ name) :
    Annals name known waiting [event] known waiting :=
  .aside event (fun same => absurd same ne) (.nil known waiting)

theorem started (name' : String) : Annals name known waiting [.started name'] known waiting :=
  .aside (.started name') (fun same => congrArg ModuleEvent.started same) (.nil known waiting)

/-- One stretch of time after another. -/
theorem append (h : Annals name known waiting l known₁ waiting₁)
    (h' : Annals name known₁ waiting₁ l' known₂ waiting₂) :
    Annals name known waiting (l ++ l') known₂ waiting₂ := by
  induction h with
  | nil known waiting => exact h'
  | asked _ ih => exact .asked (ih h')
  | answered v _ ih => exact .answered v (ih h')
  | recalled v _ ih => exact .recalled v (ih h')
  | ran v _ ih => exact .ran v (ih h')
  | aside event apart _ ih => exact .aside event apart (ih h')

/-- It makes no difference if more imports wait for an answer. -/
theorem more (h : Annals name known waiting l known₁ waiting₁) (others : Nat) :
    Annals name known (waiting + others) l known₁ (waiting₁ + others) := by
  induction h with
  | nil known waiting => exact .nil known _
  | @asked waiting _ _ _ _ ih =>
    refine .asked ?_
    rw [Nat.add_right_comm]
    exact ih
  | @answered v _ _ waiting _ _ _ ih =>
    rw [Nat.add_right_comm]
    exact .answered v ih
  | recalled v _ ih => exact .recalled v ih
  | ran v _ ih => exact .ran v ih
  | aside event apart _ ih => exact .aside event apart ih

/-- Where a stretch of time is divided, something is known and some imports wait. -/
theorem split (h : Annals name known waiting (l ++ l') known₂ waiting₂) :
    ∃ known₁ waiting₁, Annals name known waiting l known₁ waiting₁ ∧
      Annals name known₁ waiting₁ l' known₂ waiting₂ := by
  induction l generalizing known waiting with
  | nil => exact ⟨known, waiting, .nil known waiting, h⟩
  | cons event l ih =>
    cases h with
    | asked rest =>
      obtain ⟨known₁, waiting₁, first, second⟩ := ih rest
      exact ⟨known₁, waiting₁, .asked first, second⟩
    | answered v rest =>
      obtain ⟨known₁, waiting₁, first, second⟩ := ih rest
      exact ⟨known₁, waiting₁, .answered v first, second⟩
    | recalled v rest =>
      obtain ⟨known₁, waiting₁, first, second⟩ := ih rest
      exact ⟨known₁, waiting₁, .recalled v first, second⟩
    | ran v rest =>
      obtain ⟨known₁, waiting₁, first, second⟩ := ih rest
      exact ⟨known₁, waiting₁, .ran v first, second⟩
    | aside event apart rest =>
      obtain ⟨known₁, waiting₁, first, second⟩ := ih rest
      exact ⟨known₁, waiting₁, .aside event apart first, second⟩

/-! ## What is known -/

/-- **For what is known the embedder is not asked**, and it stays known. -/
theorem of_known (h : Annals name known waiting l known₁ waiting₁) (some_ : known ≠ none) :
    .asked name ∉ l ∧ known₁ ≠ none := by
  induction h with
  | nil known waiting => exact ⟨List.not_mem_nil, some_⟩
  | asked _ _ => exact absurd rfl some_
  | answered v _ ih =>
    obtain ⟨silent, still⟩ := ih (Option.some_ne_none v)
    exact ⟨List.not_mem_cons_of_ne_of_not_mem ModuleEvent.noConfusion silent, still⟩
  | recalled v _ ih =>
    obtain ⟨silent, still⟩ := ih (Option.some_ne_none v)
    exact ⟨List.not_mem_cons_of_ne_of_not_mem ModuleEvent.noConfusion silent, still⟩
  | ran v _ ih =>
    obtain ⟨silent, still⟩ := ih (Option.some_ne_none v)
    exact ⟨List.not_mem_cons_of_ne_of_not_mem ModuleEvent.noConfusion silent, still⟩
  | aside event apart _ ih =>
    obtain ⟨silent, still⟩ := ih some_
    refine ⟨List.not_mem_cons_of_ne_of_not_mem ?_ silent, still⟩
    rintro rfl
    cases apart rfl

/-- **After a result the embedder is not asked**, and something is known. -/
theorem not_asked {event : ModuleEvent} (h : Annals name known waiting (event :: l) known₁ waiting₁)
    (about : event.name = name) (result : event.result? = some v) :
    .asked name ∉ l ∧ known₁ ≠ none := by
  cases h with
  | asked _ => cases result
  | answered v rest => exact rest.of_known (Option.some_ne_none v)
  | recalled v rest => exact rest.of_known (Option.some_ne_none v)
  | ran v rest => exact rest.of_known (Option.some_ne_none v)
  | aside event apart _ =>
    rw [apart about] at result
    cases result

/-! ## One result for all imports -/

/-- What is put aside is not the end of an import. -/
theorem imported_mem {event : ModuleEvent} (apart : event.name = name → event = .started name)
    {w : Value} (ended : .imported name w ∈ event :: l) : .imported name w ∈ l := by
  rcases List.mem_cons.mp ended with now | later
  · rw [← now] at apart
    cases apart rfl
  · exact later

/-- If a result is known and no import waits, all imports end with it until the module is run. -/
theorem settled (h : Annals name (some v) 0 l known₁ waiting₁) (unrun : ∀ u, .ran name u ∉ l)
    {w : Value} (ended : .imported name w ∈ l) : w = v := by
  induction l with
  | nil => cases ended
  | cons event l ih =>
    have unrun' (u : Value) : .ran name u ∉ l := fun later => unrun u (List.mem_cons_of_mem _ later)
    cases h with
    -- An import that has asked cannot end here, for none waits.
    | recalled v rest =>
      rcases List.mem_cons.mp ended with now | later
      · cases now
        rfl
      · exact ih rest unrun' later
    | ran u rest => exact absurd List.mem_cons_self (unrun u)
    | aside event apart rest => exact ih rest unrun' (imported_mem apart ended)

/-- If one import waits and no other asks, all imports end with one result until the module is
run. -/
theorem awaited (h : Annals name none 1 l known₁ waiting₁) (alone : .asked name ∉ l)
    (unrun : ∀ u, .ran name u ∉ l) : ∃ v, ∀ w, .imported name w ∈ l → w = v := by
  induction l with
  | nil => exact ⟨.empty, fun w ended => absurd ended List.not_mem_nil⟩
  | cons event l ih =>
    have unrun' (u : Value) : .ran name u ∉ l := fun later => unrun u (List.mem_cons_of_mem _ later)
    cases h with
    | asked _ => exact absurd List.mem_cons_self alone
    | answered v rest =>
      -- The import that waited ends with this value, and the later ones find it.
      refine ⟨v, fun w ended => ?_⟩
      rcases List.mem_cons.mp ended with now | later
      · cases now
        rfl
      · exact rest.settled unrun' later
    | ran u rest => exact absurd List.mem_cons_self (unrun u)
    | aside event apart rest =>
      obtain ⟨v, same⟩ := ih rest (fun later => alone (List.mem_cons_of_mem _ later)) unrun'
      exact ⟨v, fun w ended => same w (imported_mem apart ended)⟩

end Annals

/-! ## Asking at most once -/

/-- **Each import of a module has ended with a result before the next one asks for it**: no import
has failed, and none asks in the course of another. -/
def Prompt (name : String) (history : List ModuleEvent) : Prop :=
  ∀ before between after, history = before ++ .asked name :: (between ++ .asked name :: after) →
    ∃ v, .imported name v ∈ between

/-- How often imports have started the entry of a module, which they do directly after asking. -/
def startsByImport (name : String) : List ModuleEvent → Nat
  | .asked name' :: .started name'' :: rest =>
    (if name' = name ∧ name'' = name then 1 else 0) + startsByImport name rest
  | _ :: rest => startsByImport name rest
  | [] => 0

/-- An import starts the entry of a module no more often than it asks for it. -/
theorem startsByImport_le (name : String) (history : List ModuleEvent) :
    startsByImport name history ≤ (history.filterMap ModuleEvent.asked?).count name := by
  fun_induction startsByImport name history with
  | case1 name' name'' rest ih =>
    show _ ≤ (name' :: rest.filterMap ModuleEvent.asked?).count name
    rw [List.count_cons, Nat.add_comm]
    refine Nat.add_le_add ih ?_
    by_cases same : name' = name ∧ name'' = name
    · rw [if_pos same, if_pos (beq_iff_eq.mpr same.1)]
    · rw [if_neg same]
      exact Nat.zero_le _
  | case2 event rest _ ih =>
    refine Nat.le_trans ih (List.Sublist.count_le name ?_)
    exact (List.sublist_cons_self event rest).filterMap _
  | case3 => exact Nat.zero_le _

theorem count_asked_eq_zero {name : String} {l : List ModuleEvent} (silent : .asked name ∉ l) :
    (l.filterMap ModuleEvent.asked?).count name = 0 := by
  refine List.count_eq_zero.mpr fun mem => ?_
  obtain ⟨event, there, asked⟩ := List.mem_filterMap.mp mem
  cases event with
  | asked name' =>
    cases asked
    exact silent there
  | _ => cases asked

namespace Annals
variable {name : String} {l : List ModuleEvent} {known : Option Value} {waiting : Nat}

/-- **The embedder is asked at most once** if each import has ended with a result before the next
one asks. -/
theorem asked_alone {known₀ : Option Value} {waiting₀ : Nat}
    (h : Annals name known₀ waiting₀ l known waiting) (prompt : Prompt name l)
    (before after : List ModuleEvent) (here : l = before ++ .asked name :: after) :
    .asked name ∉ after := by
  intro again
  obtain ⟨between, rest, eq⟩ := List.append_of_mem again
  subst eq
  obtain ⟨v, ended⟩ := prompt before between rest here
  obtain ⟨first, second, eq⟩ := List.append_of_mem ended
  subst eq here
  -- The result was known after that import had ended, and then it was asked for again.
  have later : before ++ .asked name ::
      ((first ++ .imported name v :: second) ++ .asked name :: rest) =
      (before ++ .asked name :: first) ++ .imported name v :: (second ++ .asked name :: rest) := by
    simp only [List.append_assoc, List.cons_append]
  rw [later] at h
  obtain ⟨_, _, -, since⟩ := h.split
  refine (since.not_asked rfl rfl).1 ?_
  exact List.mem_append_right _ List.mem_cons_self

theorem count_asked_le {known₀ : Option Value} {waiting₀ : Nat}
    (h : Annals name known₀ waiting₀ l known waiting) (prompt : Prompt name l) :
    (l.filterMap ModuleEvent.asked?).count name ≤ 1 := by
  by_cases silent : .asked name ∈ l
  · obtain ⟨before, after, here, first⟩ := List.eq_append_cons_of_mem silent
    have last := h.asked_alone prompt before after here
    have split : l.filterMap ModuleEvent.asked? =
        before.filterMap ModuleEvent.asked? ++ name :: after.filterMap ModuleEvent.asked? := by
      rw [here, List.filterMap_append]
      rfl
    rw [split, List.count_append, List.count_cons_self, count_asked_eq_zero first,
      count_asked_eq_zero last]
  · rw [count_asked_eq_zero silent]
    exact Nat.zero_le 1

/-- **All imports before a run end with one result** if each has ended before the next one asks. -/
theorem one_result (h : Annals name none 0 l known waiting) (prompt : Prompt name l)
    (unrun : ∀ u, .ran name u ∉ l) : ∃ v, ∀ w, .imported name w ∈ l → w = v := by
  induction l with
  | nil => exact ⟨.empty, fun w ended => absurd ended List.not_mem_nil⟩
  | cons event l ih =>
    have unrun' (u : Value) : .ran name u ∉ l := fun later => unrun u (List.mem_cons_of_mem _ later)
    have alone := h.asked_alone prompt
    -- Nothing is known, so the first import of the module is one that asks.
    cases h with
    | asked rest =>
      obtain ⟨v, same⟩ := rest.awaited (alone [] l rfl) unrun'
      refine ⟨v, fun w ended => same w ?_⟩
      exact (List.mem_cons.mp ended).resolve_left ModuleEvent.noConfusion
    | ran u rest => exact absurd List.mem_cons_self (unrun u)
    | aside event apart rest =>
      have prompt' : Prompt name l := fun before between after here =>
        prompt (event :: before) between after (congrArg (List.cons event) here)
      obtain ⟨v, same⟩ := ih rest prompt' unrun'
      exact ⟨v, fun w ended => same w (imported_mem apart ended)⟩

end Annals

/-- What is prompt is prompt from the beginning. -/
theorem Prompt.of_append {name : String} {l l' : List ModuleEvent} (h : Prompt name (l ++ l')) :
    Prompt name l := by
  intro before between after here
  refine h before between (after ++ l') ?_
  rw [here]
  simp only [List.append_assoc, List.cons_append]

theorem Prompt.of_count {name : String} {l : List ModuleEvent}
    (once : (l.filterMap ModuleEvent.asked?).count name ≤ 1) : Prompt name l := by
  rintro before between after rfl
  simp [ModuleEvent.asked?] at once
  omega

/-! ## The history of a machine -/

namespace Machine

/-- **What happened to modules between two states.** -/
structure Tells (m : Machine) (l : List ModuleEvent) (m' : Machine) : Prop where
  history : m'.history.toList = m.history.toList ++ l
  asked : m'.asked = m.asked ++ l.filterMap ModuleEvent.asked?
  annals (name : String) :
    ∃ waiting, Annals name m.modules[name]? 0 l m'.modules[name]? waiting

namespace Tells
variable {m m₁ m' : Machine} {l l' : List ModuleEvent}

/-- Nothing has happened to any module. -/
theorem silent (history : m'.history = m.history) (asked : m'.asked = m.asked)
    (modules : m'.modules = m.modules) : m.Tells [] m' where
  history := by rw [history, List.append_nil]
  asked := by
    rw [asked]
    exact (List.append_nil _).symm
  annals name := by
    rw [modules]
    exact ⟨0, .nil _ 0⟩

theorem trans (h : m.Tells l m₁) (h' : m₁.Tells l' m') : m.Tells (l ++ l') m' where
  history := by rw [h'.history, h.history, List.append_assoc]
  asked := by rw [h'.asked, h.asked, List.filterMap_append, List.append_assoc]
  annals name := by
    obtain ⟨waiting, first⟩ := h.annals name
    obtain ⟨waiting', second⟩ := h'.annals name
    refine ⟨waiting' + waiting, first.append ?_⟩
    have later := second.more waiting
    rwa [Nat.zero_add] at later

end Tells

section Changes
variable {m m₁ m₂ m' : Machine} {name : String} {v : Value} {l : List ModuleEvent}

theorem known_insert (modules : Std.HashMap String Value) (name name' : String) (v : Value) :
    (modules.insert name v)[name']? = if name = name' then some v else modules[name']? := by
  rw [Std.HashMap.getElem?_insert]
  by_cases same : name = name'
  · rw [if_pos (beq_iff_eq.mpr same), if_pos same]
  · rw [if_neg (fun eq => same (beq_iff_eq.mp eq)), if_neg same]

/-- A module that is not known is asked for. -/
theorem Asks.tells (asks : m.Asks name m') (unknown : m.modules[name]? = none) :
    m.Tells [.asked name] m' where
  history := by
    have history : m'.history = m.history.push (.asked name) := congrArg (·.history) asks
    rw [history, Array.toList_push]
  asked := congrArg (·.asked) asks
  annals name' := by
    have modules : m'.modules = m.modules := congrArg (·.modules) asks
    rw [modules]
    by_cases same : name = name'
    · subst same
      rw [unknown]
      exact ⟨1, .asked (.nil none 1)⟩
    · exact ⟨0, .other same⟩

theorem Loads.tells (loads : m.Loads name m') : m.Tells [.started name] m' where
  history := by
    have history : m'.history = m.history.push (.started name) := congrArg (·.history) loads
    rw [history, Array.toList_push]
  asked := by
    have asked : m'.asked = m.asked := congrArg (·.asked) loads
    rw [asked]
    exact (List.append_nil _).symm
  annals name' := by
    have modules : m'.modules = m.modules := congrArg (·.modules) loads
    rw [modules]
    exact ⟨0, .started name⟩

/-- A result is kept. -/
theorem Keeps.history {origin : String → Value → ModuleEvent} (keeps : m.Keeps origin name v m') :
    m'.history.toList = m.history.toList ++ [origin name v] := by
  have history : m'.history = m.history.push (origin name v) := congrArg (·.history) keeps
  rw [history, Array.toList_push]

theorem Keeps.modules {origin : String → Value → ModuleEvent} (keeps : m.Keeps origin name v m')
    (name' : String) : m'.modules[name']? = if name = name' then some v else m.modules[name']? := by
  have modules : m'.modules = m.modules.insert name v := congrArg (·.modules) keeps
  rw [modules, known_insert]

/-- The embedder runs a module. -/
theorem Keeps.tells (keeps : m.Keeps .ran name v m') : m.Tells [.ran name v] m' where
  history := keeps.history
  asked := by
    have asked : m'.asked = m.asked := congrArg (·.asked) keeps
    rw [asked]
    exact (List.append_nil _).symm
  annals name' := by
    rw [keeps.modules]
    by_cases same : name = name'
    · subst same
      rw [if_pos rfl]
      exact ⟨0, .ran v (.nil _ 0)⟩
    · rw [if_neg same]
      exact ⟨0, .other same⟩

/-- An import is answered with what is known. -/
theorem Recalls.tells (recalls : m.Recalls name v m') (known : m.modules[name]? = some v) :
    m.Tells [.imported name v] m' where
  history := by
    have history : m'.history = m.history.push (.imported name v) := congrArg (·.history) recalls
    rw [history, Array.toList_push]
  asked := by
    have asked : m'.asked = m.asked := congrArg (·.asked) recalls
    rw [asked]
    exact (List.append_nil _).symm
  annals name' := by
    have modules : m'.modules = m.modules := congrArg (·.modules) recalls
    rw [modules]
    by_cases same : name = name'
    · subst same
      rw [known]
      exact ⟨0, .recalled v (.nil _ 0)⟩
    · exact ⟨0, .other same⟩

/-- A module is asked for, and comes and is loaded. -/
theorem Delivers.annals (delivers : m.Delivers name m₁) (unknown : m.modules[name]? = none)
    (name' : String) :
    Annals name' m.modules[name']? 0 [.asked name, .started name] m₁.modules[name']?
      (if name = name' then 1 else 0) := by
  have modules : m₁.modules = m.modules := congrArg (·.modules) delivers
  rw [modules]
  by_cases same : name = name'
  · subst same
    rw [if_pos rfl, unknown]
    exact .asked (.started name)
  · have apart : (ModuleEvent.asked name).name ≠ name' := same
    rw [if_neg same]
    exact .append (.other apart) (.started name)

theorem Delivers.tells (delivers : m.Delivers name m₁) (unknown : m.modules[name]? = none) :
    m.Tells [.asked name, .started name] m₁ where
  history := by
    have history : m₁.history = (m.history.push (.asked name)).push (.started name) :=
      congrArg (·.history) delivers
    rw [history, Array.toList_push, Array.toList_push, List.append_assoc]
    rfl
  asked := congrArg (·.asked) delivers
  annals name' := ⟨_, delivers.annals unknown name'⟩

/-- **An import goes from asking to keeping**; in between anything may have happened. -/
theorem Tells.imported (h : m₁.Tells l m₂) (delivers : m.Delivers name m₁)
    (unknown : m.modules[name]? = none) (keeps : m₂.Keeps .imported name v m') :
    m.Tells ([.asked name, .started name] ++ l ++ [.imported name v]) m' where
  history := by
    rw [keeps.history, ((delivers.tells unknown).trans h).history, List.append_assoc]
  asked := by
    have asked : m'.asked = m₂.asked := congrArg (·.asked) keeps
    have last : [ModuleEvent.imported name v].filterMap ModuleEvent.asked? = [] := rfl
    rw [asked, ((delivers.tells unknown).trans h).asked]
    generalize [ModuleEvent.asked name, .started name] ++ l = before
    rw [List.filterMap_append, last, List.append_nil]
  annals name' := by
    obtain ⟨waiting, ran⟩ := h.annals name'
    have before := delivers.annals unknown name'
    rw [keeps.modules]
    by_cases same : name = name'
    · subst same
      rw [if_pos rfl] at before ⊢
      -- The import still waits when the module has been run.
      have meanwhile := ran.more 1
      rw [Nat.zero_add] at meanwhile
      exact ⟨waiting, (before.append meanwhile).append (.answered v (.nil _ waiting))⟩
    · rw [if_neg same] at before ⊢
      exact ⟨waiting, (before.append ran).append (.other same)⟩

end Changes

variable [L : Latitude] {m m' : Machine}

/-- **Each change continues the annals of every module.** -/
theorem Change.tells (h : m.Change m') : ∃ l, m.Tells l m' := by
  have silent {estate : Estate} (same : m'.estate = estate)
      (history : estate.history = m.history) (asked : estate.asked = m.asked)
      (modules : estate.modules = m.modules) : ∃ l, m.Tells l m' :=
    ⟨[], .silent ((congrArg Estate.history same).trans history)
      ((congrArg Estate.asked same).trans asked) ((congrArg Estate.modules same).trans modules)⟩
  cases h with
  | aside same => exact silent same rfl rfl rfl
  | object o object _ _ same => exact silent same rfl rfl rfl
  | newborn object _ _ same => exact silent same rfl rfl rfl
  | type _ same => exact silent same rfl rfl rfl
  | meddles objects types _ _ _ same => exact silent same rfl rfl rfl
  | asks name unknown asks => exact ⟨_, asks.tells unknown⟩
  | delivery name unknown delivers => exact ⟨_, delivers.tells unknown⟩
  | loads name _ loads => exact ⟨_, loads.tells⟩
  | keeps name v _ keeps => exact ⟨_, keeps.tells⟩
  | recalls name v known recalls => exact ⟨_, recalls.tells known⟩

/-- **Whatever runs continues the annals of every module.** -/
theorem Evolves.tells (h : m.Evolves m') : ∃ l, m.Tells l m' := by
  induction h with
  | refl m => exact ⟨[], .silent rfl rfl rfl⟩
  | trans _ _ ih ih' =>
    obtain ⟨l, first⟩ := ih
    obtain ⟨l', second⟩ := ih'
    exact ⟨l ++ l', first.trans second⟩
  | change step => exact step.tells
  | imported name v unknown delivers _ keeps ih =>
    obtain ⟨l, ran⟩ := ih
    exact ⟨_, ran.imported delivers unknown keeps⟩

end Machine

/-- **What an import leaves in the history.**  An import that ends with a result notes it, and
before that nothing or, if there was no result, that the embedder was asked, that the entry was
started, and what happened in its run. -/
theorem importModule_noted [L : Latitude] {e : Engine} (engine : e.Sound) {host : Host}
    {name : String} {v : Value} {m m' : Machine} (whole : m.Whole)
    (ok : importModule host e name m = .ok v m') :
    (m.modules[name]? = some v ∧ m'.history.toList = m.history.toList ++ [.imported name v]) ∨
      m.modules[name]? = none ∧ ∃ l, m'.history.toList =
        m.history.toList ++ ([.asked name, .started name] ++ l ++ [.imported name v]) := by
  have read : Action.read (fun m => m.modules[name]?) m = .ok m.modules[name]? m := rfl
  rw [importModule, Action.bind_ok read] at ok
  cases known : m.modules[name]? with
  | some w =>
    rw [known] at ok
    cases ok
    exact .inl ⟨rfl, Array.toList_push⟩
  | none =>
    rw [known] at ok
    obtain ⟨bytes, m₁, fetched, ok⟩ := Action.bind_eq_ok.mp ok
    obtain ⟨file, m₂, loaded, ok⟩ := Action.bind_eq_ok.mp ok
    obtain ⟨w, m₃, ran, ok⟩ := Action.bind_eq_ok.mp ok
    cases ok
    have asked := triple_iff.mp (fetch_spec host name) m ⟨rfl, whole⟩
    rw [fetched] at asked
    have loads := triple_iff.mp (load_spec name bytes) m₁ ⟨rfl, asked.2⟩
    rw [loaded] at loads
    have ends := sound_iff.mp (settledRun_sound engine file) loads.2 trivial
    rw [ran] at ends
    obtain ⟨l, tells⟩ := ends.1.tells
    have history : m₃.history.toList = m.history.toList ++ ([.asked name, .started name] ++ l) :=
      (((asked.1.tells known).trans loads.1.tells).trans tells).history
    refine .inr ⟨rfl, l, ?_⟩
    rw [← List.append_assoc, ← history]
    exact Array.toList_push

/-! ## Sessions -/

/-- **Modules are imported once.**  Take a session with a new machine, in which modules are imported
and run under any names and from wherever, under a plan that stops activities wherever it likes.
The history of the machine tells for which names the embedder was asked.  After a module has been
run or imported, the embedder is not asked for it.  If each import of a module has ended with a
result before the next one asks, the embedder is asked for it at most once, its entry is started at
most once by an import, and all imports that end before the module is run by itself end with one
result. -/
theorem modules_imported_once (config : Config) {host : Host} (hosted : host.Sound (L := .running))
    {plan : Plan} (stops : plan.Stops) (fuel : Nat) (session : Session)
    (admissible : session.Admissible (L := .running) host (plan.engine host fuel)
      (.initial config)) :
    let m := (session.run host (plan.engine host fuel) (.initial config)).2
    let history := m.history.toList
    m.asked = history.filterMap ModuleEvent.asked? ∧
    (∀ before event after v, history = before ++ event :: after → event.result? = some v →
      .asked event.name ∉ after) ∧
    ∀ name, Prompt name history →
      m.asked.count name ≤ 1 ∧ startsByImport name history ≤ 1 ∧
      ∀ before after, history = before ++ after → (∀ u, .ran name u ∉ before) →
        ∃ v, ∀ w, .imported name w ∈ before → w = v := by
  let _ : Latitude := .running
  intro m history
  have engine : (plan.engine host fuel).Sound := Plan.engine_sound stops hosted fuel
  obtain ⟨evolved, -⟩ := session.evolves engine (Machine.initial_whole config) admissible
  obtain ⟨l, tells⟩ := evolved.tells
  have whole : history = l := tells.history
  have asked : m.asked = history.filterMap ModuleEvent.asked? := by
    rw [whole]
    exact tells.asked
  have annals (name : String) : ∃ known waiting, Annals name none 0 history known waiting := by
    obtain ⟨waiting, told⟩ := tells.annals name
    have unknown : (Machine.initial config).modules[name]? = none := Std.HashMap.getElem?_empty
    rw [unknown, ← whole] at told
    exact ⟨_, waiting, told⟩
  refine ⟨asked, fun before event after v here result => ?_, fun name prompt => ?_⟩
  · obtain ⟨_, _, told⟩ := annals event.name
    rw [here] at told
    obtain ⟨_, _, -, since⟩ := told.split
    exact (since.not_asked rfl result).1
  · obtain ⟨_, _, told⟩ := annals name
    have once := told.count_asked_le prompt
    refine ⟨asked ▸ once, Nat.le_trans (startsByImport_le name history) once, ?_⟩
    intro before after here unrun
    rw [here] at told prompt
    obtain ⟨_, _, first, -⟩ := told.split
    exact first.one_result prompt.of_append unrun

/-- An embedder that supplies one module when it is first asked, and another one later. -/
def Host.replacing (first second : List UInt8) : Host where
  fetch events _ := if events.isEmpty then .ok first else .ok second
  random _ := 0.0
  native _ _ args := raiseError (args.getD 0 .empty)

theorem Host.replacing_sound [L : Latitude] (first second : List UInt8) :
    (Host.replacing first second).Sound := Host.complaining_sound

/-- A module without code is imported twice, and asked for once. -/
theorem blank_imported_once :
    ∃ bytes, Record.writeAll [Stub.blank 1 0] = .ok bytes ∧
      let host := Host.replacing bytes bytes
      let session := Session.deals (.enter (.importModule "a")) fun _ =>
        .deals (.enter (.importModule "a")) fun _ => .ends
      let ended := session.run host (.ofHost host 3) (.initial .standard)
      let history := ended.2.history.toList
      ended.1 = [.ok [.empty], .ok [.empty]] ∧ Prompt "a" history ∧
        ended.2.asked.count "a" ≤ 1 ∧ startsByImport "a" history ≤ 1 ∧
        ∃ v, ∀ w, .imported "a" w ∈ history → w = v := by
  let _ : Latitude := .running
  obtain ⟨bytes, written⟩ : ∃ bytes, Record.writeAll [Stub.blank 1 0] = .ok bytes := ⟨_, rfl⟩
  refine ⟨bytes, written, ?_⟩
  intro host session ended history
  let m : Machine := (Machine.initial .standard).passed "a" (.blank 1 0)
  have first : importModule host (.ofHost host 3) "a" (.initial .standard) = .ok .empty m :=
    importModule_passed 0 Std.HashMap.getElem?_empty rfl rfl rfl written rfl (by decide)
      (by decide)
  have known : m.modules["a"]? = some .empty := Std.HashMap.getElem?_insert_self
  have second : importModule host (.ofHost host 3) "a" m =
      .ok .empty { m with history := m.history.push (.imported "a" .empty) } := by
    have read : Action.read (fun m => m.modules["a"]?) m = .ok (some .empty) m :=
      congrArg (EStateM.Result.ok · m) known
    rw [importModule, Action.bind_ok read]
    rfl
  have answered (m m' : Machine) (ok : importModule host (.ofHost host 3) "a" m = .ok .empty m') :
      (Dealing.enter (.importModule "a")).answer host (.ofHost host 3) m = (.ok [.empty], m') := by
    have carried : (Dealing.enter (.importModule "a")).carryOut host (.ofHost host 3) m =
        .ok [.empty] m' := by
      show (importModule host (.ofHost host 3) "a" >>= fun v => pure [v]) m = _
      rw [Action.bind_ok ok]
      rfl
    rw [Dealing.answer, carried]
  have run : ended = ([.ok [.empty], .ok [.empty]],
      { m with history := m.history.push (.imported "a" .empty) }) := by
    simp only [ended, session, Session.run, answered _ _ first, answered _ _ second]
  have told : history =
      [.asked "a", .started "a", .imported "a" .empty, .imported "a" .empty] := by
    simp only [history, run]
    rfl
  have prompt : Prompt "a" history := by
    rw [told]
    exact .of_count (by decide)
  have plain := Plan.engine_truthful (Plan.idle_truthful host) 3
  have imported := modules_imported_once .standard (Host.replacing_sound bytes bytes)
    Plan.idle_stops 3 session
  rw [plain] at imported
  obtain ⟨-, -, once⟩ :=
    imported ⟨⟨trivial, fun _ _ _ => trivial⟩, ⟨trivial, fun _ _ _ => trivial⟩, trivial⟩
  obtain ⟨asked, started, results⟩ := once "a" prompt
  refine ⟨congrArg Prod.fst run, prompt, asked, started, ?_⟩
  refine results history [] (List.append_nil _).symm ?_
  rw [told]
  simp

/-- A module that imports the module `a`, and returns Empty. -/
def importing : Stub :=
  { Stub.blank 1 0 with
    strings := #["module", "a"]
    code := #[⟨1, 17, .number 1⟩, ⟨2, 5, .number 0⟩, ⟨3, 5, .number 1⟩, ⟨4, 12, .number 1⟩,
      ⟨5, 20, .number 0⟩] }

namespace Importing
variable {host : Host}

/-- A new machine that has asked for the module and loaded it. -/
def loaded : Machine := ((Machine.initial .standard).asking "a").loading "a" importing

/-- The machine in the course of the module. -/
def course (natives : Array Native) (handed : List Object) (pc : Nat) (stack : List Value) :
    Machine :=
  { loaded with
    objects := (.ofType BuiltinType.function.id (.function (.ofStub importing)) :: handed).toArray
    natives
    slots := #[#[], #[]]
    frames := (Array.replicate 16 Frame.idle).setIfInBounds 0
      ⟨pc, importing, stack, ⟨1, 0, ⟨1⟩⟩, [], #[], none⟩
    depth := 1
    reentry := 1 }

/-- The function that imports a module. -/
def importer : FunctionFacet := .ofStub (Stub.native 1 #["module"])

def natives : Array Native := Native.builtin.modify 1 fun n => { n with value := some ⟨2⟩ }

def given : List Object := [.ofType BuiltinType.function.id (.function importer)]

/-- The machine after the module has been imported in its own course. -/
def again (pc : Nat) (stack : List Value) : Machine :=
  (course natives given pc stack).passed "a" (.blank 2 0)

section
variable {second : List UInt8} (supplied : host.fetch #[.fetched "a"] "a" = .ok second)
  (written : Record.writeAll [Stub.blank 2 0] = .ok second)
include supplied written

/-- The import in the course of the module finds no result, and asks. -/
theorem importer_imports (fuel : Nat) :
    (Engine.ofHost host (fuel + 4)).call (.object ⟨2⟩) [("module", .string "a")]
      (course natives given 4 []) = .ok .empty (again 4 []) := by
  let e := Engine.ofHost host (fuel + 3)
  let m : Machine := { course natives given 4 [] with reentry := 2 }
  have named : bindNamed importer.stub (suppliedArguments importer [("module", .string "a")]) =
      .ok #[.string "a"] := by
    have index : importer.stub.targetIndex? false "module" = some 0 := by decide +kernel
    have one : bindOne importer.stub false #[none] ("module", .string "a") =
        .ok #[some (.string "a")] := by
      simp [bindOne, index]
    show (bindOne importer.stub false #[none] ("module", .string "a") >>= pure) >>= _ = _
    rw [one]
    show Except.ok (Array.map _ _) = _
    simp [Value.ofOption]
  have bound := bindArguments_named (f := importer) rfl named none m
  rw [bindPrivate_none] at bound
  have checked : checkParameters importer #[.string "a"] m = .ok () m := rfl
  have imports : importModule host e "a" m = .ok .empty (m.passed "a" (.blank 2 0)) :=
    importModule_passed fuel Std.HashMap.getElem?_empty supplied rfl rfl written rfl (by decide)
      (by decide)
  have ran : runCalled host e importer #[.string "a"] m =
      .ok .empty (m.passed "a" (.blank 2 0)) := by
    show tryCatch (importModule host e "a") raiseFailure m = _
    rw [Action.tryCatch_eq, imports]
  have called : callFacet host e importer [("module", .string "a")] none m =
      .ok .empty (m.passed "a" (.blank 2 0)) := by
    rw [callFacet_eq, Action.bind_ok bound, Action.bind_ok checked, Action.bind_ok ran]
    rfl
  show finally_ (callFacet host e importer _ none) _ m = _
  rw [finally_, called]
  rfl

/-- The instructions of the module, one by one. -/
theorem runFrame_course (fuel : Nat) :
    runFrame (Engine.ofHost host (fuel + 5)) 0 (fuel + 5) (course Native.builtin [] 0 []) =
      .ok .empty (again 5 [.empty]) := by
  have imports := importer_imports supplied written (fuel + 1)
  generalize Engine.ofHost host (fuel + 5) = e at imports ⊢
  calc runFrame e 0 (fuel + 5) (course Native.builtin [] 0 [])
    _ = runFrame e 0 (fuel + 4) (course natives given 1 [.object ⟨2⟩]) :=
      runFrame_next ((proceed_instruction e rfl).trans rfl) _
    _ = runFrame e 0 (fuel + 3) (course natives given 2 [.string "module", .object ⟨2⟩]) :=
      runFrame_next ((proceed_instruction e rfl).trans rfl) _
    _ = runFrame e 0 (fuel + 2)
          (course natives given 3 [.string "a", .string "module", .object ⟨2⟩]) :=
      runFrame_next ((proceed_instruction e rfl).trans rfl) _
    _ = runFrame e 0 (fuel + 1) (again 4 [.empty]) := by
      refine runFrame_next ?_ _
      rw [proceed_instruction e rfl]
      show pushResult 0 (e.call (.object ⟨2⟩) [("module", .string "a")])
        (course natives given 4 []) = _
      rw [pushResult, Action.bind_ok imports]
      rfl
    _ = .ok .empty (again 5 [.empty]) := by
      rw [runFrame_succ, Action.bind_eq, proceed_instruction e rfl]
      rfl

end

end Importing

/-- **A module that imports itself is run again**, although no import of it fails: the embedder is
asked for it twice and its entry is started twice. -/
theorem importing_started_twice :
    ∃ first second, Record.writeAll [importing] = .ok first ∧
      Record.writeAll [Stub.blank 2 0] = .ok second ∧
      let host := Host.replacing first second
      ∃ m, importModule host (.ofHost host 7) "a" (.initial .standard) = .ok .empty m ∧
        m.asked = ["a", "a"] ∧ startsByImport "a" m.history.toList = 2 ∧
        m.history.toList = [.asked "a", .started "a", .asked "a", .started "a",
          .imported "a" .empty, .imported "a" .empty] := by
  obtain ⟨first, written⟩ : ∃ bytes, Record.writeAll [importing] = .ok bytes := ⟨_, rfl⟩
  obtain ⟨second, written'⟩ : ∃ bytes, Record.writeAll [Stub.blank 2 0] = .ok bytes := ⟨_, rfl⟩
  refine ⟨first, second, written, written', ?_⟩
  intro host
  have paired : ∀ i ∈ importing.code, i.Paired := by
    simp [importing, Instruction.Paired, Opcode.ofByte?, Opcode.all]
  have supplied : host.fetch #[.fetched "a"] "a" = .ok second := rfl
  have course := Importing.runFrame_course supplied written' 0
  have entered : runFile (Engine.ofHost host 7) 1 Importing.loaded =
      finally_ (finally_ (runFrame (Engine.ofHost host 5) 0 5) Machine.popFrame)
        (fun m => { m with reentry := m.reentry - 1 }) (Importing.course Native.builtin [] 0 []) :=
    runFile_entered (m := Importing.loaded) 5 (stub_loading rfl) rfl rfl rfl (by decide)
  have ran : settle (runFile (Engine.ofHost host 7) 1) Importing.loaded =
      .ok .empty { (Importing.again 5 [.empty]).popFrame with reentry := 0 } := by
    rw [settle, entered]
    simp only [finally_, course]
    rfl
  have imported := @importModule_delivered host "a" first importing (.initial .standard)
    (.ofHost host 7) Std.HashMap.getElem?_empty rfl paired written rfl rfl
  exact ⟨_, imported.trans (Action.bind_ok ran), rfl, rfl, rfl⟩

end StubMachine
