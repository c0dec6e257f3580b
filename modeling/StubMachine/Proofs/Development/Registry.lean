import StubMachine.Proofs.Development.Native
import StubMachine.Proofs.Entry

/-!
# What is loaded stays loaded

A load is all or nothing (`Machine.LoadsExactly`).  It fails and leaves the machine as it was, and
so does a run of the module; or the file has the next id, and under that id exactly the ids of its
records are bound, each to the last record of the id.  Beyond that nothing changes but what is on
record about modules, and the closures that the code of other files makes are the same as before.

**As the code of a machine develops, the list of files only grows, and no binding of a file that is
loaded ever changes** (`Machine.Develops.secures`).
-/

namespace StubMachine

open StubMachine.Action

namespace Machine

/-! ## Bindings that stay -/

/-- **What is loaded stays as it is**: files keep their ids and names, and the ids of a loaded file
stay bound to what they are bound to, or unbound. -/
structure Secures (m m' : Machine) : Prop where
  files : m.files.toList <+: m'.files.toList
  bindings (file id : UInt32) : file.toNat < m.files.size →
    m'.stubs[(file, id)]? = m.stubs[(file, id)]?

namespace Secures
variable {m m₁ m₂ : Machine}

/-- There are as many files as before, or more. -/
theorem size_le (h : m.Secures m₁) : m.files.size ≤ m₁.files.size := h.files.length_le

theorem of_eq (files : m₁.files = m.files) (stubs : m₁.stubs = m.stubs) : m.Secures m₁ where
  files := files ▸ List.prefix_refl _
  bindings file id _ := by rw [stubs]

theorem trans (h : m.Secures m₁) (h' : m₁.Secures m₂) : m.Secures m₂ where
  files := h.files.trans h'.files
  bindings file id loaded :=
    (h'.bindings file id (Nat.lt_of_lt_of_le loaded h.size_le)).trans (h.bindings file id loaded)

end Secures

variable {m m' : Machine} {name : String} {bytes : List UInt8} {found : Array Stub}

/-! ## Loading -/

/-- An id for which there is room is the number of files. -/
theorem nextFile_toNat (room : m.files.size < UInt32.size) :
    (UInt32.ofNat m.files.size).toNat = m.files.size := UInt32.toNat_ofNat_of_lt' room

/-- **The bindings of a file that has been loaded**: each id is bound to its last record. -/
theorem stub_withFile_own (unused : ∀ id s, ¬ m.HasStub (.ofNat m.files.size) id s) (id : UInt32) :
    (m.withFile name found).stubs[(UInt32.ofNat m.files.size, id)]? =
      found.toList.reverse.find? fun s => s.id == id := by
  have before : m.stubs[(UInt32.ofNat m.files.size, id)]? = none :=
    Option.eq_none_iff_forall_ne_some.mpr fun s has => unused id s has
  have same (file : UInt32) :
      (fun s : Stub => (file, s.id) == (file, id)) = fun s => s.id == id := by
    funext s
    show (file == file && s.id == id) = (s.id == id)
    rw [beq_self_eq_true, Bool.true_and]
  rw [withFile, registerStubs_lookup, before, Option.or_none, same]

/-- Loading a file changes no binding of another one. -/
theorem stub_withFile_other {file : UInt32} (other : file ≠ .ofNat m.files.size) (id : UInt32) :
    (m.withFile name found).stubs[(file, id)]? = m.stubs[(file, id)]? := by
  rw [withFile, registerStubs_lookup, List.find?_eq_none.mpr fun s _ placed => ?_, Option.none_or]
  exact other (congrArg Prod.fst (eq_of_beq placed)).symm

theorem secures_withFile (room : m.files.size < UInt32.size) :
    m.Secures (m.withFile name found) where
  files := by
    show m.files.toList <+: (m.files.push name).toList
    rw [Array.toList_push]
    exact List.prefix_append _ _
  bindings file id loaded := by
    refine stub_withFile_other (fun here => ?_) id
    rw [here, nextFile_toNat room] at loaded
    exact Nat.lt_irrefl _ loaded

/-- **No binding of a loaded file changes** as code develops. -/
theorem Develops.secures (h : m.Develops m') : m.Secures m' := by
  induction h with
  | aside same => exact .of_eq same.files same.stubs
  | loads run =>
    obtain ⟨room, -, found, -, -, rfl⟩ := load_ok run
    exact secures_withFile room
  | makes | enters | leaves => exact .of_eq rfl rfl
  | trans _ _ ih ih' => exact ih.trans ih'

/-! ## Closures -/

/-- **A file that is loaded makes no difference to the closures of other code.** -/
theorem makeClosure_withFile {i : Nat} (other : (m.frame i).stub.file ≠ .ofNat m.files.size)
    (id : UInt32) (types : Option (Array TypeId)) (v : Value) (n' : Machine) :
    makeClosure i id types (m.withFile name found) = .ok v n' ↔
      ∃ n, makeClosure i id types m = .ok v n ∧ n' = n.withFile name found := by
  -- the stubs of the new file are not beside those of the running code
  have bound (stub : Stub) : (m.withFile name found).HasStub (m.frame i).stub.file id stub ↔
      m.HasStub (m.frame i).stub.file id stub := by
    rw [HasStub, stub_withFile_other other, HasStub]
  constructor
  · intro run
    rcases makeClosure_cases i id types (m.withFile name found) with
      ⟨fault, raised⟩ | ⟨cause, fatal⟩ | ⟨stub, captures, here, resolved, made⟩
    · exact absurd (raised.symm.trans run) (raise_ne_ok _ _ _ _)
    · cases fatal.symm.trans run
    · cases made.symm.trans run
      exact ⟨_, makeClosure_ok ((bound stub).mp here) resolved types, rfl⟩
  · rintro ⟨n, run, rfl⟩
    rcases makeClosure_cases i id types m with
      ⟨fault, raised⟩ | ⟨cause, fatal⟩ | ⟨stub, captures, here, resolved, made⟩
    · exact absurd (raised.symm.trans run) (raise_ne_ok _ _ _ _)
    · cases fatal.symm.trans run
    · cases made.symm.trans run
      have here' : (m.withFile name found).HasStub (m.frame i).stub.file id stub :=
        (bound stub).mpr here
      exact makeClosure_ok here' resolved types

/-! ## All or nothing -/

/-- **A load is all or nothing** in a state. -/
structure LoadsExactly (m : Machine) (name : String) (bytes : List UInt8) : Prop where
  /-- What is loaded decodes to stubs one of which is the entry, and there is an id for it. -/
  loadable : (∃ file m', load name bytes m = .ok file m') ↔
    m.files.size < UInt32.size ∧
      ∃ found, Record.readAll (.ofNat m.files.size) bytes = .ok found ∧ ∃ s ∈ found, s.id = 0
  /-- A load that fails leaves everything as it was, and then nothing is run. -/
  failing {failure : Failure} {m' : Machine} : load name bytes m = .error failure m' → m' = m ∧
    (∀ origin e, runAs origin e name bytes m = .error failure m) ∧
    ∀ host e, m.modules[name]? = none → host.fetch m.events name = .ok bytes →
      importModule host e name m = .error failure (m.asking name)
  /-- The next id is given to the file, and its records are what is bound under it. -/
  loaded {file : UInt32} {m' : Machine} : load name bytes m = .ok file m' →
    file.toNat = m.files.size ∧ ∃ found, Record.readAll file bytes = .ok found ∧
      m' = m.withFile name found ∧
      (∀ id : UInt32, m'.stubs[(file, id)]? = found.toList.reverse.find? fun s => s.id == id) ∧
      (∀ file' id : UInt32, file' ≠ file → m'.stubs[(file', id)]? = m.stubs[(file', id)]?) ∧
      ∀ i, (m.frame i).stub.file ≠ file → ∀ id types v n',
        makeClosure i id types m' = .ok v n' ↔
          ∃ n, makeClosure i id types m = .ok v n ∧ n' = n.withFile name found

/-- A load that fails fails in all states with the same files. -/
theorem load_error_congr {n : Machine} (files : n.files = m.files) {failure : Failure}
    (run : load name bytes m = .error failure m') : load name bytes n = .error failure n := by
  simp only [load, files] at run ⊢
  by_cases full : UInt32.size ≤ m.files.size
  · rw [if_pos full] at run ⊢
    cases run
    rfl
  · rw [if_neg full] at run ⊢
    cases decoded : Record.readAll (.ofNat m.files.size) bytes with
    | error f =>
      rw [decoded] at run
      cases run
      rfl
    | ok found =>
      rw [decoded] at run
      dsimp only at run ⊢
      split at run
      · cases run
      · rename_i incomplete
        rw [if_neg incomplete]
        cases run
        rfl

/-- **A load is all or nothing** in a state in which nothing is bound for the next file yet. -/
theorem loadsExactly (unused : m.files.size < UInt32.size → ∀ id s,
    ¬ m.HasStub (.ofNat m.files.size) id s) (name : String) (bytes : List UInt8) :
    m.LoadsExactly name bytes where
  loadable := by
    constructor
    · rintro ⟨file, m', run⟩
      obtain ⟨room, rfl, found, decoded, entry, -⟩ := load_ok run
      exact ⟨room, found, decoded, entry⟩
    · rintro ⟨room, found, decoded, entry⟩
      exact ⟨_, _, load_succeeds room decoded entry⟩
  failing run := by
    cases load_error run
    refine ⟨rfl, fun origin e => Action.bind_error run, fun host e unknown given => ?_⟩
    have files : (m.asking name).files = m.files := rfl
    rw [importModule_asking e unknown given]
    exact Action.bind_error (load_error_congr files run)
  loaded run := by
    obtain ⟨room, rfl, found, decoded, -, rfl⟩ := load_ok run
    exact ⟨nextFile_toNat room, found, decoded, rfl, stub_withFile_own (unused room),
      fun file' id other => stub_withFile_other other id,
      fun i other id types v n' => makeClosure_withFile other id types v n'⟩

end Machine
end StubMachine
