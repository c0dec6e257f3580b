import StubMachine.Proofs.Coherence
import StubMachine.Proofs.FrameDiscipline

/-!
# What an embedder sees of a call

The calls of an embedder are settled: an error that escapes is reported, a signal that
escapes is the result, and nothing stays pending.  The same entry points are used by
functions of the embedder in the middle of a run, where they must not settle anything;
the number of calls under way tells the two apart.

**As long as a call is under way, the embedder is told of no unhandled error**, whatever
is called, run or imported on the way (`Machine.BooksKept`).  So of all the errors
raised in a run it is told of at most one, the one that escapes from the outermost call,
and that one is told once.  What escapes was raised in this very call and is as it was
when it was raised, with the same file and line, however often it was put back on its
way in the meantime.

`EntryPoint.inside` is what an entry point does before the settling.  **How it ends
settles the whole** (`Settles`): what the embedder sees, and that the machine is idle
again and can be used.
-/

namespace StubMachine

open StubMachine.Action

/-! ## The books -/

namespace Machine

/-- The embedder has been told of no unhandled error in the meantime. -/
structure Untold (m m' : Machine) : Prop where
  notifications : m'.notifications = m.notifications
  lastUnhandled : m'.lastUnhandled = m.lastUnhandled

/-- What is pending was pending before or has been raised in the meantime. -/
def Traced (m m' : Machine) : Prop :=
  ∃ raised, m'.raised = raised ++ m.raised ∧
    ∀ c, m'.pending = some c → m.pending = some c ∨ ∃ r ∈ raised, r.catchable = c

/-- **The books are kept** between two states: the number of calls under way is the same; if any
is under way, the embedder has been told of no unhandled error; and what is pending can be
traced to its raising. -/
structure BooksKept (m m' : Machine) : Prop where
  reentry : m'.reentry = m.reentry
  untold : 0 < m.reentry → m.Untold m'
  traced : m.Traced m'

namespace Untold
variable {m m₁ m₂ : Machine}

theorem refl (m : Machine) : m.Untold m := ⟨rfl, rfl⟩

theorem trans (h : m.Untold m₁) (h' : m₁.Untold m₂) : m.Untold m₂ :=
  ⟨h'.notifications.trans h.notifications, h'.lastUnhandled.trans h.lastUnhandled⟩

theorem of_course (h : m.SameCourse m₁) : m.Untold m₁ := ⟨h.notifications, h.lastUnhandled⟩

end Untold

namespace Traced
variable {m m₁ m₂ : Machine}

/-- Nothing has been raised, and what is pending was pending before. -/
theorem of_raised_eq (raised : m₁.raised = m.raised)
    (pending : ∀ c, m₁.pending = some c → m.pending = some c) : m.Traced m₁ :=
  ⟨[], raised, fun c onWay => .inl (pending c onWay)⟩

theorem of_quiet (raised : m₁.raised = m.raised) (quiet : m₁.pending = none) : m.Traced m₁ := by
  refine of_raised_eq raised fun c onWay => ?_
  rw [quiet] at onWay
  cases onWay

theorem trans (h : m.Traced m₁) (h' : m₁.Traced m₂) : m.Traced m₂ := by
  obtain ⟨raised, eq, origin⟩ := h
  obtain ⟨raised', eq', origin'⟩ := h'
  refine ⟨raised' ++ raised, by rw [eq', eq, List.append_assoc], fun c onWay => ?_⟩
  rcases origin' c onWay with before | ⟨r, hr, rfl⟩
  · rcases origin c before with before | ⟨r, hr, rfl⟩
    · exact .inl before
    · exact .inr ⟨r, List.mem_append_right _ hr, rfl⟩
  · exact .inr ⟨r, List.mem_append_left _ hr, rfl⟩

theorem of_course (h : m.SameCourse m₁) : m.Traced m₁ :=
  of_raised_eq h.raised fun _ onWay => h.pending ▸ onWay

theorem signalled (m : Machine) (kind : CatchableKind) (payload : Value) :
    m.Traced (m.signalled kind payload) := by
  refine ⟨[⟨m.catchable kind payload, m.pending⟩], rfl, fun c onWay => .inr ?_⟩
  exact ⟨_, List.mem_singleton.mpr rfl, Option.some.inj onWay⟩

end Traced
end Machine

/-- **The law of the books.**  Frames play no part in it. -/
def Law.books : Law where
  Holds _ := True
  Rel _ := Machine.BooksKept
  holds _ _ := trivial
  refl _ m := ⟨rfl, fun _ => .refl m, .of_raised_eq rfl fun _ => id⟩
  trans h h' := {
    reentry := h'.reentry.trans h.reentry
    untold := fun busy => (h.untold busy).trans (h'.untold (h.reentry ▸ busy))
    traced := h.traced.trans h'.traced }
  ofNative := id
  ofInstruction := id
  stored h := ⟨h.reentry, fun _ => .of_course h.toSameCourse, .of_course h.toSameCourse⟩
  signalled m kind payload := ⟨rfl, fun _ => ⟨rfl, rfl⟩, .signalled m kind payload⟩
  quieted _ := ⟨rfl, fun _ => ⟨rfl, rfl⟩, .of_quiet rfl rfl⟩
  reported _ _ idle := ⟨rfl, fun busy => absurd idle (Nat.ne_of_gt busy), .of_quiet rfl rfl⟩
  frame _ _ _ _ := ⟨rfl, fun _ => ⟨rfl, rfl⟩, .of_raised_eq rfl fun _ => id⟩
  reframe _ _ _ _ := ⟨rfl, fun _ => ⟨rfl, rfl⟩, .of_raised_eq rfl fun _ => id⟩

instance : Law.books.Lenient := ⟨fun h => ⟨h.reentry, fun _ => .of_course h, .of_course h⟩⟩

/-- **A call under way tells the embedder of nothing**, whether or not another one is under way
around it. -/
theorem underway_books {x : Action Value} (h : Law.books.Lockstep .native x x) (m : Machine) :
    m.BooksKept ((underway x).after m) ∧ m.Untold ((underway x).after m) := by
  have inside := (h { m with reentry := m.reentry + 1 } trivial).2
  show m.BooksKept ((finally_ x _).after { m with reentry := m.reentry + 1 }) ∧
    m.Untold ((finally_ x _).after { m with reentry := m.reentry + 1 })
  rw [Action.after_finally]
  have untold := inside.untold (Nat.succ_pos m.reentry)
  refine ⟨⟨?_, fun _ => ⟨untold.notifications, untold.lastUnhandled⟩, inside.traced⟩,
    untold.notifications, untold.lastUnhandled⟩
  show (x.after _).reentry - 1 = m.reentry
  rw [inside.reentry]
  rfl

/-- **Requests keep the books.** -/
theorem perform_books {host : Host} (confined : host.Confined) (fuel : Nat) (q : Request) :
    Law.books.Lockstep .native (perform host fuel q) (perform host fuel q) := by
  induction fuel generalizing q with
  | zero => exact .of_rel fun m => Law.books.refl .native m
  | succ fuel ih =>
    let e := Engine.ofHost host fuel
    cases q with
    | call function arguments binding =>
      have called := callValue_lockstep (e := e) confined rfl ih function arguments binding
      exact .of_rel fun m => (underway_books called m).1
    | enter facet parameters restart =>
      refine .of_rel fun m => ?_
      rw [perform_enter]
      by_cases full : m.config.maxCallDepth ≤ m.depth
      · rw [Action.after, withFrame_eq, if_pos full]
        exact (Law.Lockstep.raiseError (L := .books) (r := .native) (α := Value) _ m trivial).2
      · rw [after_withFrame full]
        have entered : m.BooksKept (m.pushFrame facet parameters restart) :=
          ⟨rfl, fun _ => ⟨rfl, rfl⟩, .of_raised_eq rfl fun _ => id⟩
        have left (m : Machine) : m.BooksKept m.popFrame :=
          ⟨rfl, fun _ => ⟨rfl, rfl⟩, .of_raised_eq rfl fun _ => id⟩
        have routine : Routine .alone (.activation m.depth) fun e =>
            runFrame e m.depth fuel := runFrame_routine m.depth fuel
        have ran := (routine.lockstep (e := e) rfl ih (fun _ => False.elim)
          (m.pushFrame facet parameters restart) trivial).2
        exact Law.books.trans (r := .native) (Law.books.trans (r := .native) entered ran) (left _)

/-- A call tells the embedder of nothing. -/
theorem call_untold {host : Host} (confined : host.Confined) (fuel : Nat)
    (function : Value) (arguments : Arguments) (m : Machine) :
    m.Untold (((Engine.ofHost host fuel).call function arguments).after m) := by
  cases fuel with
  | zero => exact .refl m
  | succ fuel =>
    have called := callValue_lockstep (e := Engine.ofHost host fuel) confined rfl
      (perform_books confined fuel) function arguments none
    exact (underway_books called m).2

/-! ## Settling -/

namespace Machine

/-- **A machine that is idle**: no frame is active, no call is under way, nothing is pending. -/
structure Idle (m : Machine) : Prop where
  depth : m.depth = 0
  reentry : m.reentry = 0
  pending : m.pending = none

theorem Idle.sound {m : Machine} (h : m.Idle) : m.Sound :=
  ⟨h.depth ▸ Nat.zero_le _, h.depth ▸ Nat.zero_le _⟩

theorem Idle.of_course {m m' : Machine} (h : m.Idle) (same : m.SameCourse m') : m'.Idle :=
  ⟨same.depth.trans h.depth, same.reentry.trans h.reentry, same.pending.trans h.pending⟩

/-- **The summary of an error**: the entry `summary` of its payload if that is a string, and else
the words `Unknown error`. -/
inductive Summary (m : Machine) (payload : Value) : String → Prop
  | entry {o : ObjectId} {s : String} (object : payload = .object o)
      (held : (m.object o).text? "summary" = some (.string s)) : Summary m payload s
  | unknown (noEntry : ∀ o s, payload = .object o →
      (m.object o).text? "summary" ≠ some (.string s)) : Summary m payload "Unknown error"

/-- The embedder is told the summary of the error that escaped. -/
theorem unhandled_summary (m : Machine) (c : Catchable) :
    m.Summary c.payload (m.unhandled c).summary := by
  rw [unhandled]
  cases payload : c.payload with
  | object o =>
    simp only [summaryOf]
    split
    · rename_i s held
      exact .entry rfl held
    · rename_i other
      exact .unknown fun _ s eq held => by cases eq; exact other s held
  | _ =>
    refine .unknown fun o s isObject => ?_
    cases isObject

theorem reported_notifications (m : Machine) (c : Catchable) :
    (m.reported c).notifications = m.notifications ++ [m.unhandled c] := by
  simp [notifications, reported]

end Machine

/-- **How a call ends for the embedder**, given how it ended within the machine: with its result;
with the payload of a signal that escaped; with an unhandled error that the embedder has been
told of, once, about an error that was raised in the call and escaped; or with a failure that
passes through.  In every case that ends at all the machine is idle, and in all cases but one
the embedder has been told of nothing. -/
inductive Settles (m : Machine) :
    EStateM.Result Failure Machine Value → EStateM.Result Failure Machine Value → Prop
  | result {v : Value} {m₁ m' : Machine} (idle : m'.Idle) (untold : m.Untold m') :
      Settles m (.ok v m₁) (.ok v m')
  | sent {c : Catchable} {m₁ m' : Machine} (onWay : m₁.pending = some c) (kind : c.kind = .send)
      (idle : m'.Idle) (untold : m.Untold m') :
      Settles m (.error .unwinding m₁) (.ok c.payload m')
  | escaped {c : Catchable} {error : UnhandledError} {m₁ m' : Machine}
      (onWay : m₁.pending = some c) (kind : c.kind = .error)
      (origin : ∃ raised, m₁.raised = raised ++ m.raised ∧ ∃ r ∈ raised, r.catchable = c)
      (file : error.file = c.file) (line : error.line = c.line)
      (summary : m₁.Summary c.payload error.summary)
      (idle : m'.Idle) (told : m'.notifications = m.notifications ++ [error])
      (last : m'.lastUnhandled = some c.payload) :
      Settles m (.error .unwinding m₁) (.error (.unhandled error) m')
  | fatal {cause : FatalCause} {m₁ m' : Machine} (idle : m'.Idle) (untold : m.Untold m') :
      Settles m (.error (.fatal cause) m₁) (.error (.fatal cause) m')
  /-- The embedder did not supply the module. -/
  | refused {name detail : String} {m₁ m' : Machine} (idle : m'.Idle) (untold : m.Untold m') :
      Settles m (.error (.plain (.importFailed name detail)) m₁)
        (.error (.plain (.importFailed name detail)) m')
  /-- No id is left for the module. -/
  | full {m₁ m' : Machine} (idle : m'.Idle) (untold : m.Untold m') :
      Settles m (.error (.plain .fileCount) m₁) (.error (.plain .fileCount) m')
  /-- The bound on the run was used up, so the call has not returned. -/
  | exhausted {m₁ m' : Machine} : Settles m (.error .exhausted m₁) (.error .exhausted m')

namespace Settles
variable {m m₀ : Machine} {inner outer : EStateM.Result Failure Machine Value}

/-- Settling what has started a little later. -/
theorem after_course (same : m.SameCourse m₀) (h : Settles m₀ inner outer) :
    Settles m inner outer := by
  have before : m.Untold m₀ := .of_course same
  cases h with
  | result idle untold => exact .result idle (before.trans untold)
  | sent onWay kind idle untold => exact .sent onWay kind idle (before.trans untold)
  | escaped onWay kind origin file line summary idle told last =>
    rw [same.raised] at origin
    rw [same.notifications] at told
    exact .escaped onWay kind origin file line summary idle told last
  | fatal idle untold => exact .fatal idle (before.trans untold)
  | refused idle untold => exact .refused idle (before.trans untold)
  | full idle untold => exact .full idle (before.trans untold)
  | exhausted => exact .exhausted

/-- Keeping the result of a module changes nothing for the embedder. -/
theorem keep {x : Action Value} (origin : String → Value → ModuleEvent) (name : String)
    (h : Settles m inner (x m)) :
    Settles m inner ((do let v ← x; keepModule origin name v; return v : Action Value) m) := by
  simp only [Action.bind_eq]
  generalize x m = outer at h
  have kept {m' : Machine} (v : Value) (idle : m'.Idle) :
      ({ m' with
        modules := m'.modules.insert name v
        history := m'.history.push (origin name v) } : Machine).Idle :=
    ⟨idle.depth, idle.reentry, idle.pending⟩
  cases h with
  | result idle untold => exact .result (kept _ idle) ⟨untold.1, untold.2⟩
  | sent onWay kind idle untold => exact .sent onWay kind (kept _ idle) ⟨untold.1, untold.2⟩
  | escaped onWay kind origin file line summary idle told last =>
    exact .escaped onWay kind origin file line summary idle told last
  | fatal idle untold => exact .fatal idle untold
  | refused idle untold => exact .refused idle untold
  | full idle untold => exact .full idle untold
  | exhausted => exact .exhausted

end Settles

/-- An error on its way out of an idle machine was raised since, and is told. -/
theorem reported_settles {m m₁ : Machine} {c : Catchable} (idle : m.Idle)
    (onWay : m₁.pending = some c) (kind : c.kind = .error) (quieted : m₁.quieted.Idle)
    (untold : m.Untold m₁) (traced : m.Traced m₁) :
    Settles m (.error .unwinding m₁) (.error (.unhandled (m₁.unhandled c)) (m₁.reported c)) := by
  obtain ⟨raised, eq, origin⟩ := traced
  have raisedHere : ∃ r ∈ raised, r.catchable = c := by
    rcases origin c onWay with before | here
    · rw [idle.pending] at before
      cases before
    · exact here
  have told := m₁.reported_notifications c
  rw [untold.notifications] at told
  have idle' : (m₁.reported c).Idle := ⟨quieted.depth, quieted.reentry, rfl⟩
  exact .escaped onWay kind ⟨raised, eq, raisedHere⟩ rfl rfl (m₁.unhandled_summary c) idle' told rfl

/-- **Settling settles**, from an idle machine. -/
theorem settle_settles {x : Action Value} {r : Rank} {m : Machine} (idle : m.Idle)
    (coherent : Coherent False (x m)) (kept : m.Kept r (x.after m))
    (untold : m.Untold (x.after m)) (traced : m.Traced (x.after m)) :
    Settles m (x m) (settle x m) := by
  rw [Action.after] at kept untold traced
  cases run : x m with
  | ok v m₁ =>
    rw [run] at coherent kept untold
    rw [settle, run]
    exact .result ⟨kept.depth.trans idle.depth, kept.reentry.trans idle.reentry, coherent⟩ untold
  | error failure m₁ =>
    rw [run] at coherent kept untold traced
    have alone : ¬ 0 < m₁.reentry := by
      rw [kept.reentry, idle.reentry]
      exact Nat.lt_irrefl 0
    have quieted : m₁.quieted.Idle :=
      ⟨kept.depth.trans idle.depth, kept.reentry.trans idle.reentry, rfl⟩
    have still : m.Untold m₁.quieted := ⟨untold.notifications, untold.lastUnhandled⟩
    rw [settle, run]
    simp only [alone, if_false]
    cases failure with
    | unwinding =>
      obtain ⟨c, onWay⟩ := coherent
      simp only [onWay]
      cases kind : c.kind with
      | send => exact .sent onWay kind quieted still
      | error => exact reported_settles idle onWay kind quieted untold traced
    | fatal cause => exact .fatal quieted still
    | exhausted => exact .exhausted
    | unhandled error => exact coherent.1.elim
    | plain fault => exact coherent.1.elim

/-! ## Entry points -/

/-- The ways into a machine from outside. -/
inductive EntryPoint
  | run (name : String) (bytes : List UInt8)
  | importModule (name : String)
  | callFunction (function : Value) (arguments : Arguments)

namespace EntryPoint

/-- Go in, and settle what comes out. -/
def start (host : Host) (e : Engine) : EntryPoint → Action Value
  | run name bytes => runModule e name bytes
  | importModule name => StubMachine.importModule host e name
  | callFunction function arguments => StubMachine.callFunction e function arguments

/-- What an entry point does within the machine, before anything is settled. -/
def inside (host : Host) (e : Engine) : EntryPoint → Action Value
  | run name bytes => do
    let file ← load name bytes
    runFile e file
  | importModule name => do
    match ← Action.read fun m => m.modules[name]? with
    | some v => return v
    | none =>
      let bytes ← fetch host name
      let file ← load name bytes
      runFile e file
  | callFunction function arguments => e.call function arguments

theorem start_routine {P : License} (host : Host) (entry : EntryPoint) :
    Routine P .native fun e => entry.start host e := by
  cases entry with
  | run name bytes => exact runModule_routine name bytes
  | importModule name => exact importModule_routine host name
  | callFunction function arguments => exact .settle (.call function arguments)

/-- Going in is among what an embedder can do, also from within its functions. -/
theorem start_embedded (host : Host) (entry : EntryPoint) :
    Embedded fun e => entry.start host e :=
  .machine (entry.start_routine host)

end EntryPoint

theorem load_cases (name : String) (bytes : List UInt8) (m : Machine) :
    (∃ file m₁, load name bytes m = .ok file m₁ ∧ m.SameCourse m₁) ∨
      (∃ cause, load name bytes m = .error (.fatal cause) m) ∨
      load name bytes m = .error (.plain .fileCount) m := by
  simp only [load]
  split
  · exact .inr (.inr rfl)
  · split
    · exact .inr (.inl ⟨_, rfl⟩)
    · split
      · exact .inl ⟨_, _, rfl, .stored rfl⟩
      · exact .inr (.inl ⟨_, rfl⟩)

theorem fetch_cases (host : Host) (name : String) (m : Machine) :
    ∃ m₁, m.SameCourse m₁ ∧ ((∃ bytes, fetch host name m = .ok bytes m₁) ∨
      ∃ detail, fetch host name m = .error (.plain (.importFailed name detail)) m₁) := by
  refine ⟨_, .fetched m name, ?_⟩
  cases answer : host.fetch m.events name with
  | ok bytes => exact .inl ⟨bytes, by simp only [fetch, answer]⟩
  | error detail => exact .inr ⟨detail, by simp only [fetch, answer]⟩

section EntryPoints
variable {host : Host} {m : Machine}

/-- The entry of a loaded file is called, and nothing else happens, so the embedder is told of
nothing. -/
theorem runFile_untold (confined : host.Confined) (fuel : Nat) (file : UInt32) (m : Machine) :
    m.Untold ((runFile (Engine.ofHost host fuel) file).after m) := by
  let e := Engine.ofHost host fuel
  cases stub? : m.stubs[(file, (0 : UInt32))]? with
  | none =>
    have stop : runFile e file m = .error (.fatal (.missingEntryOfFile file)) m := by
      simp only [runFile, Action.bind_eq, Action.read, stub?]
      rfl
    rw [Action.after, stop]
    exact .refl m
  | some stub =>
    obtain ⟨entry, m₁, made, same⟩ : ∃ entry m₁, newFunction (.ofStub stub) m = .ok entry m₁ ∧
        m.Stored m₁ := ⟨_, _, rfl, .pushed fun _ function => Option.some.inj function ▸ .ofStub stub⟩
    have called : runFile e file m = e.call entry [] m₁ := by
      simp only [runFile, Action.bind_eq, Action.read, stub?, made]
    rw [Action.after, called]
    exact (Machine.Untold.of_course same.toSameCourse).trans
      (call_untold confined fuel entry [] m₁)

variable (wellBehaved : host.WellBehaved) (confined : host.Confined) (fuel : Nat) (idle : m.Idle)
include wellBehaved confined idle

/-- What a routine comes to is settled. -/
theorem routine_settles {x : Procedure Value} (routine : Routine .alone .operation x)
    (untold : m.Untold ((x (Engine.ofHost host fuel)).after m)) :
    Settles m (x (Engine.ofHost host fuel) m) (settle (x (Engine.ofHost host fuel)) m) := by
  let e := Engine.ofHost host fuel
  have coherent : Coherent False (x e m) :=
    (routine.keeps (perform_keeps wellBehaved fuel) (fun _ => False.elim) m idle.pending).1
  have kept : m.Kept .operation ((x e).after m) :=
    (routine.lockstep (L := .sound) rfl (perform_frames confined fuel)
      (fun _ => False.elim) m idle.sound).2
  have books : m.BooksKept ((x e).after m) :=
    (routine.lockstep (L := .books) rfl (perform_books confined fuel)
      (fun _ => False.elim) m trivial).2
  exact settle_settles idle coherent kept untold books.traced

/-- Loading a file, calling its entry and keeping the result. -/
theorem runAs_settles (origin : String → Value → ModuleEvent) (name : String)
    (bytes : List UInt8) :
    let e := Engine.ofHost host fuel
    Settles m ((load name bytes >>= runFile e) m) (runAs origin e name bytes m) := by
  intro e
  rw [runAs]
  rcases load_cases name bytes m with ⟨file, m₁, loaded, same⟩ | ⟨cause, failed⟩ | full
  · rw [Action.bind_ok loaded, Action.bind_ok loaded]
    refine .after_course same (.keep origin name ?_)
    exact routine_settles wellBehaved confined fuel (idle.of_course same) (runFile_routine file)
      (runFile_untold confined fuel file m₁)
  · rw [Action.bind_error failed, Action.bind_error failed]
    exact .fatal idle (.refl m)
  · rw [Action.bind_error full, Action.bind_error full]
    exact .full idle (.refl m)

end EntryPoints

/-- **Every call of an embedder is settled**: it tells the embedder of the error that escaped, if
one did, and of nothing else, and it leaves an idle machine. -/
theorem entryPoint_settles {host : Host} (wellBehaved : host.WellBehaved)
    (confined : host.Confined) (fuel : Nat) (entry : EntryPoint) {m : Machine} (idle : m.Idle) :
    let e := Engine.ofHost host fuel
    Settles m (entry.inside host e m) (entry.start host e m) := by
  intro e
  cases entry with
  | run name bytes => exact runAs_settles wellBehaved confined fuel idle .ran name bytes
  | importModule name =>
    rw [EntryPoint.inside, EntryPoint.start, importModule]
    have read : Action.read (fun m => m.modules[name]?) m = .ok m.modules[name]? m := rfl
    rw [Action.bind_ok read, Action.bind_ok read]
    cases m.modules[name]? with
    | some v => exact .result ⟨idle.depth, idle.reentry, idle.pending⟩ ⟨rfl, rfl⟩
    | none =>
      obtain ⟨m₁, same, fetched⟩ := fetch_cases host name m
      rcases fetched with ⟨bytes, fetched⟩ | ⟨detail, refused⟩
      · simp only [Action.bind_ok fetched]
        refine .after_course same ?_
        exact runAs_settles wellBehaved confined fuel (idle.of_course same) .imported name bytes
      · simp only [Action.bind_error refused]
        exact .refused (idle.of_course same) (.of_course same)
  | callFunction function arguments =>
    exact routine_settles wellBehaved confined fuel idle (.call function arguments)
      (call_untold confined fuel function arguments m)

/-- Calling a number from outside is an unhandled error, of which the embedder is told. -/
theorem calling_number_settles :
    ∃ error m', callFunction (Engine.ofHost .complaining 3) (.number 1.0) [] (.initial .standard) =
        .error (.unhandled error) m' ∧ m'.Idle ∧ m'.notifications = [error] := by
  let m : Machine := .initial .standard
  have modest := Host.complaining_modest
  have settled := entryPoint_settles modest.wellBehaved modest.confined 3
    (.callFunction (.number 1.0) []) (m := m) ⟨rfl, rfl, rfl⟩
  obtain ⟨m₁, c, called, onWay, isError⟩ := call_number_raises .complaining 2 1.0 m
  simp only [EntryPoint.inside, EntryPoint.start, called] at settled
  generalize callFunction (Engine.ofHost .complaining 3) (.number 1.0) [] m = outer at settled ⊢
  cases settled with
  | sent onWay' isSend =>
    rw [Option.some.inj (onWay.symm.trans onWay')] at isError
    exact nomatch isError.symm.trans isSend
  | escaped _ _ _ _ _ _ idle told _ => exact ⟨_, _, rfl, idle, told⟩

end StubMachine
