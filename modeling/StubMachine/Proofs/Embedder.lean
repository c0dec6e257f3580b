import StubMachine.Proofs.Routine.Instruction
import StubMachine.Proofs.Routine.Lockstep

/-!
# What an embedder can do with a machine

An embedder, and each function that it adds, works on a machine through the operations
that the machine offers: those of every routine of native rank, raising, and ending with
a failure or dealing with one.  An action put together from these is `Embedded`.  It can
neither enter nor leave a frame by itself, nor count calls, and so **it obeys every
lenient law that the machine obeys** (`Embedded.lockstep`).

A machine is `Reachable` for a host if it comes from a new one by embedded actions, in
any number and order and however they end.
-/

namespace StubMachine

open StubMachine.Action

/-- **What an embedder can do** with a machine. -/
inductive Embedded : {α : Type} → Procedure α → Prop
  /-- Use what the machine offers. -/
  | machine {α : Type} {x : Procedure α} : Routine .alone .native x → Embedded x
  | bind {α β : Type} {x : Procedure α} {k : Engine → α → Action β} :
      Embedded x → (∀ a, Embedded fun e => k e a) → Embedded fun e => x e >>= k e
  /-- Raise, and go on regardless. -/
  | signal (kind : CatchableKind) (payload : Value) : Embedded fun _ => Action.signal kind payload
  | fail {α : Type} (failure : Failure) : Embedded fun _ => (throw failure : Action α)
  /-- Deal with a failure. -/
  | recover {α : Type} {x : Procedure α} {k : Engine → Failure → Action α} :
      Embedded x → (∀ failure, Embedded fun e => k e failure) →
      Embedded fun e => tryCatch (x e) (k e)

/-- Adding a function of its own is among what an embedder can do. -/
theorem registerExternal_embedded (name : String) (parameters : List String) (handle : Nat) :
    Embedded fun _ => registerExternal name parameters handle := by
  show Embedded fun _ => do
    let id ← Action.read fun m => m.natives.size
    update fun m =>
      { m with
        natives := m.natives.push
          (Native.make m.natives.size name parameters (.hosted handle))
        externals := m.externals.insert name m.natives.size }
    return id
  exact .machine (.bind (.read _) fun id =>
    .bind (.store _ fun _ => .aside (.stored rfl) rfl rfl rfl) fun _ => .pure id)

/-- The functions of an embedder do only what an embedder can do. -/
def Host.Confined (host : Host) : Prop :=
  ∀ handle args, Embedded fun e => host.native handle e args

/-- **The states that a machine of an embedder can be in** between the embedder's actions. -/
inductive Reachable (host : Host) : Machine → Prop
  | initial (config : Config) : Reachable host (.initial config)
  | act {α : Type} {x : Procedure α} {m : Machine} (fuel : Nat) : Reachable host m → Embedded x →
      Reachable host ((x (Engine.ofHost host fuel)).after m)

namespace Law.Lockstep
variable {L : Law} {r : Rank} {α : Type}

theorem recover {x x' : Action α} {k k' : Failure → Action α} (hx : L.Lockstep r x x')
    (hk : ∀ failure, L.Lockstep r (k failure) (k' failure)) :
    L.Lockstep r (tryCatch x k) (tryCatch x' k') := by
  intro m hm
  obtain ⟨same, rel⟩ := hx m hm
  rw [Action.after] at rel ⊢
  rw [Action.tryCatch_eq, Action.tryCatch_eq, same]
  cases run : x m with
  | ok a m₁ =>
    rw [run] at rel
    exact ⟨rfl, rel⟩
  | error failure m₁ =>
    rw [run] at rel
    obtain ⟨same', rel'⟩ := hk failure m₁ (L.holds hm rel)
    exact ⟨same', L.trans rel rel'⟩

end Law.Lockstep

/-- **What an embedder does obeys a lenient law** if requests do. -/
theorem Embedded.lockstep {L : Law} [L.Lenient] {e e' : Engine} (fuel : e'.fuel = e.fuel)
    (requests : ∀ q, L.Lockstep .native (e.perform q) (e'.perform q))
    {α : Type} {x : Procedure α} (h : Embedded x) : L.Lockstep .native (x e) (x e') := by
  induction h with
  | machine hx => exact hx.lockstep fuel requests fun _ => False.elim
  | bind _ _ ihx ihk => exact .bind ihx ihk
  | signal kind payload => exact .of_rel fun m => L.signalled m kind payload
  | fail failure => exact .of_rel fun m => L.refl _ m
  | recover _ _ ihx ihk => exact .recover ihx ihk

/-- **Calling a value obeys a lenient law** if requests do, for an embedder that does only what
it can. -/
theorem callValue_lockstep {L : Law} [L.Lenient] {host : Host} (confined : host.Confined)
    {e e' : Engine} (fuel : e'.fuel = e.fuel) (requests : ∀ q, L.Lockstep .native (e.perform q) (e'.perform q))
    (function : Value) (arguments : Arguments) (binding : Option Value) :
    L.Lockstep .native (callValue host e function arguments binding)
      (callValue host e' function arguments binding) := by
  let P : License := .full fun y => ∃ handle args, y = fun e => host.native handle e args
  have routine : Routine P .native fun e => callValue host e function arguments binding :=
    callValue_routine (P := P) (fun handle args => ⟨handle, args, rfl⟩) (fun _ => trivial)
      function arguments binding
  refine routine.lockstep fuel requests ?_
  rintro y ⟨handle, args, rfl⟩
  exact (confined handle args).lockstep fuel requests

namespace Host

/-- **Modest functions of the embedder**: they use the machine only in the ways in which its
own native functions do.  So they do not go on after a raising, and do not deal with one
other than by listening. -/
def Modest (host : Host) : Prop :=
  ∀ handle args, Routine .alone .native fun e => host.native handle e args

theorem Modest.confined {host : Host} (modest : host.Modest) : host.Confined :=
  fun handle args => .machine (modest handle args)

/-- An embedder without modules whose functions raise errors about their first argument. -/
def complaining : Host where
  fetch _ name := .error ("no module " ++ name)
  random _ := 0.0
  native _ _ args := raiseError (args.getD 0 .empty)

theorem complaining_modest : complaining.Modest := fun _ args => .raiseError (args.getD 0 .empty)

end Host

/-! ## Restraint -/

/-- **What an embedder can do if it restrains itself**: it uses what the machine offers only as far
as the license goes, and failures of a certain kind it does not deal with, but hands them on. -/
inductive Restrained (P : License) (HandsOn : Failure → Prop) : {α : Type} → Procedure α → Prop
  | machine {α : Type} {x : Procedure α} : Routine P .native x → Restrained P HandsOn x
  | bind {α β : Type} {x : Procedure α} {k : Engine → α → Action β} :
      Restrained P HandsOn x → (∀ a, Restrained P HandsOn fun e => k e a) →
      Restrained P HandsOn fun e => x e >>= k e
  | signal (kind : CatchableKind) (payload : Value) :
      Restrained P HandsOn fun _ => Action.signal kind payload
  | fail {α : Type} (failure : Failure) : Restrained P HandsOn fun _ => (throw failure : Action α)
  | recover {α : Type} {x : Procedure α} {k : Engine → Failure → Action α} :
      Restrained P HandsOn x → (∀ failure, Restrained P HandsOn fun e => k e failure) →
      (∀ failure, HandsOn failure → ∀ e, k e failure = throw failure) →
      Restrained P HandsOn fun e => tryCatch (x e) (k e)

/-- Restraint is no hindrance to being an embedder. -/
theorem Restrained.embedded {P : License} (within : P.Within .alone) {HandsOn : Failure → Prop}
    {α : Type} {x : Procedure α} (h : Restrained P HandsOn x) : Embedded x := by
  induction h with
  | machine hx => exact .machine (hx.mono within)
  | bind _ _ ihx ihk => exact .bind ihx ihk
  | signal kind payload => exact .signal kind payload
  | fail failure => exact .fail failure
  | recover _ _ _ ihx ihk => exact .recover ihx ihk

end StubMachine
