import StubMachine.Proofs.Session

/-!
# What a machine asks of itself

Nearly everything a machine does makes requests, and it is the same few kinds over and over:
anything is called without a private binding, an accessor of an interface with that of the
interface, a loop enters its body, and a function that has been called is entered once its
parameters have been bound and checked.  A `Demand` is a condition that all of these meet.
**Then every request of every run meets it** (`Demand.always_asked`).

That is said by having others fail.  A plan of failures that spares the requests that meet
the condition makes no difference to any session (`Host.AlwaysAsks`), in whatever way the
others would fail and whatever state that would leave behind, so there are none.
-/

namespace StubMachine

open StubMachine.Action

/-- The plan has no request fail that meets the condition, and nothing besides requests. -/
def Plan.Spares (plan : Plan) (Met : Machine → Request → Prop) : Prop :=
  ∀ μ : Moment, (∀ fuel q, μ.activity = .request fuel q → Met μ.machine q) → plan μ = none

/-- **Every request that is ever made meets the condition**: to have others fail makes no difference
to any session. -/
def Host.AlwaysAsks (host : Host) (Met : Machine → Request → Prop) : Prop :=
  ∀ plan : Plan, plan.Spares Met → ∀ (fuel : Nat) (session : Session) (m : Machine),
    session.run host (plan.engine host fuel) m = session.run host (.ofHost host fuel) m

/-- **A condition that the requests meet that the machine makes of itself.** -/
structure Demand where
  Met : Machine → Request → Prop
  call (m : Machine) (function : Value) (arguments : Arguments) :
    Met m (.call function arguments none)
  accessor {m : Machine} {o : ObjectId} {members : OrderedMap String Member}
    {binding : Option Value} {function : Value} {arguments : Arguments} :
    (m.object o).facet = .interface members binding → AccessorCall members function arguments →
    Met m (.call function arguments binding)
  loop {f : FunctionFacet} {parameters : Array Value} {restart : Restart} (m : Machine) :
    LoopStart f parameters restart → Met m (.enter f parameters (some restart))
  counted {m : Machine} {q : Request} : Met m q → Met m.counted q
  entering {m m' : Machine} {o : ObjectId} {f : FunctionFacet} {arguments : Arguments}
    {binding : Option Value} {parameters : Array Value} :
    Met m (.call (.object o) arguments binding) → (m.object o).function? = some f →
    bindArguments f arguments binding m = .ok parameters m' →
    checkParameters f parameters m' = .ok () m' → Met m' (.enter f parameters none)

namespace Demand
variable (demand : Demand)

/-- Only equal states are alike, and only requests that meet the demand may be made. -/
def likeness : Likeness where
  Rel m n := n = m
  Binds _ _ _ _ := False
  Asks m _ q q' := q' = q ∧ demand.Met m q
  contents h := by rw [h]
  location h := by rw [h]
  callStack h := by rw [h]
  size h := by rw [h]
  objects h o := by rw [h]; exact .refl _
  refilled h c := by rw [h]
  updated {m n} h o {f f'} _ like := by
    have same : f' = f := funext fun a => (like a a (.refl a)).eq_of_never
    rw [h, same]
  pushed h object := by rw [h]
  reframed h i f := by rw [h]
  call function arguments _ := ⟨rfl, demand.call _ function arguments⟩
  accessor {m n o members x y function arguments} h left right access := by
    rw [h] at right
    cases left.symm.trans right
    exact ⟨rfl, demand.accessor left access⟩
  loop _ start := ⟨rfl, demand.loop _ start⟩

theorem calling : demand.likeness.Calling where
  limit h := by rw [h]
  frames h := by rw [h]
  depth h := by rw [h]
  restacked h frames depth := by rw [h]; rfl
  akin {m n q q'} _ asked := by
    rw [asked.1]
    cases q with
    | call function arguments binding => exact .call arguments fun _ _ _ _ _ => rfl
    | enter f parameters restart => exact .enter f parameters restart
  counted asked := ⟨asked.1, demand.counted asked.2⟩
  entering asked function bound checked _ :=
    ⟨rfl, demand.entering asked.2 function bound checked⟩

theorem spares {plan : Plan} (spares : plan.Spares demand.Met) : demand.likeness.Spares plan where
  request {m n q q'} fuel h asked := by
    rw [h, asked.1]
    refine spares _ fun fuel' q'' eq => ?_
    cases eq
    exact asked.2
  instruction fuel i ins n := spares _ fun _ _ eq => nomatch eq
  startOver fuel i n := spares _ fun _ _ eq => nomatch eq

/-- **Every request meets the demand**, if the functions of the embedder make no others than the
machine does. -/
theorem always_asked {host : Host} (respects : host.Respects demand.likeness) :
    host.AlwaysAsks demand.Met := by
  intro plan spares fuel session m
  obtain ⟨answers, ended⟩ := demand.likeness.session
    (demand.calling.engines (demand.spares spares) respects fuel) host session (m := m) rfl
  exact Prod.ext answers ended

end Demand

/-- **An honest embedder**: its functions make no other requests than the machine makes of itself,
whatever it is that is demanded of these. -/
def Host.Honest (host : Host) : Prop := ∀ demand : Demand, host.Respects demand.likeness

theorem Host.Scripted.honest {host : Host} (scripted : host.Scripted) : host.Honest :=
  fun demand => scripted.respects demand.likeness

theorem Host.complaining_honest : Host.complaining.Honest := fun _ => complaining_respects _

/-- A machine with a function and a list of one value. -/
def Machine.offering (f : FunctionFacet) : Machine :=
  { Machine.initial .standard with
    objects := #[Object.ofType BuiltinType.function.id (.function f),
      { Object.blank with indices := #[.empty] }] }

end StubMachine
