import StubMachine.Machine.Perform
import StubMachine.Proofs.Routine.Native

/-!
# Calls and instructions are routines

Calling a value is a routine of any rank, and so is asking a query or starting a loop.
An instruction is a routine of the rank of its frame: **beyond what every routine may do
it only moves the program counter and changes the value stack of the frame it works on**,
makes closures over it, and assigns to its variables.  The run of a frame consists of its
instructions and of starting over.

All but five instructions are errands: the three that start loops, the one that pushes a
native function, and the one that asks a query (`Opcode.Modest`).

Calling a function and starting a loop enter functions, and assigning and starting over
assign to variables; the license that they need is stated with them.
-/

namespace StubMachine

open StubMachine.Action

variable {ρ : Reach} {P : License} {r : Rank} {host : Host}

/-! ## Calls -/

/-- The object with all arguments of a vararg function is no function. -/
theorem argumentBag_plain (supplied : Arguments) : (argumentBag supplied).function? = none :=
  argumentBag_induction (P := fun bag => bag.function? = none) rfl (fun _ _ _ kept => kept)
    fun _ _ _ kept => kept

theorem bindArguments_errand (f : FunctionFacet) (arguments : Arguments)
    (binding : Option Value) :
    Errand ρ P r fun _ => bindArguments f arguments binding := by
  delta bindArguments
  refine .ite (.bind (.newObject (argumentBag_plain _)) fun bag => .pure _) ?_
  cases bindNamed f.stub (suppliedArguments f arguments) with
  | ok parameters => exact .pure _
  | error name => exact .bind (.raise _) fun _ => .pure _

theorem checkParameters_errand (f : FunctionFacet) (parameters : Array Value) :
    Errand ρ P r fun _ => checkParameters f parameters := by
  delta checkParameters
  cases f.types with
  | none => exact .pure ()
  | some types =>
    refine .bind (.read _) fun mistyped? => ?_
    cases mistyped? with
    | none => exact .pure ()
    | some mistyped => exact .bind (.read _) fun _ => .bind (.read _) fun _ => .raise _

theorem checkResult_errand (f : FunctionFacet) (v : Value) :
    Errand ρ P r fun _ => checkResult f v := by
  delta checkResult
  cases f.types.bind fun types => types[f.stub.arity]? with
  | none => exact .pure v
  | some t =>
    refine .bind (.read _) fun fits => .ite (.pure v) ?_
    exact .bind (.read _) fun _ => .bind (.read _) fun _ => .raise _

theorem callType_errand [ρ.Asking] (t : TypeId) (arguments : Arguments) :
    Errand ρ P r fun e => callType e t arguments := by
  delta callType
  split
  · exact .ite (convertTo_errand _ t) (.bind (.read _) fun _ => .raise _)
  · exact .bind (.read _) fun _ => .raise _

theorem callType_routine (t : TypeId) (arguments : Arguments) :
    Routine P r fun e => callType e t arguments :=
  Errand.routine (callType_errand t arguments : Errand .narrow P r _)

theorem callNative_routine (foreign : ∀ handle args, P.foreign fun e => host.native handle e args)
    (stub : Stub) (args : Array Value) :
    Routine P r fun e => callNative host e stub args := by
  delta callNative
  refine .bind (.read _) fun native? => ?_
  cases native? with
  | none => exact .fatal _
  | some native => exact .attempt (Native.run_routine foreign args native.body)

theorem callFacet_routine (foreign : ∀ handle args, P.foreign fun e => host.native handle e args)
    {f : FunctionFacet} (entering : P.entering f) (arguments : Arguments) (binding : Option Value) :
    Routine P r fun e => callFacet host e f arguments binding := by
  have bound : Errand .still P r fun _ => bindArguments f arguments binding :=
    bindArguments_errand f arguments binding
  have checked (parameters : Array Value) : Errand .still P r fun _ => checkParameters f parameters :=
    checkParameters_errand f parameters
  have finish (v : Value) : Errand .still P r fun _ => checkResult f v := checkResult_errand f v
  delta callFacet
  refine .bind bound.routine fun parameters => .bind (checked parameters).routine fun _ => ?_
  refine .ite ?_ ?_
  · exact .bind (callNative_routine foreign _ _) fun v => (finish v).routine
  · exact .bind (.enter _ _ _ entering) fun v => (finish v).routine

/-- **Calling a value is a routine** if the functions of the embedder are foreign. -/
theorem callValue_routine (foreign : ∀ handle args, P.foreign fun e => host.native handle e args)
    (entering : ∀ f, P.entering f) (function : Value) (arguments : Arguments)
    (binding : Option Value) :
    Routine P r fun e => callValue host e function arguments binding := by
  cases function with
  | type t => exact callType_routine t arguments
  | object o =>
    refine .bind (.objectAt o) fun object => ?_
    cases object.function? with
    | some f => exact callFacet_routine foreign (entering f) arguments binding
    | none => exact .raise _
  | _ => exact .raise _

/-! ## Queries -/

theorem askObject_routine (q : Query) (o : ObjectId) :
    Routine P r fun e => askObject e q o := by
  cases q with
  | keyCount => exact .bind (objectKeys_routine o) fun keys => .pure _
  | keys => exact .bind (objectKeys_routine o) fun keys => .newList _
  | values => exact .bind (objectValues_routine o) fun values => .newList _
  | pop =>
    exact .bind (.objectAt o) fun object => .bind (.updateObject o fun _ _ => id) fun _ => .pure _
  | attributes => exact .bind (.objectAt o) fun object => .pure _
  | _ => exact .raise _

theorem askImmediate_routine (q : Query) (base : Value) :
    Routine P r fun e => askImmediate e q base := by
  delta askImmediate
  split
  · exact .bind (.read _) fun t => .pure _
  · exact .pure _
  · exact .raise _
  · exact .pure _
  · exact .bind (.objectAt _) fun object => .pure _
  · exact .raise _
  · exact .bind (.read _) fun name => .pure _
  · exact .raise _
  · cases q.numeric? with
    | some f =>
      cases base with
      | number n => exact .pure _
      | _ => exact .raise _
    | none =>
      cases q.textual? with
      | some f =>
        cases base with
        | string s => exact .pure _
        | _ => exact .raise _
      | none =>
        cases base with
        | object o => exact askObject_routine q o
        | _ => exact .raise _

theorem ask_routine (base : Value) (id : Nat) : Routine P r fun e => ask e base id := by
  delta ask
  cases Query.ofId? id with
  | none => exact .raise _
  | some q =>
    dsimp only
    cases q.parameterizedIndex? with
    | some i => exact boundNative_routine _ base
    | none => exact askImmediate_routine q base

/-! ## Referrables and loops -/

theorem readReferrable_errand (i slot : Nat) :
    Errand ρ P r fun _ => readReferrable i slot := by
  delta readReferrable
  refine .bind (.read _) fun v? => ?_
  cases v? with
  | some v => exact .pure v
  | none => exact .raise _

/-- The body of a loop is in the store. -/
theorem loopBody_cases (body : Value) (m : Machine) :
    (∃ f, loopBody body m = .ok f m ∧ m.HasFunction f) ∨
      loopBody body m = (raise .loopBody : Action FunctionFacet) m := by
  cases body with
  | object o =>
    have looked : objectAt o m = .ok (m.object o) m := rfl
    rw [loopBody, Action.bind_ok looked]
    simp only [pure_bind]
    cases at_ : (m.object o).function?.filter fun f => !f.stub.isNative with
    | none => exact .inr rfl
    | some f =>
      obtain ⟨function, -⟩ := Option.filter_eq_some_iff.mp at_
      exact .inl ⟨f, rfl, o, function⟩
  | _ => exact .inr rfl

theorem loopBody_errand (body : Value) : Errand ρ P r fun _ => loopBody body := by
  delta loopBody
  cases body with
  | object o =>
    refine .bind (.objectAt o) fun object => .bind (.pure _) fun facet? => ?_
    cases facet? with
    | some f => exact .pure f
    | none => exact .raise _
  | _ =>
    show Errand ρ P r fun _ => Action.raise .loopBody
    exact .raise _

theorem loopBody_routine (body : Value) : Routine P r fun _ => loopBody body :=
  Errand.routine (loopBody_errand body : Errand .still P r _)

theorem iterated_errand [ρ.Asking] (o : ObjectId) : Errand ρ P r fun e => iterated e o := by
  delta iterated
  refine .bind (.read _) fun hook? => ?_
  cases hook? with
  | none => exact .pure o
  | some hook =>
    refine .bind (.ask _) fun v => ?_
    cases v with
    | object o => exact .pure o
    | _ => exact .raise _

theorem iterated_routine (o : ObjectId) : Routine P r fun e => iterated e o :=
  Errand.routine (iterated_errand o : Errand .narrow P r _)

section Loops
variable (entering : ∀ f, P.entering f)
include entering

theorem countLoop_routine (first stop : Float) (body : Value) :
    Routine P r fun e => countLoop e first stop body :=
  .bind (loopBody_routine body) fun f => .ite (.pure _) (.enter _ _ _ (entering f))

theorem foreverLoop_routine (body : Value) : Routine P r fun e => foreverLoop e body :=
  .bind (loopBody_routine body) fun f => .enter _ _ _ (entering f)

theorem entryLoop_routine (target body : Value) :
    Routine P r fun e => entryLoop e target body := by
  cases target with
  | object o =>
    refine .bind (iterated_routine o) fun o => .bind (loopBody_routine body) fun f => ?_
    refine .bind (objectKeys_routine o) fun keys => .bind (objectValues_routine o) fun values => ?_
    cases keys with
    | nil => exact .pure _
    | cons key keys => exact .enter _ _ _ (entering f)
  | _ => exact .raise _

end Loops

/-- Writing to the first variables of a frame. -/
theorem rebind_errand (i : Nat) {values : List Value}
    (assigning : ∀ slot < values.length, P.assigning i slot) :
    Errand ρ P (.instruction i) fun _ => rebind i values := by
  refine .bind (.read _) fun arity => .forM _ fun entry member => .assign i _ _ (assigning _ ?_)
  have below := List.snd_lt_of_mem_zipIdx member
  simp only [List.length_take] at below
  omega

/-- The numbers of the variables that starting over may assign to. -/
def Restart.Assigns : Restart → Nat → Prop
  | count _ _ _ bindsCounter, slot => bindsCounter = true ∧ slot = 0
  | forever, _ => False
  | entries _ _ _, slot => slot < 2

theorem advance_routine {i : Nat} {condition : Restart}
    (assigning : ∀ slot, condition.Assigns slot → P.assigning i slot) :
    Routine P (.instruction i) fun e => advance e i condition := by
  cases condition with
  | count current stop step bindsCounter =>
    suffices finish : ∀ current : Float, Routine P (.instruction i) fun _ => _ from
      have counter : Errand .still P (.instruction i) fun _ => readReferrable i 0 :=
        readReferrable_errand i 0
      .ite (.bind counter.routine fun v => .bind (asNumber_routine v) finish)
        (.bind (.pure current) finish)
    intro current
    cases bindsCounter with
    | true =>
      refine .ite (.ite ?_ (.pure _)) (.pure none)
      exact .bind (.assign i 0 _ (assigning 0 ⟨rfl, rfl⟩)) fun _ => .pure _
    | false => exact .ite (.pure _) (.pure none)
  | forever => exact .pure _
  | entries keys values index =>
    simp only [advance]
    split
    next key value _ _ =>
      have rebound : Errand .still P (.instruction i) fun _ => rebind i [key, value] :=
        rebind_errand i assigning
      exact .bind rebound.routine fun _ => .pure _
    next => exact .pure none

/-! ## The value stack -/

section Instruction
variable (i : Nat)

theorem stackPush_errand (v : Value) :
    Errand ρ P (.instruction i) fun _ => StubMachine.push i v :=
  .frame i _ fun _ => ⟨rfl, Nat.le_refl _⟩

theorem peek_errand : Errand ρ P r fun _ => peek i := by
  delta peek
  refine .bind (.read _) fun stack => ?_
  cases stack with
  | nil => exact .raise _
  | cons v rest => exact .pure v

theorem pop_errand : Errand ρ P (.instruction i) fun _ => pop i := by
  delta pop
  refine .bind (.read _) fun stack => ?_
  cases stack with
  | nil => exact .raise _
  | cons v rest => exact .bind (.frame i _ fun _ => ⟨rfl, Nat.le_refl _⟩) fun _ => .pure v

theorem popMany_errand (count : Nat) :
    Errand ρ P (.instruction i) fun _ => popMany i count := by
  delta popMany
  refine .bind (.read _) fun stack => .ite (.bind (.raise _) fun _ => ?_) ?_
  · exact .bind (.frame i _ fun _ => ⟨rfl, Nat.le_refl _⟩) fun _ => .pure _
  · exact .bind (.frame i _ fun _ => ⟨rfl, Nat.le_refl _⟩) fun _ => .pure _

theorem skip_errand (count : Nat) :
    Errand ρ P (.instruction i) fun _ => skip i count :=
  .frame i _ fun _ => ⟨rfl, Nat.le_add_right _ _⟩

/-! ## Operands -/

theorem pooledText_errand (operand : Float) :
    Errand ρ P r fun _ => pooledText i operand := by
  delta pooledText
  refine .bind (.read _) fun s? => ?_
  cases s? with
  | some s => exact .pure s
  | none => exact .raise _

theorem builtinType_errand (operand : Float) :
    Errand ρ P r fun _ => builtinType operand := by
  delta builtinType
  dsimp only
  split
  · exact .pure _
  · exact .raise _

theorem namedOperator_errand (operand : Float) :
    Errand ρ P r fun _ => namedOperator operand := by
  delta namedOperator
  split
  · exact .pure _
  · exact .raise _

theorem namedAssignment_errand (byte : Nat) :
    Errand ρ P r fun _ => namedAssignment byte := by
  delta namedAssignment
  split
  · exact .pure _
  · exact .raise _

theorem signatureTypes_errand (values : List Value) :
    Errand ρ P r fun _ => signatureTypes values := by
  induction values with
  | nil => exact .pure []
  | cons v values ih =>
    cases v with
    | type t => exact .bind ih fun types => .pure _
    | _ => exact .raise _

theorem makeTypedClosure_errand (operand : Float) :
    Errand ρ P (.instruction i) fun _ => makeTypedClosure i operand := by
  delta makeTypedClosure
  refine .bind (.read _) fun stub? => ?_
  cases stub? with
  | none => exact .raise _
  | some stub =>
    exact .bind (popMany_errand i _) fun signature =>
      .bind (signatureTypes_errand signature) fun types => .closure i _ _

theorem collectPairs_errand (entries : List (Value × Value)) :
    Errand ρ P r fun _ => collectPairs entries :=
  .bind .newBlank fun o =>
    .bind (.forM entries fun entry _ => writeEntry_errand o entry.1 entry.2) fun _ => .pure _

/-! ## Calling and assigning -/

theorem namedArguments_errand (entries : List (Value × Value)) :
    Errand ρ P r fun _ => namedArguments entries := by
  induction entries with
  | nil => exact .pure []
  | cons entry entries ih =>
    obtain ⟨name, v⟩ := entry
    cases name with
    | string name => exact .bind ih fun arguments => .pure _
    | _ => exact .raise _

theorem callFromStack_errand (count : Nat) :
    Errand .wide P (.instruction i) fun e => callFromStack e i count :=
  .bind (popMany_errand i _) fun _ => .bind (pop_errand i) fun _ =>
    .bind (namedArguments_errand _) fun _ => .call _ _

theorem assignThrough_errand (a : Assignment) (operand : Value) {current : Procedure Value}
    {write : Engine → Value → Action Value} (hc : Errand .wide P r current)
    (hw : ∀ v, Errand .wide P r fun e => write e v) :
    Errand .wide P r fun e => assignThrough e a operand (current e) (write e) := by
  refine .ite (hw operand) (.bind hc fun v => ?_)
  refine .bind (compoundAssignment_errand a v operand) fun next? => ?_
  cases next? with
  | some next => exact hw next
  | none => exact .pure v

/-- The number of the variable that an assignment names. -/
def assignedSlot (operand : Float) : Nat := Binary64.toUnsigned 64 operand % Nat.pow 2 32

theorem assignReferrable_errand {operand : Float} (assigning : P.assigning i (assignedSlot operand)) :
    Errand .wide P (.instruction i) fun e => assignReferrable e i operand := by
  refine .bind (namedAssignment_errand _) fun a => .bind (pop_errand i) fun v => ?_
  refine assignThrough_errand a v (readReferrable_errand i _) fun v => ?_
  exact .bind (.assign i _ v assigning) fun _ => .pure v

theorem assignMember_errand (operand : Float) :
    Errand .wide P (.instruction i) fun e => assignMember e i operand := by
  refine .bind (namedAssignment_errand _) fun a => .bind (pop_errand i) fun v => ?_
  refine .bind (pop_errand i) fun key => .bind (pop_errand i) fun target => ?_
  exact assignThrough_errand a v (getMember_errand _ _ _) fun v => setMember_errand _ _ v _

theorem operate_errand (op : Operator) :
    Errand .wide P (.instruction i) fun e => operate e i op := by
  refine .bind (pop_errand i) fun r => .ite (unaryOperation_errand op r) ?_
  exact .bind (pop_errand i) fun l => binaryOperation_errand op l r

/-! ## One instruction -/

theorem pushResult_errand {x : Procedure Value} (h : Errand ρ P (.instruction i) x) :
    Errand ρ P (.instruction i) fun e => pushResult i (x e) :=
  .bind h fun v => .bind (stackPush_errand i v) fun _ => .pure _

theorem stackPush_routine (v : Value) :
    Routine P (.instruction i) fun _ => StubMachine.push i v :=
  Errand.routine (stackPush_errand i v : Errand .still P _ _)

theorem pop_routine : Routine P (.instruction i) fun _ => pop i :=
  Errand.routine (pop_errand i : Errand .still P _ _)

theorem pushResult_routine {x : Procedure Value} (h : Routine P (.instruction i) x) :
    Routine P (.instruction i) fun e => pushResult i (x e) :=
  .bind h fun v => .bind (stackPush_routine i v) fun _ => .pure _

theorem skipWhen_errand [ρ.Asking] (truth : Bool) (count : Nat) :
    Errand ρ P (.instruction i) fun e => skipWhen e i truth count := by
  refine .bind (peek_errand i) fun v => .bind (asBoolean_errand v) fun b => ?_
  refine .ite (.bind (skip_errand i count) fun _ => .pure _) ?_
  exact .bind (pop_errand i) fun _ => .pure _

/-- The license that an opcode needs: the loops enter functions, and the assignment to a variable
assigns. -/
def License.Permits (P : License) (i : Nat) (operand : Float) : Opcode → Prop
  | .assignReferrable => P.assigning i (assignedSlot operand)
  | .countLoop | .foreverLoop | .entryLoop => ∀ f, P.entering f
  | _ => True

/-- The opcodes that start no loop and reach for no native function. -/
def Opcode.Modest : Opcode → Prop
  | countLoop | foreverLoop | entryLoop | pushNative | query => False
  | _ => True

/-- **A modest opcode is an errand.** -/
theorem execute_errand {operand : Float} {op : Opcode} (modest : op.Modest)
    (permits : P.Permits i operand op) :
    Errand .wide P (.instruction i) fun e => op.execute e i operand := by
  cases op with
  | nop => exact .pure _
  | pushReferrable => exact pushResult_errand i (readReferrable_errand i _)
  | pushEmpty => exact pushResult_errand i (.pure _)
  | pushNumber => exact pushResult_errand i (.pure _)
  | pushBoolean => exact pushResult_errand i (.pure _)
  | pushString =>
    exact pushResult_errand i (.bind (pooledText_errand i operand) fun _ => .pure _)
  | newObject => exact pushResult_errand i (.bind .newBlank fun _ => .pure _)
  | closure => exact pushResult_errand i (.closure i _ _)
  | typedClosure => exact pushResult_errand i (makeTypedClosure_errand i operand)
  | collectValues =>
    exact pushResult_errand i (.bind (popMany_errand i _) fun _ => .newList _)
  | collectPairs =>
    exact pushResult_errand i (.bind (popMany_errand i _) fun _ => collectPairs_errand _)
  | pushType => exact pushResult_errand i (builtinType_errand operand)
  | call => exact pushResult_errand i (callFromStack_errand i _)
  | assignReferrable => exact pushResult_errand i (assignReferrable_errand i permits)
  | assignMember => exact pushResult_errand i (assignMember_errand i operand)
  | lookUpMember =>
    exact pushResult_errand i (.bind (pop_errand i) fun key =>
      .bind (pop_errand i) fun target => getMember_errand target key _)
  | operate =>
    exact pushResult_errand i (.bind (namedOperator_errand operand) fun op =>
      operate_errand i op)
  | discard => exact .bind (popMany_errand i _) fun _ => .pure _
  | duplicate => exact pushResult_errand i (peek_errand i)
  | return_ => exact .bind (.read _) fun _ => .pure _
  | skip => exact .bind (skip_errand i _) fun _ => .pure _
  | skipIfFalse =>
    refine .bind (pop_errand i) fun v => .bind (asBoolean_errand v) fun b => ?_
    exact .ite (.bind (skip_errand i _) fun _ => .pure _) (.pure _)
  | skipUnlessTrue => exact skipWhen_errand i false _
  | skipUnlessFalse => exact skipWhen_errand i true _
  | listen =>
    exact pushResult_errand i (.bind (pop_errand i) fun response =>
      .bind (pop_errand i) fun function => .listen function response rfl)
  | countLoop | foreverLoop | entryLoop | pushNative | query => exact modest.elim

theorem execute_routine {operand : Float} {op : Opcode} (permits : P.Permits i operand op) :
    Routine P (.instruction i) fun e => op.execute e i operand := by
  cases op with
  | pushNative => exact pushResult_routine i (nativeValue_routine _)
  | countLoop =>
    refine pushResult_routine i (.bind (pop_routine i) fun body => ?_)
    refine .bind (pop_routine i) fun stop => .bind (pop_routine i) fun first => ?_
    refine .bind (asNumber_routine first) fun first => .bind (asNumber_routine stop) fun stop => ?_
    exact countLoop_routine permits first stop body
  | foreverLoop =>
    exact pushResult_routine i (.bind (pop_routine i) fun body => foreverLoop_routine permits body)
  | entryLoop =>
    exact pushResult_routine i (.bind (pop_routine i) fun body =>
      .bind (pop_routine i) fun target => entryLoop_routine permits target body)
  | query => exact pushResult_routine i (.bind (pop_routine i) fun base => ask_routine base _)
  | _ =>
    refine Errand.routine (execute_errand i ?_ permits)
    exact trivial

/-- **Every instruction is a routine** of the rank of its frame, with a license for it. -/
theorem step_permitted {ins : Instruction}
    (permits : ∀ op, Opcode.ofByte? ins.opcode = some op → P.Permits i ins.operand.toNumber op) :
    Routine P (.instruction i) fun e => step e i ins := by
  delta step
  cases known : Opcode.ofByte? ins.opcode with
  | some op => exact execute_routine i (permits op known)
  | none => exact .raise _

/-- A liberal license is one for every instruction. -/
theorem step_routine [liberal : P.Liberal] (ins : Instruction) :
    Routine P (.instruction i) fun e => step e i ins :=
  step_permitted i fun op _ => by
    cases op with
    | assignReferrable => exact liberal.assigning _ _
    | countLoop => exact liberal.entering
    | foreverLoop => exact liberal.entering
    | entryLoop => exact liberal.entering
    | _ => exact trivial

theorem fetchInstruction_errand :
    Errand ρ P (.instruction i) fun _ => fetchInstruction i := by
  delta fetchInstruction
  refine .bind (.read _) fun ins? => ?_
  cases ins? with
  | none => exact .pure none
  | some ins => exact .bind (.frame i _ fun _ => ⟨rfl, Nat.le_succ _⟩) fun _ => .pure _

theorem fetchInstruction_routine :
    Routine P (.instruction i) fun _ => fetchInstruction i :=
  Errand.routine (fetchInstruction_errand i : Errand .still P _ _)

/-! ## The run of a frame -/

/-- What starting over comes to under a restart condition. -/
def startOverFrom (e : Engine) (i : Nat) (condition : Restart) : Action Bool := do
  updateFrame i fun f => { f with restart := none }
  match ← advance e i condition with
  | none => return false
  | some next =>
    updateFrame i fun f => { f with pc := 0, stack := [], restart := some next }
    return true

theorem startOver_eq (e : Engine) (i : Nat) :
    startOver e i = (do
      match ← readFrame i Frame.restart with
      | none => return false
      | some condition => startOverFrom e i condition) := rfl

theorem startOverFrom_routine {condition : Restart}
    (assigning : ∀ slot, condition.Assigns slot → P.assigning i slot) :
    Routine P (.activation i) fun e => startOverFrom e i condition := by
  refine .bind (.reframe i _ fun _ => rfl) fun _ => ?_
  refine .bind (.within (advance_routine assigning)) fun next? => ?_
  cases next? with
  | none => exact .pure false
  | some next => exact .bind (.reframe i _ fun _ => rfl) fun _ => .pure true

theorem startOver_routine [liberal : P.Liberal] :
    Routine P (.activation i) fun e => startOver e i := by
  simp only [startOver_eq]
  refine .bind (.read _) fun condition? => ?_
  cases condition? with
  | none => exact .pure false
  | some condition => exact startOverFrom_routine i fun slot _ => liberal.assigning i slot

theorem proceed_routine [liberal : P.Liberal] :
    Routine P (.activation i) fun e => proceed e i := by
  delta proceed
  refine .bind (.within (fetchInstruction_routine i)) fun ins? => ?_
  cases ins? with
  | some ins => exact .within (step_routine i ins)
  | none =>
    refine .bind (startOver_routine i) fun again => ?_
    exact .ite (.pure _) (.pure _)

end Instruction

/-- What follows a step of a frame. -/
def Flow.resume (steps : Action Value) : Flow → Action Value
  | .next => steps
  | .done v => return v

/-- A run is a step and then the rest of the run. -/
theorem runFrame_succ (e : Engine) (i steps : Nat) :
    runFrame e i (steps + 1) = proceed e i >>= Flow.resume (runFrame e i steps) := by
  funext m
  simp only [runFrame, Action.bind_eq]
  cases proceed e i m with
  | ok flow m' =>
    cases flow with
    | next => rfl
    | done v => rfl
  | error failure m' => rfl

/-- **The run of a frame is a routine**: what holds of every step holds of the run. -/
theorem runFrame_routine [P.Liberal] (i steps : Nat) :
    Routine P (.activation i) fun e => runFrame e i steps := by
  induction steps with
  | zero => exact .exhausted
  | succ steps ih =>
    simp only [runFrame_succ]
    refine .bind (proceed_routine i) fun flow => ?_
    cases flow with
    | next => exact ih
    | done v => exact .pure v

/-! ## Single steps -/

section Steps
variable {i : Nat}

/-- A step of a frame whose code goes on executes the next instruction. -/
theorem proceed_instruction (e : Engine) {m : Machine} {ins : Instruction}
    (next : (m.frame i).stub.code[(m.frame i).pc]? = some ins) :
    proceed e i m =
      step e i ins { m with frames := m.frames.modify i fun f => { f with pc := f.pc + 1 } } := by
  have read : readFrame i (fun f => f.stub.code[f.pc]?) m = .ok (some ins) m :=
    congrArg (EStateM.Result.ok · m) next
  have fetched : fetchInstruction i m = .ok (some ins)
      { m with frames := m.frames.modify i fun f => { f with pc := f.pc + 1 } } := by
    rw [fetchInstruction, Action.bind_ok read]
    rfl
  rw [proceed, Action.bind_ok fetched]

/-- What comes after a step that goes on. -/
theorem runFrame_next {e : Engine} {m m' : Machine} (next : proceed e i m = .ok .next m')
    (steps : Nat) : runFrame e i (steps + 1) m = runFrame e i steps m' := by
  rw [runFrame_succ, Action.bind_ok next]
  rfl

/-- A step of a frame at the end of its code starts it over, or ends it. -/
theorem proceed_end (e : Engine) {m : Machine}
    (next : (m.frame i).stub.code[(m.frame i).pc]? = none) :
    proceed e i m =
      (do if ← startOver e i then return .next else return .done .empty : Action Flow) m := by
  have read : readFrame i (fun f => f.stub.code[f.pc]?) m = .ok none m :=
    congrArg (EStateM.Result.ok · m) next
  have fetched : fetchInstruction i m = .ok none m := by
    rw [fetchInstruction, Action.bind_ok read]
    rfl
  rw [proceed, Action.bind_ok fetched]

/-- A frame that runs no loop is not started over. -/
theorem startOver_none (e : Engine) {m : Machine} (restart : (m.frame i).restart = none) :
    startOver e i m = .ok false m := by
  have read : readFrame i Frame.restart m = .ok none m :=
    congrArg (EStateM.Result.ok · m) restart
  rw [startOver, Action.bind_ok read]
  rfl

end Steps

/-! ## Carrying out requests -/

theorem perform_enter (host : Host) (fuel : Nat) (facet : FunctionFacet)
    (parameters : Array Value) (restart : Option Restart) :
    perform host (fuel + 1) (.enter facet parameters restart) =
      withFrame facet parameters restart fun i => runFrame (Engine.ofHost host fuel) i fuel := rfl

end StubMachine
