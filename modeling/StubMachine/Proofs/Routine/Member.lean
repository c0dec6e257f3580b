import StubMachine.Proofs.Routine.Errand

/-!
# Access, conversion and operators are errands

Reading and writing members, enumerating them, converting values and applying operators:
each goes on after a call only with its result, and so is an errand; conversions have a
narrow reach.  As errands they are routines of any rank, which is what most of the modules
below this one need to know of them.
-/

namespace StubMachine

open StubMachine.Action

variable {ρ : Reach} {P : License} {r : Rank}

/-! ## Conversions -/

section Conversions
variable [ρ.Asking]

theorem convertObject_errand (o : ObjectId) (wanted : BuiltinType) :
    Errand ρ P r fun e => convertObject e o wanted := by
  delta convertObject
  refine .bind (.read _) fun converter? => ?_
  cases converter? with
  | some converter => exact .ask _
  | none => exact .bind (.objectAt o) fun object => .raise _

theorem asNumber_errand (v : Value) : Errand ρ P r fun e => asNumber e v := by
  cases v with
  | number n => exact .pure n
  | boolean b => exact .pure _
  | object o =>
    refine .bind (convertObject_errand o .number) fun v => ?_
    cases v with
    | number n => exact .pure n
    | _ => exact .raise _
  | _ => exact .raise _

theorem asString_errand (v : Value) : Errand ρ P r fun e => asString e v := by
  cases v with
  | object o =>
    refine .bind (convertObject_errand o .string) fun v => ?_
    cases v with
    | string s => exact .pure s
    | _ => exact .raise _
  | empty => exact .raise _
  | type t => exact .read _
  | _ => exact .pure _

theorem asBoolean_errand (v : Value) : Errand ρ P r fun e => asBoolean e v := by
  cases v with
  | object o =>
    refine .bind (.objectAt o) fun object => .ite (.pure true) ?_
    refine .bind (convertObject_errand o .boolean) fun v => ?_
    cases v with
    | boolean b => exact .pure b
    | _ => exact .raise _
  | _ => exact .pure _

theorem convertByAttribute_errand (v : Value) (t : TypeId) :
    Errand ρ P r fun e => convertByAttribute e v t := by
  cases v with
  | object o =>
    refine .bind (.read _) fun converter? => ?_
    cases converter? with
    | some converter =>
      refine .bind (.ask _) fun converted => ?_
      exact .bind (.read _) fun fits => .ite (.pure _) (.pure _)
    | none => exact .pure none
  | _ => exact .pure none

theorem convertTo_errand (v : Value) (t : TypeId) :
    Errand ρ P r fun e => convertTo e v t := by
  delta convertTo
  split
  · exact .bind (asNumber_errand v) fun n => .pure _
  · exact .bind (asString_errand v) fun s => .pure _
  · exact .bind (asBoolean_errand v) fun b => .pure _
  · exact .bind (.read _) fun t => .pure _
  · refine .bind (.read _) fun fits => .ite (.pure v) ?_
    refine .bind (convertByAttribute_errand v t) fun converted? => ?_
    cases converted? with
    | some converted => exact .pure converted
    | none => exact .bind (.read _) fun name => .raise _

end Conversions

/-! ## Members -/

/-- Writing an entry leaves a function what it is. -/
theorem Object.KeepsFunction.set (k : Key) (v : Value) :
    Object.KeepsFunction fun object => object.set k v := by
  intro object
  cases k <;> rfl

/-- So it does not make one. -/
theorem Object.MakesNoFunction.set (k : Key) (v : Value) :
    Object.MakesNoFunction fun object => object.set k v :=
  fun object _ function => (Object.KeepsFunction.set k v object).symm.trans function

theorem routeTo_errand (target key : Value) (write : Bool) :
    Errand ρ P r fun _ => routeTo target key write := by
  cases target with
  | object o =>
    refine .bind (.objectAt o) fun object => ?_
    cases object.facet with
    | function f => exact .raise _
    | interface members binding =>
      cases key with
      | string name => exact .pure _
      | _ => exact .raise _
    | record layout => exact .pure _
    | plain => exact .pure _
  | _ => exact .raise _

theorem raiseRecordKey_errand {α : Type} (o : ObjectId) (key : Value) :
    Errand ρ P r fun _ => (raiseRecordKey o key : Action α) :=
  .bind (.read _) fun _ => .raise _

theorem readEntry_errand (o : ObjectId) (key : Value) :
    Errand ρ P r fun _ => readEntry o key := by
  delta readEntry
  cases Key.ofValue key with
  | ok k => exact .bind (.objectAt o) fun object => .pure _
  | error f => exact .pure _

theorem writeEntry_errand (o : ObjectId) (key v : Value) :
    Errand ρ P r fun _ => writeEntry o key v := by
  delta writeEntry
  cases Key.ofValue key with
  | error f => exact .raise _
  | ok k =>
    refine .bind (.objectAt o) fun object => ?_
    cases object.writeFault? k with
    | some f => exact .raise _
    | none => exact .updateObject _ (.set k v)

theorem getMember_errand (target key : Value) (a : Accessor) :
    Errand .wide P r fun e => getMember e target key a := by
  delta getMember
  refine .bind (routeTo_errand target key false) fun ⟨o, route⟩ => ?_
  cases route with
  | member name member binding =>
    cases member with
    | none => exact .raise _
    | some member =>
      cases member with
      | method function => exact .pure _
      | accessor getter setter =>
        cases getter with
        | some getter => exact .callBound _ _ _ trivial
        | none => exact .raise _
  | record declared =>
    refine .bind (.read _) fun getter? => ?_
    cases getter? with
    | some getter => exact .call _ _
    | none =>
      cases declared with
      | none => exact raiseRecordKey_errand o key
      | some t => exact readEntry_errand o key
  | plain =>
    refine .bind (.read _) fun getter? => ?_
    cases getter? with
    | some getter => exact .call _ _
    | none =>
      cases key with
      | empty => exact .raise _
      | _ => exact readEntry_errand o _

theorem setMember_errand (target key v : Value) (a : Accessor) :
    Errand .wide P r fun e => setMember e target key v a := by
  delta setMember
  refine .bind (routeTo_errand target key true) fun ⟨o, route⟩ => ?_
  cases route with
  | member name member binding =>
    cases member with
    | none => exact .raise _
    | some member =>
      cases member with
      | method function => exact .raise _
      | accessor getter setter =>
        cases setter with
        | some setter => exact .bind (.callBound _ _ _ trivial) fun _ => .pure v
        | none => exact .raise _
  | record declared =>
    refine .bind (.read _) fun setter? => ?_
    cases setter? with
    | some setter => exact .bind (.call _ _) fun _ => .pure v
    | none =>
      cases declared with
      | none => exact raiseRecordKey_errand o key
      | some t =>
        refine .bind (.read _) fun fits => .ite ?_ ?_
        · exact .bind (writeEntry_errand o key v) fun _ => .pure v
        · exact .bind (.read _) fun wanted => .bind (.read _) fun got => .raise _
  | plain =>
    refine .bind (.read _) fun setter? => ?_
    cases setter? with
    | some setter => exact .bind (.call _ _) fun _ => .pure v
    | none => exact .bind (writeEntry_errand o key v) fun _ => .pure v

/-! ## Enumeration -/

theorem enumerationOverride_errand (hook : Value) (what : String) :
    Errand .wide P r fun e => enumerationOverride e hook what := by
  delta enumerationOverride
  -- The hook itself and what it returns are looked at alike.
  suffices finish : ∀ result : Value, Errand .wide P r fun _ => _ from
    .bind (.read _) fun callable => .ite (.bind (.call _ _) finish) (finish hook)
  intro result
  cases result with
  | object o => exact .bind (.objectAt o) fun object => .pure _
  | _ => exact .raise _

theorem objectKeys_errand (o : ObjectId) : Errand .wide P r fun e => objectKeys e o := by
  delta objectKeys
  refine .bind (.read _) fun hook? => ?_
  cases hook? with
  | some hook => exact enumerationOverride_errand hook _
  | none => exact .bind (.objectAt o) fun object => .pure _

theorem interfaceValue_errand (o : ObjectId) (key : Value) :
    Errand .wide P r fun e => interfaceValue e o key := by
  delta interfaceValue
  split
  · exact getMember_errand _ _ _
  · exact readEntry_errand o _

theorem objectValues_errand (o : ObjectId) : Errand .wide P r fun e => objectValues e o := by
  delta objectValues
  refine .bind (.read _) fun hook? => ?_
  cases hook? with
  | some hook => exact enumerationOverride_errand hook _
  | none =>
    refine .bind (.objectAt o) fun object => .ite (.pure _) ?_
    exact .mapM (interfaceValue_errand o) _

/-! ## Operators -/

theorem raiseUndefined_errand {α : Type} (symbol : String) (operand : Value) :
    Errand ρ P r fun _ => (raiseUndefined symbol operand : Action α) :=
  .raise _

theorem binaryOperation_errand (op : Operator) (l r' : Value) :
    Errand .wide P r fun e => binaryOperation e op l r' := by
  delta binaryOperation
  split
  · refine .bind (.read _) fun overload? => ?_
    cases overload? with
    | some overload => exact .call _ _
    | none =>
      cases op with
      | equal => exact .pure _
      | notEqual => exact .pure _
      | _ => exact raiseUndefined_errand _ _
  · exact .pure _
  · exact .pure _
  · refine .ite (.bind (asNumber_errand _) fun b => ?_) (raiseUndefined_errand _ _)
    split
    · exact .pure _
    · exact raiseUndefined_errand _ _
  · cases op with
    | and => exact .ite (.bind (asBoolean_errand _) fun b => .pure _) (.pure _)
    | or => exact .ite (.pure _) (.bind (asBoolean_errand _) fun b => .pure _)
    | equal => exact .bind (asBoolean_errand _) fun b => .pure _
    | notEqual => exact .bind (asBoolean_errand _) fun b => .pure _
    | _ => exact raiseUndefined_errand _ _
  · refine .ite (.bind (asString_errand _) fun b => .pure _) ?_
    exact .ite (.bind (asString_errand _) fun b => .pure _) (raiseUndefined_errand _ _)
  · cases op with
    | equal => exact .pure _
    | notEqual => exact .pure _
    | _ => exact raiseUndefined_errand _ _
  · cases op with
    | equal => exact .pure _
    | notEqual => exact .pure _
    | _ => exact raiseUndefined_errand _ _

theorem unaryOperation_errand (op : Operator) (v : Value) :
    Errand .wide P r fun e => unaryOperation e op v := by
  delta unaryOperation
  split
  · exact .pure _
  · exact .pure _
  · exact .pure _
  · refine .bind (.read _) fun overload? => ?_
    cases overload? with
    | some overload => exact .call _ _
    | none => exact raiseUndefined_errand _ _
  · exact raiseUndefined_errand _ _

theorem compoundAssignment_errand (a : Assignment) (current operand : Value) :
    Errand .wide P r fun e => compoundAssignment e a current operand := by
  delta compoundAssignment
  cases a.operator? with
  | none => exact .pure _
  | some op =>
    cases current with
    | object o =>
      refine .bind (.read _) fun overload? => ?_
      cases overload? with
      | some overload => exact .bind (.call _ _) fun _ => .pure none
      | none => exact .bind (binaryOperation_errand op _ operand) fun v => .pure (some v)
    | _ =>
      show Errand .wide P r fun e => do return some (← binaryOperation e op _ operand)
      exact .bind (binaryOperation_errand op _ operand) fun v => .pure (some v)

/-! ## As routines -/

section Routines

theorem asNumber_routine (v : Value) : Routine P r fun e => asNumber e v :=
  Errand.routine (asNumber_errand v : Errand .narrow P r _)

theorem asString_routine (v : Value) : Routine P r fun e => asString e v :=
  Errand.routine (asString_errand v : Errand .narrow P r _)

theorem asBoolean_routine (v : Value) : Routine P r fun e => asBoolean e v :=
  Errand.routine (asBoolean_errand v : Errand .narrow P r _)

theorem convertTo_routine (v : Value) (t : TypeId) : Routine P r fun e => convertTo e v t :=
  Errand.routine (convertTo_errand v t : Errand .narrow P r _)

theorem getMember_routine (target key : Value) (a : Accessor) :
    Routine P r fun e => getMember e target key a :=
  (getMember_errand target key a).routine

theorem setMember_routine (target key v : Value) (a : Accessor) :
    Routine P r fun e => setMember e target key v a :=
  (setMember_errand target key v a).routine

theorem objectKeys_routine (o : ObjectId) : Routine P r fun e => objectKeys e o :=
  (objectKeys_errand o).routine

theorem objectValues_routine (o : ObjectId) : Routine P r fun e => objectValues e o :=
  (objectValues_errand o).routine

theorem binaryOperation_routine (op : Operator) (l r' : Value) :
    Routine P r fun e => binaryOperation e op l r' :=
  (binaryOperation_errand op l r').routine

theorem unaryOperation_routine (op : Operator) (v : Value) :
    Routine P r fun e => unaryOperation e op v :=
  (unaryOperation_errand op v).routine

theorem compoundAssignment_routine (a : Assignment) (current operand : Value) :
    Routine P r fun e => compoundAssignment e a current operand :=
  (compoundAssignment_errand a current operand).routine

end Routines

end StubMachine
