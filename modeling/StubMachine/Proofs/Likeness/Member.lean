import StubMachine.Proofs.Likeness
import StubMachine.Proofs.Routine.Member

/-!
# Access, conversion and operators are alike

Converting values, reading and writing members, enumerating them and applying operators
do the same under every likeness.  **Only where an accessor of an interface is called
does the private binding come up**, and there the likeness says what may be asked.
-/

namespace StubMachine

open StubMachine.Action

/-- What the facets of objects have in common that are the same but for a private binding. -/
theorem Object.Like.facet_cases
    {Binds : OrderedMap String Member → Option Value → Option Value → Prop} {a b : Object}
    (h : Object.Like Binds a b) :
    (∃ members x y, (Binds members x y ∨ x = y) ∧ a.facet = .interface members x ∧
        b.facet = .interface members y) ∨
      (b.facet = a.facet ∧ a.interface? = none) := by
  cases h with
  | refl =>
    cases facet : a.facet with
    | interface members x => exact .inl ⟨members, x, x, .inr rfl, rfl, rfl⟩
    | _ => exact .inr ⟨rfl, by rw [interface?, facet]⟩
  | rebound a members binds => exact .inl ⟨members, _, _, .inl binds, rfl, rfl⟩

namespace Likeness
variable {L : Likeness} {m n : Machine}

theorem getterOf (h : L.Rel m n) (o : ObjectId) (a : Accessor) :
    n.getterOf? o a = m.getterOf? o a := by
  have callable : n.isFunction = m.isFunction := funext (isFunction h)
  have named (p : ObjectId) : (n.object p).isFunction = (m.object p).isFunction :=
    isFunction h (.object p)
  simp only [Machine.getterOf?, attributeNamed h, callable, named, text h]

theorem setterOf (h : L.Rel m n) (o : ObjectId) (a : Accessor) :
    n.setterOf? o a = m.setterOf? o a := by
  have callable : n.isFunction = m.isFunction := funext (isFunction h)
  have named (p : ObjectId) : (n.object p).isFunction = (m.object p).isFunction :=
    isFunction h (.object p)
  simp only [Machine.setterOf?, attributeNamed h, callable, named, text h]

namespace Same
variable {α : Type}

/-- **Going on with the way that an access takes.**  Only in the private binding of an interface
may what follows differ. -/
theorem routeTo (target key : Value) (write : Bool) {k k' : ObjectId × Route → Action α}
    (member : ∀ {m n o name members x y}, L.Rel m n → (m.object o).facet = .interface members x →
      (n.object o).facet = .interface members y →
      Alike L.Rel (k (o, .member name (members.get? name) x) m)
        (k' (o, .member name (members.get? name) y) n))
    (record : ∀ o declared, L.Same (k (o, .record declared)) (k' (o, .record declared)))
    (plain : ∀ o, L.Same (k (o, .plain)) (k' (o, .plain))) :
    L.Same (StubMachine.routeTo target key write >>= k)
      (StubMachine.routeTo target key write >>= k') := by
  have raised (f : Fault) : L.Same (Action.raise f >>= k) (Action.raise f >>= k') := by
    rw [Action.raise, raiseError_bind, raiseError_bind]
    exact raiseError _
  cases target with
  | object o =>
    intro m n h
    have looked (m : Machine) : Action.objectAt o m = .ok (m.object o) m := rfl
    rw [StubMachine.routeTo, bind_assoc, bind_assoc, Action.bind_ok (looked m),
      Action.bind_ok (looked n)]
    rcases (L.objects h o).facet_cases with ⟨members, x, y, -, left, right⟩ | ⟨same, plainly⟩
    · rw [left, right]
      cases key with
      | string name => exact member h left right
      | _ => exact raised _ m n h
    · rw [same]
      cases facet : (m.object o).facet with
      | function f => exact raised _ m n h
      | interface members x =>
        rw [Object.interface?, facet] at plainly
        cases plainly
      | record layout => exact record o _ m n h
      | plain => exact plain o m n h
  | _ => exact raised _

theorem raiseRecordKey (o : ObjectId) (key : Value) :
    L.Same (StubMachine.raiseRecordKey o key : Action α) (StubMachine.raiseRecordKey o key) := by
  refine .bind (.read fun h => ?_) fun _ => .raise _
  rw [types h, (L.objects h o).agree Object.type fun _ _ _ _ => rfl]

theorem readEntry (o : ObjectId) (key : Value) :
    L.Same (StubMachine.readEntry o key) (StubMachine.readEntry o key) := by
  delta StubMachine.readEntry
  cases Key.ofValue key with
  | ok k =>
    refine .objectAt o (fun a members x y => ?_) fun _ => .pure _
    cases k <;> rfl
  | error f => exact .pure _

theorem writeEntry (o : ObjectId) (key v : Value) :
    L.Same (StubMachine.writeEntry o key v) (StubMachine.writeEntry o key v) := by
  delta StubMachine.writeEntry
  cases Key.ofValue key with
  | error f => exact .raise _
  | ok k =>
    refine .objectAt o (fun a members x y => by cases k <;> rfl) fun object => ?_
    cases object.writeFault? k with
    | some f => exact .raise _
    | none =>
      exact .changeObject o (.set k v) fun a members x => by cases k <;> rfl

section Requests
variable {e e' : Engine} (engines : L.Engines e e')
include engines

/-! ## Conversions -/

theorem convertObject (o : ObjectId) (wanted : BuiltinType) :
    L.Same (StubMachine.convertObject e o wanted) (StubMachine.convertObject e' o wanted) := by
  refine .bind (.read fun h => attributeAt h o _) fun converter? => ?_
  cases converter? with
  | some converter => exact .call engines _ _
  | none => exact .objectAt o (fun _ _ _ _ => rfl) fun _ => .raise _

theorem asNumber (v : Value) :
    L.Same (StubMachine.asNumber e v) (StubMachine.asNumber e' v) := by
  cases v with
  | number n => exact .pure n
  | boolean b => exact .pure _
  | object o =>
    refine .bind (convertObject engines o .number) fun v => ?_
    cases v with
    | number n => exact .pure n
    | _ => exact .raise _
  | _ => exact .raise _

theorem asString (v : Value) :
    L.Same (StubMachine.asString e v) (StubMachine.asString e' v) := by
  cases v with
  | object o =>
    refine .bind (convertObject engines o .string) fun v => ?_
    cases v with
    | string s => exact .pure s
    | _ => exact .raise _
  | empty => exact .raise _
  | type t => exact .read fun h => by rw [types h]
  | _ => exact .pure _

theorem asBoolean (v : Value) :
    L.Same (StubMachine.asBoolean e v) (StubMachine.asBoolean e' v) := by
  cases v with
  | object o =>
    refine .objectAt o (fun _ _ _ _ => rfl) fun object => .ite (.pure true) ?_
    refine .bind (convertObject engines o .boolean) fun v => ?_
    cases v with
    | boolean b => exact .pure b
    | _ => exact .raise _
  | _ => exact .pure _

theorem convertByAttribute (v : Value) (t : TypeId) :
    L.Same (StubMachine.convertByAttribute e v t) (StubMachine.convertByAttribute e' v t) := by
  cases v with
  | object o =>
    refine .bind (.read fun h => attributeAt h o _) fun converter? => ?_
    cases converter? with
    | some converter =>
      refine .bind (.call engines _ _) fun converted => ?_
      exact .bind (.read fun h => isA h converted t) fun fits => .ite (.pure _) (.pure _)
    | none => exact .pure none
  | _ => exact .pure none

theorem convertTo (v : Value) (t : TypeId) :
    L.Same (StubMachine.convertTo e v t) (StubMachine.convertTo e' v t) := by
  delta StubMachine.convertTo
  split
  · exact .bind (asNumber engines v) fun n => .pure _
  · exact .bind (asString engines v) fun s => .pure _
  · exact .bind (asBoolean engines v) fun b => .pure _
  · exact .bind (.read fun h => typeOf h v) fun t => .pure _
  · refine .bind (.read fun h => isA h v t) fun fits => .ite (.pure v) ?_
    refine .bind (convertByAttribute engines v t) fun converted? => ?_
    cases converted? with
    | some converted => exact .pure converted
    | none => exact .bind (.read fun h => by rw [types h]) fun name => .raise _

/-! ## Members -/

/-- **Reading a member does the same.** -/
theorem getMember (target key : Value) (a : Accessor) :
    L.Same (StubMachine.getMember e target key a) (StubMachine.getMember e' target key a) := by
  delta StubMachine.getMember
  refine routeTo target key false ?_
    (fun o declared => .option (.read fun h => getterOf h o a) (fun _ => .call engines _ _) ?_)
    fun o => .option (.read fun h => getterOf h o a) (fun _ => .call engines _ _) ?_
  · intro m n o name members x y h left right
    cases found : members.get? name with
    | none => exact raise _ m n h
    | some member =>
      cases member with
      | method function => exact pure function m n h
      | accessor getter setter =>
        cases getter with
        | some getter =>
          exact engines.perform h (L.accessor h left right (.get found))
        | none => exact raise _ m n h
  · cases declared with
    | none => exact raiseRecordKey o key
    | some t => exact readEntry o key
  · cases key with
    | empty => exact raise _
    | _ => exact readEntry o _

/-- **Writing a member does the same.** -/
theorem setMember (target key v : Value) (a : Accessor) :
    L.Same (StubMachine.setMember e target key v a) (StubMachine.setMember e' target key v a) := by
  delta StubMachine.setMember
  have asked (setter : Value) (arguments : Arguments) :
      L.Same (e.call setter arguments >>= fun _ => Pure.pure v)
        (e'.call setter arguments >>= fun _ => Pure.pure v) :=
    .bind (.call engines _ _) fun _ => .pure v
  refine routeTo target key true ?_
    (fun o declared => .option (.read fun h => setterOf h o a) (fun _ => asked _ _) ?_)
    fun o => .option (.read fun h => setterOf h o a) (fun _ => asked _ _) ?_
  · intro m n o name members x y h left right
    cases found : members.get? name with
    | none => exact raise _ m n h
    | some member =>
      cases member with
      | method function => exact raise _ m n h
      | accessor getter setter =>
        cases setter with
        | some setter =>
          -- the binding may differ, but the accessor is one that is given it
          have called := engines.perform h (L.accessor h left right (.set v found))
          exact called.bind fun _ _ _ _ _ h' => .ok v h'
        | none => exact raise _ m n h
  · cases declared with
    | none => exact raiseRecordKey o key
    | some t =>
      refine .bind (.read fun h => isA h v t) fun fits => .ite ?_ ?_
      · exact .bind (writeEntry o key v) fun _ => .pure v
      · refine .bind (.read fun h => by rw [types h]) fun wanted => ?_
        exact .bind (.typeName v) fun got => .raise _
  · exact .bind (writeEntry o key v) fun _ => .pure v

/-! ## Enumeration -/

theorem enumerationOverride (hook : Value) (what : String) :
    L.Same (StubMachine.enumerationOverride e hook what)
      (StubMachine.enumerationOverride e' hook what) := by
  delta StubMachine.enumerationOverride
  -- The hook itself and what it returns are looked at alike.
  suffices finish : ∀ result : Value, L.Same _ _ from
    .bind (.isFunction hook) fun callable =>
      .ite (.bind (.call engines _ _) finish) (finish hook)
  intro result
  cases result with
  | object o => exact .objectAt o (fun _ _ _ _ => rfl) fun object => .pure _
  | _ => exact .raise _

theorem objectKeys (o : ObjectId) :
    L.Same (StubMachine.objectKeys e o) (StubMachine.objectKeys e' o) := by
  delta StubMachine.objectKeys
  refine .bind (.read fun h => attributeNamed h o _) fun hook? => ?_
  cases hook? with
  | some hook => exact enumerationOverride engines hook _
  | none => exact .objectAt o (fun _ _ _ _ => rfl) fun object => .pure _

theorem interfaceValue (o : ObjectId) (key : Value) :
    L.Same (StubMachine.interfaceValue e o key) (StubMachine.interfaceValue e' o key) := by
  delta StubMachine.interfaceValue
  split
  · exact getMember engines _ _ _
  · exact readEntry o _

theorem objectValues (o : ObjectId) :
    L.Same (StubMachine.objectValues e o) (StubMachine.objectValues e' o) := by
  delta StubMachine.objectValues
  refine .bind (.read fun h => attributeNamed h o _) fun hook? => ?_
  cases hook? with
  | some hook => exact enumerationOverride engines hook _
  | none =>
    refine .objectAt o (fun _ _ _ _ => rfl) fun object => .ite (.pure _) ?_
    exact .mapM (interfaceValue engines o) _

/-! ## Operators -/

theorem binaryOperation (op : Operator) (l r : Value) :
    L.Same (StubMachine.binaryOperation e op l r) (StubMachine.binaryOperation e' op l r) := by
  delta StubMachine.binaryOperation
  split
  · refine .bind (.read fun h => attributeNamed h _ _) fun overload? => ?_
    cases overload? with
    | some overload => exact .call engines _ _
    | none =>
      cases op with
      | equal => exact .pure _
      | notEqual => exact .pure _
      | _ => exact .raise _
  · exact .pure _
  · exact .pure _
  · refine .ite (.bind (asNumber engines _) fun b => ?_) (.raise _)
    split
    · exact .pure _
    · exact .raise _
  · cases op with
    | and => exact .ite (.bind (asBoolean engines _) fun b => .pure _) (.pure _)
    | or => exact .ite (.pure _) (.bind (asBoolean engines _) fun b => .pure _)
    | equal => exact .bind (asBoolean engines _) fun b => .pure _
    | notEqual => exact .bind (asBoolean engines _) fun b => .pure _
    | _ => exact .raise _
  · refine .ite (.bind (asString engines _) fun b => .pure _) ?_
    exact .ite (.bind (asString engines _) fun b => .pure _) (.raise _)
  · cases op with
    | equal => exact .pure _
    | notEqual => exact .pure _
    | _ => exact .raise _
  · cases op with
    | equal => exact .pure _
    | notEqual => exact .pure _
    | _ => exact .raise _

theorem unaryOperation (op : Operator) (v : Value) :
    L.Same (StubMachine.unaryOperation e op v) (StubMachine.unaryOperation e' op v) := by
  delta StubMachine.unaryOperation
  split
  · exact .pure _
  · exact .pure _
  · exact .pure _
  · refine .bind (.read fun h => attributeNamed h _ _) fun overload? => ?_
    cases overload? with
    | some overload => exact .call engines _ _
    | none => exact .raise _
  · exact .raise _

theorem compoundAssignment (a : Assignment) (current operand : Value) :
    L.Same (StubMachine.compoundAssignment e a current operand)
      (StubMachine.compoundAssignment e' a current operand) := by
  delta StubMachine.compoundAssignment
  cases a.operator? with
  | none => exact .pure _
  | some op =>
    cases current with
    | object o =>
      refine .bind (.read fun h => attributeNamed h o _) fun overload? => ?_
      cases overload? with
      | some overload => exact .bind (.call engines _ _) fun _ => .pure none
      | none => exact .bind (binaryOperation engines op _ operand) fun v => .pure (some v)
    | _ =>
      show L.Same (do return some (← StubMachine.binaryOperation e op _ operand))
        (do return some (← StubMachine.binaryOperation e' op _ operand))
      exact .bind (binaryOperation engines op _ operand) fun v => .pure (some v)

end Requests
end Same
end Likeness

end StubMachine
