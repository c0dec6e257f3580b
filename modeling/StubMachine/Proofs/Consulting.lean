import StubMachine.Machine.Step
import StubMachine.Proofs.Passage

/-!
# Operations that only consult

Conversions, operators, reads of members, the enumeration of keys and values, searching and
formatting texts, writing a document: all of these look at the state, call functions and
raise errors, and write nothing themselves.  Every run of one is an interlude, whatever
its arguments are.
-/

namespace StubMachine

open StubMachine.Action

section Consulting
variable {R : Machine → Machine → Prop} [passage : Machine.Passage R] {e : Engine} [e.CallsAlong R]

/-! ## Conversions -/

theorem convertObject_along (o : ObjectId) (wanted : BuiltinType) :
    Along R (convertObject e o wanted) := by
  delta convertObject
  refine .bind (.read _) fun converter? => ?_
  cases converter? with
  | some converter => exact .call _ _
  | none => exact .bind (.objectAt o) fun _ => .raise _

theorem asNumber_along (v : Value) : Along R (asNumber e v) := by
  delta asNumber
  cases v with
  | number n => exact .pure _
  | boolean b => exact .pure _
  | object o =>
    refine .bind (convertObject_along o _) fun w => ?_
    cases w with
    | number n => exact .pure _
    | _ => exact .raise _
  | _ => exact .raise _

theorem asString_along (v : Value) : Along R (asString e v) := by
  delta asString
  cases v with
  | string s => exact .pure _
  | number n => exact .pure _
  | boolean b => exact .pure _
  | type t => exact .read _
  | object o =>
    refine .bind (convertObject_along o _) fun w => ?_
    cases w with
    | string s => exact .pure _
    | _ => exact .raise _
  | empty => exact .raise _

theorem asBoolean_along (v : Value) : Along R (asBoolean e v) := by
  delta asBoolean
  cases v with
  | object o =>
    refine .bind (.objectAt o) fun object => ?_
    refine .ite (.pure _) (.bind (convertObject_along o _) fun w => ?_)
    cases w with
    | boolean b => exact .pure _
    | _ => exact .raise _
  | _ => exact .pure _

theorem convertByAttribute_along (v : Value) (t : TypeId) :
    Along R (convertByAttribute e v t) := by
  cases v with
  | object o =>
    refine .bind (.read _) fun converter? => ?_
    cases converter? with
    | some converter =>
      refine .bind (.call _ _) fun converted => ?_
      exact .bind (.read _) fun fits => .ite (.pure _) (.pure _)
    | none => exact .pure _
  | _ => exact .pure _

theorem convertTo_along (v : Value) (t : TypeId) : Along R (convertTo e v t) := by
  delta convertTo
  split
  · exact .bind (asNumber_along v) fun n => .pure _
  · exact .bind (asString_along v) fun s => .pure _
  · exact .bind (asBoolean_along v) fun b => .pure _
  · exact .bind (.read _) fun t => .pure _
  · refine .bind (.read _) fun fits => .ite (.pure v) ?_
    refine .bind (convertByAttribute_along v t) fun converted? => ?_
    cases converted? with
    | some converted => exact .pure _
    | none => exact .bind (.read _) fun wanted => .raise _

/-! ## Operators -/

theorem binaryOperation_along (op : Operator) (l r : Value) :
    Along R (binaryOperation e op l r) := by
  have undefined {α : Type} (operand : Value) :
      Along R (raiseUndefined op.symbol operand : Action α) := .raise _
  delta binaryOperation
  -- in turn: an object, Empty on the right of `==` and `!=`, a number, a boolean, a string, Empty, a
  -- type
  split
  · refine .bind (.read _) fun overload? => ?_
    cases overload? with
    | some overload => exact .call _ _
    | none =>
      cases op with
      | equal => exact .pure _
      | notEqual => exact .pure _
      | _ => exact undefined _
  · exact .pure _
  · exact .pure _
  · refine .ite (.bind (asNumber_along _) fun b => ?_) (undefined _)
    split
    · exact .pure _
    · exact undefined _
  · cases op with
    | and => exact .ite (.bind (asBoolean_along _) fun b => .pure _) (.pure _)
    | or => exact .ite (.pure _) (.bind (asBoolean_along _) fun b => .pure _)
    | equal => exact .bind (asBoolean_along _) fun b => .pure _
    | notEqual => exact .bind (asBoolean_along _) fun b => .pure _
    | _ => exact undefined _
  · refine .ite (.bind (asString_along _) fun b => .pure _) ?_
    exact .ite (.bind (asString_along _) fun b => .pure _) (undefined _)
  · cases op with
    | equal => exact .pure _
    | notEqual => exact .pure _
    | _ => exact undefined _
  · cases op with
    | equal => exact .pure _
    | notEqual => exact .pure _
    | _ => exact undefined _

theorem unaryOperation_along (op : Operator) (v : Value) :
    Along R (unaryOperation e op v) := by
  delta unaryOperation
  split
  · exact .pure _
  · exact .pure _
  · exact .pure _
  · refine .bind (.read _) fun overload? => ?_
    cases overload? with
    | some overload => exact .call _ _
    | none => exact .raise _
  · exact .raise _

theorem compoundAssignment_along (a : Assignment) (current operand : Value) :
    Along R (compoundAssignment e a current operand) := by
  delta compoundAssignment
  cases a.operator? with
  | none => exact .pure _
  | some op =>
    cases current with
    | object o =>
      refine .bind (.read _) fun overload? => ?_
      cases overload? with
      | some overload => exact .bind (.call _ _) fun _ => .pure none
      | none => exact .bind (binaryOperation_along op _ operand) fun v => .pure (some v)
    | _ =>
      show Along R do return some (← binaryOperation e op _ operand)
      exact .bind (binaryOperation_along op _ operand) fun v => .pure (some v)

/-! ## Members -/

theorem routeTo_along (target key : Value) (write : Bool) :
    Along R (routeTo target key write) := by
  delta routeTo
  cases target with
  | object o =>
    refine .bind (.objectAt o) fun object => ?_
    split
    · exact .raise _
    · cases key with
      | string name => exact .pure _
      | _ => exact .raise _
    · exact .pure _
    · exact .pure _
  | _ => exact .raise _

theorem raiseRecordKey_along {α : Type} (o : ObjectId) (key : Value) :
    Along R (raiseRecordKey o key : Action α) :=
  .bind (.read _) fun _ => .raise _

theorem readEntry_along (o : ObjectId) (key : Value) : Along R (readEntry o key) := by
  delta readEntry
  cases Key.ofValue key with
  | ok k => exact .bind (.objectAt o) fun _ => .pure _
  | error f => exact .pure _

theorem getMember_along (target key : Value) (a : Accessor) :
    Along R (getMember e target key a) := by
  delta getMember
  refine .bind (routeTo_along target key false) fun ⟨o, route⟩ => ?_
  cases route with
  | member name member binding =>
    cases member with
    | none => exact .raise _
    | some member =>
      cases member with
      | method function => exact .pure _
      | accessor getter setter =>
        cases getter with
        | some getter => exact .callBound _ _ _
        | none => exact .raise _
  | record declared =>
    refine .bind (.read _) fun getter? => ?_
    cases getter? with
    | some getter => exact .call _ _
    | none =>
      cases declared with
      | none => exact raiseRecordKey_along o key
      | some t => exact readEntry_along o key
  | plain =>
    refine .bind (.read _) fun getter? => ?_
    cases getter? with
    | some getter => exact .call _ _
    | none =>
      cases key with
      | empty => exact .raise _
      | _ => exact readEntry_along o _

theorem enumerationOverride_along (hook : Value) (what : String) :
    Along R (enumerationOverride e hook what) := by
  delta enumerationOverride
  suffices finish : ∀ result : Value, Along R _ from
    .bind (.read _) fun callable => .ite (.bind (.call _ _) finish) (finish hook)
  intro result
  cases result with
  | object o => exact .bind (.objectAt o) fun object => .pure _
  | _ => exact .raise _

theorem objectKeys_along (o : ObjectId) : Along R (objectKeys e o) := by
  delta objectKeys
  refine .bind (.read _) fun hook? => ?_
  cases hook? with
  | some hook => exact enumerationOverride_along hook _
  | none => exact .bind (.objectAt o) fun object => .pure _

theorem interfaceValue_along (o : ObjectId) (key : Value) :
    Along R (interfaceValue e o key) := by
  delta interfaceValue
  split
  · exact getMember_along _ _ _
  · exact readEntry_along o _

theorem objectValues_along (o : ObjectId) : Along R (objectValues e o) := by
  delta objectValues
  refine .bind (.read _) fun hook? => ?_
  cases hook? with
  | some hook => exact enumerationOverride_along hook _
  | none =>
    refine .bind (.objectAt o) fun object => .ite (.pure _) ?_
    exact .mapM (interfaceValue_along o) _

/-! ## The value stack and operands -/

theorem readReferrable_along (i slot : Nat) : Along R (readReferrable i slot) := by
  delta readReferrable
  refine .bind (.read _) fun v? => ?_
  cases v? with
  | some v => exact .pure v
  | none => exact .raise _

theorem pop_along (i : Nat) : Along R (pop i) := by
  delta pop
  refine .bind (.read _) fun stack => ?_
  cases stack with
  | nil => exact .raise _
  | cons v rest => exact .bind (.updateFrame i fun _ => rfl) fun _ => .pure v

theorem peek_along (i : Nat) : Along R (peek i) := by
  delta peek
  refine .bind (.read _) fun stack => ?_
  cases stack with
  | nil => exact .raise _
  | cons v rest => exact .pure v

theorem popMany_along (i count : Nat) : Along R (popMany i count) := by
  delta popMany
  refine .bind (.read _) fun stack => .unlessThen (.raise _) ?_
  exact .bind (.updateFrame i fun _ => rfl) fun _ => .pure _

theorem pooledText_along (i : Nat) (operand : Float) : Along R (pooledText i operand) := by
  delta pooledText
  refine .bind (.read _) fun s? => ?_
  cases s? with
  | some s => exact .pure s
  | none => exact .raise _

theorem builtinType_along (operand : Float) : Along R (builtinType operand) := by
  delta builtinType
  dsimp only
  split
  · exact .pure _
  · exact .raise _

theorem namedOperator_along (operand : Float) : Along R (namedOperator operand) := by
  delta namedOperator
  split
  · exact .pure _
  · exact .raise _

theorem namedAssignment_along (byte : Nat) : Along R (namedAssignment byte) := by
  delta namedAssignment
  split
  · exact .pure _
  · exact .raise _

theorem signatureTypes_along (values : List Value) : Along R (signatureTypes values) := by
  induction values with
  | nil => exact .pure []
  | cons v values ih =>
    cases v with
    | type t => exact .bind ih fun types => .pure _
    | _ => exact .raise _

theorem namedArguments_along (entries : List (Value × Value)) :
    Along R (namedArguments entries) := by
  induction entries with
  | nil => exact .pure []
  | cons entry entries ih =>
    obtain ⟨name, v⟩ := entry
    cases name with
    | string name => exact .bind ih fun arguments => .pure _
    | _ => exact .raise _

/-! ## Calls -/

theorem callFromStack_along (i count : Nat) : Along R (callFromStack e i count) :=
  .bind (popMany_along i _) fun _ => .bind (pop_along i) fun _ =>
    .bind (namedArguments_along _) fun _ => .call _ _

theorem operate_along (i : Nat) (op : Operator) : Along R (operate e i op) := by
  refine .bind (pop_along i) fun r => .ite (unaryOperation_along op r) ?_
  exact .bind (pop_along i) fun l => binaryOperation_along op l r

theorem checkParameters_along (f : FunctionFacet) (parameters : Array Value) :
    Along R (checkParameters f parameters) := by
  delta checkParameters
  cases f.types with
  | none => exact .pure ()
  | some types =>
    refine .bind (.read _) fun mistyped? => ?_
    cases mistyped? with
    | none => exact .pure ()
    | some mistyped => exact .bind (.read _) fun _ => .bind (.read _) fun _ => .raise _

theorem checkResult_along (f : FunctionFacet) (v : Value) : Along R (checkResult f v) := by
  delta checkResult
  cases f.types.bind fun types => types[f.stub.arity]? with
  | none => exact .pure v
  | some t =>
    refine .bind (.read _) fun fits => .ite (.pure v) ?_
    exact .bind (.read _) fun _ => .bind (.read _) fun _ => .raise _

theorem callType_along (t : TypeId) (arguments : Arguments) :
    Along R (callType e t arguments) := by
  delta callType
  split
  · exact .ite (convertTo_along _ t) (.bind (.read _) fun _ => .raise _)
  · exact .bind (.read _) fun _ => .raise _

theorem loopBody_along (body : Value) : Along R (loopBody body) := by
  delta loopBody
  cases body with
  | object o =>
    refine .bind (.objectAt o) fun object => .bind (.pure _) fun facet? => ?_
    cases facet? with
    | some f => exact .pure f
    | none => exact .raise _
  | _ =>
    show Along R (raise .loopBody)
    exact .raise _

theorem iterated_along (o : ObjectId) : Along R (iterated e o) := by
  delta iterated
  refine .bind (.read _) fun hook? => ?_
  cases hook? with
  | none => exact .pure o
  | some hook =>
    refine .bind (.call _ _) fun v => ?_
    cases v with
    | object o => exact .pure o
    | _ => exact .raise _

/-- What listening takes and puts back is no part of the store. -/
theorem listen_along (function response : Value) : Along R (listen e function response) := by
  intro m
  have calls (function : Value) (arguments : Arguments) (n : Machine) :
      R n ((e.call function arguments).after n) := Along.call function arguments n
  rcases listen_cases e function response m with same | ⟨m', c, raised, -, outcome⟩
  · rw [Action.after, same]
    exact calls function [] m
  · have called := calls function [] m
    rw [Action.after, raised] at called
    have taken : R m m'.quieted := passage.trans _ _ _ called (passage.aside (.of_eq rfl))
    rcases outcome with ⟨handler, responds⟩ | responds
    · rw [Action.after, responds]
      exact passage.trans _ _ _ taken (calls handler _ m'.quieted)
    · rw [Action.after, responds]
      exact taken

/-- What settling takes and reports is no part of the store either. -/
theorem settle_along {x : Action Value} (h : Along R x) : Along R (settle x) := by
  intro m
  have ended := h m
  rcases settle_cases x m with same | ⟨failure, m', failed, -, outcome⟩
  · rw [Action.after, same]
    exact ended
  · rw [Action.after, failed] at ended
    have left : ∃ m₁, (settle x).after m = m₁ ∧ m'.Beside m₁ := by
      unfold Action.after
      rcases outcome with ⟨c, -, -, -, run⟩ | ⟨c, -, -, -, run⟩ | ⟨-, run⟩
      · exact ⟨m'.quieted, by rw [run], .of_eq rfl⟩
      · exact ⟨m'.reported c, by rw [run], .of_eq rfl⟩
      · exact ⟨m'.quieted, by rw [run], .of_eq rfl⟩
    obtain ⟨m₁, after, beside⟩ := left
    rw [after]
    exact passage.trans _ _ _ ended (passage.aside beside)

theorem raiseFailure_along (failure : Failure) :
    Along R (raiseFailure failure) := by
  intro m
  rcases raiseFailure_eq failure m with same | ⟨detail, raised⟩
  · rw [Action.after, same]; exact passage.refl m
  · rw [raised]; exact Along.raiseError detail m

end Consulting

/-! ## Native functions -/

namespace Native
variable {R : Machine → Machine → Prop} [passage : Machine.Passage R] {e : Engine} [e.CallsAlong R]
  (args : Array Value)

section Arguments
variable (i : Nat) (what : String)

theorem objectArgument_along : Along R (objectArgument args i what) := by
  delta objectArgument
  cases argument args i with
  | object o => exact .pure o
  | _ => exact .fail _

theorem indexArgument_along : Along R (indexArgument args i what) := by
  delta indexArgument
  cases argument args i with
  | number n => exact .ite (.pure _) (.fail _)
  | _ => exact .fail _

theorem functionArgument_along : Along R (functionArgument args i what) := by
  delta functionArgument
  exact .bind (.read _) fun b => .ite (.pure _) (.fail _)

theorem stringArgument_along : Along R (stringArgument args i what) := by
  delta stringArgument
  cases argument args i with
  | string s => exact .pure s
  | _ => exact .fail _

theorem baseString_along : Along R (baseString args) :=
  stringArgument_along args 0 "base"

theorem baseObject_along : Along R (baseObject args) := by
  refine .bind (objectArgument_along args 0 "base") fun o => ?_
  exact .bind (.objectAt o) fun object => .unlessThen (.fail _) (.pure o)

theorem snapshot_along : Along R (snapshot args what) :=
  .bind (baseObject_along args) fun _ =>
    .bind (functionArgument_along args 1 what) fun _ => .bind (.objectAt _) fun _ => .pure _

end Arguments

/-! ### Objects -/

theorem mergeRuns_along {order : Value → Value → Action Bool}
    (h : ∀ a b, Along R (order a b)) (left right : List Value) :
    Along R (mergeRuns order left right) := by
  induction left, right using mergeRuns.induct with
  | case1 right => simp only [mergeRuns]; exact .pure _
  | case2 left nonempty => cases left <;> (simp only [mergeRuns]; exact .pure _)
  | case3 a left b right ih₁ ih₂ =>
    simp only [mergeRuns]
    exact .bind (h a b) fun _ => .ite (.bind ih₁ fun _ => .pure _) (.bind ih₂ fun _ => .pure _)

theorem mergeSort_along {order : Value → Value → Action Bool}
    (h : ∀ a b, Along R (order a b)) (values : List Value) :
    Along R (mergeSort order values) := by
  induction values using mergeSort.induct with
  | case1 values short => unfold mergeSort; simp only [short, dite_true]; exact .pure _
  | case2 values long middle ihLeft ihRight =>
    unfold mergeSort
    simp only [long, dite_false]
    exact .bind ihLeft fun left => .bind ihRight fun right => mergeRuns_along h left right

theorem inOrder_along (comparator a b : Value) : Along R (inOrder e comparator a b) :=
  .bind (.call _ _) fun verdict => .bind (asNumber_along verdict) fun _ => .pure _

theorem reduce_along : Along R (reduce e args) := by
  refine .bind (snapshot_along args "to") fun ⟨values, function⟩ => ?_
  exact .foldlM (fun previous v => .call _ _) values .empty

theorem search_along (condition : Value) (wanted : Bool) (values : List Value) :
    Along R (search e condition wanted values) := by
  induction values with
  | nil => exact .pure false
  | cons v values ih =>
    exact .bind (.call _ _) fun verdict => .bind (asBoolean_along verdict) fun _ =>
      .ite (.pure true) ih

theorem any_along : Along R (any e args) := by
  refine .bind (snapshot_along args "condition") fun ⟨values, condition⟩ => ?_
  exact .bind (search_along condition true values) fun _ => .pure _

theorem all_along : Along R (all e args) := by
  refine .bind (snapshot_along args "condition") fun ⟨values, condition⟩ => ?_
  exact .bind (search_along condition false values) fun _ => .pure _

theorem foreach_along : Along R (foreach e args) := by
  refine .bind (baseObject_along args) fun o => ?_
  refine .bind (functionArgument_along args 1 "do") fun body => ?_
  refine .bind (objectKeys_along o) fun keys => ?_
  refine .bind (objectValues_along o) fun values => ?_
  refine .bind (.forIn (fun entry _ => ?_) (keys.zip values) _) fun _ => .pure _
  exact .bind (.call _ _) fun _ => .pure _

theorem findIndex_along : Along R (findIndex args) := by
  delta findIndex
  refine .bind (baseObject_along args) fun o => .bind (.objectAt o) fun object => ?_
  split
  · exact .pure _
  · exact .pure _

theorem atan2_along : Along R (atan2 e args) := by
  delta atan2
  cases argument args 0 with
  | number x => exact .bind (asNumber_along _) fun _ => .pure _
  | _ => exact .fail _

theorem isA_along : Along R (isA args) := by
  delta isA
  cases argument args 1 with
  | type t => exact .bind (.read _) fun _ => .pure _
  | _ => exact .fail _

/-! ### Texts -/

theorem searchKey_along : Along R (searchKey e args) :=
  .bind (asString_along _) fun key => .unlessThen (.fail _) (.pure key)

theorem keyOccurrences_along : Along R (keyOccurrences e args) :=
  .bind (baseString_along args) fun _ => .bind (searchKey_along args) fun _ => .pure _

theorem searchText_along : Along R (searchText e args) := by
  refine .bind (baseString_along args) fun s => .bind (searchKey_along args) fun key => ?_
  cases Text.first? key s with
  | some position => exact .pure _
  | none => exact .pure _

theorem countText_along : Along R (countText e args) :=
  .bind (keyOccurrences_along args) fun _ => .pure _

theorem containsText_along : Along R (containsText e args) :=
  .bind (baseString_along args) fun _ => .bind (asString_along _) fun _ => .pure _

theorem singleKey_along : Along R (singleKey e args) := by
  delta singleKey
  cases argument args 1 with
  | empty => exact .pure _
  | _ => exact .bind (asString_along _) fun key => .pure _

theorem listedKeys_along : Along R (listedKeys e args) := by
  delta listedKeys
  cases argument args 3 with
  | object keys => exact .bind (objectValues_along keys) fun values => .mapM asString_along values
  | _ => exact .pure _

theorem replacedKeys_along : Along R (replacedKeys e args) :=
  .bind (singleKey_along args) fun _ => .bind (listedKeys_along args) fun _ => .pure _

theorem replaceText_along : Along R (replaceText e args) :=
  .bind (baseString_along args) fun _ => .bind (asString_along _) fun _ =>
    .bind (replacedKeys_along args) fun _ => .unlessThen (.fail _) (.pure _)

theorem characterAt_along (s : String) (i : Nat) : Along R (characterAt s i) := by
  delta characterAt
  cases s.toList[i]? with
  | some c => exact .pure c
  | none => exact .fail _

theorem spliced_along (s : String) (i : Nat) (replacement : String) :
    Along R (spliced s i replacement) :=
  .bind (characterAt_along s i) fun _ => .pure _

theorem charCodeAt_along : Along R (charCodeAt args) :=
  .bind (baseString_along args) fun s => .bind (indexArgument_along args 1 "index") fun i =>
    .bind (characterAt_along s i) fun _ => .pure _

theorem charAt_along : Along R (charAt args) :=
  .bind (baseString_along args) fun s => .bind (indexArgument_along args 1 "index") fun i =>
    .bind (characterAt_along s i) fun _ => .pure _

theorem setCharCodeAt_along : Along R (setCharCodeAt e args) :=
  .bind (baseString_along args) fun s => .bind (indexArgument_along args 1 "index") fun i =>
    .bind (asNumber_along _) fun _ => .ite (spliced_along s i _) (.fail _)

theorem setCharAt_along : Along R (setCharAt e args) :=
  .bind (baseString_along args) fun s => .bind (indexArgument_along args 1 "index") fun i =>
    .bind (asString_along _) fun _ => spliced_along s i _

theorem removeChar_along : Along R (removeChar args) :=
  .bind (baseString_along args) fun s => .bind (indexArgument_along args 1 "index") fun i =>
    spliced_along s i ""

theorem partText_along (items : Array Value) (part : TemplatePart) :
    Along R (partText e items part) := by
  cases part with
  | char c => exact .pure _
  | item n =>
    simp only [partText]
    cases items[n]? with
    | some v => exact .bind (asString_along v) fun _ => .pure _
    | none => exact .fail _

theorem formatText_along : Along R (formatText e args) :=
  .bind (baseString_along args) fun _ => .bind (objectArgument_along args 1 "items") fun o =>
    .bind (.objectAt o) fun object =>
      .bind (.mapM (partText_along object.indices) _) fun _ => .pure _

/-! ### Documents and types -/

theorem ofValue_along (fuel : Nat) (visiting : List ObjectId) (v : Value) :
    Along R (Json.ofValue e fuel visiting v) := by
  induction fuel generalizing visiting v with
  | zero => exact .throw _
  | succ fuel ih =>
    cases v with
    | object o =>
      refine .bind (.objectAt o) fun object => .ite (.pure _) (.unlessThen (.fail _) ?_)
      refine .bind (objectKeys_along o) fun keys => ?_
      refine .bind (objectValues_along o) fun values => ?_
      refine .bind (.objectAt o) fun object => .ite ?_ ?_
      · exact .bind (.mapM (ih (o :: visiting)) values) fun items => .pure _
      · refine .bind (.mapM (fun entry => ?_) (keys.zip values)) fun members => .pure _
        refine .bind (.read _) fun name? => ?_
        cases name? with
        | error f => exact .fail f
        | ok name => exact .bind (ih _ _) fun j => .pure _
    | type t => exact .bind (.read _) fun name => .pure _
    | _ => exact .pure _

theorem encodeJson_along (v : Value) : Along R (encodeJson e v) :=
  .bind (ofValue_along e.fuel [] v) fun _ => .pure _

theorem print_along : Along R (print e args) :=
  .bind (asString_along _) fun _ =>
    .bind (.aside _ fun _ => .of_eq rfl) fun _ => .pure _

theorem parseNumber_along : Along R (parseNumber e args) := by
  delta parseNumber
  refine .bind (asString_along _) fun text => ?_
  cases Literal.read? (Text.trim text) with
  | some n => exact .pure _
  | none => exact .fail _

theorem random_along (host : Host) : Along R (random host) := fun _ =>
  passage.aside (.of_eq rfl)

theorem combine_along : Along R (combine e args) :=
  .bind (objectArgument_along args 0 "strings") fun o =>
    .bind (objectValues_along o) fun values =>
      .bind (.mapM asString_along values) fun _ => .pure _

theorem parentOf_along (v : Value) : Along R (parentOf v) := by
  cases v with
  | type t => exact .pure t
  | _ => exact .fail _

theorem parentsOf_along (v : Value) : Along R (parentsOf e v) := by
  cases v with
  | empty => exact .pure none
  | object o =>
    exact .bind (objectValues_along o) fun values =>
      .bind (.mapM parentOf_along values) fun _ => .pure _
  | _ => exact .fail _

theorem layoutEntryOf_along (entry : String × Value) : Along R (layoutEntryOf entry) := by
  delta layoutEntryOf
  cases entry.2 with
  | type t => exact .pure _
  | _ => exact .fail _

theorem layoutOf_along (v : Value) : Along R (layoutOf v) := by
  cases v with
  | empty => exact .pure none
  | object o =>
    exact .bind (.objectAt o) fun _ =>
      .bind (.mapM layoutEntryOf_along _) fun _ => .pure _
  | _ => exact .fail _

theorem newType_along : Along R (newType e args) := by
  delta newType
  suffices finish : ∀ name : String, Along R _ by
    cases argument args 0 with
    | empty => exact .bind (.pure _) finish
    | _ => exact .bind (asString_along _) finish
  intro name
  refine .bind (parentsOf_along _) fun parents => .bind (layoutOf_along _) fun layout => ?_
  refine .bind (.read _) fun created => ?_
  cases created with
  | error f => exact .fail _
  | ok created =>
    exact .bind (.aside _ fun _ => .of_eq rfl) fun _ => .pure _

end Native

end StubMachine
