import StubMachine.Proofs.Likeness.Member
import StubMachine.Proofs.Routine.Native

/-!
# Native functions are alike

Each native function of the machine itself does the same under every likeness.  Nearly all
of them use the operations on members and otherwise look at entries and texts.  **The one
that turns objects into interfaces and back sees private bindings**: it carries the binding
of an interface over, or drops it, and does nothing else with it.

What the embedder's functions do is up to the embedder, and assumed.
-/

namespace StubMachine

open StubMachine.Action

/-- An interface with a binding of which one is the other's, or both are the same. -/
theorem Object.Like.asInterface
    {Binds : OrderedMap String Member → Option Value → Option Value → Prop} {a b : Object}
    (h : Object.Like Binds a b) {members : OrderedMap String Member} {x y : Option Value}
    (binds : Binds members x y ∨ x = y) :
    Object.Like Binds (a.asInterface members x) (b.asInterface members y) := by
  have overridden : b.asInterface members y = a.asInterface members y :=
    h.agree (Object.asInterface · members y) fun _ _ _ _ => rfl
  rw [overridden]
  rcases binds with binds | rfl
  · exact .rebound a members binds
  · exact .refl _

namespace Likeness
variable {L : Likeness} {m n : Machine}

theorem membersOf (h : L.Rel m n) (entries : List (String × Value)) :
    Native.membersOf n entries = Native.membersOf m entries := by
  have each (name : String) (v : Value) : Native.memberOf n name v = Native.memberOf m name v := by
    delta Native.memberOf
    rw [isFunction h]
    cases v with
    | object pair => simp only [text h]
    | _ => rfl
  simp only [Native.membersOf, each]

theorem memberName (h : L.Rel m n) (key : Value) : Json.memberName n key = Json.memberName m key := by
  cases key with
  | type t => exact congrArg (fun types : TypeTable => Except.ok (types.name t)) (types h)
  | _ => rfl

namespace Same

/-! ## Modules -/

theorem load (name : String) (bytes : List UInt8) :
    L.Same (StubMachine.load name bytes) (StubMachine.load name bytes) := by
  rw [load_eq]
  refine .bind (.look fun c => c.files.size) fun loaded => .ite (.fail _) ?_
  cases Record.readAll (.ofNat loaded) bytes with
  | error f => exact .throw _
  | ok found =>
    refine .ite (.bind (.refill fun c => { c with
      files := c.files.push name, stubs := registerStubs c.stubs (.ofNat loaded) found
      history := c.history.push (.started name) }) fun _ => .pure _) ?_
    exact .throw _

theorem keepModule (origin : String → Value → ModuleEvent) (name : String) (v : Value) :
    L.Same (StubMachine.keepModule origin name v) (StubMachine.keepModule origin name v) :=
  .refill fun c => { c with
    modules := c.modules.insert name v, history := c.history.push (origin name v) }

theorem recallModule (name : String) (v : Value) :
    L.Same (StubMachine.recallModule name v) (StubMachine.recallModule name v) :=
  .bind (.refill fun c => { c with history := c.history.push (.imported name v) }) fun _ => .pure v

theorem fetch (host : Host) (name : String) :
    L.Same (StubMachine.fetch host name) (StubMachine.fetch host name) := by
  rw [fetch_eq]
  refine .bind (.look fun c => host.fetch c.events name) fun answer => ?_
  refine .bind (.refill fun c => { c with
    events := c.events.push (.fetched name), history := c.history.push (.asked name) }) fun _ => ?_
  cases answer with
  | ok bytes => exact .pure _
  | error detail => exact .throw _

theorem nativeValue (id : Nat) :
    L.Same (StubMachine.nativeValue id) (StubMachine.nativeValue id) := by
  delta StubMachine.nativeValue
  refine .bind (.look fun c => c.natives[id]?) fun native? => ?_
  cases native? with
  | none => exact .raise _
  | some native =>
    dsimp only
    cases native.value with
    | some o => exact .pure _
    | none =>
      refine .bind (.newFunction _) fun v => ?_
      cases v with
      | object o =>
        exact .bind (.refill fun c => { c with
          natives := c.natives.modify id fun n => { n with value := some o } }) fun _ => .pure _
      | _ => exact .pure _

theorem boundNative (id : Nat) (base : Value) :
    L.Same (StubMachine.boundNative id base) (StubMachine.boundNative id base) := by
  delta StubMachine.boundNative
  refine .bind (.look fun c => c.natives[id]?) fun native? => ?_
  cases native? with
  | none => exact .throw _
  | some native => exact .newFunction _

section Requests
variable {e e' : Engine} (engines : L.Engines e e')
include engines

theorem runFile (file : UInt32) :
    L.Same (StubMachine.runFile e file) (StubMachine.runFile e' file) := by
  delta StubMachine.runFile
  refine .bind (.look fun c => c.stubs[(file, (0 : UInt32))]?) fun stub? => ?_
  cases stub? with
  | none => exact .throw _
  | some stub => exact .bind (.newFunction _) fun entry => .call engines _ _

theorem runAs (origin : String → Value → ModuleEvent) (name : String) (bytes : List UInt8) :
    L.Same (StubMachine.runAs origin e name bytes) (StubMachine.runAs origin e' name bytes) :=
  .bind (.load name bytes) fun file => .bind (.settle (runFile engines file)) fun v =>
    .bind (.keepModule origin name v) fun _ => .pure v

theorem runModule (name : String) (bytes : List UInt8) :
    L.Same (StubMachine.runModule e name bytes) (StubMachine.runModule e' name bytes) :=
  runAs engines .ran name bytes

theorem importModule (host : Host) (name : String) :
    L.Same (StubMachine.importModule host e name) (StubMachine.importModule host e' name) := by
  delta StubMachine.importModule
  refine .bind (.look fun c => c.modules[name]?) fun known? => ?_
  cases known? with
  | some v => exact recallModule name v
  | none => exact .bind (.fetch host name) fun bytes => runAs engines .imported name bytes

end Requests

/-! ## Arguments -/

section Arguments
variable (args : Array Value) (i : Nat) (what : String)

theorem objectArgument :
    L.Same (Native.objectArgument args i what) (Native.objectArgument args i what) := by
  delta Native.objectArgument
  cases Native.argument args i with
  | object o => exact .pure o
  | _ => exact .fail _

theorem stringArgument :
    L.Same (Native.stringArgument args i what) (Native.stringArgument args i what) := by
  delta Native.stringArgument
  cases Native.argument args i with
  | string s => exact .pure s
  | _ => exact .fail _

theorem indexArgument :
    L.Same (Native.indexArgument args i what) (Native.indexArgument args i what) := by
  delta Native.indexArgument
  cases Native.argument args i with
  | number n => exact .ite (.pure _) (.fail _)
  | _ => exact .fail _

theorem functionArgument :
    L.Same (Native.functionArgument args i what) (Native.functionArgument args i what) :=
  .bind (.isFunction _) fun _ => .ite (.pure _) (.fail _)

theorem baseObject : L.Same (Native.baseObject args) (Native.baseObject args) :=
  .bind (objectArgument args 0 "base") fun o =>
    .objectAt o (fun _ _ _ _ => rfl) fun _ => .guarded (.pure o)

theorem baseString : L.Same (Native.baseString args) (Native.baseString args) :=
  stringArgument args 0 "base"

end Arguments

/-! ## Objects -/

section Objects
variable (args : Array Value)

theorem push : L.Same (Native.push args) (Native.push args) :=
  .bind (baseObject args) fun o =>
    .bind (.changeObject o (fun _ _ => id) fun _ _ _ => rfl) fun _ => .pure _

theorem insert : L.Same (Native.insert args) (Native.insert args) :=
  .bind (baseObject args) fun o => .bind (indexArgument args 1 "at") fun _ =>
    .objectAt o (fun _ _ _ _ => rfl) fun _ =>
      .guarded (.bind (.changeObject o (fun _ _ => id) fun _ _ _ => rfl) fun _ => .pure _)

theorem remove : L.Same (Native.remove args) (Native.remove args) := by
  delta Native.remove
  refine .bind (baseObject args) fun o => ?_
  cases Key.ofValue (Native.argument args 1) with
  | error f => exact .fail _
  | ok k =>
    refine .objectAt o (fun a members x y => by cases k <;> rfl) fun _ => ?_
    exact .bind (.changeObject o (.remove k) fun a members x => by cases k <;> rfl) fun _ => .pure _

theorem setAttributes : L.Same (Native.setAttributes args) (Native.setAttributes args) := by
  delta Native.setAttributes
  refine .bind (baseObject args) fun o => ?_
  suffices finish : ∀ attributes : Option ObjectId, L.Same _ _ by
    cases Native.argument args 1 with
    | empty => exact .bind (.pure _) finish
    | object a => exact .bind (.pure _) finish
    | _ => exact .bind (.fail _) finish
  exact fun attributes => .bind (.changeObject o (fun _ _ => id) fun _ _ _ => rfl) fun _ => .pure _

theorem setSize : L.Same (Native.setSize args) (Native.setSize args) :=
  .bind (baseObject args) fun o => .bind (indexArgument args 1 "size") fun _ =>
    .guarded (.bind (.changeObject o (fun _ _ => id) fun _ _ _ => rfl) fun _ => .pure _)

theorem snapshot (what : String) : L.Same (Native.snapshot args what) (Native.snapshot args what) :=
  .bind (baseObject args) fun o => .bind (functionArgument args 1 what) fun _ =>
    .objectAt o (fun _ _ _ _ => rfl) fun _ => .pure _

theorem findIndex : L.Same (Native.findIndex args) (Native.findIndex args) := by
  delta Native.findIndex
  refine .bind (baseObject args) fun o => .objectAt o (fun _ _ _ _ => rfl) fun object => ?_
  split
  · exact .pure _
  · exact .pure _

theorem subset : L.Same (Native.subset args) (Native.subset args) := by
  delta Native.subset
  refine .bind (indexArgument args 1 "from") fun low => ?_
  refine .bind (indexArgument args 2 "to") fun high => .guarded ?_
  cases Native.argument args 0 with
  | string s => exact .guarded (.pure _)
  | object o => exact .objectAt o (fun _ _ _ _ => rfl) fun object => .guarded (.newList _)
  | _ => exact .fail _

theorem mergeRuns {order order' : Value → Value → Action Bool}
    (each : ∀ a b, L.Same (order a b) (order' a b)) (left right : List Value) :
    L.Same (Native.mergeRuns order left right) (Native.mergeRuns order' left right) := by
  induction left, right using Native.mergeRuns.induct with
  | case1 right => simp only [Native.mergeRuns]; exact .pure _
  | case2 left nonempty => cases left <;> (simp only [Native.mergeRuns]; exact .pure _)
  | case3 a left b right ih₁ ih₂ =>
    simp only [Native.mergeRuns]
    exact .bind (each a b) fun _ => .ite (.bind ih₁ fun _ => .pure _) (.bind ih₂ fun _ => .pure _)

theorem mergeSort {order order' : Value → Value → Action Bool}
    (each : ∀ a b, L.Same (order a b) (order' a b)) (values : List Value) :
    L.Same (Native.mergeSort order values) (Native.mergeSort order' values) := by
  induction values using Native.mergeSort.induct with
  | case1 values short => unfold Native.mergeSort; simp only [short, dite_true]; exact .pure _
  | case2 values long middle ihLeft ihRight =>
    unfold Native.mergeSort
    simp only [long, dite_false]
    exact .bind ihLeft fun left => .bind ihRight fun right => mergeRuns each left right

/-! ## Interfaces -/

theorem memberValue (member : Member) :
    L.Same (Native.memberValue member) (Native.memberValue member) := by
  cases member with
  | method function => exact .pure function
  | accessor getter setter => exact .bind (.newObject _) fun o => .pure _

theorem dropInterface (o : ObjectId) (members : List (String × Member)) :
    L.Same (Native.dropInterface o members) (Native.dropInterface o members) := by
  refine .bind (.refaceObject o (fun _ _ function => by cases function) fun _ _ _ _ => rfl) fun _ => ?_
  refine .bind (.forIn (fun member _ => ?_) members _) fun _ => .pure _
  refine .bind (memberValue _) fun v => .bind ?_ fun _ => .pure _
  exact .changeObject o (fun _ _ => id) fun _ _ _ => rfl

theorem raiseInterface (o : ObjectId) (binding : Option Value) :
    L.Same (Native.raiseInterface o binding) (Native.raiseInterface o binding) := by
  delta Native.raiseInterface
  refine .objectAt o (fun _ _ _ _ => rfl) fun object => ?_
  refine .bind (.read fun h => membersOf h _) fun members? => ?_
  cases members? with
  | error f => exact .fail f
  | ok members => exact .refaceObject o (fun _ _ function => by cases function) fun _ _ _ _ => rfl

/-- **An interface that is turned on again keeps its binding** or gets the one that is given. -/
theorem rebind (o : ObjectId) (members : OrderedMap String Member) (given : Option Value)
    {x y : Option Value} (binds : L.Binds (o.serial - 1) members x y ∨ x = y) :
    L.Same (Action.updateObject o (·.asInterface members (given.or x)))
      (Action.updateObject o (·.asInterface members (given.or y))) := by
  refine .updateObject o (fun _ _ function => by cases function) fun a b h => h.asInterface ?_
  cases given with
  | none => exact binds
  | some v => exact .inr rfl

end Objects

section Requests
variable {e e' : Engine} (engines : L.Engines e e') (args : Array Value)
include engines

/-- **Turning an object into an interface or back does the same.** -/
theorem setIsInterface :
    L.Same (Native.setIsInterface e args) (Native.setIsInterface e' args) := by
  delta Native.setIsInterface
  refine .bind (baseObject args) fun o => .bind (asBoolean engines _) fun enabled => ?_
  intro m n h
  have looked (m : Machine) : Action.objectAt o m = .ok (m.object o) m := rfl
  have raised : L.Same
      (do Native.raiseInterface o (Native.argument args 2).nonEmpty?; return Value.object o)
      (do Native.raiseInterface o (Native.argument args 2).nonEmpty?; return Value.object o) :=
    .bind (raiseInterface o _) fun _ => .pure _
  rw [Action.bind_ok (looked m), Action.bind_ok (looked n)]
  rcases (L.objects h o).facet_cases with ⟨members, x, y, binds, left, right⟩ | ⟨same, plainly⟩
  · rw [left, right]
    -- the two interfaces may have different bindings, so each side is updated with its own
    have turned : L.Same
        (if enabled = true then do
          Action.updateObject o (·.asInterface members ((Native.argument args 2).nonEmpty?.or x))
          return Value.object o
        else do
          Native.dropInterface o members.toList
          return Value.object o)
        (if enabled = true then do
          Action.updateObject o (·.asInterface members ((Native.argument args 2).nonEmpty?.or y))
          return Value.object o
        else do
          Native.dropInterface o members.toList
          return Value.object o) :=
      .ite (.bind (rebind o members _ binds) fun _ => .pure _)
        (.bind (dropInterface o _) fun _ => .pure _)
    exact turned m n h
  · rw [same]
    cases facet : (m.object o).facet with
    | record layout => exact fail _ m n h
    | interface members current =>
      rw [Object.interface?, facet] at plainly
      cases plainly
    | function f => exact ite raised (pure _) m n h
    | plain => exact ite raised (pure _) m n h

/-! ## Calling a function on the values -/

theorem inOrder (comparator a b : Value) :
    L.Same (Native.inOrder e comparator a b) (Native.inOrder e' comparator a b) :=
  .bind (.call engines _ _) fun verdict => .bind (asNumber engines verdict) fun _ => .pure _

theorem sort : L.Same (Native.sort e args) (Native.sort e' args) :=
  .bind (baseObject args) fun o => .bind (functionArgument args 1 "comparator") fun comparator =>
    .objectAt o (fun _ _ _ _ => rfl) fun _ => .bind (mergeSort (inOrder engines comparator) _) fun _ =>
      .bind (.changeObject o (fun _ _ => id) fun _ _ _ => rfl) fun _ => .pure _

theorem filter : L.Same (Native.filter e args) (Native.filter e' args) := by
  refine .bind (snapshot args "by") fun ⟨values, by_⟩ => ?_
  refine .bind (.filterM (fun v => ?_) values) fun kept => .newList _
  exact .bind (.call engines _ _) fun verdict => asBoolean engines verdict

theorem map : L.Same (Native.map e args) (Native.map e' args) := by
  refine .bind (snapshot args "to") fun ⟨values, function⟩ => ?_
  exact .bind (.mapM (fun v => .call engines _ _) values) fun mapped => .newList _

theorem reduce : L.Same (Native.reduce e args) (Native.reduce e' args) := by
  refine .bind (snapshot args "to") fun ⟨values, function⟩ => ?_
  exact .foldlM (fun previous v => .call engines _ _) values .empty

theorem search (condition : Value) (wanted : Bool) (values : List Value) :
    L.Same (Native.search e condition wanted values) (Native.search e' condition wanted values) := by
  induction values with
  | nil => exact .pure false
  | cons v values ih =>
    exact .bind (.call engines _ _) fun verdict => .bind (asBoolean engines verdict) fun _ =>
      .ite (.pure true) ih

theorem any : L.Same (Native.any e args) (Native.any e' args) := by
  refine .bind (snapshot args "condition") fun ⟨values, condition⟩ => ?_
  exact .bind (search engines condition true values) fun _ => .pure _

theorem all : L.Same (Native.all e args) (Native.all e' args) := by
  refine .bind (snapshot args "condition") fun ⟨values, condition⟩ => ?_
  exact .bind (search engines condition false values) fun _ => .pure _

theorem foreach : L.Same (Native.foreach e args) (Native.foreach e' args) := by
  refine .bind (baseObject args) fun o => ?_
  refine .bind (functionArgument args 1 "do") fun body => ?_
  refine .bind (objectKeys engines o) fun keys => .bind (objectValues engines o) fun values => ?_
  refine .bind (.forIn (fun entry _ => ?_) (keys.zip values) _) fun _ => .pure _
  exact .bind (.call engines _ _) fun _ => .pure _

/-! ## Texts -/

theorem searchKey : L.Same (Native.searchKey e args) (Native.searchKey e' args) :=
  .bind (asString engines _) fun key => .guarded (.pure key)

theorem keyOccurrences : L.Same (Native.keyOccurrences e args) (Native.keyOccurrences e' args) :=
  .bind (baseString args) fun _ => .bind (searchKey engines args) fun _ => .pure _

theorem searchText : L.Same (Native.searchText e args) (Native.searchText e' args) := by
  refine .bind (baseString args) fun s => .bind (searchKey engines args) fun key => ?_
  cases Text.first? key s with
  | some position => exact .pure _
  | none => exact .pure _

theorem searchAll : L.Same (Native.searchAll e args) (Native.searchAll e' args) :=
  .bind (keyOccurrences engines args) fun _ => .newList _

theorem countText : L.Same (Native.countText e args) (Native.countText e' args) :=
  .bind (keyOccurrences engines args) fun _ => .pure _

theorem containsText : L.Same (Native.containsText e args) (Native.containsText e' args) :=
  .bind (baseString args) fun _ => .bind (asString engines _) fun _ => .pure _

theorem singleKey : L.Same (Native.singleKey e args) (Native.singleKey e' args) := by
  delta Native.singleKey
  cases Native.argument args 1 with
  | empty => exact .pure _
  | _ => exact .bind (asString engines _) fun key => .pure _

theorem listedKeys : L.Same (Native.listedKeys e args) (Native.listedKeys e' args) := by
  delta Native.listedKeys
  cases Native.argument args 3 with
  | object keys =>
    exact .bind (objectValues engines keys) fun values => .mapM (asString engines) values
  | _ => exact .pure _

theorem replacedKeys : L.Same (Native.replacedKeys e args) (Native.replacedKeys e' args) :=
  .bind (singleKey engines args) fun _ => .bind (listedKeys engines args) fun _ => .pure _

theorem replaceText : L.Same (Native.replaceText e args) (Native.replaceText e' args) :=
  .bind (baseString args) fun _ => .bind (asString engines _) fun _ =>
    .bind (replacedKeys engines args) fun _ => .guarded (.pure _)

theorem splitText : L.Same (Native.splitText e args) (Native.splitText e' args) :=
  .bind (baseString args) fun _ => .bind (asString engines _) fun _ => .newList _

omit engines in
theorem characterAt (s : String) (i : Nat) :
    L.Same (Native.characterAt s i) (Native.characterAt s i) := by
  delta Native.characterAt
  cases s.toList[i]? with
  | some c => exact .pure c
  | none => exact .fail _

omit engines in
theorem spliced (s : String) (i : Nat) (replacement : String) :
    L.Same (Native.spliced s i replacement) (Native.spliced s i replacement) :=
  .bind (characterAt s i) fun _ => .pure _

omit engines in
theorem charCodeAt : L.Same (Native.charCodeAt args) (Native.charCodeAt args) :=
  .bind (baseString args) fun s => .bind (indexArgument args 1 "index") fun i =>
    .bind (characterAt s i) fun _ => .pure _

omit engines in
theorem charAt : L.Same (Native.charAt args) (Native.charAt args) :=
  .bind (baseString args) fun s => .bind (indexArgument args 1 "index") fun i =>
    .bind (characterAt s i) fun _ => .pure _

theorem setCharCodeAt : L.Same (Native.setCharCodeAt e args) (Native.setCharCodeAt e' args) :=
  .bind (baseString args) fun s => .bind (indexArgument args 1 "index") fun i =>
    .bind (asNumber engines _) fun _ => .ite (spliced s i _) (.fail _)

theorem setCharAt : L.Same (Native.setCharAt e args) (Native.setCharAt e' args) :=
  .bind (baseString args) fun s => .bind (indexArgument args 1 "index") fun i =>
    .bind (asString engines _) fun _ => spliced s i _

omit engines in
theorem removeChar : L.Same (Native.removeChar args) (Native.removeChar args) :=
  .bind (baseString args) fun s => .bind (indexArgument args 1 "index") fun i => spliced s i ""

theorem partText (items : Array Value) (part : Native.TemplatePart) :
    L.Same (Native.partText e items part) (Native.partText e' items part) := by
  cases part with
  | char c => exact .pure _
  | item n =>
    simp only [Native.partText]
    cases items[n]? with
    | some v => exact .bind (asString engines v) fun _ => .pure _
    | none => exact .fail _

theorem formatText : L.Same (Native.formatText e args) (Native.formatText e' args) :=
  .bind (baseString args) fun _ => .bind (objectArgument args 1 "items") fun o =>
    .objectAt o (fun _ _ _ _ => rfl) fun object =>
      .bind (.mapM (partText engines object.indices) _) fun _ => .pure _

/-! ## Documents -/

theorem ofValue (fuel : Nat) (visiting : List ObjectId) (v : Value) :
    L.Same (Json.ofValue e fuel visiting v) (Json.ofValue e' fuel visiting v) := by
  induction fuel generalizing visiting v with
  | zero => exact .throw _
  | succ fuel ih =>
    cases v with
    | object o =>
      refine .objectAt o (fun _ _ _ _ => rfl) fun object => .ite (.pure _) (.guarded ?_)
      refine .bind (objectKeys engines o) fun keys => ?_
      refine .bind (objectValues engines o) fun values => ?_
      refine .objectAt o (fun _ _ _ _ => rfl) fun object => .ite ?_ ?_
      · exact .bind (.mapM (ih (o :: visiting)) values) fun items => .pure _
      · refine .bind (.mapM (fun entry => ?_) (keys.zip values)) fun members => .pure _
        refine .bind (.read fun h => memberName h _) fun name? => ?_
        cases name? with
        | error f => exact .fail f
        | ok name => exact .bind (ih _ _) fun j => .pure _
    | type t => exact .bind (.look fun c => c.types.name t) fun name => .pure _
    | _ => exact .pure _

theorem encodeJson (v : Value) :
    L.Same (StubMachine.encodeJson e v) (StubMachine.encodeJson e' v) := by
  rw [StubMachine.encodeJson, StubMachine.encodeJson, engines.fuel]
  exact .bind (ofValue engines _ [] v) fun _ => .pure _

end Requests

mutual

theorem toValue : ∀ j : Json, L.Same j.toValue j.toValue
  | .null => .pure _
  | .boolean _ => .pure _
  | .number _ => .pure _
  | .string _ => .pure _
  | .array items => .bind (itemValues items #[]) fun values => .newList values
  | .object members => .bind .newBlank fun o => .bind (storeMembers o members) fun _ => .pure _

theorem itemValues :
    ∀ (items : List Json) (done : Array Value),
      L.Same (Json.itemValues items done) (Json.itemValues items done)
  | [], done => .pure done
  | j :: rest, done => .bind (toValue j) fun v => itemValues rest (done.push v)

theorem storeMembers (o : ObjectId) :
    ∀ members : List (String × Json),
      L.Same (Json.storeMembers o members) (Json.storeMembers o members)
  | [] => .pure ()
  | (_, j) :: rest =>
    .bind (toValue j) fun _ =>
      .bind (.changeObject o (fun _ _ => id) fun _ _ _ => rfl) fun _ => storeMembers o rest

end

theorem decodeJson (text : String) :
    L.Same (StubMachine.decodeJson text) (StubMachine.decodeJson text) := by
  delta StubMachine.decodeJson
  cases Json.read text with
  | ok j => exact toValue j
  | error detail => exact .fail _

/-! ## Primitives -/

section Primitives
variable (args : Array Value)

theorem externalFunction : L.Same (Native.externalFunction args) (Native.externalFunction args) := by
  delta Native.externalFunction
  refine .bind (stringArgument args 0 "name") fun name => ?_
  refine .bind (.look fun c => c.externals[name]?) fun id? => ?_
  cases id? with
  | none => exact .fail _
  | some id =>
    exact .bind (.refill fun c => { c with externals := c.externals.erase name }) fun _ =>
      nativeValue id

theorem random (host : Host) : L.Same (Native.random host) (Native.random host) :=
  .bind (.look fun c => Value.number (host.random c.draws)) fun v =>
    .bind (.refill fun c => { c with draws := c.draws + 1 }) fun _ => .pure v

theorem parentOf (v : Value) : L.Same (Native.parentOf v) (Native.parentOf v) := by
  cases v with
  | type t => exact .pure t
  | _ => exact .fail _

theorem layoutEntryOf (entry : String × Value) :
    L.Same (Native.layoutEntryOf entry) (Native.layoutEntryOf entry) := by
  delta Native.layoutEntryOf
  cases entry.2 with
  | type t => exact .pure _
  | _ => exact .fail _

theorem layoutOf (v : Value) : L.Same (Native.layoutOf v) (Native.layoutOf v) := by
  cases v with
  | empty => exact .pure none
  | object o =>
    exact .objectAt o (fun _ _ _ _ => rfl) fun _ => .bind (.mapM layoutEntryOf _) fun _ => .pure _
  | _ => exact .fail _

theorem instantiate : L.Same (Native.instantiate args) (Native.instantiate args) := by
  delta Native.instantiate
  cases Native.argument args 0 with
  | type t =>
    have make : L.Same (do
        let facet ← Action.read fun m => (m.types.layout? t).elim Facet.plain Facet.record
        return .object (← Action.newObject (Object.ofType t facet)) : Action Value) (do
        let facet ← Action.read fun m => (m.types.layout? t).elim Facet.plain Facet.record
        return .object (← Action.newObject (Object.ofType t facet)) : Action Value) := by
      refine .bind (.look fun c => (c.types.layout? t).elim Facet.plain Facet.record) fun facet => ?_
      exact .bind (.newObject _) fun o => .pure _
    dsimp only
    split
    · exact make
    · exact make
    · exact .fail _
  | _ => exact .fail _

theorem isInstance : L.Same (Native.isA args) (Native.isA args) := by
  delta Native.isA
  cases Native.argument args 1 with
  | type t => exact .bind (.read fun h => isA h _ t) fun _ => .pure _
  | _ => exact .fail _

variable {e e' : Engine} (engines : L.Engines e e')
include engines

theorem print : L.Same (Native.print e args) (Native.print e' args) :=
  .bind (asString engines _) fun text =>
    .bind (.refill fun c => { c with events := c.events.push (.printed text) }) fun _ => .pure _

theorem parseNumber : L.Same (Native.parseNumber e args) (Native.parseNumber e' args) := by
  delta Native.parseNumber
  refine .bind (asString engines _) fun text => ?_
  cases Literal.read? (Text.trim text) with
  | some n => exact .pure _
  | none => exact .fail _

theorem combine : L.Same (Native.combine e args) (Native.combine e' args) :=
  .bind (objectArgument args 0 "strings") fun o => .bind (objectValues engines o) fun values =>
    .bind (.mapM (asString engines) values) fun _ => .pure _

theorem parentsOf (v : Value) : L.Same (Native.parentsOf e v) (Native.parentsOf e' v) := by
  cases v with
  | empty => exact .pure none
  | object o =>
    exact .bind (objectValues engines o) fun values =>
      .bind (.mapM parentOf values) fun _ => .pure _
  | _ => exact .fail _

theorem newType : L.Same (Native.newType e args) (Native.newType e' args) := by
  delta Native.newType
  suffices finish : ∀ name : String, L.Same _ _ by
    cases Native.argument args 0 with
    | empty => exact .bind (.pure _) finish
    | _ => exact .bind (asString engines _) finish
  intro name
  refine .bind (parentsOf engines _) fun parents => .bind (layoutOf _) fun layout => ?_
  refine .bind (.look fun c => c.types.create name parents layout) fun created => ?_
  cases created with
  | error f => exact .fail _
  | ok created => exact .bind (.refill fun c => { c with types := created.2 }) fun _ => .pure _

theorem runPrimitive (host : Host) (p : Primitive) :
    L.Same (Native.runPrimitive host e args p) (Native.runPrimitive host e' args p) := by
  cases p with
  | importModule =>
    exact .bind (stringArgument args 0 "module") fun name => importModule engines host name
  | print => exact print args engines
  | send => exact .raiseSend _
  | error => exact .raiseError _
  | externalFunction => exact externalFunction args
  | parseNumber => exact parseNumber args engines
  | random => exact random host
  | combine => exact combine args engines
  | newType => exact newType args engines
  | instantiate => exact instantiate args
  | encode => exact .bind (encodeJson engines _) fun _ => .pure _
  | decode => exact .bind (stringArgument args 0 "string") fun text => decodeJson text
  | _ => exact .pure _

/-! ## The table -/

theorem atan2 : L.Same (Native.atan2 e args) (Native.atan2 e' args) := by
  delta Native.atan2
  cases Native.argument args 0 with
  | number x => exact .bind (asNumber engines _) fun _ => .pure _
  | _ => exact .fail _

theorem runQuery (q : Query) : L.Same (Native.runQuery e args q) (Native.runQuery e' args q) := by
  cases q with
  | atan2 => exact atan2 args engines
  | search => exact searchText engines args
  | searchAll => exact searchAll engines args
  | contains => exact containsText engines args
  | replace => exact replaceText engines args
  | count => exact countText engines args
  | charCodeAt => exact charCodeAt args
  | charAt => exact charAt args
  | setCharCodeAt => exact setCharCodeAt engines args
  | setCharAt => exact setCharAt engines args
  | removeChar => exact removeChar args
  | split => exact splitText engines args
  | format => exact formatText engines args
  | push => exact push args
  | insert => exact insert args
  | remove => exact remove args
  | setAttributes => exact setAttributes args
  | sort => exact sort engines args
  | subset => exact subset args
  | filter => exact filter engines args
  | findIndex => exact findIndex args
  | isA => exact isInstance args
  | map => exact map engines args
  | reduce => exact reduce engines args
  | any => exact any engines args
  | all => exact all engines args
  | foreach => exact foreach engines args
  | setSize => exact setSize args
  | setIsInterface => exact setIsInterface engines args
  | _ => exact .pure _

/-- **Every native function does the same** if those of the embedder do. -/
theorem runNative {host : Host}
    (hosted : ∀ handle, L.Same (host.native handle e args) (host.native handle e' args))
    (body : NativeBody) : L.Same (Native.run host e args body) (Native.run host e' args body) := by
  cases body with
  | primitive p => exact runPrimitive args engines host p
  | query q => exact runQuery args engines q
  | hosted handle => exact hosted handle

end Primitives
end Same
end Likeness

end StubMachine
