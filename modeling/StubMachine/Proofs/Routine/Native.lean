import StubMachine.Machine.Calling
import StubMachine.Proofs.Bytecode.Reading
import StubMachine.Proofs.Routine.Member

/-!
# Native functions are routines

Each native function of the machine itself is a routine of native rank: it ends with a
fault where an argument is of the wrong kind, and the one that imports settles the call
of the module's entry.  A function of the embedder is as foreign as the assumption
says.

Modules come first, since importing is what a native function does.
-/

namespace StubMachine

open StubMachine.Action

variable {P : License} {r : Rank}

/-! ## What becomes of the store -/

/-- Functions of stubs by themselves capture nothing. -/
theorem FunctionFacet.Bare.ofStub (stub : Stub) : (FunctionFacet.ofStub stub).Bare := ⟨rfl, rfl⟩

theorem Object.MakesNoFunction.remove (k : Key) :
    Object.MakesNoFunction fun object => object.remove k := by
  intro object f function
  cases k <;> exact function

/-- **What is registered after a file has been loaded**: of its stubs the last one of each id, and
what was registered before. -/
theorem registerStubs_lookup (stubs : Std.HashMap (UInt32 × UInt32) Stub) (file : UInt32)
    (found : Array Stub) (key : UInt32 × UInt32) :
    (registerStubs stubs file found)[key]? =
      (found.toList.reverse.find? fun s => (file, s.id) == key).or stubs[key]? := by
  rw [registerStubs, ← Array.foldl_toList]
  induction found.toList generalizing stubs with
  | nil => rfl
  | cons first rest ih =>
    rw [List.foldl_cons, ih, List.reverse_cons, List.find?_append, Option.or_assoc,
      Std.HashMap.getElem?_insert, List.find?_singleton]
    split
    · rfl
    · rfl

/-- What is registered for a file is one of its stubs or was registered before. -/
theorem registerStubs_cases {stubs : Std.HashMap (UInt32 × UInt32) Stub} {file : UInt32}
    {found : Array Stub} {key : UInt32 × UInt32} {s : Stub}
    (h : (registerStubs stubs file found)[key]? = some s) :
    stubs[key]? = some s ∨ (s ∈ found ∧ key = (file, s.id)) := by
  rw [registerStubs_lookup, Option.or_eq_some_iff] at h
  rcases h with new | ⟨-, before⟩
  · obtain ⟨placed, -⟩ := List.find?_eq_some_iff_append.mp new
    have member : s ∈ found.toList.reverse := List.mem_of_find?_eq_some new
    exact .inr ⟨Array.mem_toList_iff.mp (List.mem_reverse.mp member), (eq_of_beq placed).symm⟩
  · exact .inl before

/-- Loading registers the stubs of a file where they belong. -/
theorem Machine.Stored.loaded (m : Machine) (name : String) {file : UInt32} {bytes : List UInt8}
    {found : Array Stub} (read : Record.readAll file bytes = .ok found) :
    m.Stored { m with
      files := m.files.push name, stubs := registerStubs m.stubs file found
      history := m.history.push (.started name) } where
  toSameCourse := .stored rfl
  slots := rfl
  functions f := .inl
  stubs file' id s has := by
    rcases registerStubs_cases has with before | ⟨member, place⟩
    · exact .inl before
    · obtain ⟨rfl, rfl⟩ := Prod.mk.inj place
      exact .inr ⟨Record.readAll_file read s member, rfl⟩

/-! ## Modules -/

/-- Loading looks at how many files there are, and then only adds to the loaded code. -/
theorem load_eq (name : String) (bytes : List UInt8) :
    load name bytes = (do
      let loaded ← Action.read fun m => m.files.size
      if UInt32.size ≤ loaded then fail .fileCount
      else
        match Record.readAll (.ofNat loaded) bytes with
        | .error f => throw (.fatal (.unreadableModule name f))
        | .ok found =>
          if found.any (·.id == 0) then
            update fun m =>
              { m with
                files := m.files.push name, stubs := registerStubs m.stubs (.ofNat loaded) found
                history := m.history.push (.started name) }
            return .ofNat loaded
          else throw (.fatal (.missingEntry name))) := by
  funext m
  simp only [load, Action.bind_eq, Action.read]
  by_cases full : UInt32.size ≤ m.files.size
  · rw [if_pos full, if_pos full]
    rfl
  · rw [if_neg full, if_neg full]
    cases Record.readAll (UInt32.ofNat m.files.size) bytes with
    | error f => rfl
    | ok found =>
      dsimp only
      split
      · rfl
      · rfl

theorem load_routine (name : String) (bytes : List UInt8) :
    Routine P .native fun _ => load name bytes := by
  rw [load_eq]
  refine .bind (.read _) fun loaded => .ite (.fault _) ?_
  cases read : Record.readAll (.ofNat loaded) bytes with
  | error f => exact .fatal _
  | ok found =>
    exact .ite (.bind (.store _ fun m => .loaded m name read) fun _ => .pure _)
      (.fatal _)

theorem runFile_routine (file : UInt32) : Routine P r fun e => runFile e file := by
  delta runFile
  refine .bind (.read _) fun stub? => ?_
  cases stub? with
  | none => exact .fatal _
  | some stub => exact .bind (.newFunction (.ofStub stub)) fun entry => .call _ _

theorem keepModule_routine (origin : String → Value → ModuleEvent) (name : String) (v : Value) :
    Routine P r fun _ => keepModule origin name v :=
  .store _ fun _ => .aside (.stored rfl) rfl rfl rfl

theorem runAs_routine (origin : String → Value → ModuleEvent) (name : String)
    (bytes : List UInt8) : Routine P .native fun e => runAs origin e name bytes :=
  .bind (load_routine name bytes) fun file =>
    .bind (.settle (runFile_routine file)) fun v =>
      .bind (keepModule_routine origin name v) fun _ => .pure v

theorem runModule_routine (name : String) (bytes : List UInt8) :
    Routine P .native fun e => runModule e name bytes :=
  runAs_routine .ran name bytes

/-- Noting that the embedder was asked for a module changes nothing that matters. -/
theorem Machine.SameCourse.fetched (m : Machine) (name : String) :
    m.SameCourse { m with
      events := m.events.push (.fetched name), history := m.history.push (.asked name) } :=
  ⟨rfl, rfl, rfl, rfl, rfl, rfl, rfl, by simp [Machine.notifications]⟩

theorem Machine.SameCourse.printed (m : Machine) (text : String) :
    m.SameCourse { m with events := m.events.push (.printed text) } :=
  ⟨rfl, rfl, rfl, rfl, rfl, rfl, rfl, by simp [Machine.notifications]⟩

/-- The embedder answers by what it was asked before, and is then noted to have been asked. -/
theorem fetch_eq (host : Host) (name : String) :
    fetch host name = (do
      let answer ← Action.read fun m => host.fetch m.events name
      update fun m => { m with
        events := m.events.push (.fetched name), history := m.history.push (.asked name) }
      match answer with
      | .ok bytes => return bytes
      | .error detail => fail (.importFailed name detail)) := by
  funext m
  simp only [fetch, Action.bind_eq, Action.read, update]
  cases host.fetch m.events name with
  | ok bytes => rfl
  | error detail => rfl

theorem fetch_routine (host : Host) (name : String) :
    Routine P .native fun _ => fetch host name := by
  rw [fetch_eq]
  refine .bind (.read _) fun answer => ?_
  refine .bind (.store _ fun m => .aside (.fetched m name) rfl rfl rfl) fun _ => ?_
  cases answer with
  | ok bytes => exact .pure _
  | error detail => exact .fault _

theorem recallModule_routine (name : String) (v : Value) : Routine P r fun _ => recallModule name v :=
  .bind (.store _ fun _ => .aside (.stored rfl) rfl rfl rfl) fun _ => .pure v

theorem importModule_routine (host : Host) (name : String) :
    Routine P .native fun e => importModule host e name := by
  delta importModule
  refine .bind (.read _) fun known? => ?_
  cases known? with
  | some v => exact recallModule_routine name v
  | none => exact .bind (fetch_routine host name) fun bytes => runAs_routine .imported name bytes

theorem nativeValue_routine (id : Nat) : Routine P r fun _ => nativeValue id := by
  delta nativeValue
  refine .bind (.read _) fun native? => ?_
  cases native? with
  | none => exact .raise _
  | some native =>
    dsimp only
    cases native.value with
    | some o => exact .pure _
    | none =>
      refine .bind (.newFunction (.ofStub _)) fun v => ?_
      cases v with
      | object o => exact .bind (.store _ fun _ => .aside (.stored rfl) rfl rfl rfl) fun _ => .pure _
      | _ => exact .pure _

theorem boundNative_routine (id : Nat) (base : Value) :
    Routine P r fun _ => boundNative id base := by
  delta boundNative
  refine .bind (.read _) fun native? => ?_
  cases native? with
  | none => exact .fatal _
  | some native => exact .newFunction ⟨rfl, rfl⟩

/-- Going on unless something is amiss. -/
theorem Routine.unlessFault {α : Type} {c : Prop} [Decidable c] {f : Fault} {x : Procedure α}
    (h : Routine P .native x) :
    Routine P .native fun e => if c then (fail f >>= fun _ : PUnit => x e) else x e :=
  .ite (.bind (.fault f) fun _ => h) h

namespace Native

/-! ## Arguments -/

theorem objectArgument_routine (args : Array Value) (i : Nat) (what : String) :
    Routine P .native fun _ => objectArgument args i what := by
  delta objectArgument
  cases argument args i with
  | object o => exact .pure o
  | _ => exact .fault _

theorem stringArgument_routine (args : Array Value) (i : Nat) (what : String) :
    Routine P .native fun _ => stringArgument args i what := by
  delta stringArgument
  cases argument args i with
  | string s => exact .pure s
  | _ => exact .fault _

theorem indexArgument_routine (args : Array Value) (i : Nat) (what : String) :
    Routine P .native fun _ => indexArgument args i what := by
  delta indexArgument
  cases argument args i with
  | number n => exact .ite (.pure _) (.fault _)
  | _ => exact .fault _

theorem functionArgument_routine (args : Array Value) (i : Nat) (what : String) :
    Routine P .native fun _ => functionArgument args i what :=
  .bind (.read _) fun _ => .ite (.pure _) (.fault _)

theorem baseObject_routine (args : Array Value) :
    Routine P .native fun _ => baseObject args :=
  .bind (objectArgument_routine args 0 "base") fun o =>
    .bind (.objectAt o) fun _ => .unlessFault (.pure o)

theorem baseString_routine (args : Array Value) :
    Routine P .native fun _ => baseString args :=
  stringArgument_routine args 0 "base"

/-! ## Objects -/

theorem push_routine (args : Array Value) : Routine P .native fun _ => push args :=
  .bind (baseObject_routine args) fun _ => .bind (.updateObject _ fun _ _ => id) fun _ => .pure _

theorem insert_routine (args : Array Value) : Routine P .native fun _ => insert args :=
  .bind (baseObject_routine args) fun _ => .bind (indexArgument_routine args 1 "at") fun _ =>
    .bind (.objectAt _) fun _ => .unlessFault (.bind (.updateObject _ fun _ _ => id) fun _ => .pure _)

theorem remove_routine (args : Array Value) : Routine P .native fun _ => remove args := by
  delta remove
  refine .bind (baseObject_routine args) fun o => ?_
  cases Key.ofValue (argument args 1) with
  | error f => exact .fault _
  | ok k => exact .bind (.objectAt o) fun _ => .bind (.updateObject _ (.remove k)) fun _ => .pure _

theorem setAttributes_routine (args : Array Value) :
    Routine P .native fun _ => setAttributes args := by
  delta setAttributes
  refine .bind (baseObject_routine args) fun o => ?_
  suffices finish : ∀ attributes : Option ObjectId, Routine P .native fun _ => _ by
    cases argument args 1 with
    | empty => exact .bind (.pure _) finish
    | object a => exact .bind (.pure _) finish
    | _ => exact .bind (.fault _) finish
  exact fun attributes => .bind (.updateObject _ fun _ _ => id) fun _ => .pure _

theorem setSize_routine (args : Array Value) :
    Routine P .native fun _ => setSize args :=
  .bind (baseObject_routine args) fun _ => .bind (indexArgument_routine args 1 "size") fun _ =>
    .unlessFault (.bind (.updateObject _ fun _ _ => id) fun _ => .pure _)

theorem mergeRuns_routine {order : Engine → Value → Value → Action Bool}
    (h : ∀ a b, Routine P r fun e => order e a b) (left right : List Value) :
    Routine P r fun e => mergeRuns (order e) left right := by
  induction left, right using mergeRuns.induct with
  | case1 right => simp only [mergeRuns]; exact .pure _
  | case2 left nonempty => cases left <;> (simp only [mergeRuns]; exact .pure _)
  | case3 a left b right ih₁ ih₂ =>
    simp only [mergeRuns]
    exact .bind (h a b) fun _ => .ite (.bind ih₁ fun _ => .pure _) (.bind ih₂ fun _ => .pure _)

theorem mergeSort_routine {order : Engine → Value → Value → Action Bool}
    (h : ∀ a b, Routine P r fun e => order e a b) (values : List Value) :
    Routine P r fun e => mergeSort (order e) values := by
  induction values using mergeSort.induct with
  | case1 values short => unfold mergeSort; simp only [short, dite_true]; exact .pure _
  | case2 values long middle ihLeft ihRight =>
    unfold mergeSort
    simp only [long, dite_false]
    exact .bind ihLeft fun left => .bind ihRight fun right => mergeRuns_routine h left right

theorem inOrder_routine (comparator a b : Value) :
    Routine P r fun e => inOrder e comparator a b :=
  .bind (.call _ _) fun verdict => .bind (asNumber_routine verdict) fun _ => .pure _

theorem sort_routine (args : Array Value) : Routine P .native fun e => sort e args :=
  .bind (baseObject_routine args) fun _ =>
    .bind (functionArgument_routine args 1 "comparator") fun comparator =>
      .bind (.objectAt _) fun _ =>
        .bind (mergeSort_routine (inOrder_routine comparator) _) fun _ =>
          .bind (.updateObject _ fun _ _ => id) fun _ => .pure _

theorem snapshot_routine (args : Array Value) (what : String) :
    Routine P .native fun _ => snapshot args what :=
  .bind (baseObject_routine args) fun _ =>
    .bind (functionArgument_routine args 1 what) fun _ => .bind (.objectAt _) fun _ => .pure _

theorem filter_routine (args : Array Value) : Routine P .native fun e => filter e args := by
  refine .bind (snapshot_routine args "by") fun ⟨values, by_⟩ => ?_
  refine .bind (.filterM (fun v => ?_) values) fun kept => .newList _
  exact .bind (.call _ _) fun verdict => asBoolean_routine verdict

theorem map_routine (args : Array Value) : Routine P .native fun e => map e args := by
  refine .bind (snapshot_routine args "to") fun ⟨values, function⟩ => ?_
  exact .bind (.mapM (fun v => .call _ _) values) fun mapped => .newList _

theorem reduce_routine (args : Array Value) :
    Routine P .native fun e => reduce e args := by
  refine .bind (snapshot_routine args "to") fun ⟨values, function⟩ => ?_
  exact .foldlM (fun previous v => .call _ _) values .empty

theorem search_routine (condition : Value) (wanted : Bool) (values : List Value) :
    Routine P r fun e => search e condition wanted values := by
  induction values with
  | nil => exact .pure false
  | cons v values ih =>
    exact .bind (.call _ _) fun verdict => .bind (asBoolean_routine verdict) fun _ =>
      .ite (.pure true) ih

theorem any_routine (args : Array Value) : Routine P .native fun e => any e args := by
  refine .bind (snapshot_routine args "condition") fun ⟨values, condition⟩ => ?_
  exact .bind (search_routine condition true values) fun _ => .pure _

theorem all_routine (args : Array Value) : Routine P .native fun e => all e args := by
  refine .bind (snapshot_routine args "condition") fun ⟨values, condition⟩ => ?_
  exact .bind (search_routine condition false values) fun _ => .pure _

theorem foreach_routine (args : Array Value) :
    Routine P .native fun e => foreach e args := by
  refine .bind (baseObject_routine args) fun o => ?_
  refine .bind (functionArgument_routine args 1 "do") fun body => ?_
  refine .bind (objectKeys_routine o) fun keys => .bind (objectValues_routine o) fun values => ?_
  refine .bind (.forIn (fun entry _ => ?_) (keys.zip values) _) fun _ => .pure _
  exact .bind (.call _ _) fun _ => .pure _

theorem findIndex_routine (args : Array Value) :
    Routine P .native fun _ => findIndex args := by
  delta findIndex
  refine .bind (baseObject_routine args) fun o => .bind (.objectAt o) fun object => ?_
  split
  · exact .pure _
  · exact .pure _

theorem subset_routine (args : Array Value) :
    Routine P .native fun _ => subset args := by
  delta subset
  refine .bind (indexArgument_routine args 1 "from") fun low => ?_
  refine .bind (indexArgument_routine args 2 "to") fun high => .unlessFault ?_
  cases argument args 0 with
  | string s => exact .unlessFault (.pure _)
  | object o => exact .bind (.objectAt o) fun object => .unlessFault (.newList _)
  | _ => exact .fault _

theorem memberValue_routine (member : Member) :
    Routine P r fun _ => memberValue member := by
  cases member with
  | method function => exact .pure function
  | accessor getter setter =>
    exact .bind (.newObject fun _ function => by cases function) fun o => .pure _

theorem dropInterface_routine (o : ObjectId) (members : List (String × Member)) :
    Routine P r fun _ => dropInterface o members := by
  refine .bind (.updateObject o fun _ _ function => by cases function) fun _ => ?_
  refine .bind (.forIn (fun member _ => ?_) members _) fun _ => .pure _
  exact .bind (memberValue_routine _) fun v => .bind (.updateObject o fun _ _ => id) fun _ => .pure _

theorem raiseInterface_routine (o : ObjectId) (binding : Option Value) :
    Routine P .native fun _ => raiseInterface o binding := by
  delta raiseInterface
  refine .bind (.objectAt o) fun object => .bind (.read _) fun members? => ?_
  cases members? with
  | error f => exact .fault f
  | ok members => exact .updateObject o fun _ _ function => by cases function

theorem setIsInterface_routine (args : Array Value) :
    Routine P .native fun e => setIsInterface e args := by
  delta setIsInterface
  refine .bind (baseObject_routine args) fun o => ?_
  refine .bind (asBoolean_routine _) fun enabled => .bind (.objectAt o) fun object => ?_
  have raised : Routine P .native fun _ => do
      raiseInterface o (argument args 2).nonEmpty?
      return Value.object o :=
    .bind (raiseInterface_routine o _) fun _ => .pure _
  cases object.facet with
  | record layout => exact .fault _
  | interface members current =>
    refine .ite (.bind (.updateObject o fun _ _ function => by cases function) fun _ => .pure _) ?_
    exact .bind (dropInterface_routine o _) fun _ => .pure _
  | function f => exact .ite raised (.pure _)
  | plain => exact .ite raised (.pure _)

/-! ## Texts -/

theorem searchKey_routine (args : Array Value) :
    Routine P .native fun e => searchKey e args :=
  .bind (asString_routine _) fun key => .unlessFault (.pure key)

theorem keyOccurrences_routine (args : Array Value) :
    Routine P .native fun e => keyOccurrences e args :=
  .bind (baseString_routine args) fun _ => .bind (searchKey_routine args) fun _ => .pure _

theorem searchText_routine (args : Array Value) :
    Routine P .native fun e => searchText e args := by
  refine .bind (baseString_routine args) fun s => .bind (searchKey_routine args) fun key => ?_
  cases Text.first? key s with
  | some position => exact .pure _
  | none => exact .pure _

theorem searchAll_routine (args : Array Value) :
    Routine P .native fun e => searchAll e args :=
  .bind (keyOccurrences_routine args) fun _ => .newList _

theorem countText_routine (args : Array Value) :
    Routine P .native fun e => countText e args :=
  .bind (keyOccurrences_routine args) fun _ => .pure _

theorem containsText_routine (args : Array Value) :
    Routine P .native fun e => containsText e args :=
  .bind (baseString_routine args) fun _ => .bind (asString_routine _) fun _ => .pure _

theorem singleKey_routine (args : Array Value) : Routine P r fun e => singleKey e args := by
  delta singleKey
  cases argument args 1 with
  | empty => exact .pure _
  | _ => exact .bind (asString_routine _) fun key => .pure _

theorem listedKeys_routine (args : Array Value) : Routine P r fun e => listedKeys e args := by
  delta listedKeys
  cases argument args 3 with
  | object keys =>
    exact .bind (objectValues_routine keys) fun values => .mapM asString_routine values
  | _ => exact .pure _

theorem replacedKeys_routine (args : Array Value) : Routine P r fun e => replacedKeys e args :=
  .bind (singleKey_routine args) fun _ => .bind (listedKeys_routine args) fun _ => .pure _

theorem replaceText_routine (args : Array Value) :
    Routine P .native fun e => replaceText e args :=
  .bind (baseString_routine args) fun _ => .bind (asString_routine _) fun _ =>
    .bind (replacedKeys_routine args) fun _ => .unlessFault (.pure _)

theorem splitText_routine (args : Array Value) :
    Routine P .native fun e => splitText e args :=
  .bind (baseString_routine args) fun _ => .bind (asString_routine _) fun _ => .newList _

theorem characterAt_routine (s : String) (i : Nat) :
    Routine P .native fun _ => characterAt s i := by
  delta characterAt
  cases s.toList[i]? with
  | some c => exact .pure c
  | none => exact .fault _

theorem spliced_routine (s : String) (i : Nat) (replacement : String) :
    Routine P .native fun _ => spliced s i replacement :=
  .bind (characterAt_routine s i) fun _ => .pure _

theorem charCodeAt_routine (args : Array Value) :
    Routine P .native fun _ => charCodeAt args :=
  .bind (baseString_routine args) fun s => .bind (indexArgument_routine args 1 "index") fun i =>
    .bind (characterAt_routine s i) fun _ => .pure _

theorem charAt_routine (args : Array Value) : Routine P .native fun _ => charAt args :=
  .bind (baseString_routine args) fun s => .bind (indexArgument_routine args 1 "index") fun i =>
    .bind (characterAt_routine s i) fun _ => .pure _

theorem setCharCodeAt_routine (args : Array Value) :
    Routine P .native fun e => setCharCodeAt e args :=
  .bind (baseString_routine args) fun s => .bind (indexArgument_routine args 1 "index") fun i =>
    .bind (asNumber_routine _) fun _ => .ite (spliced_routine s i _) (.fault _)

theorem setCharAt_routine (args : Array Value) :
    Routine P .native fun e => setCharAt e args :=
  .bind (baseString_routine args) fun s => .bind (indexArgument_routine args 1 "index") fun i =>
    .bind (asString_routine _) fun _ => spliced_routine s i _

theorem removeChar_routine (args : Array Value) :
    Routine P .native fun _ => removeChar args :=
  .bind (baseString_routine args) fun s => .bind (indexArgument_routine args 1 "index") fun i =>
    spliced_routine s i ""

theorem partText_routine (items : Array Value) (part : TemplatePart) :
    Routine P .native fun e => partText e items part := by
  cases part with
  | char c => exact .pure _
  | item n =>
    simp only [partText]
    cases items[n]? with
    | some v => exact .bind (asString_routine v) fun _ => .pure _
    | none => exact .fault _

theorem formatText_routine (args : Array Value) :
    Routine P .native fun e => formatText e args :=
  .bind (baseString_routine args) fun _ => .bind (objectArgument_routine args 1 "items") fun o =>
    .bind (.objectAt o) fun object =>
      .bind (.mapM (partText_routine object.indices) _) fun _ => .pure _

/-! ## Documents -/

theorem ofValue_routine (fuel : Nat) (visiting : List ObjectId) (v : Value) :
    Routine P .native fun e => Json.ofValue e fuel visiting v := by
  -- what an object holds is written with less fuel
  induction fuel generalizing visiting v with
  | zero => exact .exhausted
  | succ fuel ih =>
    cases v with
    | object o =>
      refine .bind (.objectAt o) fun object => .ite (.pure _) (.unlessFault ?_)
      refine .bind (objectKeys_routine o) fun keys => ?_
      refine .bind (objectValues_routine o) fun values => ?_
      refine .bind (.objectAt o) fun object => .ite ?_ ?_
      · exact .bind (.mapM (ih (o :: visiting)) values) fun items => .pure _
      · refine .bind (.mapM (fun entry => ?_) (keys.zip values)) fun members => .pure _
        refine .bind (.read _) fun name? => ?_
        cases name? with
        | error f => exact .fault f
        | ok name => exact .bind (ih _ _) fun j => .pure _
    | type t => exact .bind (.read _) fun name => .pure _
    | _ => exact .pure _

theorem encodeJson_routine (v : Value) : Routine P .native fun e => encodeJson e v :=
  .bind (.fuel fun n => ofValue_routine n [] v) fun _ => .pure _

mutual

theorem toValue_routine : ∀ j : Json, Routine P r fun _ => j.toValue
  | .null => .pure _
  | .boolean _ => .pure _
  | .number _ => .pure _
  | .string _ => .pure _
  | .array items => .bind (itemValues_routine items #[]) fun values => .newList values
  | .object members =>
    .bind .newBlank fun o => .bind (storeMembers_routine o members) fun _ => .pure _

theorem itemValues_routine :
    ∀ (items : List Json) (done : Array Value),
      Routine P r fun _ => Json.itemValues items done
  | [], done => .pure done
  | j :: rest, done => .bind (toValue_routine j) fun v => itemValues_routine rest (done.push v)

theorem storeMembers_routine (o : ObjectId) :
    ∀ members : List (String × Json), Routine P r fun _ => Json.storeMembers o members
  | [] => .pure ()
  | (_, j) :: rest =>
    .bind (toValue_routine j) fun _ => .bind (.updateObject o fun _ _ => id) fun _ =>
      storeMembers_routine o rest

end

theorem decodeJson_routine (text : String) :
    Routine P .native fun _ => decodeJson text := by
  delta decodeJson
  cases Json.read text with
  | ok j => exact toValue_routine j
  | error detail => exact .fault _

/-! ## Primitives -/

theorem print_routine (args : Array Value) : Routine P r fun e => print e args :=
  .bind (asString_routine _) fun text =>
    .bind (.store _ fun m => .aside (.printed m text) rfl rfl rfl) fun _ => .pure _

theorem externalFunction_routine (args : Array Value) :
    Routine P .native fun _ => externalFunction args := by
  delta externalFunction
  refine .bind (stringArgument_routine args 0 "name") fun name => .bind (.read _) fun id? => ?_
  cases id? with
  | none => exact .fault _
  | some id =>
    exact .bind (.store _ fun _ => .aside (.stored rfl) rfl rfl rfl) fun _ => nativeValue_routine id

theorem parseNumber_routine (args : Array Value) :
    Routine P .native fun e => parseNumber e args := by
  delta parseNumber
  refine .bind (asString_routine _) fun text => ?_
  cases Literal.read? (Text.trim text) with
  | some n => exact .pure _
  | none => exact .fault _

theorem random_routine (host : Host) : Routine P r fun _ => random host :=
  .bind (.read fun m => Value.number (host.random m.draws)) fun v =>
    .bind (.store (fun m => { m with draws := m.draws + 1 }) fun _ =>
      .aside (.stored rfl) rfl rfl rfl) fun _ => .pure v

theorem combine_routine (args : Array Value) :
    Routine P .native fun e => combine e args :=
  .bind (objectArgument_routine args 0 "strings") fun o =>
    .bind (objectValues_routine o) fun values =>
      .bind (.mapM asString_routine values) fun _ => .pure _

theorem parentOf_routine (v : Value) : Routine P .native fun _ => parentOf v := by
  cases v with
  | type t => exact .pure t
  | _ => exact .fault _

theorem parentsOf_routine (v : Value) : Routine P .native fun e => parentsOf e v := by
  cases v with
  | empty => exact .pure none
  | object o =>
    exact .bind (objectValues_routine o) fun values =>
      .bind (.mapM parentOf_routine values) fun _ => .pure _
  | _ => exact .fault _

theorem layoutEntryOf_routine (entry : String × Value) :
    Routine P .native fun _ => layoutEntryOf entry := by
  delta layoutEntryOf
  cases entry.2 with
  | type t => exact .pure _
  | _ => exact .fault _

theorem layoutOf_routine (v : Value) : Routine P .native fun _ => layoutOf v := by
  cases v with
  | empty => exact .pure none
  | object o =>
    exact .bind (.objectAt o) fun _ => .bind (.mapM layoutEntryOf_routine _) fun _ => .pure _
  | _ => exact .fault _

theorem newType_routine (args : Array Value) :
    Routine P .native fun e => newType e args := by
  delta newType
  suffices finish : ∀ name : String, Routine P .native fun _ => _ by
    cases argument args 0 with
    | empty => exact .bind (.pure _) finish
    | _ => exact .bind (asString_routine _) finish
  intro name
  refine .bind (parentsOf_routine _) fun parents => .bind (layoutOf_routine _) fun layout => ?_
  refine .bind (.read _) fun created => ?_
  cases created with
  | error f => exact .fault _
  | ok created =>
    exact .bind (.store _ fun _ => .aside (.stored rfl) rfl rfl rfl) fun _ => .pure _

theorem instantiate_routine (args : Array Value) :
    Routine P .native fun _ => instantiate args := by
  delta instantiate
  cases argument args 0 with
  | type t =>
    have make : Routine P .native fun _ => (do
        let facet ← read fun m => (m.types.layout? t).elim Facet.plain Facet.record
        return .object (← newObject (Object.ofType t facet)) : Action Value) := by
      show Routine P .native fun _ => (do
        let layout? ← read fun m => m.types.layout? t
        let o ← newObject (Object.ofType t (layout?.elim Facet.plain Facet.record))
        return .object o : Action Value)
      refine .bind (.read _) fun layout? => .bind (.newObject fun f function => ?_) fun o => .pure _
      cases layout? with
      | none => cases function
      | some layout => cases function
    dsimp only
    split
    · exact make
    · exact make
    · exact .fault _
  | _ => exact .fault _

theorem runPrimitive_routine (host : Host) (args : Array Value) (p : Primitive) :
    Routine P .native fun e => runPrimitive host e args p := by
  cases p with
  | importModule =>
    exact .bind (stringArgument_routine args 0 "module") fun name => importModule_routine host name
  | print => exact print_routine args
  | send => exact .raiseSend _
  | error => exact .raiseError _
  | externalFunction => exact externalFunction_routine args
  | parseNumber => exact parseNumber_routine args
  | random => exact random_routine host
  | combine => exact combine_routine args
  | newType => exact newType_routine args
  | instantiate => exact instantiate_routine args
  | encode => exact .bind (encodeJson_routine _) fun _ => .pure _
  | decode =>
    exact .bind (stringArgument_routine args 0 "string") fun text => decodeJson_routine text
  | _ => exact .pure _

/-! ## The table -/

theorem atan2_routine (args : Array Value) : Routine P .native fun e => atan2 e args := by
  delta atan2
  cases argument args 0 with
  | number x => exact .bind (asNumber_routine _) fun _ => .pure _
  | _ => exact .fault _

theorem isA_routine (args : Array Value) : Routine P .native fun _ => isA args := by
  delta isA
  cases argument args 1 with
  | type t => exact .bind (.read _) fun _ => .pure _
  | _ => exact .fault _

theorem runQuery_routine (args : Array Value) (q : Query) :
    Routine P .native fun e => runQuery e args q := by
  cases q with
  | atan2 => exact atan2_routine args
  | search => exact searchText_routine args
  | searchAll => exact searchAll_routine args
  | contains => exact containsText_routine args
  | replace => exact replaceText_routine args
  | count => exact countText_routine args
  | charCodeAt => exact charCodeAt_routine args
  | charAt => exact charAt_routine args
  | setCharCodeAt => exact setCharCodeAt_routine args
  | setCharAt => exact setCharAt_routine args
  | removeChar => exact removeChar_routine args
  | split => exact splitText_routine args
  | format => exact formatText_routine args
  | push => exact push_routine args
  | insert => exact insert_routine args
  | remove => exact remove_routine args
  | setAttributes => exact setAttributes_routine args
  | sort => exact sort_routine args
  | subset => exact subset_routine args
  | filter => exact filter_routine args
  | findIndex => exact findIndex_routine args
  | isA => exact isA_routine args
  | map => exact map_routine args
  | reduce => exact reduce_routine args
  | any => exact any_routine args
  | all => exact all_routine args
  | foreach => exact foreach_routine args
  | setSize => exact setSize_routine args
  | setIsInterface => exact setIsInterface_routine args
  | _ => exact .pure _

/-- **Every native function is a routine** if those of the embedder are foreign. -/
theorem run_routine {host : Host}
    (foreign : ∀ handle args, P.foreign fun e => host.native handle e args) (args : Array Value)
    (body : NativeBody) : Routine P .native fun e => run host e args body := by
  cases body with
  | primitive p => exact runPrimitive_routine host args p
  | query q => exact runQuery_routine args q
  | hosted handle => exact .foreign (foreign handle args)

end Native

end StubMachine
