import StubMachine.Proofs.Development

/-!
# Native functions and the code of a machine

A native function makes no function of its own, but for the function objects of native
functions, and importing a module runs its entry.  One that writes to its base writes to an
object that is no function: it looks at that before it calls anything.  So **a machine advances
in every native function** if it does in calls.

Loading comes first: it fails and leaves the machine as it was, or the file has the next id and
what was decoded is registered under it.
-/

namespace StubMachine

open StubMachine.Action
open Machine (Advances)

/-! ## Loading -/

/-- The state after a file has been loaded. -/
def Machine.withFile (m : Machine) (name : String) (found : Array Stub) : Machine :=
  { m with
    files := m.files.push name, stubs := registerStubs m.stubs (.ofNat m.files.size) found
    history := m.history.push (.started name) }

section Loading
variable {name : String} {bytes : List UInt8} {m m' : Machine}

/-- **A load that fails leaves everything as it was.** -/
theorem load_error {failure : Failure} (run : load name bytes m = .error failure m') : m' = m := by
  rw [load] at run
  split at run
  · cases run
    rfl
  · split at run
    · cases run
      rfl
    · split at run
      · cases run
      · cases run
        rfl

/-- **A load that succeeds** found the stubs of a file, with an entry, and room for its id. -/
theorem load_ok {file : UInt32} (run : load name bytes m = .ok file m') :
    m.files.size < UInt32.size ∧ file = .ofNat m.files.size ∧ ∃ found,
      Record.readAll file bytes = .ok found ∧ (∃ s ∈ found, s.id = 0) ∧
        m' = m.withFile name found := by
  rw [load] at run
  split at run
  · cases run
  · rename_i room
    split at run
    · cases run
    · rename_i found decoded
      split at run
      · rename_i entry
        cases run
        obtain ⟨s, member, zero⟩ := Array.any_eq_true'.mp entry
        exact ⟨Nat.lt_of_not_le room, rfl, found, decoded, ⟨s, member, eq_of_beq zero⟩, rfl⟩
      · cases run

/-- **What loading needs**: an id, and bytes that decode to stubs with an entry. -/
theorem load_succeeds (room : m.files.size < UInt32.size) {found : Array Stub}
    (decoded : Record.readAll (.ofNat m.files.size) bytes = .ok found)
    (entry : ∃ s ∈ found, s.id = 0) :
    load name bytes m = .ok (.ofNat m.files.size) (m.withFile name found) := by
  obtain ⟨s, member, zero⟩ := entry
  have any : found.any (·.id == 0) = true :=
    Array.any_eq_true'.mpr ⟨s, member, beq_iff_eq.mpr zero⟩
  rw [load, if_neg (Nat.not_le_of_lt room), decoded]
  dsimp only
  rw [if_pos any]
  rfl

theorem load_advances (name : String) (bytes : List UInt8) : Along Advances (load name bytes) := by
  intro m
  rw [Action.after]
  cases run : load name bytes m with
  | error failure m' =>
    rw [load_error run]
    exact .refl m
  | ok file m' =>
    have loaded : m.Develops m' := .loads run
    obtain ⟨-, -, found, -, -, rfl⟩ := load_ok run
    exact ⟨loaded, rfl, fun _ _ function => function⟩

end Loading

/-! ## Writing to the base -/

namespace Native
variable {args : Array Value}

theorem push_advances : Along Advances (push args) :=
  .bind (baseObject_along args) fun o =>
    .bind (updateObject_advances o fun _ => rfl) fun _ => .pure _

theorem insert_advances : Along Advances (insert args) :=
  .bind (baseObject_along args) fun o => .bind (indexArgument_along args 1 "at") fun _ =>
    .bind (.objectAt o) fun _ => .unlessThen (.fail _)
      (.bind (updateObject_advances o fun _ => rfl) fun _ => .pure _)

theorem remove_advances : Along Advances (remove args) := by
  delta remove
  refine .bind (baseObject_along args) fun o => ?_
  cases Key.ofValue (argument args 1) with
  | error f => exact .fail _
  | ok k =>
    refine .bind (.objectAt o) fun _ => .bind (updateObject_advances o fun object => ?_) fun _ =>
      .pure _
    cases k <;> rfl

theorem setAttributes_advances : Along Advances (setAttributes args) := by
  delta setAttributes
  refine .bind (baseObject_along args) fun o => ?_
  suffices finish : ∀ attributes : Option ObjectId, Along Advances _ by
    cases argument args 1 with
    | empty => exact .bind (.pure _) finish
    | object a => exact .bind (.pure _) finish
    | _ => exact .bind (.fail _) finish
  exact fun attributes => .bind (updateObject_advances o fun _ => rfl) fun _ => .pure _

theorem setSize_advances : Along Advances (setSize args) :=
  .bind (baseObject_along args) fun o => .bind (indexArgument_along args 1 "size") fun _ =>
    .unlessThen (.fail _) (.bind (updateObject_advances o fun _ => rfl) fun _ => .pure _)

/-! ## Interfaces -/

/-- The base of a function on objects is no function. -/
theorem baseObject_plain {o : ObjectId} {m m' : Machine} (ok : baseObject args m = .ok o m') :
    m' = m ∧ (m.object o).function? = none := by
  cases base : argument args 0 with
  | object p =>
    have found : objectArgument args 0 "base" m = .ok p m := by
      rw [objectArgument, base]
      rfl
    have looked : objectAt p m = .ok (m.object p) m := rfl
    rw [baseObject, Action.bind_ok found, Action.bind_ok looked, Object.isFunction] at ok
    cases plain : (m.object p).function? with
    | some f =>
      rw [plain] at ok
      cases ok
    | none =>
      rw [plain] at ok
      cases ok
      exact ⟨rfl, plain⟩
  | _ =>
    unfold baseObject objectArgument at ok
    rw [base] at ok
    cases ok

theorem memberValue_advances (member : Member) : Along Advances (memberValue member) := by
  cases member with
  | method function => exact .pure function
  | accessor getter setter => exact .bind (newObject_advances rfl) fun o => .pure _

section
variable {m m₁ : Machine} (advanced : m.Advances m₁) {o : ObjectId}
  (plain : (m.object o).function? = none)
include advanced plain

/-- A change to an object that was no function at the start, and what follows. -/
theorem modified_advances {α : Type} {change : Object → Object}
    (makes : Object.MakesNoFunction change) {k : PUnit → Action α} (rest : Along Advances (k ⟨⟩)) :
    m.Advances ((updateObject o change >>= k).after m₁) :=
  (advanced.modified plain makes).trans (rest _)

theorem dropInterface_advances (members : List (String × Member)) :
    m.Advances ((dropInterface o members).after m₁) := by
  delta dropInterface
  refine modified_advances advanced plain (fun _ _ function => by cases function) ?_
  refine .bind (.forIn (fun member _ => ?_) members _) fun _ => .pure _
  exact .bind (memberValue_advances _) fun v =>
    .bind (updateObject_advances o fun _ => rfl) fun _ => .pure _

theorem raiseInterface_advances (binding : Option Value) :
    m.Advances ((raiseInterface o binding).after m₁) := by
  have looked : objectAt o m₁ = .ok (m₁.object o) m₁ := rfl
  have read : Action.read (fun m => membersOf m (m₁.object o).strings.toList) m₁ =
      .ok (membersOf m₁ (m₁.object o).strings.toList) m₁ := rfl
  rw [raiseInterface, Action.after, Action.bind_ok looked, Action.bind_ok read]
  cases membersOf m₁ (m₁.object o).strings.toList with
  | error f => exact advanced
  | ok members => exact advanced.modified plain fun _ _ function => by cases function

end

section Calls
variable {e : Engine} [e.CallsAlong Advances]

/-- **Turning an object into an interface or back** makes no function, and none is turned. -/
theorem setIsInterface_advances : Along Advances (setIsInterface e args) := by
  intro m
  refine Along.bind_from (baseObject_along args m) fun o m₁ found => ?_
  obtain ⟨rfl, plain⟩ := baseObject_plain found
  -- deciding may call a script, but it cannot turn the base into a function
  refine Along.bind_since (asBoolean_along _ m₁) fun enabled m₂ _ advanced => ?_
  refine Along.bind_since advanced fun object m₃ looked _ => ?_
  cases looked
  cases (m₂.object o).facet with
  | record layout => exact advanced
  | interface members current =>
    cases enabled with
    | true =>
      exact modified_advances advanced plain (fun _ _ function => by cases function) (.pure _)
    | false =>
      exact Along.bind_since (dropInterface_advances advanced plain _) fun _ m₃ _ dropped => dropped
  | _ =>
    cases enabled with
    | true =>
      exact Along.bind_since (raiseInterface_advances advanced plain _) fun _ m₃ _ raised => raised
    | false => exact advanced

theorem sort_advances : Along Advances (sort e args) :=
  .bind (baseObject_along args) fun o =>
    .bind (functionArgument_along args 1 "comparator") fun comparator =>
      .bind (.objectAt o) fun _ => .bind (mergeSort_along (inOrder_along comparator) _) fun _ =>
        .bind (updateObject_advances o fun _ => rfl) fun _ => .pure _

/-! ## Making lists -/

omit [e.CallsAlong Advances] in
theorem subset_advances : Along Advances (subset args) := by
  delta subset
  refine .bind (indexArgument_along args 1 "from") fun low => ?_
  refine .bind (indexArgument_along args 2 "to") fun high => .unlessThen (.fail _) ?_
  cases argument args 0 with
  | string s => exact .unlessThen (.fail _) (.pure _)
  | object o => exact .bind (.objectAt o) fun object => .unlessThen (.fail _) (newList_advances _)
  | _ => exact .fail _

theorem filter_advances : Along Advances (filter e args) := by
  refine .bind (snapshot_along args "by") fun ⟨values, by_⟩ => ?_
  refine .bind (.filterM (fun v => ?_) values) fun kept => newList_advances _
  exact .bind (.call _ _) fun verdict => asBoolean_along verdict

theorem map_advances : Along Advances (map e args) := by
  refine .bind (snapshot_along args "to") fun ⟨values, function⟩ => ?_
  exact .bind (.mapM (fun v => .call _ _) values) fun mapped => newList_advances _

/-- **A machine advances in the native function of a query.** -/
theorem runQuery_advances (q : Query) : Along Advances (runQuery e args q) := by
  cases q with
  | atan2 => exact atan2_along args
  | search => exact searchText_along args
  | searchAll => exact .bind (keyOccurrences_along args) fun _ => newList_advances _
  | contains => exact containsText_along args
  | replace => exact replaceText_along args
  | count => exact countText_along args
  | charCodeAt => exact charCodeAt_along args
  | charAt => exact charAt_along args
  | setCharCodeAt => exact setCharCodeAt_along args
  | setCharAt => exact setCharAt_along args
  | removeChar => exact removeChar_along args
  | split =>
    exact .bind (baseString_along args) fun _ => .bind (asString_along _) fun _ =>
      newList_advances _
  | format => exact formatText_along args
  | push => exact push_advances
  | insert => exact insert_advances
  | remove => exact remove_advances
  | setAttributes => exact setAttributes_advances
  | sort => exact sort_advances
  | subset => exact subset_advances
  | filter => exact filter_advances
  | findIndex => exact findIndex_along args
  | isA => exact isA_along args
  | map => exact map_advances
  | reduce => exact reduce_along args
  | any => exact any_along args
  | all => exact all_along args
  | foreach => exact foreach_along args
  | setSize => exact setSize_advances
  | setIsInterface => exact setIsInterface_advances
  | _ => exact .pure _

end Calls

/-! ## Documents -/

mutual

theorem toValue_advances : ∀ j : Json, Along Advances j.toValue
  | .null => .pure _
  | .boolean _ => .pure _
  | .number _ => .pure _
  | .string _ => .pure _
  | .array items => .bind (itemValues_advances items #[]) fun values => newList_advances values
  | .object members =>
    .bind (newObject_advances rfl) fun o => .bind (storeMembers_advances o members) fun _ =>
      .pure _

theorem itemValues_advances :
    ∀ (items : List Json) (done : Array Value), Along Advances (Json.itemValues items done)
  | [], done => .pure done
  | j :: rest, done => .bind (toValue_advances j) fun v => itemValues_advances rest (done.push v)

theorem storeMembers_advances (o : ObjectId) :
    ∀ members : List (String × Json), Along Advances (Json.storeMembers o members)
  | [] => .pure ()
  | (_, j) :: rest =>
    .bind (toValue_advances j) fun _ => .bind (updateObject_advances o fun _ => rfl) fun _ =>
      storeMembers_advances o rest

end

theorem decodeJson_advances (text : String) : Along Advances (decodeJson text) := by
  delta decodeJson
  cases Json.read text with
  | ok j => exact toValue_advances j
  | error detail => exact .fail _

end Native

/-! ## Modules -/

section Modules
variable {e : Engine} [e.CallsAlong Advances]

/-- The entry of a file comes to be, and is called. -/
theorem runFile_advances (file : UInt32) : Along Advances (runFile e file) := by
  intro m
  refine Along.bind_from (Along.read _ m) fun stub? m₁ read => ?_
  cases read
  dsimp only
  cases known : m.stubs[(file, (0 : UInt32))]? with
  | none => exact .refl m
  | some stub =>
    exact Along.bind_from (newFunction_advances (.entry known rfl)) fun entry m₁ _ =>
      Along.call entry [] m₁

theorem runAs_advances (origin : String → Value → ModuleEvent) (name : String)
    (bytes : List UInt8) : Along Advances (runAs origin e name bytes) :=
  .bind (load_advances name bytes) fun file => .bind (settle_along (runFile_advances file)) fun _ =>
    .bind (.aside _ fun _ => .of_eq rfl) fun _ => .pure _

theorem importModule_advances (host : Host) (name : String) :
    Along Advances (importModule host e name) := by
  have fetches : Along Advances (fetch host name) := by
    rw [fetch_eq]
    refine .bind (.read _) fun answer => .bind (.aside _ fun _ => .of_eq rfl) fun _ => ?_
    cases answer with
    | ok bytes => exact .pure _
    | error detail => exact .fail _
  delta importModule
  refine .bind (.read _) fun known? => ?_
  cases known? with
  | some v => exact .bind (.aside _ fun _ => .of_eq rfl) fun _ => .pure v
  | none => exact .bind fetches fun bytes => runAs_advances .imported name bytes

end Modules

/-! ## Primitives -/

namespace Native
variable {e : Engine} [e.CallsAlong Advances] {args : Array Value}

omit [e.CallsAlong Advances] in
theorem externalFunction_advances : Along Advances (externalFunction args) := by
  delta externalFunction
  refine .bind (stringArgument_along args 0 "name") fun name => .bind (.read _) fun id? => ?_
  cases id? with
  | none => exact .fail _
  | some id => exact .bind (.aside _ fun _ => .of_eq rfl) fun _ => nativeValue_advances id

/-- An instance is a record or a plain object. -/
theorem ofType_plain (t : TypeId) (layout? : Option Layout) :
    (Object.ofType t (layout?.elim Facet.plain Facet.record)).function? = none := by
  cases layout? with
  | none => rfl
  | some layout => rfl

omit [e.CallsAlong Advances] in
theorem instantiate_advances : Along Advances (instantiate args) := by
  delta instantiate
  cases argument args 0 with
  | type t =>
    have make : Along Advances (do
        let facet ← read fun m => (m.types.layout? t).elim Facet.plain Facet.record
        return .object (← newObject (Object.ofType t facet)) : Action Value) := by
      refine fun m => Along.bind_from (Along.read _ m) fun facet m₁ read => ?_
      cases read
      exact Along.bind (newObject_advances (ofType_plain t _)) (fun o => .pure _) m
    dsimp only
    split
    · exact make
    · exact make
    · exact .fail _
  | _ => exact .fail _

theorem runPrimitive_advances (host : Host) (p : Primitive) :
    Along Advances (runPrimitive host e args p) := by
  cases p with
  | importModule =>
    exact .bind (stringArgument_along args 0 "module") fun name => importModule_advances host name
  | print => exact print_along args
  | send => exact .raiseSend _
  | error => exact .raiseError _
  | externalFunction => exact externalFunction_advances
  | parseNumber => exact parseNumber_along args
  | random => exact random_along host
  | combine => exact combine_along args
  | newType => exact newType_along args
  | instantiate => exact instantiate_advances
  | encode => exact .bind (encodeJson_along _) fun _ => .pure _
  | decode =>
    exact .bind (stringArgument_along args 0 "string") fun text => decodeJson_advances text
  | _ => exact .pure _

end Native

/-- **A machine advances in every native function** if it does in those of the embedder. -/
theorem callNative_advances {e : Engine} [e.CallsAlong Advances] {host : Host}
    (hosted : ∀ handle args, Along Advances (host.native handle e args)) (stub : Stub)
    (args : Array Value) : Along Advances (callNative host e stub args) := by
  delta callNative
  refine .bind (.read _) fun native? => ?_
  cases native? with
  | none => exact .throw _
  | some native =>
    refine fun m => Along.tryCatch_from ?_ raiseFailure_along
    cases native.body with
    | primitive p => exact Native.runPrimitive_advances host p m
    | query q => exact Native.runQuery_advances q m
    | hosted handle => exact hosted handle args m

end StubMachine
