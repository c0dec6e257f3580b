import StubMachine.Proofs.Custody
import StubMachine.Proofs.Enumeration
import StubMachine.Proofs.Sorting

/-!
# Native functions and an object in custody

A native function that writes to its base does so under checks of its own.  Whether it ends
a custody is up to the custody: the calls that it would not survive are barred, and
`Custody.Free` says that a call is not one of them.  Native functions that write to nothing,
or to objects they have just made, need no such condition.
-/

namespace StubMachine

open StubMachine.Action

/-- A call of a query's native function is not barred. -/
def Custody.Free (K : Custody) (m : Machine) (q : Query) (args : Array Value) : Prop :=
  ∀ o, Native.argument args 0 = .object o → o.serial - 1 = K.object.serial - 1 →
    ¬ K.Barred (m.object K.object) q args

namespace Native
variable {K : Custody} {args : Array Value}

/-! ## Writing to the base -/

/-- Finding the base changes nothing. -/
theorem of_baseObject {o : ObjectId} {m m' : Machine} (ok : baseObject args m = .ok o m') :
    m' = m ∧ argument args 0 = .object o := by
  cases base : argument args 0 with
  | object p =>
    have kept : (baseObject args >>= pure) m = .ok o m' := by rwa [bind_pure]
    obtain ⟨-, same⟩ := bind_baseObject base kept
    cases same
    exact ⟨rfl, rfl⟩
  | _ =>
    unfold baseObject objectArgument at ok
    rw [base] at ok
    cases ok

/-- What an index argument was read from. -/
theorem of_indexArgument {i n : Nat} {what : String} {m m' : Machine}
    (ok : indexArgument args i what m = .ok n m') :
    m' = m ∧ ∃ x, argument args i = .number x ∧ n = Binary64.toUnsigned 64 x := by
  refine ⟨indexArgument_ok ok, ?_⟩
  unfold indexArgument at ok
  cases given : argument args i with
  | number x =>
    rw [given] at ok
    dsimp only at ok
    split at ok
    · cases ok
      exact ⟨x, rfl, rfl⟩
    · cases ok
  | _ =>
    rw [given] at ok
    cases ok

theorem of_functionArgument {i : Nat} {what : String} {v : Value} {m m' : Machine}
    (ok : functionArgument args i what m = .ok v m') : m' = m := by
  have looked : isFunction (argument args i) m = .ok (m.isFunction (argument args i)) m := rfl
  unfold functionArgument at ok
  rw [Action.bind_ok looked] at ok
  split at ok
  · cases ok
    rfl
  · cases ok

/-- A change of the base, and a result. -/
theorem changed_from {o : ObjectId} {f : Object → Object} {v : Value} {m : Machine}
    (kept : o.serial - 1 = K.object.serial - 1 → K.Kept (m.object K.object) →
      K.Kept (f (m.object K.object))) :
    K.Lasts m ((updateObject o f >>= fun _ => pure v).after m) := by
  have wrote : K.Lasts m ((updateObject o f).after m) := fun h =>
    h.modified o fun here same => same ▸ kept here h.kept
  exact Along.bind_from wrote fun _ m₁ _ => Along.pure v m₁

theorem push_from {m : Machine} (free : K.Free m .push args) :
    K.Lasts m ((push args).after m) := by
  refine Along.bind_from (baseObject_along args m) fun o m₁ found => ?_
  obtain ⟨rfl, base⟩ := of_baseObject found
  exact changed_from fun here kept => K.push kept (free o base here)

theorem insert_from {m : Machine} (free : K.Free m .insert args) :
    K.Lasts m ((insert args).after m) := by
  refine Along.bind_from (baseObject_along args m) fun o m₁ found => ?_
  obtain ⟨rfl, base⟩ := of_baseObject found
  refine Along.bind_from (indexArgument_along args 1 "at" m₁) fun position m₂ read => ?_
  obtain ⟨rfl, -⟩ := of_indexArgument read
  refine Along.bind_from (Along.objectAt o m₂) fun object m₃ looked => ?_
  cases looked
  dsimp only
  split
  · exact fun h => h
  · rename_i inside
    refine changed_from fun here kept => ?_
    have size : (m₂.object K.object).indices.size = (m₂.object o).indices.size := by
      rw [Machine.object, Machine.object, here]
    refine K.insert kept (free o base here) rfl ?_
    rw [Array.insertIdxIfInBounds, dif_pos (by omega), Array.size_insertIdx]

theorem setSize_from {m : Machine} (free : K.Free m .setSize args) :
    K.Lasts m ((setSize args).after m) := by
  refine Along.bind_from (baseObject_along args m) fun o m₁ found => ?_
  obtain ⟨rfl, base⟩ := of_baseObject found
  refine Along.bind_from (indexArgument_along args 1 "size" m₁) fun size m₂ read => ?_
  obtain ⟨rfl, n, number, rfl⟩ := of_indexArgument read
  dsimp only
  split
  · exact fun h => h
  · rename_i bounded
    exact changed_from fun here kept =>
      K.resize kept (free o base here) number (Nat.le_of_not_lt bounded)

theorem remove_lasts : Along K.Lasts (remove args) := by
  delta remove
  refine .bind (baseObject_along args) fun o => ?_
  cases Key.ofValue (argument args 1) with
  | error f => exact .fail _
  | ok k =>
    refine .bind (.objectAt o) fun object => ?_
    refine .bind (updateObject_lasts o fun object kept => ?_) fun _ => .pure _
    cases k with
    | index i =>
      refine kept_fewer kept rfl ?_
      show (object.indices.eraseIdxIfInBounds i).toList.Sublist _
      unfold Array.eraseIdxIfInBounds
      split
      · rw [Array.toList_eraseIdx]
        exact List.eraseIdx_sublist _ _
      · exact .refl _
    | _ => exact kept_fewer kept rfl (.refl _)

theorem setAttributes_lasts : Along K.Lasts (setAttributes args) := by
  delta setAttributes
  refine .bind (baseObject_along args) fun o => ?_
  suffices finish : ∀ attributes : Option ObjectId, Along K.Lasts _ by
    cases argument args 1 with
    | empty => exact .bind (.pure _) finish
    | object a => exact .bind (.pure _) finish
    | _ => exact .bind (.fail _) finish
  exact fun attributes =>
    .bind (updateObject_lasts o fun object kept => kept_fewer kept rfl (.refl _)) fun _ =>
      .pure _

/-! ## Interfaces -/

theorem memberValue_lasts (member : Member) : Along K.Lasts (memberValue member) := by
  cases member with
  | method function => exact .pure function
  | accessor getter setter => exact .bind (newObject_lasts _) fun o => .pure _

/-- Ending an interface, where the custody survives that. -/
theorem dropInterface_from {o : ObjectId} {members : List (String × Member)} {m : Machine}
    (disclosed : K.Lasts m ((updateObject o fun object => { object with facet := .plain }).after m)) :
    K.Lasts m ((dropInterface o members).after m) := by
  refine Along.bind_from disclosed fun _ m₁ _ => ?_
  refine Along.bind (.forIn (fun member _ => ?_) members _) (fun _ => .pure _) m₁
  refine .bind (memberValue_lasts _) fun v => ?_
  exact .bind (updateObject_lasts o fun object kept => kept_fewer kept rfl (.refl _)) fun _ =>
    .pure _

theorem raiseInterface_from {o : ObjectId} {m : Machine} (noRecord : (m.object o).layout? = none)
    (binding : Option Value) : K.Lasts m ((raiseInterface o binding).after m) := by
  refine Along.bind_from (Along.objectAt o m) fun object m₁ looked => ?_
  cases looked
  refine Along.bind_from (Along.read _ m) fun members? m₁ read => ?_
  cases read
  dsimp only
  cases membersOf m (m.object o).strings.toList with
  | error f => exact fun h => h
  | ok members =>
    intro h
    exact h.modified o fun _ same => K.enclose (same ▸ h.kept) noRecord rfl rfl

variable {e : Engine} [e.CallsAlong K.Lasts]

/-- **Turning an object into an interface or back** does not end a custody that survives it. -/
theorem setIsInterface_from {m : Machine} (free : K.Free m .setIsInterface args) :
    K.Lasts m ((setIsInterface e args).after m) := by
  intro h
  refine Along.bind_from (R := K.Lasts) (baseObject_along args m) (fun o m₁ found => ?_) h
  obtain ⟨rfl, base⟩ := of_baseObject found
  refine Along.bind_from (asBoolean_along _ m₁) fun enabled m₂ decided => ?_
  refine Along.bind_from (Along.objectAt o m₂) fun object m₃ looked => ?_
  cases looked
  have done (m : Machine) : K.Lasts m ((pure (Value.object o) : Action Value).after m) := fun h => h
  have raised (noRecord : (m₂.object o).layout? = none) :
      K.Lasts m₂ (((if enabled then raiseInterface o (argument args 2).nonEmpty? >>= fun _ =>
        pure (Value.object o) else pure (Value.object o)) : Action Value).after m₂) := by
    split
    · exact Along.bind_from (raiseInterface_from noRecord _) fun _ m₃ _ => done m₃
    · exact done m₂
  cases facet : (m₂.object o).facet with
  | record layout => exact fun h => h
  | function f => exact raised (by rw [Object.layout?, facet])
  | plain => exact raised (by rw [Object.layout?, facet])
  | interface members current =>
    dsimp only
    cases enabled with
    | true =>
      rw [if_pos rfl]
      have noRecord : (m₂.object o).layout? = none := by rw [Object.layout?, facet]
      refine Along.bind_from (fun h => h.modified o fun _ same => ?_) fun _ m₃ _ => done m₃
      have kept : K.Kept (m₂.object o) := same ▸ h.kept
      exact K.enclose kept noRecord rfl rfl
    | false =>
      rw [if_neg Bool.false_ne_true]
      refine Along.bind_from (dropInterface_from fun h' => h'.modified o fun here same => ?_)
        fun _ m₃ _ => done m₃
      rcases K.disclose h.kept (free o base here) with told | disclosed
      · -- what was told to be one cannot have been decided to be none
        rw [told] at decided
        cases decided
      · refine disclosed _ (same ▸ h'.kept) ?_
        rw [Object.interface?, facet]
        exact Option.some_ne_none _

/-- **Sorting** writes back as many values as it read. -/
theorem sort_lasts : Along K.Lasts (sort e args) := by
  intro m h
  refine Along.bind_from (R := K.Lasts) (baseObject_along args m) (fun o m₁ found => ?_) h
  obtain ⟨rfl, -⟩ := of_baseObject found
  refine Along.bind_from (functionArgument_along args 1 "comparator" m₁) fun comparator m₂ checked => ?_
  obtain rfl := of_functionArgument checked
  refine Along.bind_from (Along.objectAt o m₂) fun object m₃ looked => ?_
  cases looked
  refine Along.bind_from (mergeSort_along (inOrder_along comparator) _ m₂) fun sorted m₃ sorts => ?_
  -- a comparator may have changed the object by now, so its values are those it had before
  have sorts : sorted.Perm (m₂.object o).indices.toList := by
    have compared := @mergeSort_comparison (inOrder e comparator) _ _
      (List.Subset.refl (m₂.object o).indices.toList) m₂
    rw [sorts] at compared
    cases compared with
    | ends _ arranged => exact arranged.1
  refine changed_from fun here kept => K.fewer h.kept kept rfl ?_
  have same : m₂.object o = m₂.object K.object := by rw [Machine.object, Machine.object, here]
  rw [← same]
  exact sorts.subperm

/-! ## Making lists -/

theorem subset_lasts : Along K.Lasts (subset args) := by
  delta subset
  refine .bind (indexArgument_along args 1 "from") fun low => ?_
  refine .bind (indexArgument_along args 2 "to") fun high => .unlessThen (.fail _) ?_
  cases argument args 0 with
  | string s => exact .unlessThen (.fail _) (.pure _)
  | object o => exact .bind (.objectAt o) fun object => .unlessThen (.fail _) (newList_lasts _)
  | _ => exact .fail _

theorem filter_lasts : Along K.Lasts (filter e args) := by
  refine .bind (snapshot_along args "by") fun ⟨values, by_⟩ => ?_
  refine .bind (.filterM (fun v => ?_) values) fun kept => newList_lasts _
  exact .bind (.call _ _) fun verdict => asBoolean_along verdict

theorem map_lasts : Along K.Lasts (map e args) := by
  refine .bind (snapshot_along args "to") fun ⟨values, function⟩ => ?_
  exact .bind (.mapM (fun v => .call _ _) values) fun mapped => newList_lasts _

theorem searchAll_lasts : Along K.Lasts (searchAll e args) :=
  .bind (keyOccurrences_along args) fun _ => newList_lasts _

theorem splitText_lasts : Along K.Lasts (splitText e args) :=
  .bind (baseString_along args) fun _ => .bind (asString_along _) fun _ => newList_lasts _

/-- **A query's native function does not end a custody** unless it is barred. -/
theorem runQuery_from {q : Query} {m : Machine} (free : K.Free m q args) :
    K.Lasts m ((runQuery e args q).after m) := by
  cases q with
  | atan2 => exact atan2_along args m
  | search => exact searchText_along args m
  | searchAll => exact searchAll_lasts m
  | contains => exact containsText_along args m
  | replace => exact replaceText_along args m
  | count => exact countText_along args m
  | charCodeAt => exact charCodeAt_along args m
  | charAt => exact charAt_along args m
  | setCharCodeAt => exact setCharCodeAt_along args m
  | setCharAt => exact setCharAt_along args m
  | removeChar => exact removeChar_along args m
  | split => exact splitText_lasts m
  | format => exact formatText_along args m
  | push => exact push_from free
  | insert => exact insert_from free
  | remove => exact remove_lasts m
  | setAttributes => exact setAttributes_lasts m
  | sort => exact sort_lasts m
  | subset => exact subset_lasts m
  | filter => exact filter_lasts m
  | findIndex => exact findIndex_along args m
  | isA => exact isA_along args m
  | map => exact map_lasts m
  | reduce => exact reduce_along args m
  | any => exact any_along args m
  | all => exact all_along args m
  | foreach => exact foreach_along args m
  | setSize => exact setSize_from free
  | setIsInterface => exact setIsInterface_from free
  | _ => exact fun h => h

/-! ## Documents -/

mutual

theorem toValue_lasts : ∀ j : Json, Along K.Lasts j.toValue
  | .null => .pure _
  | .boolean _ => .pure _
  | .number _ => .pure _
  | .string _ => .pure _
  | .array items => .bind (itemValues_lasts items #[]) fun values => newList_lasts values
  | .object members =>
    bind_newObject_lasts fun _ other => .bind (storeMembers_lasts other members) fun _ => .pure _

theorem itemValues_lasts :
    ∀ (items : List Json) (done : Array Value), Along K.Lasts (Json.itemValues items done)
  | [], done => .pure done
  | j :: rest, done => .bind (toValue_lasts j) fun v => itemValues_lasts rest (done.push v)

/-- The members of a document are stored in an object that has just been made. -/
theorem storeMembers_lasts {o : ObjectId} (other : o.serial - 1 ≠ K.object.serial - 1) :
    ∀ members : List (String × Json), Along K.Lasts (Json.storeMembers o members)
  | [] => .pure ()
  | (_, j) :: rest =>
    .bind (toValue_lasts j) fun _ => .bind (updateOther_lasts other _) fun _ =>
      storeMembers_lasts other rest

end

theorem decodeJson_lasts (text : String) : Along K.Lasts (decodeJson text) := by
  delta decodeJson
  cases Json.read text with
  | ok j => exact toValue_lasts j
  | error detail => exact .fail _

end Native

/-! ## Modules -/

section Modules
variable {K : Custody} {e : Engine} [e.CallsAlong K.Lasts]

theorem load_lasts (name : String) (bytes : List UInt8) : Along K.Lasts (load name bytes) := by
  rw [load_eq]
  refine .bind (.read _) fun loaded => .ite (.fail _) ?_
  cases Record.readAll (.ofNat loaded) bytes with
  | error f => exact .throw _
  | ok found => exact .ite (.bind (update_lasts _ fun _ => rfl) fun _ => .pure _) (.throw _)

theorem runFile_lasts (file : UInt32) : Along K.Lasts (runFile e file) := by
  delta runFile
  refine .bind (.read _) fun stub? => ?_
  cases stub? with
  | none => exact .throw _
  | some stub => exact .bind (newFunction_lasts _) fun entry => .call _ _

theorem runAs_lasts (origin : String → Value → ModuleEvent) (name : String) (bytes : List UInt8) :
    Along K.Lasts (runAs origin e name bytes) :=
  .bind (load_lasts name bytes) fun file => .bind (settle_along (runFile_lasts file)) fun _ =>
    .bind (update_lasts _ fun _ => rfl) fun _ => .pure _

theorem fetch_lasts (host : Host) (name : String) : Along K.Lasts (fetch host name) := by
  rw [fetch_eq]
  refine .bind (.read _) fun answer => .bind (update_lasts _ fun _ => rfl) fun _ => ?_
  cases answer with
  | ok bytes => exact .pure _
  | error detail => exact .fail _

theorem importModule_lasts (host : Host) (name : String) :
    Along K.Lasts (importModule host e name) := by
  delta importModule
  refine .bind (.read _) fun known? => ?_
  cases known? with
  | some v => exact .bind (update_lasts _ fun _ => rfl) fun _ => .pure v
  | none => exact .bind (fetch_lasts host name) fun bytes => runAs_lasts .imported name bytes

end Modules

/-! ## Primitives -/

namespace Native
variable {K : Custody} {e : Engine} [e.CallsAlong K.Lasts] {args : Array Value}

theorem externalFunction_lasts : Along K.Lasts (externalFunction args) := by
  delta externalFunction
  refine .bind (stringArgument_along args 0 "name") fun name => .bind (.read _) fun id? => ?_
  cases id? with
  | none => exact .fail _
  | some id => exact .bind (update_lasts _ fun _ => rfl) fun _ => nativeValue_lasts id

theorem instantiate_lasts : Along K.Lasts (instantiate args) := by
  delta instantiate
  cases argument args 0 with
  | type t =>
    have make : Along K.Lasts (do
        let facet ← read fun m => (m.types.layout? t).elim Facet.plain Facet.record
        return .object (← newObject (Object.ofType t facet)) : Action Value) :=
      .bind (.read _) fun facet => .bind (newObject_lasts _) fun o => .pure _
    dsimp only
    split
    · exact make
    · exact make
    · exact .fail _
  | _ => exact .fail _

theorem runPrimitive_lasts (host : Host) (p : Primitive) :
    Along K.Lasts (runPrimitive host e args p) := by
  cases p with
  | importModule =>
    exact .bind (stringArgument_along args 0 "module") fun name => importModule_lasts host name
  | print => exact print_along args
  | send => exact .raiseSend _
  | error => exact .raiseError _
  | externalFunction => exact externalFunction_lasts
  | parseNumber => exact parseNumber_along args
  | random => exact random_along host
  | combine => exact combine_along args
  | newType => exact newType_along args
  | instantiate => exact instantiate_lasts
  | encode => exact .bind (encodeJson_along _) fun _ => .pure _
  | decode => exact .bind (stringArgument_along args 0 "string") fun text => decodeJson_lasts text
  | _ => exact .pure _

end Native

/-! ## Calling a native function -/

section
variable {K : Custody} {e : Engine} [e.CallsAlong K.Lasts] {host : Host}

/-- **Calling a native function does not end a custody** unless the call is barred. -/
theorem callNative_from (hosted : ∀ handle args, Along K.Lasts (host.native handle e args))
    {stub : Stub} {args : Array Value} {m : Machine}
    (free : ∀ native q, m.natives[stub.id.toNat]? = some native → native.body = .query q →
      K.Free m q args) : K.Lasts m ((callNative host e stub args).after m) := by
  refine Along.bind_from (Along.read _ m) fun native? m₁ read => ?_
  cases read
  dsimp only
  cases known : m.natives[stub.id.toNat]? with
  | none => exact fun h => h
  | some native =>
    refine Along.tryCatch_from ?_ raiseFailure_along
    cases body : native.body with
    | primitive p => exact Native.runPrimitive_lasts host p m
    | query q => exact Native.runQuery_from (free native q known body)
    | hosted handle => exact hosted handle args m

end

end StubMachine
