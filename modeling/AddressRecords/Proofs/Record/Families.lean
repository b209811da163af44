import AddressRecords.Proofs.Calls.Contents
import AddressRecords.Proofs.Record.Whole

/-!
Families do not mix. Addresses come to be remembered by a listing, which reads its texts strictly,
and by changes, which refuse an address of the other family before anything else. So an entry holds
addresses of its own family only, whatever is asked for and whatever the API answers, and nothing
else is listed from it or written to the API.
-/

namespace AddressRecords

variable {σ : Type}

/-! Maps. -/

namespace RecordMap

/-- All the addresses are of the family. -/
def IsOf (records : RecordMap) (family : Family) : Prop :=
  ∀ entry ∈ records.entries, family.owns entry.2

variable {records : RecordMap} {family : Family}

theorem isOf_empty (family : Family) : empty.IsOf family := fun _ mem => nomatch mem

theorem IsOf.insert (h : records.IsOf family) {address : Address} (own : family.owns address)
    (id : String) : (records.insert id address).IsOf family := by
  intro entry mem
  rcases mem_insertEntry mem with rfl | held
  · exact own
  · exact h entry held

theorem IsOf.erase (h : records.IsOf family) (id : String) : (records.erase id).IsOf family :=
  fun entry mem => h entry (List.mem_of_mem_filter mem)

theorem isOf_ofList {entries : List (String × Address)}
    (own : ∀ entry ∈ entries, family.owns entry.2) : (ofList entries).IsOf family := by
  induction entries using List.reverseRecOn with
  | nil => exact isOf_empty family
  | append_singleton earlier entry ih =>
    obtain ⟨before, last⟩ := List.forall_mem_append.mp own
    rw [ofList, List.foldl_append]
    exact (ih before).insert (last entry (List.mem_singleton_self entry)) entry.1

theorem IsOf.exists_v4 (h : records.IsOf .v4) {id : String} {address : Address}
    (mem : (id, address) ∈ records.entries) : ∃ own, address = .v4 own := by
  have owned := h _ mem
  cases address with
  | v4 own => exact ⟨own, rfl⟩
  | v6 _ => cases owned

theorem IsOf.exists_v6 (h : records.IsOf .v6) {id : String} {address : Address}
    (mem : (id, address) ∈ records.entries) : ∃ own, address = .v6 own := by
  have owned := h _ mem
  cases address with
  | v4 _ => cases owned
  | v6 own => exact ⟨own, rfl⟩

end RecordMap

/-! Stores. -/

namespace RecordStore

/-- Each entry holds addresses of its own family only. -/
def IsSorted (store : RecordStore) : Prop :=
  ∀ key records, store.get key = some records → records.IsOf key.family

variable {store : RecordStore} {key : RecordKey}

theorem isSorted_empty : empty.IsSorted := fun _ _ warm => nomatch warm

theorem IsSorted.setEntry (h : store.IsSorted) {entry : Option RecordMap}
    (own : ∀ records, entry = some records → records.IsOf key.family) :
    (store.setEntry key entry).IsSorted := by
  intro other records warm
  rw [get_setEntry] at warm
  split at warm
  · rename_i same
    exact same ▸ own records warm
  · exact h other records warm

theorem IsSorted.replace (h : store.IsSorted) {records : RecordMap}
    (own : records.IsOf key.family) : (store.replace key records).IsSorted := by
  apply h.setEntry
  rintro _ ⟨⟩
  exact own

/-- A change to one record of a warm entry. -/
theorem IsSorted.setEntry_map (h : store.IsSorted) {change : RecordMap → RecordMap}
    (keeps : ∀ records : RecordMap, records.IsOf key.family → (change records).IsOf key.family) :
    (store.setEntry key ((store.get key).map change)).IsSorted := by
  apply h.setEntry
  intro records changed
  obtain ⟨held, warm, rfl⟩ := Option.map_eq_some_iff.mp changed
  exact keeps held (h key held warm)

theorem IsSorted.upsertIfWarm (h : store.IsSorted) {address : Address}
    (own : key.family.owns address) (id : String) :
    (store.upsertIfWarm key id address).IsSorted :=
  h.setEntry_map fun _ held => held.insert own id

theorem IsSorted.removeIfWarm (h : store.IsSorted) (key : RecordKey) (id : String) :
    (store.removeIfWarm key id).IsSorted :=
  h.setEntry_map fun _ held => held.erase id

end RecordStore

/-! What is listed. -/

namespace Handle

variable {handle : Handle σ} {key : RecordKey} {state : HandleState σ}

theorem owns_of_readRecords {family : Family} {listed : List Api.RawRecord}
    {entries : List (String × Address)} (read : readRecords family listed = .ok entries) :
    ∀ entry ∈ entries, family.owns entry.2 := by
  induction listed generalizing entries with
  | nil =>
    cases read
    exact fun _ mem => nomatch mem
  | cons record rest ih =>
    rw [readRecords] at read
    cases parsed : family.parseAddress record.content with
    | error error =>
      rw [parsed] at read
      cases read
    | ok address =>
      rw [parsed] at read
      cases later : readRecords family rest with
      | error unreadable =>
        rw [later] at read
        cases read
      | ok others =>
        rw [later] at read
        cases read
        exact List.forall_mem_cons.mpr ⟨Family.owns_of_parseAddress parsed, ih later⟩

/-- A listing gives what is remembered, or what the API lists and can be read. -/
theorem isOf_of_list (sorted : state.1.IsSorted) {records : RecordMap}
    (listed : (handle.list key state).value = .ok records) : records.IsOf key.family := by
  cases warm : state.1.get key with
  | some held =>
    rw [(handle.list_of_warm warm).1] at listed
    cases listed
    exact sorted key records warm
  | none =>
    rw [(handle.list_of_cold warm).1] at listed
    obtain ⟨zone, -, inside⟩ := handle.ok_of_inZone listed
    cases fetched : (handle.fetch key zone (handle.resolve key.domain state).state).value with
    | error failure =>
      rw [(handle.relist_of_error fetched).1] at inside
      cases inside
    | ok held =>
      rw [(handle.relist_of_ok fetched).1] at inside
      cases inside
      obtain ⟨raw, entries, -, read, rfl⟩ := handle.fetch_of_ok fetched
      exact RecordMap.isOf_ofList (owns_of_readRecords read)

theorem isOf_of_perform_list (sorted : state.1.IsSorted) {records : RecordMap}
    (given : (handle.perform (.list key) state).value = .ok (.records records)) :
    records.IsOf key.family := by
  obtain ⟨held, listed, same⟩ := ok_of_map given
  cases same
  exact isOf_of_list sorted listed

/-! One operation, and runs. -/

theorem isSorted_applied {operation : Operation} {answer : Answer} (sorted : state.1.IsSorted)
    (given : (handle.perform operation state).value = .ok answer) :
    (applied operation answer state.1).IsSorted := by
  cases operation with
  | list key =>
    obtain ⟨records, rfl⟩ := handle.exists_records_of_list given
    exact sorted.replace (isOf_of_perform_list sorted given)
  | create key address ttl proxied =>
    obtain ⟨id, made, rfl⟩ := ok_of_map given
    exact sorted.upsertIfWarm (ok_of_withOwn made).1 id
  | update key id address =>
    obtain ⟨_, made, rfl⟩ := ok_of_map given
    exact sorted.upsertIfWarm (ok_of_withOwn made).1 id
  | delete key id => exact sorted.removeIfWarm key id
  | resolve | flush => exact sorted

theorem isSorted_perform (sorted : state.1.IsSorted) (operation : Operation) :
    (handle.perform operation state).state.1.IsSorted := by
  obtain ⟨succeeds, fails⟩ := handle.perform_remembers operation state
  cases given : (handle.perform operation state).value with
  | error failure => exact (fails failure given).symm ▸ sorted
  | ok answer => exact (succeeds answer given).symm ▸ isSorted_applied sorted given

theorem isSorted_performAll (sorted : state.1.IsSorted) (operations : List Operation) :
    (handle.performAll operations state).state.1.IsSorted := by
  induction operations generalizing state with
  | nil => exact sorted
  | cons operation rest ih =>
    rw [performAll_cons_state]
    exact ih (isSorted_perform sorted operation)

theorem isOf_of_mem_history (sorted : state.1.IsSorted) {operations : List Operation}
    {records : RecordMap}
    (mem : (.list key, .ok (.records records)) ∈ handle.history operations state) :
    records.IsOf key.family := by
  induction operations generalizing state with
  | nil => cases mem
  | cons operation rest ih =>
    rw [history_cons] at mem
    rcases List.mem_cons.mp mem with now | later
    · obtain ⟨rfl, given⟩ := Prod.mk.inj now
      exact isOf_of_perform_list sorted given.symm
    · exact ih (isSorted_perform sorted operation) later

end Handle

/-! What is written. -/

/-- What a record of a type holds: the text of an address of one family, and not of the other. -/
inductive SuitsType : String → String → Prop
  | a {content : String} {address : Address.V4}
      (read : Address.V4.ofChars content.toList = some address)
      (only : Address.V6.ofChars content.toList = none) : SuitsType "A" content
  | aaaa {content : String} {address : Address.V6}
      (read : Address.V6.ofChars content.toList = some address)
      (only : Address.V4.ofChars content.toList = none) : SuitsType "AAAA" content

theorem suitsType_of_owns {family : Family} {address : Address} (own : family.owns address) :
    SuitsType family.recordType (toString address) := by
  cases family <;> cases address <;> cases own
  · rename_i address
    have text : (toString (Address.v4 address)).toList = address.toChars := String.toList_ofList
    refine .a (text ▸ Address.V4.ofChars_toChars address) (text ▸ Address.V6.ofChars_of_v4 address)
  · rename_i address
    have text : (toString (Address.v6 address)).toList = address.toChars := String.toList_ofList
    refine .aaaa (text ▸ Address.V6.ofChars_toChars address) ?_
    exact text ▸ Address.V4.ofChars_of_colon (Address.V6.colon_mem_toChars address)

/-- The body of a request that creates or updates a record: a type, and a content that suits it. -/
def Api.Request.WritesSuitably (request : Api.Request) : Prop :=
  ∃ text name recordType content more, request.body = some text ∧
    Json.IsObject text (("name", .string name) :: ("type", .string recordType) ::
      ("content", .string content) :: more) ∧ SuitsType recordType content

namespace Handle

variable {handle : Handle σ}

theorem writesSuitably_of_mem_requests {operation : Operation} {state : HandleState σ}
    {request : Api.Request}
    (mem : request ∈ handle.client.requests (handle.perform operation state).calls)
    (writes : request.method = .post ∨ request.method = .patch) : request.WritesSuitably := by
  obtain ⟨call, among, written⟩ := Api.Client.exists_call_of_mem_requests mem
  obtain ⟨method, body⟩ := Api.Client.body_of_request written
  have busy : ¬ operation.IsIdle state.1 := by
    intro idle
    rw [handle.isQuiet_of_isIdle idle] at among
    cases among
  obtain ⟨command, rfl, looks | ⟨zone, work, works, inside⟩⟩ := exists_command_of_mem_calls among
  · obtain ⟨name, page, rfl⟩ := looks
    rw [method] at writes
    rcases writes with impossible | impossible <;> cases impossible
  rw [method] at writes
  cases works with
  | list key zone =>
    obtain ⟨page, rfl⟩ := Command.exists_page_of_mem_pages inside
    rcases writes with impossible | impossible <;> cases impossible
  | create key address ttl proxied =>
    obtain rfl := List.mem_singleton.mp inside
    have own : key.family.owns address := Decidable.not_not.mp busy
    exact ⟨_, _, _, _, _, body, Api.NewRecord.isObject_toJson _, suitsType_of_owns own⟩
  | update key id address =>
    obtain rfl := List.mem_singleton.mp inside
    have own : key.family.owns address := Decidable.not_not.mp busy
    exact ⟨_, _, _, _, _, body, Api.RecordPatch.isObject_toJson _, suitsType_of_owns own⟩
  | delete key id =>
    obtain rfl := List.mem_singleton.mp inside
    rcases writes with impossible | impossible <;> cases impossible
  | resolve => cases inside

theorem writesSuitably_of_mem_performAll {operations : List Operation} {state : HandleState σ}
    {request : Api.Request}
    (mem : request ∈ handle.client.requests (handle.performAll operations state).calls)
    (writes : request.method = .post ∨ request.method = .patch) : request.WritesSuitably := by
  induction operations generalizing state with
  | nil => cases mem
  | cons operation rest ih =>
    rw [calls_performAll_cons, Api.Client.requests, List.filterMap_append] at mem
    rcases List.mem_append.mp mem with now | later
    · exact writesSuitably_of_mem_requests now writes
    · exact ih later

/-! All of it. -/

/-- Which addresses a run keeps, lists and writes under which family. -/
structure KeepsFamilies (handle : Handle σ) (operations : List Operation) (remote : σ) :
    Prop where
  v4 : ∀ domain records, (handle.performAll operations (.initial remote)).state.1.get
      ⟨domain, .v4⟩ = some records →
    ∀ id address, (id, address) ∈ records.entries → ∃ own, address = .v4 own
  v6 : ∀ domain records, (handle.performAll operations (.initial remote)).state.1.get
      ⟨domain, .v6⟩ = some records →
    ∀ id address, (id, address) ∈ records.entries → ∃ own, address = .v6 own
  listed : ∀ key records,
    (.list key, .ok (.records records)) ∈ handle.history operations (.initial remote) →
    ∀ id address, (id, address) ∈ records.entries → key.family.owns address
  written : ∀ request ∈
      handle.client.requests (handle.performAll operations (.initial remote)).calls,
    request.method = .post ∨ request.method = .patch → request.WritesSuitably

/-- Whatever is asked of a handle, and whatever the API answers, no address gets among those of the
other family. -/
theorem keepsFamilies (handle : Handle σ) (operations : List Operation) (remote : σ) :
    handle.KeepsFamilies operations remote := by
  have start : (HandleState.initial remote).1.IsSorted := RecordStore.isSorted_empty
  have sorted : (handle.performAll operations (.initial remote)).state.1.IsSorted :=
    isSorted_performAll start operations
  constructor
  case v4 =>
    intro domain records warm id address mem
    exact (sorted _ records warm).exists_v4 mem
  case v6 =>
    intro domain records warm id address mem
    exact (sorted _ records warm).exists_v6 mem
  case listed =>
    intro key records given id address mem
    exact isOf_of_mem_history start given _ mem
  case written =>
    intro request mem writes
    exact writesSuitably_of_mem_performAll mem writes

end Handle

end AddressRecords
