import AddressRecords.Handle.Operation

/-!
What a handle remembers of records after one operation: an operation that fails leaves it alone,
and one that succeeds changes the entry of its own key, by its answer.
-/

namespace AddressRecords

namespace RecordStore

variable (store : RecordStore) (key : RecordKey)

theorem get_setEntry (entry : Option RecordMap) (other : RecordKey) :
    (store.setEntry key entry).get other = if other = key then entry else store.get other := rfl

/-- A change to one record reaches its own entry only, if that is warm. -/
theorem get_setEntry_map (change : RecordMap → RecordMap) (other : RecordKey) :
    (store.setEntry key ((store.get key).map change)).get other =
      (store.get other).map fun records => if key = other then change records else records := by
  by_cases own : key = other
  · subst own
    simp [get_setEntry]
  · have foreign : other ≠ key := fun same => own same.symm
    simp [get_setEntry, own, foreign]

/-- Setting an entry to what it is changes nothing. -/
theorem setEntry_get : store.setEntry key (store.get key) = store := by
  refine congrArg RecordStore.mk (funext fun other => ?_)
  by_cases own : other = key <;> simp [get, own]

end RecordStore

namespace Handle

variable {σ α β : Type} (handle : Handle σ)

/-! In a zone: the one call that is made, and what is remembered of its answer. -/

section

variable {key : RecordKey} {address : Address} {ttl : Ttl} {proxied : Bool} {id zone : String}
  {state : HandleState σ}

theorem onRemote_apply (act : Act σ α) (state : HandleState σ) :
    onRemote act state = ⟨(act state.2.2).value, (state.1, (state.2.1, (act state.2.2).state)),
      (act state.2.2).events⟩ := rfl

theorem fetch_state (key : RecordKey) (zone : String) (state : HandleState σ) :
    (handle.fetch key zone state).state = (state.1, (state.2.1,
      (handle.client.listRecords handle.api zone key.domain.wireName key.family.recordType
        state.2.2).state)) := by
  rw [fetch, Act.state_bind, onRemote_apply]
  generalize handle.client.listRecords handle.api zone key.domain.wireName key.family.recordType
    state.2.2 = done
  cases done.value with
  | error failure => rfl
  | ok listed => cases read : readRecords key.family listed <;> simp [read]

/-- A fetch succeeds only if all the listed records can be read. -/
theorem fetch_of_ok {records : RecordMap} (h : (handle.fetch key zone state).value = .ok records) :
    ∃ listed entries,
      (handle.client.listRecords handle.api zone key.domain.wireName key.family.recordType
        state.2.2).value = .ok listed ∧
      readRecords key.family listed = .ok entries ∧ records = .ofList entries := by
  rw [fetch, Act.value_bind, onRemote_apply] at h
  generalize handle.client.listRecords handle.api zone key.domain.wireName key.family.recordType
    state.2.2 = done at h ⊢
  dsimp only at h
  cases answer : done.value with
  | error failure =>
    rw [answer] at h
    cases h
  | ok listed =>
    rw [answer] at h
    dsimp only at h
    cases read : readRecords key.family listed with
    | error unreadable =>
      rw [read] at h
      cases h
    | ok entries =>
      rw [read] at h
      cases h
      exact ⟨listed, entries, rfl, read, rfl⟩

theorem relist_of_ok {records : RecordMap}
    (h : (handle.fetch key zone state).value = .ok records) :
    (handle.relist key zone state).value = .ok records ∧
    (handle.relist key zone state).state =
      ((handle.fetch key zone state).state.1.replace key records,
        (handle.fetch key zone state).state.2) := by
  simp [relist, h, remember]

theorem relist_of_error {failure : Failure}
    (h : (handle.fetch key zone state).value = .error failure) :
    (handle.relist key zone state).value = .error failure ∧
    (handle.relist key zone state).state = (handle.fetch key zone state).state := by
  simp [relist, h]

theorem createIn_of_ok {created : Api.RawRecord}
    (h : (handle.client.createRecord handle.api zone (newRecord key address ttl proxied)
      state.2.2).value = .ok created) :
    (handle.createIn key address ttl proxied zone state).value = .ok created.id ∧
    (handle.createIn key address ttl proxied zone state).state =
      (state.1.upsertIfWarm key created.id address, (state.2.1,
        (handle.client.createRecord handle.api zone (newRecord key address ttl proxied)
          state.2.2).state)) := by
  simp [createIn, onRemote, h, remember]

theorem createIn_of_error {failure : Api.Failure}
    (h : (handle.client.createRecord handle.api zone (newRecord key address ttl proxied)
      state.2.2).value = .error failure) :
    (∃ reason, (handle.createIn key address ttl proxied zone state).value = .error reason) ∧
    (handle.createIn key address ttl proxied zone state).state = (state.1, (state.2.1,
      (handle.client.createRecord handle.api zone (newRecord key address ttl proxied)
        state.2.2).state)) := by
  simp [createIn, onRemote, h]

@[simp] theorem reportUnchanged_state (mutation : Mutation) (key : RecordKey) (id : String)
    (failure : Api.Failure) (state : α) :
    (reportUnchanged mutation key id failure state).state = state := by
  cases missing : failure.isMissing <;> simp [reportUnchanged, missing]

theorem updateIn_of_ok
    (h : (handle.client.updateRecord handle.api zone id (recordPatch key address)
      state.2.2).value = .ok ()) :
    (handle.updateIn key id address zone state).value = .ok () ∧
    (handle.updateIn key id address zone state).state =
      (state.1.upsertIfWarm key id address, (state.2.1,
        (handle.client.updateRecord handle.api zone id (recordPatch key address)
          state.2.2).state)) := by
  simp [updateIn, onRemote, h, remember]

theorem updateIn_of_error {failure : Api.Failure}
    (h : (handle.client.updateRecord handle.api zone id (recordPatch key address)
      state.2.2).value = .error failure) :
    (∃ reason, (handle.updateIn key id address zone state).value = .error reason) ∧
    (handle.updateIn key id address zone state).state = (state.1, (state.2.1,
      (handle.client.updateRecord handle.api zone id (recordPatch key address)
        state.2.2).state)) := by
  simp [updateIn, onRemote, h]

theorem deleteIn_of_ok (key : RecordKey)
    (h : (handle.client.deleteRecord handle.api zone id state.2.2).value = .ok ()) :
    (handle.deleteIn key id zone state).value = .ok () ∧
    (handle.deleteIn key id zone state).state = (state.1.removeIfWarm key id, (state.2.1,
      (handle.client.deleteRecord handle.api zone id state.2.2).state)) := by
  simp [deleteIn, onRemote, h, remember]

theorem deleteIn_of_error (key : RecordKey) {failure : Api.Failure}
    (h : (handle.client.deleteRecord handle.api zone id state.2.2).value = .error failure) :
    (∃ reason, (handle.deleteIn key id zone state).value = .error reason) ∧
    (handle.deleteIn key id zone state).state = (state.1, (state.2.1,
      (handle.client.deleteRecord handle.api zone id state.2.2).state)) := by
  simp [deleteIn, onRemote, h]

/-! From outside. -/

theorem create_of_own (own : key.family.owns address) :
    handle.create key address ttl proxied state =
      handle.inZone key.domain (handle.createIn key address ttl proxied) state := by
  rw [create, withOwn, if_pos own]

theorem create_of_foreign (foreign : ¬ key.family.owns address) :
    (∃ reason, (handle.create key address ttl proxied state).value = .error reason) ∧
    (handle.create key address ttl proxied state).state = state := by
  rw [create, withOwn, if_neg foreign]
  exact ⟨⟨_, rfl⟩, rfl⟩

theorem update_of_own (own : key.family.owns address) :
    handle.update key id address state =
      handle.inZone key.domain (handle.updateIn key id address) state := by
  rw [update, withOwn, if_pos own]

theorem update_of_foreign (foreign : ¬ key.family.owns address) :
    (∃ reason, (handle.update key id address state).value = .error reason) ∧
    (handle.update key id address state).state = state := by
  rw [update, withOwn, if_neg foreign]
  exact ⟨⟨_, rfl⟩, rfl⟩

/-- A warm entry is all that a listing needs. -/
theorem list_of_warm {records : RecordMap} (warm : state.1.get key = some records) :
    (handle.list key state).value = .ok records ∧ (handle.list key state).state = state ∧
    ∃ line, (handle.list key state).events = [.log line] := by
  simp only [list, Act.value_bind, Act.state_bind, Act.events_bind, Act.get_apply, warm,
    Act.debug_apply, Act.pure_apply, List.nil_append, List.append_nil, true_and]
  exact ⟨_, rfl⟩

/-- In a zone that was found, the resolution comes first. -/
theorem inZone_of_found {domain : Domain} (found : (handle.resolve domain state).value = .ok zone)
    (act : String → Act (HandleState σ) (Except Failure α)) :
    handle.inZone domain act state =
      let done := act zone (handle.resolve domain state).state
      { done with events := (handle.resolve domain state).events ++ done.events } := by
  simp only [inZone, bind, found]

/-- A listing of a cold entry is done in the zone. -/
theorem list_eq_of_cold (cold : state.1.get key = none) :
    handle.list key state = handle.inZone key.domain (handle.relist key) state := by
  simp only [list, bind, Act.get_apply, cold]
  rfl

theorem list_of_cold (cold : state.1.get key = none) :
    (handle.list key state).value = (handle.inZone key.domain (handle.relist key) state).value ∧
    (handle.list key state).state = (handle.inZone key.domain (handle.relist key) state).state := by
  rw [handle.list_eq_of_cold cold]
  exact ⟨rfl, rfl⟩

end

/-! In general. -/

/-- The action changes the remembered records by its result if it succeeds, and otherwise not. -/
def Remembers (change : α → RecordStore → RecordStore)
    (act : Act (HandleState σ) (Except Failure α)) : Prop :=
  ∀ state,
    (∀ value, (act state).value = .ok value → (act state).state.1 = change value state.1) ∧
    (∀ failure, (act state).value = .error failure → (act state).state.1 = state.1)

section

variable {change : α → RecordStore → RecordStore}

theorem Remembers.inZone {act : String → Act (HandleState σ) (Except Failure α)}
    (h : ∀ zone, Remembers change (act zone)) (handle : Handle σ) (domain : Domain) :
    Remembers change (handle.inZone domain act) := by
  intro state
  have same : (handle.resolve domain state).state.1 = state.1 := rfl
  cases found : (handle.resolve domain state).value with
  | error failure => simp [Handle.inZone, found, same]
  | ok zone =>
    have inside := h zone (handle.resolve domain state).state
    rw [same] at inside
    simpa [Handle.inZone, found] using inside

theorem Remembers.withOwn {act : Act (HandleState σ) (Except Failure α)}
    (h : Remembers change act) (family : Family) (address : Address) :
    Remembers change (withOwn family address act) := by
  intro state
  by_cases own : family.owns address
  · simpa [Handle.withOwn, own] using h state
  · simp [Handle.withOwn, own]

/-- What a success is turned into does not matter. -/
theorem Remembers.map {act : Act (HandleState σ) (Except Failure α)} (h : Remembers change act)
    (f : α → β) (changeAfter : β → RecordStore → RecordStore)
    (agree : ∀ value store, changeAfter (f value) store = change value store) :
    Remembers changeAfter ((·.map f) <$> act) := by
  intro state
  obtain ⟨succeeds, fails⟩ := h state
  rw [Act.value_map, Act.state_map]
  cases given : (act state).value with
  | error failure =>
    refine ⟨fun _ impossible => (nomatch impossible), ?_⟩
    intro _ _
    exact fails failure given
  | ok value =>
    refine ⟨?_, fun _ impossible => nomatch impossible⟩
    rintro _ ⟨⟩
    rw [agree]
    exact succeeds value given

end

theorem relist_remembers (key : RecordKey) (zone : String) :
    Remembers (fun records store => store.replace key records) (handle.relist key zone) := by
  intro state
  have same : (handle.fetch key zone state).state.1 = state.1 := by rw [fetch_state]
  cases fetched : (handle.fetch key zone state).value with
  | error failure =>
    obtain ⟨value, after⟩ := handle.relist_of_error fetched
    simp [value, after, same]
  | ok records =>
    obtain ⟨value, after⟩ := handle.relist_of_ok fetched
    simp [value, after, same]

theorem list_remembers (key : RecordKey) :
    Remembers (fun records store => store.replace key records) (handle.list key) := by
  intro state
  cases warm : state.1.get key with
  | some records =>
    obtain ⟨value, same, _⟩ := handle.list_of_warm warm
    rw [value, same]
    refine ⟨?_, fun _ impossible => nomatch impossible⟩
    rintro _ ⟨⟩
    exact (warm ▸ RecordStore.setEntry_get state.1 key).symm
  | none =>
    obtain ⟨value, after⟩ := handle.list_of_cold warm
    rw [value, after]
    exact Remembers.inZone (handle.relist_remembers key) handle key.domain state

theorem create_remembers (key : RecordKey) (address : Address) (ttl : Ttl) (proxied : Bool) :
    Remembers (fun id store => store.upsertIfWarm key id address)
      (handle.create key address ttl proxied) := by
  refine Remembers.withOwn (Remembers.inZone (fun zone state => ?_) handle key.domain)
    key.family address
  cases made : (handle.client.createRecord handle.api zone (newRecord key address ttl proxied)
      state.2.2).value with
  | error failure =>
    obtain ⟨⟨reason, value⟩, after⟩ := handle.createIn_of_error made
    simp [value, after]
  | ok created =>
    obtain ⟨value, after⟩ := handle.createIn_of_ok made
    simp [value, after]

theorem update_remembers (key : RecordKey) (id : String) (address : Address) :
    Remembers (fun _ store => store.upsertIfWarm key id address)
      (handle.update key id address) := by
  refine Remembers.withOwn (Remembers.inZone (fun zone state => ?_) handle key.domain)
    key.family address
  cases made : (handle.client.updateRecord handle.api zone id (recordPatch key address)
      state.2.2).value with
  | error failure =>
    obtain ⟨⟨reason, value⟩, after⟩ := handle.updateIn_of_error made
    simp [value, after]
  | ok _ =>
    obtain ⟨value, after⟩ := handle.updateIn_of_ok made
    simp [value, after]

theorem delete_remembers (key : RecordKey) (id : String) :
    Remembers (fun _ store => store.removeIfWarm key id) (handle.delete key id) := by
  refine Remembers.inZone (fun zone state => ?_) handle key.domain
  cases made : (handle.client.deleteRecord handle.api zone id state.2.2).value with
  | error failure =>
    obtain ⟨⟨reason, value⟩, after⟩ := handle.deleteIn_of_error key made
    simp [value, after]
  | ok _ =>
    obtain ⟨value, after⟩ := handle.deleteIn_of_ok key made
    simp [value, after]

/-- What the success of an operation does to the remembered records. -/
def applied : Operation → Answer → RecordStore → RecordStore
  | .list key, .records records, store => store.replace key records
  | .create key address _ _, .id id, store => store.upsertIfWarm key id address
  | .update key id address, _, store => store.upsertIfWarm key id address
  | .delete key id, _, store => store.removeIfWarm key id
  | _, _, store => store

theorem perform_remembers (operation : Operation) :
    Remembers (applied operation) (handle.perform operation) := by
  cases operation with
  | list key => exact (handle.list_remembers key).map Answer.records _ fun _ _ => rfl
  | create key address ttl proxied =>
    exact (handle.create_remembers key address ttl proxied).map Answer.id _ fun _ _ => rfl
  | update key id address =>
    exact (handle.update_remembers key id address).map (fun () => Answer.done)
      (applied (.update key id address)) fun _ _ => rfl
  | delete key id =>
    exact (handle.delete_remembers key id).map (fun () => Answer.done)
      (applied (.delete key id)) fun _ _ => rfl
  | resolve domain => exact fun _ => ⟨fun _ _ => rfl, fun _ _ => rfl⟩
  | flush => exact fun _ => ⟨fun _ _ => rfl, fun _ _ => rfl⟩

end Handle

end AddressRecords
