import AddressRecords.Proofs.Answers.Stale
import AddressRecords.Proofs.Record.Whole
import AddressRecords.Proofs.Zone.Notices

/-!
What an operation tells the user, and which failures it gives. It tells all that the resolution of
the zone tells, and of a failure in the zone it tells once, at the end.
-/

namespace AddressRecords

open Diagnostics (Message)

variable {σ τ α β : Type}

/-- The failures of an operation in its zone. -/
inductive Operation.Admits : Operation → Failure → Prop
  | unlisted (key : RecordKey) (reason : String) :
      Admits (.list key) (.recordListFailed key.domain.wireName reason)
  | unreadable (key : RecordKey) (reason : String) :
      Admits (.list key) (.recordParseFailed key.domain.wireName reason)
  | uncreated (key : RecordKey) (address : Address) (ttl : Ttl) (proxied : Bool)
      (reason : String) :
      Admits (.create key address ttl proxied)
        (.recordMutationFailed .create key.domain.wireName reason)
  | unchanged {operation : Operation} {mutation : Mutation} {key : RecordKey} {id : String}
      (alters : operation.Alters mutation key id) (reason : String) :
      Admits operation (.recordMutationFailed mutation key.domain.wireName reason)
  | stale {operation : Operation} {mutation : Mutation} {key : RecordKey} {id : String}
      (alters : operation.Alters mutation key id) (reason : String) :
      Admits operation (.staleRecord mutation key.domain.wireName id reason)

theorem Operation.Admits.isZoneError_eq {operation : Operation} {failure : Failure}
    (h : operation.Admits failure) : failure.isZoneError = false := by
  cases h <;> rfl

namespace Handle

/-! Messages. -/

/-- Of a listing without an answer. -/
def unlistedMessage (key : RecordKey) (failure : Api.Failure) : Message :=
  ⟨.warning, .error, s!"Failed to retrieve records of {Text.quote key.domain.wireName}: " ++
    failure.message⟩

/-- Of a creation that failed. -/
def uncreatedMessage (key : RecordKey) (failure : Api.Failure) : Message :=
  let name := key.domain.wireName
  ⟨.warning, .error,
    s!"Failed to add a new {key.family.recordType} record of {Text.quote name}: " ++
      failure.message⟩

/-- Of a record that could not be changed. -/
def unchangedMessage (mutation : Mutation) (key : RecordKey) (id : String)
    (failure : Api.Failure) : Message :=
  let what := s!"Failed to {mutation} a {key.family.recordType} record of " ++
    s!"{Text.quote key.domain.wireName} (ID: {id})"
  ⟨.warning, .error, what ++
    if failure.isMissing then s!" because it no longer exists: {failure.message}"
    else s!": {failure.message}"⟩

/-- A failure of an operation in its zone, and the message that tells of it. -/
inductive Complains : Operation → Failure → Message → Prop
  | unlisted (key : RecordKey) (failure : Api.Failure) :
      Complains (.list key) (.recordListFailed key.domain.wireName failure.message)
        (unlistedMessage key failure)
  | unreadable (key : RecordKey) (unreadable : Unreadable) :
      Complains (.list key) (unreadableFailure key unreadable)
        (unreadableMessage key unreadable.error)
  | uncreated (key : RecordKey) (address : Address) (ttl : Ttl) (proxied : Bool)
      (failure : Api.Failure) :
      Complains (.create key address ttl proxied)
        (.recordMutationFailed .create key.domain.wireName failure.message)
        (uncreatedMessage key failure)
  | unchanged {operation : Operation} {mutation : Mutation} {key : RecordKey} {id : String}
      (alters : operation.Alters mutation key id) (failure : Api.Failure) :
      Complains operation (unchanged mutation key.domain.wireName id failure)
        (unchangedMessage mutation key id failure)

theorem Complains.admits {operation : Operation} {failure : Failure} {message : Message}
    (h : Complains operation failure message) : operation.Admits failure := by
  cases h with
  | unlisted key failure => exact .unlisted key failure.message
  | unreadable key unreadable => exact .unreadable key _
  | uncreated key address ttl proxied failure =>
    exact .uncreated key address ttl proxied failure.message
  | unchanged alters failure =>
    unfold Handle.unchanged
    split
    · exact .stale alters failure.message
    · exact .unchanged alters failure.message

theorem Complains.level_eq {operation : Operation} {failure : Failure} {message : Message}
    (h : Complains operation failure message) : message.level = .warning := by
  cases h <;> rfl

/-- A success without a word, or a failure with one message. -/
inductive Concise (operation : Operation) : Except Failure α → List Message → Prop
  | quiet (value : α) : Concise operation (.ok value) []
  | told {failure : Failure} {message : Message} (complains : Complains operation failure message) :
      Concise operation (.error failure) [message]

theorem Concise.map {operation : Operation} {value : Except Failure α} {messages : List Message}
    (h : Concise operation value messages) (f : α → β) :
    Concise operation (value.map f) messages := by
  cases h with
  | quiet value => exact .quiet (f value)
  | told complains => exact .told complains

/-! In a zone. -/

theorem messages_onRemote {act : Act σ α} (silent : act.IsSilent) (state : HandleState σ) :
    (onRemote act state).messages = [] :=
  silent.messages state.2.2

theorem messages_reportUnchanged (mutation : Mutation) (key : RecordKey) (id : String)
    (failure : Api.Failure) (state : τ) :
    (reportUnchanged mutation key id failure state).messages =
      [unchangedMessage mutation key id failure] := by
  unfold reportUnchanged unchangedMessage
  by_cases missing : failure.isMissing = true <;>
  · simp only [missing]
    rfl

variable (handle : Handle σ)

theorem concise_relist (key : RecordKey) (zone : String) (state : HandleState σ) :
    Concise (.list key) (handle.relist key zone state).value
      (handle.relist key zone state).messages := by
  have silent := messages_onRemote (handle.client.isSilent_listRecords handle.api zone
    key.domain.wireName key.family.recordType) state
  rw [relist, Act.value_bind, Act.messages_bind, fetch, Act.value_bind, Act.messages_bind, silent,
    onRemote_apply]
  dsimp only
  cases (handle.client.listRecords handle.api zone key.domain.wireName key.family.recordType
      state.2.2).value with
  | error failure => exact .told (.unlisted key failure)
  | ok listed =>
    dsimp only
    cases readRecords key.family listed with
    | error unreadable => exact .told (.unreadable key unreadable)
    | ok entries => exact .quiet _

theorem concise_createIn (key : RecordKey) (address : Address) (ttl : Ttl) (proxied : Bool)
    (zone : String) (state : HandleState σ) :
    Concise (.create key address ttl proxied)
      (handle.createIn key address ttl proxied zone state).value
      (handle.createIn key address ttl proxied zone state).messages := by
  have silent := messages_onRemote (handle.client.isSilent_createRecord handle.api zone
    (newRecord key address ttl proxied)) state
  rw [createIn, Act.value_bind, Act.messages_bind, silent, onRemote_apply]
  dsimp only
  cases (handle.client.createRecord handle.api zone (newRecord key address ttl proxied)
      state.2.2).value with
  | error failure => exact .told (.uncreated key address ttl proxied failure)
  | ok created => exact .quiet _

/-- The report of a failed change is all that is told of it. -/
theorem concise_report {operation : Operation} {mutation : Mutation} {key : RecordKey}
    {id : String} (alters : operation.Alters mutation key id) (failure : Api.Failure) (state : τ) :
    let told := (do return .error (← reportUnchanged mutation key id failure) :
      Act τ (Except Failure Unit)) state
    Concise operation told.value told.messages := by
  intro told
  have value : told.value = .error (unchanged mutation key.domain.wireName id failure) :=
    congrArg Except.error (value_reportUnchanged mutation key id failure state)
  have messages : told.messages = [unchangedMessage mutation key id failure] := by
    rw [Act.messages_bind, messages_reportUnchanged]
    rfl
  rw [value, messages]
  exact .told (.unchanged alters failure)

theorem concise_updateIn {key : RecordKey} {address : Address} (own : key.family.owns address)
    (id zone : String) (state : HandleState σ) :
    Concise (.update key id address) (handle.updateIn key id address zone state).value
      (handle.updateIn key id address zone state).messages := by
  have silent := messages_onRemote (handle.client.isSilent_updateRecord handle.api zone id
    (recordPatch key address)) state
  rw [updateIn, Act.value_bind, Act.messages_bind, silent, onRemote_apply]
  dsimp only
  cases (handle.client.updateRecord handle.api zone id (recordPatch key address)
      state.2.2).value with
  | error failure => exact concise_report (.update own) failure _
  | ok _ => exact .quiet _

theorem concise_deleteIn (key : RecordKey) (id zone : String) (state : HandleState σ) :
    Concise (.delete key id) (handle.deleteIn key id zone state).value
      (handle.deleteIn key id zone state).messages := by
  have silent := messages_onRemote (handle.client.isSilent_deleteRecord handle.api zone id) state
  rw [deleteIn, Act.value_bind, Act.messages_bind, silent, onRemote_apply]
  dsimp only
  cases (handle.client.deleteRecord handle.api zone id state.2.2).value with
  | error failure => exact concise_report (.delete key id) failure _
  | ok _ => exact .quiet _

/-! From outside. -/

/-- What an operation gives and tells. -/
inductive Tells (state : HandleState σ) :
    Operation → Except Failure Answer → List Message → Prop
  | foreign {operation : Operation} {reason : String} (foreign : operation.IsForeign) :
      Tells state operation (.error (.invalidInput reason)) [⟨.warning, .impossible, reason⟩]
  | remembered {key : RecordKey} {records : RecordMap} (warm : state.1.get key = some records) :
      Tells state (.list key) (.ok (.records records)) []
  | flushed : Tells state .flush (.ok .done) []
  | unlocated {operation : Operation} {domain : Domain} {failure : Failure}
      (busy : ¬ operation.IsIdle state.1) (located : operation.domain? = some domain)
      (failed : (handle.resolve domain state).value = .error failure) :
      Tells state operation (.error failure) (handle.resolve domain state).messages
  | located {operation : Operation} {domain : Domain} {zone : String}
      {value : Except Failure Answer} {messages : List Message}
      (busy : ¬ operation.IsIdle state.1)
      (located : operation.domain? = some domain)
      (found : (handle.resolve domain state).value = .ok zone)
      (concise : Concise operation value messages) :
      Tells state operation value ((handle.resolve domain state).messages ++ messages)

variable {handle} {operation : Operation} {state : HandleState σ}

/-- An operation that does its work in a zone. -/
theorem tells_of_inZone {domain : Domain} {act : String → Act (HandleState σ) (Except Failure α)}
    {f : α → Answer} (busy : ¬ operation.IsIdle state.1)
    (located : operation.domain? = some domain)
    (value : (handle.perform operation state).value = (handle.inZone domain act state).value.map f)
    (messages : (handle.perform operation state).messages =
      (handle.inZone domain act state).messages)
    (concise : ∀ zone state, Concise operation (act zone state).value (act zone state).messages) :
    handle.Tells state operation (handle.perform operation state).value
      (handle.perform operation state).messages := by
  rw [value, messages, inZone, Act.value_bind, Act.messages_bind]
  cases found : (handle.resolve domain state).value with
  | error failure =>
    have told := Tells.unlocated busy located found
    rwa [← List.append_nil (handle.resolve domain state).messages] at told
  | ok zone => exact .located busy located found ((concise zone _).map f)

/-- An answer that is turned into another is told the same. -/
theorem messages_map (f : α → β) (act : Act σ (Except Failure α)) (state : σ) :
    ((do return (← act).map f : Act σ (Except Failure β)) state).messages =
      (act state).messages := by
  rw [Act.messages_bind]
  exact List.append_nil _

theorem tells_of_busy (busy : ¬ operation.IsIdle state.1) :
    handle.Tells state operation (handle.perform operation state).value
      (handle.perform operation state).messages := by
  cases operation with
  | list key =>
    have cold : state.1.get key = none := Option.not_isSome_iff_eq_none.mp busy
    have work := handle.list_eq_of_cold cold
    refine tells_of_inZone (f := .records) busy rfl ?_ ?_ (handle.concise_relist key)
    · rw [← work]
      rfl
    · rw [← work]
      exact messages_map ..
  | create key address ttl proxied =>
    have own : key.family.owns address := Decidable.not_not.mp busy
    have work : handle.create key address ttl proxied state =
      handle.inZone key.domain (handle.createIn key address ttl proxied) state :=
        handle.create_of_own own
    refine tells_of_inZone (f := .id) busy rfl ?_ ?_ (handle.concise_createIn key address ttl proxied)
    · rw [← work]
      rfl
    · rw [← work]
      exact messages_map ..
  | update key id address =>
    have own : key.family.owns address := Decidable.not_not.mp busy
    have work : handle.update key id address state =
      handle.inZone key.domain (handle.updateIn key id address) state := handle.update_of_own own
    refine tells_of_inZone (f := fun () => .done) busy rfl ?_ ?_ (handle.concise_updateIn own id)
    · rw [← work]
      rfl
    · rw [← work]
      exact messages_map ..
  | delete key id =>
    refine tells_of_inZone (f := fun () => .done) busy rfl rfl ?_ (handle.concise_deleteIn key id)
    exact messages_map ..
  | resolve domain =>
    have value : (handle.perform (.resolve domain) state).value =
      (handle.resolve domain state).value.map .id := rfl
    have messages : (handle.perform (.resolve domain) state).messages =
      (handle.resolve domain state).messages := messages_map ..
    rw [value, messages]
    cases found : (handle.resolve domain state).value with
    | error failure => exact .unlocated busy rfl found
    | ok zone =>
      rw [← List.append_nil (handle.resolve domain state).messages]
      exact .located busy rfl found (.quiet _)
  | flush => exact absurd trivial busy

theorem tells_of_idle (idle : operation.IsIdle state.1) :
    handle.Tells state operation (handle.perform operation state).value
      (handle.perform operation state).messages := by
  by_cases foreign : operation.IsForeign
  · obtain ⟨reason, done⟩ := handle.perform_of_isForeign foreign state
    rw [done]
    exact .foreign foreign
  · cases operation with
    | list key =>
      obtain ⟨records, warm⟩ := Option.isSome_iff_exists.mp idle
      obtain ⟨value, -, line, only⟩ := handle.list_of_warm warm
      have messages : (handle.perform (.list key) state).messages = [] := by
        rw [perform, messages_map, Outcome.messages, only]
        rfl
      rw [messages, perform, Act.value_bind, Act.pure_apply, value]
      exact .remembered warm
    | create | update => exact absurd idle foreign
    | delete | resolve => cases idle
    | flush => exact .flushed

/-! All of it. -/

theorem isIdle_of_isForeign (foreign : operation.IsForeign) (store : RecordStore) :
    operation.IsIdle store := by
  cases operation with
  | create | update => exact foreign
  | list | delete | resolve | flush => cases foreign

section

variable {domain : Domain}

/-- A resolution that fails has told so. -/
theorem warned_of_resolve {failure : Failure}
    (failed : (handle.resolve domain state).value = .error failure) :
    ∃ before message, (handle.resolve domain state).messages = before ++ [message] ∧
      message.level = .warning := by
  obtain ⟨looked, announces⟩ := Resolver.exists_announces
    (handle.client.isSilent_zoneSource handle.api) domain domain.zoneCandidates state.2
  obtain ⟨last, closes, told⟩ := announces.told
  have ends := announces.ends
  rw [show (Resolver.resolveAmong (handle.client.zoneSource handle.api) domain
    domain.zoneCandidates state.2).value = .error failure from failed] at ends
  obtain ⟨message, rfl, level⟩ := closes.of_error ends
  exact ⟨_, message, told, level⟩

/-- A resolution that succeeds has told of zones and their statuses only. -/
theorem notices_of_resolve {zone : String}
    (found : (handle.resolve domain state).value = .ok zone) :
    ∀ message ∈ (handle.resolve domain state).messages, Resolver.IsStatusNotice message := by
  obtain ⟨looked, announces⟩ := Resolver.exists_announces
    (handle.client.isSilent_zoneSource handle.api) domain domain.zoneCandidates state.2
  obtain ⟨last, closes, told⟩ := announces.told
  have ends := announces.ends
  rw [show (Resolver.resolveAmong (handle.client.zoneSource handle.api) domain
    domain.zoneCandidates state.2).value = .ok zone from found] at ends
  obtain ⟨name, status, warns⟩ := closes.of_ok ends
  intro message mem
  have mem : message ∈ _ ++ last := told ▸ mem
  rcases List.mem_append.mp mem with skipped | remarked
  · exact Resolver.isStatusNotice_of_mem_skippedIn skipped
  · exact .inr ⟨name, status, last, warns, remarked⟩

end

section

variable {value : Except Failure Answer} {messages : List Message}

theorem Tells.isZoneError_iff (h : handle.Tells state operation value messages)
    {failure : Failure} (failed : value = .error failure) :
    failure.isZoneError = true ↔ ¬ operation.IsIdle state.1 ∧ ∃ domain,
      operation.domain? = some domain ∧ (handle.resolve domain state).value = .error failure := by
  cases h with
  | foreign foreign =>
    cases failed
    exact iff_of_false Bool.false_ne_true fun resolved =>
      resolved.1 (isIdle_of_isForeign foreign state.1)
  | remembered | flushed => cases failed
  | unlocated busy located unresolved =>
    cases failed
    exact iff_of_true (handle.isZoneError_of_resolve unresolved) ⟨busy, _, located, unresolved⟩
  | located busy located found concise =>
    subst failed
    cases concise with
    | told complains =>
      rw [complains.admits.isZoneError_eq]
      refine iff_of_false Bool.false_ne_true ?_
      rintro ⟨-, other, also, unresolved⟩
      cases located.symm.trans also
      rw [found] at unresolved
      cases unresolved

theorem Tells.admits (h : handle.Tells state operation value messages)
    (busy : ¬ operation.IsIdle state.1) {domain : Domain} {zone : String}
    (located : operation.domain? = some domain)
    (found : (handle.resolve domain state).value = .ok zone) {failure : Failure}
    (failed : value = .error failure) : operation.Admits failure := by
  cases h with
  | foreign foreign => exact absurd (isIdle_of_isForeign foreign state.1) busy
  | remembered | flushed => cases failed
  | unlocated _ also unresolved =>
    cases located.symm.trans also
    rw [found] at unresolved
    cases unresolved
  | located _ _ _ concise =>
    subst failed
    cases concise with
    | told complains => exact complains.admits

theorem Tells.warned (h : handle.Tells state operation value messages) {failure : Failure}
    (failed : value = .error failure) :
    ∃ before message, messages = before ++ [message] ∧ message.level = .warning := by
  cases h with
  | foreign => exact ⟨[], _, rfl, rfl⟩
  | remembered | flushed => cases failed
  | unlocated busy located unresolved => exact warned_of_resolve unresolved
  | located busy located found concise =>
    subst failed
    cases concise with
    | told complains => exact ⟨_, _, rfl, complains.level_eq⟩

theorem Tells.notices (h : handle.Tells state operation value messages) {answer : Answer}
    (ok : value = .ok answer) : ∀ message ∈ messages, Resolver.IsStatusNotice message := by
  cases h with
  | foreign | unlocated => cases ok
  | remembered | flushed =>
    intro message impossible
    cases impossible
  | located busy located found concise =>
    subst ok
    cases concise with
    | quiet =>
      rw [List.append_nil]
      exact notices_of_resolve found

end

variable (handle) (operation) (state)

/-- What the user gets to know of an operation, by its answer and by what is told. -/
structure SpeaksUp : Prop where
  tells : handle.Tells state operation (handle.perform operation state).value
    (handle.perform operation state).messages
  /-- A zone error comes from the resolution, and from nowhere else. -/
  isZoneError_iff : ∀ failure, (handle.perform operation state).value = .error failure →
    (failure.isZoneError = true ↔ ¬ operation.IsIdle state.1 ∧ ∃ domain,
      operation.domain? = some domain ∧ (handle.resolve domain state).value = .error failure)
  /-- With the zone found, the failure is one of the operation's own. -/
  admits : ∀ domain zone failure, ¬ operation.IsIdle state.1 →
    operation.domain? = some domain → (handle.resolve domain state).value = .ok zone →
    (handle.perform operation state).value = .error failure → operation.Admits failure
  /-- The last word on a failure is a warning. -/
  warned : ∀ failure, (handle.perform operation state).value = .error failure →
    ∃ before message, (handle.perform operation state).messages = before ++ [message] ∧
      message.level = .warning
  notices : ∀ answer, (handle.perform operation state).value = .ok answer →
    ∀ message ∈ (handle.perform operation state).messages, Resolver.IsStatusNotice message

/-- Whatever the state and the API, no failure is silent, none is told twice, and none is taken
for another. -/
theorem speaksUp : handle.SpeaksUp operation state := by
  have tells : handle.Tells state operation (handle.perform operation state).value
      (handle.perform operation state).messages := by
    by_cases idle : operation.IsIdle state.1
    · exact tells_of_idle idle
    · exact tells_of_busy idle
  constructor
  case tells => exact tells
  case isZoneError_iff =>
    intro failure failed
    exact tells.isZoneError_iff failed
  case admits =>
    intro domain zone failure busy located found failed
    exact tells.admits busy located found failed
  case warned =>
    intro failure failed
    exact tells.warned failed
  case notices =>
    intro answer ok
    exact tells.notices ok

end Handle

end AddressRecords
