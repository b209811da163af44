import AddressRecords.Proofs.Answers.Meaning
import AddressRecords.Proofs.Atomicity.Failing

/-!
Which changes find their record gone. The answer to the request decides, and of its status only
the kind: one that was not found, one that is a verdict of its own, one of success, or any other.
-/

namespace AddressRecords

open Api (Client Ends Envelope Means Reply ReportsMissing Service Status TransportFault)

variable {σ : Type}

namespace Api

/-- The answer tells that the addressed record is not there. -/
inductive TellsGone : Except TransportFault Reply → Prop
  | notFound {reply : Reply} (status : reply.status.code = 404) : TellsGone (.ok reply)
  | rejected {reply : Reply} (refused : ¬ (200 ≤ reply.status.code ∧ reply.status.code < 300))
      (other : ¬ reply.status.IsVerdict) (reported : ReportsMissing reply.text) :
      TellsGone (.ok reply)
  | unsuccessful {reply : Reply} {envelope : Envelope Json.Value}
      (accepted : 200 ≤ reply.status.code ∧ reply.status.code < 300)
      (read : Json.readText (Envelope.reader Json.Reader.value) reply.text = .ok envelope)
      (failed : envelope.success = false) (reported : ∃ e ∈ envelope.errors, e.code = 81044) :
      TellsGone (.ok reply)

variable {reply : Reply} {answer : Except TransportFault Reply}

/-- A status that is a verdict of its own tells of no record. -/
theorem not_tellsGone_of_isVerdict (verdict : reply.status.IsVerdict) :
    ¬ TellsGone (.ok reply) := by
  unfold Status.IsVerdict at verdict
  rintro (status | ⟨-, other, -⟩ | ⟨accepted, -, -, -⟩)
  · omega
  · exact other verdict
  · omega

theorem tellsGone_iff_of_refused (refused : ¬ (200 ≤ reply.status.code ∧ reply.status.code < 300))
    (found : reply.status.code ≠ 404) (other : ¬ reply.status.IsVerdict) :
    TellsGone (.ok reply) ↔ ReportsMissing reply.text := by
  constructor
  · rintro (status | ⟨-, -, reported⟩ | ⟨accepted, -, -, -⟩)
    · exact absurd status found
    · exact reported
    · exact absurd accepted refused
  · exact .rejected refused other

theorem tellsGone_iff_of_accepted (accepted : 200 ≤ reply.status.code ∧ reply.status.code < 300)
    {envelope : Envelope Json.Value}
    (read : Json.readText (Envelope.reader Json.Reader.value) reply.text = .ok envelope)
    (failed : envelope.success = false) :
    TellsGone (.ok reply) ↔ ∃ e ∈ envelope.errors, e.code = 81044 := by
  constructor
  · rintro (status | ⟨refused, -, -⟩ | ⟨-, also, -, reported⟩)
    · omega
    · exact absurd accepted refused
    · cases read.symm.trans also
      exact reported
  · exact .unsuccessful accepted read failed

theorem not_tellsGone_of_unreadable
    (accepted : 200 ≤ reply.status.code ∧ reply.status.code < 300) {fault : Json.Fault}
    (read : Json.readText (Envelope.reader Json.Reader.value) reply.text = .error fault) :
    ¬ TellsGone (.ok reply) := by
  rintro (status | ⟨refused, -, -⟩ | ⟨-, also, -, -⟩)
  · omega
  · exact absurd accepted refused
  · cases read.symm.trans also

theorem not_tellsGone_of_success {envelope : Envelope Json.Value}
    (means : Means Json.Reader.value answer (.ok envelope)) : ¬ TellsGone answer := by
  cases means with
  | success accepted read success =>
    rintro (status | ⟨refused, -, -⟩ | ⟨-, also, failed, -⟩)
    · omega
    · exact absurd accepted refused
    · cases read.symm.trans also
      exact absurd failed (by simp [success])

/-- The failure of a call tells of a missing record just where the answer does. -/
theorem Means.isMissing_iff {failure : Failure}
    (means : Means Json.Reader.value answer (.error failure)) :
    failure.isMissing = true ↔ TellsGone answer := by
  cases means with
  | broken fault => exact iff_of_false Bool.false_ne_true fun gone => nomatch gone
  | unauthorized status told =>
    exact iff_of_false Bool.false_ne_true (not_tellsGone_of_isVerdict (.inl status))
  | notFound status told => exact iff_of_true rfl (.notFound status)
  | rateLimited status told =>
    exact iff_of_false Bool.false_ne_true (not_tellsGone_of_isVerdict (.inr (.inl status)))
  | server status told =>
    exact iff_of_false Bool.false_ne_true (not_tellsGone_of_isVerdict (.inr (.inr status)))
  | rejected refused found other told flag =>
    rw [tellsGone_iff_of_refused refused found other, ← flag]
    rfl
  | unreadable accepted read =>
    exact iff_of_false Bool.false_ne_true (not_tellsGone_of_unreadable accepted read)
  | unsuccessful accepted read failed flag =>
    rw [tellsGone_iff_of_accepted accepted read failed, ← flag]
    rfl

/-- Two statuses of one kind. -/
structure Status.Akin (one other : Status) : Prop where
  success : 200 ≤ one.code ∧ one.code < 300 ↔ 200 ≤ other.code ∧ other.code < 300
  notFound : one.code = 404 ↔ other.code = 404
  verdict : one.IsVerdict ↔ other.IsVerdict

theorem Status.Akin.symm {one other : Status} (akin : one.Akin other) : other.Akin one :=
  ⟨akin.success.symm, akin.notFound.symm, akin.verdict.symm⟩

theorem TellsGone.of_akin {one other : Status} (akin : one.Akin other) {body : String}
    (gone : TellsGone (.ok ⟨one, body⟩)) : TellsGone (.ok ⟨other, body⟩) := by
  rcases gone with status | ⟨refused, free, reported⟩ | ⟨accepted, read, failed, reported⟩
  · exact .notFound (akin.notFound.mp status)
  · exact .rejected (akin.success.not.mp refused) (akin.verdict.not.mp free) reported
  · exact .unsuccessful (akin.success.mp accepted) read failed reported

end Api

open Api (TellsGone)

/-! Changes of existing records. -/

/-- The operation changes the record of a key with this identifier. -/
inductive Operation.Alters : Operation → Mutation → RecordKey → String → Prop
  | update {key : RecordKey} {id : String} {address : Address} (own : key.family.owns address) :
      Alters (.update key id address) .update key id
  | delete (key : RecordKey) (id : String) : Alters (.delete key id) .delete key id

namespace Handle

/-- What becomes of the change to a record, by the answer to its request. -/
inductive Concludes (mutation : Mutation) (name id : String) :
    Except TransportFault Reply → Except Failure Answer → Prop
  | done {answer : Except TransportFault Reply} {envelope : Envelope Json.Value}
      (means : Means Json.Reader.value answer (.ok envelope)) :
      Concludes mutation name id answer (.ok .done)
  | stale {answer : Except TransportFault Reply} {failure : Api.Failure}
      (means : Means Json.Reader.value answer (.error failure)) (gone : TellsGone answer) :
      Concludes mutation name id answer (.error (.staleRecord mutation name id failure.message))
  | failed {answer : Except TransportFault Reply} {failure : Api.Failure}
      (means : Means Json.Reader.value answer (.error failure)) (there : ¬ TellsGone answer) :
      Concludes mutation name id answer
        (.error (.recordMutationFailed mutation name failure.message))

/-- The record is stale if the answer tells that it is gone, and only then. -/
theorem Concludes.stale_iff {mutation : Mutation} {name id : String}
    {answer : Except TransportFault Reply} {value : Except Failure Answer}
    (h : Concludes mutation name id answer value) :
    (∃ reason, value = .error (.staleRecord mutation name id reason)) ↔ TellsGone answer := by
  cases h with
  | done means => exact iff_of_false (by simp) (Api.not_tellsGone_of_success means)
  | stale means gone => exact iff_of_true ⟨_, rfl⟩ gone
  | failed means there => exact iff_of_false (by simp) there

/-- The failure that is made of that of the call. -/
def unchanged (mutation : Mutation) (name id : String) (failure : Api.Failure) : Failure :=
  if failure.isMissing then .staleRecord mutation name id failure.message
  else .recordMutationFailed mutation name failure.message

/-- What a change to a record comes to, once its request was answered. -/
def conclusion (mutation : Mutation) (name id : String)
    (answer : Except TransportFault Reply) : Except Failure Unit :=
  ((Client.judge Json.Reader.value answer).mapError (unchanged mutation name id)).map fun _ => ()

theorem value_reportUnchanged (mutation : Mutation) (key : RecordKey) (id : String)
    (failure : Api.Failure) (state : σ) :
    (reportUnchanged mutation key id failure state).value =
      unchanged mutation key.domain.wireName id failure := by
  cases missing : failure.isMissing <;> simp [reportUnchanged, unchanged, missing]

theorem concludes_conclusion (mutation : Mutation) (name id : String)
    (answer : Except TransportFault Reply) :
    Concludes mutation name id answer
      ((conclusion mutation name id answer).map fun _ => .done) := by
  have means := Client.means_judge Json.Reader.value answer
  rw [conclusion]
  cases judged : Client.judge Json.Reader.value answer with
  | ok envelope => exact .done (judged ▸ means)
  | error failure =>
    rw [judged] at means
    change Concludes mutation name id answer (.error (unchanged mutation name id failure))
    rw [unchanged]
    split
    · exact .stale means (means.isMissing_iff.mp ‹_›)
    · exact .failed means (means.isMissing_iff.not.mp ‹_›)

variable (handle : Handle σ)

theorem value_updateIn (key : RecordKey) (id : String) (address : Address) (zone : String)
    (state : HandleState σ) :
    (handle.updateIn key id address zone state).value =
      conclusion .update key.domain.wireName id (Client.attempt handle.api handle.client
        ((Command.update zone id (recordPatch key address)).call handle.client)
          state.2.2).value := by
  rw [updateIn, Act.value_bind, onRemote_apply]
  dsimp only
  rw [Client.value_updateRecord, Client.send, Act.value_map, conclusion]
  generalize Client.judge Json.Reader.value _ = judged
  cases judged with
  | ok envelope => rfl
  | error failure => exact congrArg Except.error (value_reportUnchanged ..)

theorem value_deleteIn (key : RecordKey) (id zone : String) (state : HandleState σ) :
    (handle.deleteIn key id zone state).value =
      conclusion .delete key.domain.wireName id (Client.attempt handle.api handle.client
        ((Command.delete zone id).call handle.client) state.2.2).value := by
  rw [deleteIn, Act.value_bind, onRemote_apply]
  dsimp only
  rw [Client.value_deleteRecord, Client.send, Act.value_map, conclusion]
  generalize Client.judge Json.Reader.value _ = judged
  cases judged with
  | ok envelope => rfl
  | error failure => exact congrArg Except.error (value_reportUnchanged ..)

theorem value_perform_of_alters {operation : Operation} {mutation : Mutation} {key : RecordKey}
    {id zone : String} {command : Command} {state : HandleState σ}
    (alters : operation.Alters mutation key id)
    (found : (handle.resolve key.domain state).value = .ok zone)
    (work : operation.Work zone [command]) :
    (handle.perform operation state).value =
      (conclusion mutation key.domain.wireName id (Client.attempt handle.api handle.client
        (command.call handle.client) (handle.resolve key.domain state).state.2.2).value).map
          fun _ => .done := by
  cases alters with
  | update own =>
    cases work
    rw [perform, Act.value_bind, Act.pure_apply, handle.update_of_own own,
      handle.inZone_of_found found, value_updateIn]
  | delete key id =>
    cases work
    rw [perform, Act.value_bind, Act.pure_apply, delete, handle.inZone_of_found found,
      value_deleteIn]

/-! Creations. -/

/-- A zone that is not found is no stale record. -/
theorem isZoneError_of_resolve {domain : Domain} {state : HandleState σ} {failure : Failure}
    (failed : (handle.resolve domain state).value = .error failure) :
    failure.isZoneError = true := by
  obtain ⟨looked, -, -, ends⟩ := Resolver.resolveAmong_ends (handle.client.zoneSource handle.api)
    domain domain.zoneCandidates state.2
  have result : (Resolver.resolveAmong (handle.client.zoneSource handle.api) domain
    domain.zoneCandidates state.2).value = .error failure := failed
  rw [result] at ends
  generalize (ZoneCache.lookupEach (handle.client.zoneSource handle.api) looked state.2).value =
    answers at ends
  cases ends with
  | exhausted passed => rfl
  | decided passed decides => cases decides <;> rfl

/-- What an answer is turned into does not make it a failure. -/
theorem error_of_map {τ α β : Type} {f : α → β} {act : Act τ (Except Failure α)} {state : τ}
    {failure : Failure}
    (h : ((do return (← act).map f : Act τ (Except Failure β)) state).value = .error failure) :
    (act state).value = .error failure := by
  rw [Act.value_bind, Act.pure_apply] at h
  cases answer : (act state).value with
  | error given =>
    rw [answer] at h
    exact congrArg Except.error (Except.error.inj h)
  | ok given =>
    rw [answer] at h
    cases h

theorem createIn_of_failed {key : RecordKey} {address : Address} {ttl : Ttl} {proxied : Bool}
    {zone : String} {state : HandleState σ} {failure : Failure}
    (failed : (handle.createIn key address ttl proxied zone state).value = .error failure) :
    ∃ reason, failure = .recordMutationFailed .create key.domain.wireName reason := by
  cases made : (handle.client.createRecord handle.api zone (newRecord key address ttl proxied)
      state.2.2).value with
  | error cause =>
    have value : (handle.createIn key address ttl proxied zone state).value =
        .error (.recordMutationFailed .create key.domain.wireName cause.message) := by
      simp only [createIn, onRemote, Act.value_bind, Act.onSecond_apply, made, Act.tell_apply,
        Act.pure_apply]
      rfl
    rw [value] at failed
    exact ⟨_, (Except.error.inj failed).symm⟩
  | ok created =>
    rw [(handle.createIn_of_ok made).1] at failed
    cases failed

/-- A creation has no record that could be stale. -/
theorem not_isStaleRecord_of_create {key : RecordKey} {address : Address} {ttl : Ttl}
    {proxied : Bool} {state : HandleState σ} {failure : Failure}
    (failed : (handle.perform (.create key address ttl proxied) state).value = .error failure) :
    failure.isStaleRecord = false := by
  have made := error_of_map failed
  by_cases own : key.family.owns address
  · rw [handle.create_of_own own] at made
    cases found : (handle.resolve key.domain state).value with
    | error cause =>
      rw [inZone, Act.value_bind, found] at made
      cases made
      have zone := handle.isZoneError_of_resolve found
      cases failure <;> first | rfl | cases zone
    | ok zone =>
      rw [handle.inZone_of_found found] at made
      dsimp only at made
      obtain ⟨reason, rfl⟩ := handle.createIn_of_failed made
      rfl
  · rw [create, withOwn, if_neg own] at made
    cases made
    rfl

/-! Both. -/

/-- In the zone that is found, the request for a change to a record ends with this answer. -/
inductive Answered (handle : Handle σ) (state : HandleState σ) (operation : Operation)
    (mutation : Mutation) (key : RecordKey) (id : String) : Except TransportFault Reply → Prop
  | found {zone : String} {command : Command} {answer : Except TransportFault Reply}
      (alters : operation.Alters mutation key id)
      (located : (handle.resolve key.domain state).value = .ok zone)
      (work : operation.Work zone [command])
      (ends : Ends handle.api handle.client (command.call handle.client)
        (handle.resolve key.domain state).state.2.2 answer) :
      Answered handle state operation mutation key id answer

/-- When a handle tells that a record is stale. -/
structure TellsStale (handle : Handle σ) (state : HandleState σ) : Prop where
  /-- A change to a record is asked for where its zone is found. -/
  answered : ∀ {operation mutation key id zone}, operation.Alters mutation key id →
    (handle.resolve key.domain state).value = .ok zone →
    ∃ answer, handle.Answered state operation mutation key id answer
  stale : ∀ {operation mutation key id answer},
    handle.Answered state operation mutation key id answer →
    ((∃ reason, (handle.perform operation state).value =
      .error (.staleRecord mutation key.domain.wireName id reason)) ↔ TellsGone answer)
  /-- A record that is not stale was changed, or the change failed. -/
  concludes : ∀ {operation mutation key id answer},
    handle.Answered state operation mutation key id answer →
    Concludes mutation key.domain.wireName id answer (handle.perform operation state).value
  creates : ∀ {key address ttl proxied failure},
    (handle.perform (.create key address ttl proxied) state).value = .error failure →
    failure.isStaleRecord = false
  /-- Of the status only its kind counts. -/
  kinds : ∀ {one other : Status}, one.Akin other → ∀ body,
    TellsGone (.ok ⟨one, body⟩) ↔ TellsGone (.ok ⟨other, body⟩)

theorem exists_answered {operation : Operation} {mutation : Mutation} {key : RecordKey}
    {id zone : String} {state : HandleState σ} (alters : operation.Alters mutation key id)
    (located : (handle.resolve key.domain state).value = .ok zone) :
    ∃ answer, handle.Answered state operation mutation key id answer := by
  have work : ∃ command, operation.Work zone [command] := by
    cases alters with
    | @update key id address own => exact ⟨_, .update key id address zone⟩
    | delete key id => exact ⟨_, .delete key id zone⟩
  obtain ⟨command, work⟩ := work
  exact ⟨_, .found alters located work (Client.ends_attempt ..)⟩

theorem concludes_of_answered {operation : Operation} {mutation : Mutation} {key : RecordKey}
    {id : String} {state : HandleState σ} {answer : Except TransportFault Reply}
    (answered : handle.Answered state operation mutation key id answer) :
    Concludes mutation key.domain.wireName id answer (handle.perform operation state).value := by
  cases answered with
  | found alters located work ends =>
    rw [handle.value_perform_of_alters alters located work, ← ends.eq_attempt]
    exact concludes_conclusion ..

/-- Whatever the state and the API, a record is stale just where the answer tells that it is
gone. -/
theorem tellsStale (handle : Handle σ) (state : HandleState σ) : handle.TellsStale state := by
  constructor
  case answered => exact handle.exists_answered
  case stale => exact fun answered => (handle.concludes_of_answered answered).stale_iff
  case concludes => exact handle.concludes_of_answered
  case creates => exact handle.not_isStaleRecord_of_create
  case kinds => exact fun akin _ => ⟨.of_akin akin, .of_akin akin.symm⟩

end Handle

/-! A record that is gone, told with two statuses. -/

namespace Rehearsed

/-- An answer with the error of a missing record. -/
def missing (code : Nat) : Reply :=
  ⟨⟨code⟩, "\x7b\"success\":false,\"errors\":" ++
    "[\x7b\"code\":81044,\"message\":\"Record does not exist.\"\x7d]\x7d"⟩

theorem tellsStale_rejected :
    let state := HandleState.initial [located, missing 400]
    (handle.resolve key.domain state).value = .ok "z" ∧
      (handle.perform (.delete key "r") state).value =
        .error (.staleRecord .delete "home.example" "r"
          "request rejected (HTTP 400 Bad Request): Record does not exist. (code 81044)") ∧
      handle.TellsStale state := by
  have run : let state := HandleState.initial [located, missing 400]
      (handle.resolve key.domain state).value = .ok "z" ∧
        (handle.perform (.delete key "r") state).value =
          .error (.staleRecord .delete "home.example" "r"
            "request rejected (HTTP 400 Bad Request): Record does not exist. (code 81044)") := by
    decide +kernel
  exact ⟨run.1, run.2, handle.tellsStale _⟩

/-- With a verdict of its own, the same errors do not make the record a stale one. -/
theorem not_stale_forbidden :
    let state := HandleState.initial [located, missing 403]
    let resolved := handle.resolve key.domain state
    resolved.value = .ok "z" ∧
      (Client.attempt handle.api handle.client ((Command.delete "z" "r").call handle.client)
        resolved.state.2.2).value = .ok (missing 403) ∧
      ReportsMissing (missing 403).text ∧
      (handle.perform (.delete key "r") state).value =
        .error (.recordMutationFailed .delete "home.example"
          ("authentication failed: invalid API token or insufficient permissions " ++
            "(HTTP 403 Forbidden): Record does not exist. (code 81044)")) := by
  intro state resolved
  have found : resolved.value = .ok "z" := by decide +kernel
  have answered : (Client.attempt handle.api handle.client
      ((Command.delete "z" "r").call handle.client) resolved.state.2.2).value =
        .ok (missing 403) := by
    decide +kernel
  have reported : Api.reportsMissingRecord (Api.Failure.reportedErrors (missing 403).text) := by
    decide +kernel
  have run : (handle.perform (.delete key "r") state).value =
      .error (.recordMutationFailed .delete "home.example"
        ("authentication failed: invalid API token or insufficient permissions " ++
          "(HTTP 403 Forbidden): Record does not exist. (code 81044)")) := by
    decide +kernel
  exact ⟨found, answered, Api.Failure.reportsMissing_iff.mpr reported, run⟩

end Rehearsed

end AddressRecords
