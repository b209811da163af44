import AddressRecords.Proofs.Atomicity.Failing
import AddressRecords.Proofs.Record.History

/-!
Failures that are about the input. An operation complains about its input only if it is given an
address of the other family, whatever the state and the API.
-/

namespace AddressRecords

variable {σ τ α β : Type}

namespace Act

/-- The action does not complain about its input. -/
def Accepts (act : Act τ (Except Failure α)) : Prop :=
  ∀ state reason, (act state).value ≠ .error (.invalidInput reason)

namespace Accepts

theorem ok (value : α) : (pure (.ok value) : Act τ (Except Failure α)).Accepts :=
  fun _ _ impossible => nomatch impossible

theorem error {failure : Failure} (h : ∀ reason, failure ≠ .invalidInput reason) :
    (pure (.error failure) : Act τ (Except Failure α)).Accepts :=
  fun _ reason same => h reason (Except.error.inj same)

theorem bind_of_value {act : Act τ α} {next : α → Act τ (Except Failure β)}
    (rest : ∀ value, (∃ state, (act state).value = value) → (next value).Accepts) :
    (act >>= next).Accepts :=
  fun state reason => rest _ ⟨state, rfl⟩ _ reason

theorem bind {act : Act τ α} {next : α → Act τ (Except Failure β)}
    (rest : ∀ value, (next value).Accepts) : (act >>= next).Accepts :=
  bind_of_value fun value _ => rest value

/-- What comes next may pass a failure on. -/
theorem after {act : Act τ (Except Failure α)} {next : Except Failure α → Act τ (Except Failure β)}
    (h : act.Accepts) (succeeds : ∀ value, (next (.ok value)).Accepts)
    (fails : ∀ failure, (∀ reason, failure ≠ .invalidInput reason) →
      (next (.error failure)).Accepts) : (act >>= next).Accepts := by
  apply bind_of_value
  rintro (failure | value) ⟨state, given⟩
  · apply fails
    rintro reason rfl
    exact h state reason given
  · exact succeeds value

theorem map {act : Act τ (Except Failure α)} (h : act.Accepts) (f : α → β) :
    (do return (← act).map f : Act τ (Except Failure β)).Accepts :=
  h.after (fun value => .ok (f value)) fun _ sound => .error sound

end Accepts

end Act

namespace Handle

variable (handle : Handle σ)

theorem accepts_resolve (domain : Domain) : (handle.resolve domain).Accepts := by
  intro state reason failed
  obtain ⟨looked, -, -, ends⟩ := Resolver.resolveAmong_ends (handle.client.zoneSource handle.api)
    domain domain.zoneCandidates state.2
  have result : (Resolver.resolveAmong (handle.client.zoneSource handle.api) domain
      domain.zoneCandidates state.2).value = .error (.invalidInput reason) := failed
  rw [result] at ends
  generalize (ZoneCache.lookupEach (handle.client.zoneSource handle.api) looked state.2).value =
    answers at ends
  cases ends with
  | decided passed decides => cases decides

variable {handle} in
theorem accepts_inZone {domain : Domain} {act : String → Act (HandleState σ) (Except Failure α)}
    (h : ∀ zone, (act zone).Accepts) : (handle.inZone domain act).Accepts :=
  (handle.accepts_resolve domain).after h fun _ sound => .error sound

theorem accepts_fetch (key : RecordKey) (zone : String) : (handle.fetch key zone).Accepts := by
  apply Act.Accepts.bind
  intro answer
  cases answer with
  | error failure => exact .bind fun _ => .error (by simp)
  | ok listed =>
    dsimp only
    split
    · exact .bind fun _ => .error (by simp)
    · exact .ok _

theorem accepts_list (key : RecordKey) : (handle.list key).Accepts := by
  apply Act.Accepts.bind
  intro state
  split
  · exact .bind fun _ => .ok _
  · refine accepts_inZone fun zone => (handle.accepts_fetch key zone).after (fun records => ?_) ?_
    · exact .bind fun _ => .bind fun _ => .ok _
    · exact fun _ sound => .error sound

theorem accepts_create {key : RecordKey} {address : Address} (own : key.family.owns address)
    (ttl : Ttl) (proxied : Bool) : (handle.create key address ttl proxied).Accepts := by
  rw [create, withOwn, if_pos own]
  apply accepts_inZone
  intro zone
  apply Act.Accepts.bind
  intro answer
  cases answer with
  | error failure => exact .bind fun _ => .error (by simp)
  | ok created => exact .bind fun _ => .bind fun _ => .bind fun _ => .ok _

theorem reportUnchanged_ne_invalidInput (mutation : Mutation) (key : RecordKey) (id : String)
    (failure : Api.Failure) (state : τ) (reason : String) :
    (reportUnchanged mutation key id failure state).value ≠ .invalidInput reason := by
  cases missing : failure.isMissing <;> simp [reportUnchanged, missing]

/-- A failure to change an existing record is told as such. -/
theorem accepts_unchanged (mutation : Mutation) (key : RecordKey) (id : String)
    (failure : Api.Failure) :
    (do return .error (← reportUnchanged mutation key id failure) :
      Act τ (Except Failure α)).Accepts := by
  apply Act.Accepts.bind_of_value
  rintro _ ⟨state, rfl⟩
  exact .error fun reason => reportUnchanged_ne_invalidInput mutation key id failure state reason

theorem accepts_update {key : RecordKey} {address : Address} (own : key.family.owns address)
    (id : String) : (handle.update key id address).Accepts := by
  rw [update, withOwn, if_pos own]
  apply accepts_inZone
  intro zone
  apply Act.Accepts.bind
  intro answer
  cases answer with
  | error failure => exact accepts_unchanged _ _ _ _
  | ok _ => exact .bind fun _ => .bind fun _ => .ok _

theorem accepts_delete (key : RecordKey) (id : String) : (handle.delete key id).Accepts := by
  apply accepts_inZone
  intro zone
  apply Act.Accepts.bind
  intro answer
  cases answer with
  | error failure => exact accepts_unchanged _ _ _ _
  | ok _ => exact .bind fun _ => .bind fun _ => .ok _

/-- Only an address of the other family is wrong input. -/
theorem accepts_perform {operation : Operation} (own : ¬ operation.IsForeign) :
    (handle.perform operation).Accepts := by
  cases operation with
  | list key => exact (handle.accepts_list key).map _
  | create key address ttl proxied =>
    exact (handle.accepts_create (Decidable.not_not.mp own) ttl proxied).map _
  | update key id address => exact (handle.accepts_update (Decidable.not_not.mp own) id).map _
  | delete key id => exact (handle.accepts_delete key id).map _
  | resolve domain => exact (handle.accepts_resolve domain).map _
  | flush => exact .bind fun _ => .ok _

/-- If no operation has a foreign address, none of a run complains about its input. -/
theorem ne_invalidInput_of_history {operations : List Operation}
    (own : ∀ operation ∈ operations, ¬ operation.IsForeign) (state : HandleState σ) :
    ∀ entry ∈ handle.history operations state, ∀ reason, entry.2 ≠ .error (.invalidInput reason) := by
  induction operations generalizing state with
  | nil => exact fun _ mem => nomatch mem
  | cons operation rest ih =>
    obtain ⟨first, later⟩ := List.forall_mem_cons.mp own
    rw [history_cons]
    exact List.forall_mem_cons.mpr ⟨handle.accepts_perform first state, ih later _⟩

end Handle

end AddressRecords
