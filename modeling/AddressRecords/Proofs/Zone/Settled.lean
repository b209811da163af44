import AddressRecords.Proofs.Atomicity.Failing

/-!
Zones that were found once. The lists that led to a zone stay, and as long as they do, the zone is
found again without a call; nothing that is done in the zone touches them.
-/

namespace AddressRecords

open Api (Client)

variable {σ α β : Type}

namespace ZoneCache

/-- The remembered lists alone lead from these candidates to a zone. -/
inductive Settles (cache : ZoneCache) : List String → String → Prop
  | owner {candidate : String} {rest : List String} {zones : List Zone} {zone : Zone}
      (known : cache.find? candidate = some zones) (only : eligible zones = [zone]) :
      Settles cache (candidate :: rest) zone.id
  | passes {candidate : String} {rest : List String} {zones : List Zone} {id : String}
      (known : cache.find? candidate = some zones) (none : eligible zones = [])
      (later : Settles cache rest id) : Settles cache (candidate :: rest) id

/-- A look-up that succeeds leaves the list that it gives. -/
theorem find?_lookup_of_ok (source : ZoneSource σ) {name : String} (named : name ≠ "")
    {state : ZoneCache × σ} {zones : List Zone}
    (ok : (lookup source name state).value = .ok zones) :
    (lookup source name state).state.1.find? name = some zones := by
  cases known : state.1.find? name with
  | some held =>
    obtain ⟨value, same⟩ := lookup_hit source named known
    have : held = zones := Except.ok.inj (value.symm.trans ok)
    rw [same, known, this]
  | none =>
    obtain ⟨value, after⟩ := lookup_miss source named known
    rw [after, find?_set_self, ← value, ok]
    rfl

end ZoneCache

namespace Resolver

variable (source : ZoneSource σ) (domain : Domain)

/-- Candidates that are not looked at keep their lists. -/
theorem find?_resolveAmong_of_not_mem {name : String} {candidates : List String}
    (foreign : name ∉ candidates) (state : ZoneCache × σ) :
    (resolveAmong source domain candidates state).state.1.find? name = state.1.find? name := by
  induction candidates generalizing state with
  | nil => rfl
  | cons candidate rest ih =>
    have different : name ≠ candidate := List.ne_of_not_mem_cons foreign
    have absent : name ∉ rest := List.not_mem_of_not_mem_cons foreign
    rcases decides_or_passes candidate (ZoneCache.lookup source candidate state).value with
      passes | ⟨result, decides⟩
    · rw [(resolveAmong_of_passes source domain rest passes).2, ih absent,
        ZoneCache.find?_lookup_of_ne source different]
    · rw [(resolveAmong_of_decides source domain rest decides).2,
        ZoneCache.find?_lookup_of_ne source different]

/-- A zone that was found is settled by the lists that are left. -/
theorem settles_of_resolveAmong {candidates : List String} (distinct : candidates.Nodup)
    (named : ∀ name ∈ candidates, name ≠ "") {state : ZoneCache × σ} {zone : String}
    (found : (resolveAmong source domain candidates state).value = .ok zone) :
    (resolveAmong source domain candidates state).state.1.Settles candidates zone := by
  induction candidates generalizing state with
  | nil => cases found
  | cons candidate rest ih =>
    obtain ⟨new, distinctRest⟩ := List.nodup_cons.mp distinct
    obtain ⟨first, namedRest⟩ := List.forall_mem_cons.mp named
    rcases decides_or_passes candidate (ZoneCache.lookup source candidate state).value with
      passes | ⟨result, decides⟩
    · obtain ⟨value, after⟩ := resolveAmong_of_passes source domain rest passes
      obtain ⟨zones, answer, none⟩ := passes
      rw [value] at found
      rw [after]
      refine .passes ?_ none (ih distinctRest namedRest found)
      rw [find?_resolveAmong_of_not_mem source domain new]
      exact ZoneCache.find?_lookup_of_ok source first answer
    · obtain ⟨value, after⟩ := resolveAmong_of_decides source domain rest decides
      rw [value] at found
      rw [after]
      generalize answer : (ZoneCache.lookup source candidate state).value = given at decides
      cases decides with
      | failed | ambiguous => cases found
      | owner only =>
        cases found
        exact .owner (ZoneCache.find?_lookup_of_ok source first answer) only

/-- A settled zone is found in no time. -/
theorem resolveAmong_of_settles {candidates : List String}
    (named : ∀ name ∈ candidates, name ≠ "") {state : ZoneCache × σ} {zone : String}
    (settles : state.1.Settles candidates zone) :
    (resolveAmong source domain candidates state).value = .ok zone ∧
      (resolveAmong source domain candidates state).state = state ∧
      (resolveAmong source domain candidates state).calls = [] := by
  induction settles with
  | @owner candidate rest zones zone known only =>
    obtain ⟨value, same⟩ := ZoneCache.lookup_hit source (named candidate List.mem_cons_self) known
    have decides : Decides candidate (ZoneCache.lookup source candidate state).value
        (.ok zone.id) := value ▸ .owner only
    obtain ⟨result, after⟩ := resolveAmong_of_decides source domain rest decides
    refine ⟨result, after.trans same, ?_⟩
    rw [calls_resolveAmong_of_decides source domain rest decides,
      ZoneCache.calls_lookup_hit source known]
  | @passes candidate rest zones id known none later ih =>
    obtain ⟨first, namedRest⟩ := List.forall_mem_cons.mp named
    obtain ⟨value, same⟩ := ZoneCache.lookup_hit source first known
    have passes : Passes (ZoneCache.lookup source candidate state).value := ⟨zones, value, none⟩
    obtain ⟨result, after⟩ := resolveAmong_of_passes source domain rest passes
    obtain ⟨found, still, quiet⟩ := ih namedRest
    rw [result, after, calls_resolveAmong_of_passes source domain rest passes, same,
      ZoneCache.calls_lookup_hit source known]
    exact ⟨found, still, quiet⟩

end Resolver

namespace Handle

/-- The handle knows the zone of a domain. -/
def Settled (domain : Domain) (zone : String) (state : HandleState σ) : Prop :=
  (zones state).Settles domain.zoneCandidates zone

variable {handle : Handle σ} {domain : Domain} {zone : String} {state : HandleState σ}

theorem settled_of_resolve (found : (handle.resolve domain state).value = .ok zone) :
    Settled domain zone (handle.resolve domain state).state :=
  Resolver.settles_of_resolveAmong _ domain domain.nodup_zoneCandidates
    (fun _ mem => Domain.ne_empty_of_mem_zoneCandidates mem) found

theorem resolve_of_settled (handle : Handle σ) (settled : Settled domain zone state) :
    (handle.resolve domain state).value = .ok zone ∧ (handle.resolve domain state).state = state ∧
      (handle.resolve domain state).calls = [] := by
  obtain ⟨value, same, quiet⟩ := Resolver.resolveAmong_of_settles
    (handle.client.zoneSource handle.api) domain
    (fun _ mem => Domain.ne_empty_of_mem_zoneCandidates mem) settled
  exact ⟨value, congrArg (Prod.mk state.1) same, quiet⟩

/-- In a known zone the work starts at once. -/
theorem inZone_of_settled (handle : Handle σ) (settled : Settled domain zone state)
    (act : String → Act (HandleState σ) (Except Failure α)) :
    (handle.inZone domain act state).value = (act zone state).value ∧
      (handle.inZone domain act state).state = (act zone state).state ∧
      (handle.inZone domain act state).calls = (act zone state).calls := by
  obtain ⟨value, same, quiet⟩ := handle.resolve_of_settled settled
  rw [inZone, Act.value_bind, Act.state_bind, Act.calls_bind, value, same, quiet]
  exact ⟨rfl, rfl, rfl⟩

/-- An operation that can do without the API does nothing to what is remembered, but for a flush. -/
theorem state_perform_of_isIdle {operation : Operation} (located : operation.domain? = some domain)
    (idle : operation.IsIdle state.1) : (handle.perform operation state).state = state := by
  cases operation with
  | list key =>
    obtain ⟨records, warm⟩ := Option.isSome_iff_exists.mp idle
    exact (handle.list_of_warm warm).2.1
  | create key address ttl proxied =>
    obtain ⟨reason, done⟩ := handle.perform_of_isForeign
      (show Operation.IsForeign (.create key address ttl proxied) from idle) state
    rw [done]
  | update key id address =>
    obtain ⟨reason, done⟩ := handle.perform_of_isForeign
      (show Operation.IsForeign (.update key id address) from idle) state
    rw [done]
  | delete | resolve => cases idle
  | flush => cases located

/-- An operation in a known zone leaves the lists of zones alone. -/
theorem Settled.perform (handle : Handle σ) (settled : Settled domain zone state)
    (operation : Operation) (located : operation.domain? = some domain) :
    Settled domain zone (handle.perform operation state).state := by
  have same : zones (handle.perform operation state).state = zones state := by
    by_cases idle : operation.IsIdle state.1
    · rw [state_perform_of_isIdle located idle]
    · have works : handle.WorksOnly operation domain state (handle.perform operation state) :=
        worksOnly_perform located idle
      rw [works.1, (handle.resolve_of_settled settled).2.1]
  rw [Settled, same]
  exact settled

end Handle

end AddressRecords
