import AddressRecords.Handle
import AddressRecords.Proofs.Remote.Exchange
import AddressRecords.Proofs.Zone.Walk

/-!
The zone that a faithful remote's table gives a domain. It does not change as the remote and the
cache of zone lists do, so whenever a resolution succeeds it finds that zone.
-/

namespace AddressRecords

variable {σ : Type}

/-! By the table. -/

/-- The zone of the first of these names that has one, unless it has several. -/
def ownerAmong (table : String → List Zone) : List String → Option String
  | [] => none
  | name :: rest =>
    match eligible (table name) with
    | [] => ownerAmong table rest
    | [zone] => some zone.id
    | _ => none

namespace Remote

variable (remote : Remote σ)

/-- The zones of a name, with the meaning of their statuses. -/
def zonesOf (name : String) : List Zone :=
  (remote.zones name).map fun zone => ⟨zone.id, .ofText zone.status⟩

/-- The zone that owns a domain. -/
def owner? (domain : Domain) : Option String :=
  ownerAmong remote.zonesOf (namesOfTails domain.name.labels)

theorem isId_of_ownerAmong {names : List String} {zone : String}
    (h : ownerAmong remote.zonesOf names = some zone) : IsId zone := by
  induction names with
  | nil => cases h
  | cons name rest ih =>
    unfold ownerAmong at h
    split at h
    · exact ih h
    · rename_i owner only
      cases h
      have listed : owner ∈ remote.zonesOf name := by
        have mem : owner ∈ eligible (remote.zonesOf name) := by simp [only]
        exact (List.mem_filter.mp mem).1
      obtain ⟨raw, mem, rfl⟩ := List.mem_map.mp listed
      exact remote.isId_of_mem_zones mem
    · cases h

/-- Only records in a zone with an identifier can be asked for. -/
theorem isId_of_owner? {domain : Domain} {zone : String} (h : remote.owner? domain = some zone) :
    IsId zone :=
  remote.isId_of_ownerAmong h

/-! By resolution. -/

/-- The lists of a cache are those of the table. -/
def Lists (cache : ZoneCache) : Prop :=
  ∀ name zones, cache.find? name = some zones → zones.Perm (remote.zonesOf name)

end Remote

variable {handle : Handle σ} {remote : Remote σ}

theorem Faithful.zoneSource (faithful : Faithful handle remote) (name : String) (state : σ) :
    let done := handle.client.zoneSource handle.api name state
    remote.holdings done.state = remote.holdings state ∧
    ∀ zones, done.value = .ok zones → zones.Perm (remote.zonesOf name) := by
  obtain ⟨keeps, listed⟩ := faithful.listZones name state
  refine ⟨keeps, fun zones given => ?_⟩
  cases answer : (handle.client.listZones handle.api name state).value with
  | error failure => simp [Api.Client.zoneSource, answer, Except.map] at given
  | ok raw =>
    simp only [Api.Client.zoneSource, bind_pure_comp, Act.value_map, answer, Except.map] at given
    cases given
    exact (listed raw answer).map _

theorem Faithful.lookup (faithful : Faithful handle remote) {name : String} (named : name ≠ "")
    {state : ZoneCache × σ} (lists : remote.Lists state.1) :
    let done := ZoneCache.lookup (handle.client.zoneSource handle.api) name state
    remote.Lists done.state.1 ∧ remote.holdings done.state.2 = remote.holdings state.2 ∧
    ∀ zones, done.value = .ok zones → zones.Perm (remote.zonesOf name) := by
  cases known : state.1.find? name with
  | some zones =>
    obtain ⟨value, same⟩ := ZoneCache.lookup_hit (handle.client.zoneSource handle.api) named known
    dsimp only
    rw [value, same]
    refine ⟨lists, rfl, ?_⟩
    rintro _ ⟨⟩
    exact lists name zones known
  | none =>
    obtain ⟨value, after⟩ := ZoneCache.lookup_miss (handle.client.zoneSource handle.api) named known
    obtain ⟨keeps, listed⟩ := faithful.zoneSource name state.2
    dsimp only
    rw [value, after]
    refine ⟨?_, keeps, listed⟩
    intro other zones found
    by_cases own : other = name
    · subst own
      rw [ZoneCache.find?_set_self] at found
      cases answer : (handle.client.zoneSource handle.api other state.2).value with
      | error failure => simp [answer, Except.toOption] at found
      | ok given =>
        rw [answer] at found
        obtain rfl : given = zones := Option.some.inj found
        exact listed given answer
    · rw [ZoneCache.find?_set_of_ne own] at found
      exact lists other zones found

/-- Lists with the same zones have the same eligible ones. -/
theorem eligible_perm {first second : List Zone} (h : first.Perm second) :
    (eligible first).Perm (eligible second) :=
  h.filter _

theorem ownerAmong_of_passes {name : String} {answer : Except Api.Failure (List Zone)}
    (listed : ∀ zones, answer = .ok zones → zones.Perm (remote.zonesOf name))
    (passes : Resolver.Passes answer) (rest : List String) :
    ownerAmong remote.zonesOf (name :: rest) = ownerAmong remote.zonesOf rest := by
  obtain ⟨zones, given, none⟩ := passes
  have same := eligible_perm (listed zones given)
  rw [none] at same
  rw [ownerAmong, List.nil_perm.mp same]

theorem ownerAmong_of_decides {name : String} {answer : Except Api.Failure (List Zone)}
    {zone : String} (listed : ∀ zones, answer = .ok zones → zones.Perm (remote.zonesOf name))
    (decides : Resolver.Decides name answer (.ok zone)) (rest : List String) :
    ownerAmong remote.zonesOf (name :: rest) = some zone := by
  cases decides with
  | @owner zones owner only =>
    have same := eligible_perm (listed zones rfl)
    rw [only] at same
    rw [ownerAmong, ← List.singleton_perm.mp same]

theorem Faithful.resolveAmong (faithful : Faithful handle remote) (domain : Domain)
    {names : List String} (named : ∀ name ∈ names, name ≠ "") {state : ZoneCache × σ}
    (lists : remote.Lists state.1) :
    let done := Resolver.resolveAmong (handle.client.zoneSource handle.api) domain names state
    remote.Lists done.state.1 ∧ remote.holdings done.state.2 = remote.holdings state.2 ∧
    ∀ zone, done.value = .ok zone → ownerAmong remote.zonesOf names = some zone := by
  induction names generalizing state with
  | nil => exact ⟨lists, rfl, fun _ impossible => nomatch impossible⟩
  | cons name rest ih =>
    obtain ⟨first, namedRest⟩ := List.forall_mem_cons.mp named
    obtain ⟨listsAfter, keeps, listed⟩ := faithful.lookup first lists
    let source := handle.client.zoneSource handle.api
    dsimp only
    rcases Resolver.decides_or_passes name (ZoneCache.lookup source name state).value with
      passes | ⟨result, decides⟩
    · obtain ⟨value, after⟩ := Resolver.resolveAmong_of_passes source domain rest passes
      rw [value, after, ownerAmong_of_passes listed passes rest]
      obtain ⟨listsRest, keepsRest, owner⟩ := ih namedRest listsAfter
      exact ⟨listsRest, keepsRest.trans keeps, owner⟩
    · obtain ⟨value, after⟩ := Resolver.resolveAmong_of_decides source domain rest decides
      rw [value, after]
      refine ⟨listsAfter, keeps, ?_⟩
      rintro zone rfl
      exact ownerAmong_of_decides listed decides rest

/-- A resolution that succeeds finds the owner. -/
theorem Faithful.resolve (faithful : Faithful handle remote) (domain : Domain)
    {state : HandleState σ} (lists : remote.Lists state.2.1) :
    let done := handle.resolve domain state
    done.state.1 = state.1 ∧ remote.Lists done.state.2.1 ∧
    remote.holdings done.state.2.2 = remote.holdings state.2.2 ∧
    ∀ zone, done.value = .ok zone → remote.owner? domain = some zone := by
  have named : ∀ name ∈ domain.zoneCandidates, name ≠ "" :=
    fun _ mem => Domain.ne_empty_of_mem_zoneCandidates mem
  obtain ⟨listsAfter, keeps, owner⟩ := faithful.resolveAmong domain named lists
  refine ⟨rfl, listsAfter, keeps, fun zone found => ?_⟩
  rw [Remote.owner?, ← domain.zoneCandidates_eq]
  exact owner zone found

end AddressRecords
