import AddressRecords.Proofs.Domain.Suffixes
import AddressRecords.Proofs.Zone.Lookup
import AddressRecords.Zone.Resolver

/-!
Which zone a resolution finds, said without the resolver: its candidates are looked up in order
until one decides. A candidate decides if its look-up fails or if a zone of its list may own
records, and then no shorter candidate counts.
-/

namespace AddressRecords

variable {σ : Type}

/-- The zones that may own records. -/
def eligible (zones : List Zone) : List Zone := zones.filter fun zone => zone.status ≠ .removed

/-- Looks names up one after the other, whatever the answers. -/
def ZoneCache.lookupEach (source : ZoneSource σ) (names : List String) :
    Act (ZoneCache × σ) (List (Except Api.Failure (List Zone))) :=
  names.mapM (lookup source)

namespace ZoneCache

variable (source : ZoneSource σ) (name : String) (names : List String) (state : ZoneCache × σ)

@[simp] theorem lookupEach_nil : lookupEach source [] state = ⟨[], state, []⟩ := rfl

@[simp] theorem lookupEach_cons_value :
    (lookupEach source (name :: names) state).value =
      (lookup source name state).value ::
        (lookupEach source names (lookup source name state).state).value := by
  simp [lookupEach]

@[simp] theorem lookupEach_cons_state :
    (lookupEach source (name :: names) state).state =
      (lookupEach source names (lookup source name state).state).state := by
  simp [lookupEach]

end ZoneCache

namespace Resolver

/-- The answer leaves the question to the next candidate. -/
def Passes (answer : Except Api.Failure (List Zone)) : Prop :=
  ∃ zones, answer = .ok zones ∧ eligible zones = []

/-- The answer for a candidate settles the question. -/
inductive Decides (candidate : String) :
    Except Api.Failure (List Zone) → Except Failure String → Prop
  | failed (failure : Api.Failure) :
      Decides candidate (.error failure) (.error (.zoneLookupFailed candidate failure.message))
  | owner {zones : List Zone} {zone : Zone} (only : eligible zones = [zone]) :
      Decides candidate (.ok zones) (.ok zone.id)
  | ambiguous {zones : List Zone} (several : 2 ≤ (eligible zones).length) :
      Decides candidate (.ok zones) (.error (.zoneAmbiguous candidate))

/-- How a resolution ends that got `answers` for the candidates it looked up. -/
inductive Ends (domain : Domain) (candidates : List String) :
    List String → List (Except Api.Failure (List Zone)) → Except Failure String → Prop
  | exhausted {answers : List (Except Api.Failure (List Zone))}
      (passed : ∀ answer ∈ answers, Passes answer) :
      Ends domain candidates candidates answers (.error (.zoneNotFound domain.wireName))
  | decided {before : List String} {candidate : String}
      {answers : List (Except Api.Failure (List Zone))} {answer : Except Api.Failure (List Zone)}
      {result : Except Failure String} (passed : ∀ answer ∈ answers, Passes answer)
      (decides : Decides candidate answer result) :
      Ends domain candidates (before ++ [candidate]) (answers ++ [answer]) result

/-! An answer and the resolver's case for it. -/

theorem eligible_eq_filter (zones : List Zone) :
    zones.filter (·.status.isEligible) = eligible zones := by
  apply List.filter_congr
  intro zone _
  cases status : zone.status <;> simp [ZoneStatus.isEligible]

theorem decides_or_passes (candidate : String) (answer : Except Api.Failure (List Zone)) :
    Passes answer ∨ ∃ result, Decides candidate answer result := by
  cases answer with
  | error failure => exact .inr ⟨_, .failed failure⟩
  | ok zones =>
    match found : eligible zones with
    | [] => exact .inl ⟨zones, rfl, found⟩
    | [zone] => exact .inr ⟨_, .owner found⟩
    | _ :: _ :: _ => exact .inr ⟨_, .ambiguous (by simp [found])⟩

theorem Decides.not_passes {candidate : String} {answer : Except Api.Failure (List Zone)}
    {result : Except Failure String} (h : Decides candidate answer result) : ¬ Passes answer := by
  rintro ⟨zones, rfl, none⟩
  cases h with
  | owner only => simp [none] at only
  | ambiguous several => simp [none] at several

theorem Decides.not_notFound {candidate name : String}
    {answer : Except Api.Failure (List Zone)} {result : Except Failure String}
    (h : Decides candidate answer result) : result ≠ .error (.zoneNotFound name) := by
  cases h <;> simp

/-! The walk. -/

variable (source : ZoneSource σ) (domain : Domain)

/-- Telling of skipped zones changes nothing. -/
@[simp] theorem tellSkipped_state (name : String) (zones : List Zone) (state : σ) :
    (tellSkipped name zones state).state = state := by
  induction zones with
  | nil => rfl
  | cons zone rest ih =>
    by_cases skip : zone.status.isEligible <;> simp [tellSkipped, skip, ih]

@[simp] theorem tellStatus_state (name : String) (status : ZoneStatus) (state : σ) :
    (tellStatus name status state).state = state := by
  cases status <;> rfl

theorem resolveAmong_of_passes {candidate : String} (rest : List String) {state : ZoneCache × σ}
    (h : Passes (ZoneCache.lookup source candidate state).value) :
    let looked := (ZoneCache.lookup source candidate state).state
    (resolveAmong source domain (candidate :: rest) state).value =
      (resolveAmong source domain rest looked).value ∧
    (resolveAmong source domain (candidate :: rest) state).state =
      (resolveAmong source domain rest looked).state := by
  obtain ⟨zones, answer, none⟩ := h
  simp [resolveAmong, answer, eligible_eq_filter, none]

theorem resolveAmong_of_decides {candidate : String} (rest : List String) {state : ZoneCache × σ}
    {result : Except Failure String}
    (h : Decides candidate (ZoneCache.lookup source candidate state).value result) :
    (resolveAmong source domain (candidate :: rest) state).value = result ∧
    (resolveAmong source domain (candidate :: rest) state).state =
      (ZoneCache.lookup source candidate state).state := by
  generalize answer : (ZoneCache.lookup source candidate state).value = given at h
  cases h with
  | failed failure => simp [resolveAmong, answer]
  | owner only => simp [resolveAmong, answer, eligible_eq_filter, only]
  | @ambiguous zones several =>
    match found : eligible zones, several with
    | _ :: _ :: _, _ => simp [resolveAmong, answer, eligible_eq_filter, found]

theorem Ends.after_passes {candidates looked : List String} {candidate : String}
    {answers : List (Except Api.Failure (List Zone))} {answer : Except Api.Failure (List Zone)}
    {result : Except Failure String} (passes : Passes answer)
    (h : Ends domain candidates looked answers result) :
    Ends domain (candidate :: candidates) (candidate :: looked) (answer :: answers) result := by
  cases h with
  | exhausted passed => exact .exhausted (List.forall_mem_cons.mpr ⟨passes, passed⟩)
  | decided passed decides =>
    rw [← List.cons_append, ← List.cons_append]
    exact .decided (List.forall_mem_cons.mpr ⟨passes, passed⟩) decides

/-- The state is that of the look-ups alone, and their answers tell the result. -/
theorem resolveAmong_ends (candidates : List String) (state : ZoneCache × σ) :
    ∃ looked, looked <+: candidates ∧
      (resolveAmong source domain candidates state).state =
        (ZoneCache.lookupEach source looked state).state ∧
      Ends domain candidates looked (ZoneCache.lookupEach source looked state).value
        (resolveAmong source domain candidates state).value := by
  induction candidates generalizing state with
  | nil => exact ⟨[], List.prefix_rfl, rfl, .exhausted (by simp)⟩
  | cons candidate rest ih =>
    rcases decides_or_passes candidate (ZoneCache.lookup source candidate state).value with
      passes | ⟨result, decides⟩
    · obtain ⟨value, stateEq⟩ := resolveAmong_of_passes source domain rest passes
      obtain ⟨looked, inOrder, sameState, ends⟩ :=
        ih (ZoneCache.lookup source candidate state).state
      refine ⟨candidate :: looked, List.cons_prefix_cons.mpr ⟨rfl, inOrder⟩, ?_, ?_⟩
      · rw [stateEq, sameState, ZoneCache.lookupEach_cons_state]
      · rw [value, ZoneCache.lookupEach_cons_value]
        exact ends.after_passes domain passes
    · obtain ⟨value, stateEq⟩ := resolveAmong_of_decides source domain rest decides
      refine ⟨[candidate], by simp, by simp [stateEq], ?_⟩
      rw [value, ZoneCache.lookupEach_cons_value, ZoneCache.lookupEach_nil]
      let answer := (ZoneCache.lookup source candidate state).value
      have ends : Ends domain (candidate :: rest) ([] ++ [candidate]) ([] ++ [answer]) result :=
        .decided (by simp) decides
      exact ends

end Resolver

/-! What is fetched. -/

/-- Of names looked up in turn, those without a list are fetched, each once. -/
theorem journal_lookupEach (source : ZoneSource σ) (names : List String) (distinct : names.Nodup)
    (named : ∀ name ∈ names, name ≠ "") (cache : ZoneCache) (journal : Journal) (remote : σ) :
    ∃ fetched, (ZoneCache.lookupEach source.journaled names
        (cache, (journal, remote))).state.2.1 = journal ++ fetched ∧
      fetched.map (·.1) = names.filter fun name => (cache.find? name).isNone := by
  induction names generalizing cache journal remote with
  | nil => exact ⟨[], by simp, rfl⟩
  | cons name rest ih =>
    obtain ⟨new, distinctRest⟩ := List.nodup_cons.mp distinct
    obtain ⟨first, namedRest⟩ := List.forall_mem_cons.mp named
    have others : ∀ other ∈ rest, other ≠ name := fun other mem same => new (same ▸ mem)
    cases known : cache.find? name with
    | some zones =>
      obtain ⟨fetched, journalEq, names⟩ := ih distinctRest namedRest cache journal remote
      refine ⟨fetched, ?_, by simp [known, names]⟩
      rw [ZoneCache.lookupEach_cons_state, (ZoneCache.lookup_hit source.journaled first known).2,
        journalEq]
    | none =>
      obtain ⟨fetched, journalEq, names⟩ := ih distinctRest namedRest
        (cache.set name (source name remote).value.toOption)
        (journal ++ [(name, (source name remote).value)]) (source name remote).state
      refine ⟨(name, (source name remote).value) :: fetched, ?_, ?_⟩
      · rw [ZoneCache.lookupEach_cons_state,
          (ZoneCache.lookup_miss source.journaled first known).2]
        simpa using journalEq
      · have unchanged : rest.filter (fun other => ((cache.set name
            (source name remote).value.toOption).find? other).isNone) =
            rest.filter fun other => (cache.find? other).isNone :=
          List.filter_congr fun other mem => by
            rw [ZoneCache.find?_set_of_ne (others other mem)]
        simp [known, names, unchanged]

namespace Resolver

/-- A journal does not change what a resolution gives. -/
theorem resolveAmong_journaled (source : ZoneSource σ) (domain : Domain)
    (candidates : List String) (cache : ZoneCache) (journal : Journal) (remote : σ) :
    (resolveAmong source.journaled domain candidates (cache, (journal, remote))).value =
      (resolveAmong source domain candidates (cache, remote)).value := by
  induction candidates generalizing cache journal remote with
  | nil => rfl
  | cons candidate rest ih =>
    obtain ⟨sameValue, sameCache, sameRemote⟩ :=
      lookup_journaled source candidate cache journal remote
    rcases decides_or_passes candidate (ZoneCache.lookup source candidate (cache, remote)).value
      with passes | ⟨result, decides⟩
    · rw [(resolveAmong_of_passes source domain rest passes).1,
        (resolveAmong_of_passes source.journaled domain rest (sameValue ▸ passes)).1]
      let after := (ZoneCache.lookup source.journaled candidate (cache, (journal, remote))).state
      have sameState : (after.1, after.2.2) =
        (ZoneCache.lookup source candidate (cache, remote)).state := Prod.ext sameCache sameRemote
      have next := ih after.1 after.2.1 after.2.2
      rw [sameState] at next
      exact next
    · rw [(resolveAmong_of_decides source domain rest decides).1,
        (resolveAmong_of_decides source.journaled domain rest (sameValue ▸ decides)).1]

theorem Ends.notFound_iff {domain : Domain} {candidates looked : List String}
    {answers : List (Except Api.Failure (List Zone))} {result : Except Failure String}
    (h : Ends domain candidates looked answers result) :
    result = .error (.zoneNotFound domain.wireName) ↔
      looked = candidates ∧ ∀ answer ∈ answers, Passes answer := by
  cases h with
  | exhausted passed => exact ⟨fun _ => ⟨rfl, passed⟩, fun _ => rfl⟩
  | decided passed decides =>
    constructor
    · intro notFound
      exact absurd notFound decides.not_notFound
    · rintro ⟨_, allPass⟩
      exact absurd (allPass _ (by simp)) decides.not_passes

/-- A resolution that looks up `looked` and has the source asked for `fetched`. The candidates are
the names of the domain's labels, of all but the first, and so on. -/
structure Walk (source : ZoneSource σ) (domain : Domain) (cache : ZoneCache) (journal : Journal)
    (remote : σ) (looked : List String) (fetched : Journal) : Prop where
  inOrder : looked <+: namesOfTails domain.name.labels
  once : looked.Nodup
  /-- The state is that of these look-ups and of nothing else. -/
  lookups : (resolve source.journaled domain (cache, (journal, remote))).state =
    (ZoneCache.lookupEach source.journaled looked (cache, (journal, remote))).state
  ends : Ends domain (namesOfTails domain.name.labels) looked
    (ZoneCache.lookupEach source.journaled looked (cache, (journal, remote))).value
    (resolve source domain (cache, remote)).value
  notFound_iff : (resolve source domain (cache, remote)).value =
      .error (.zoneNotFound domain.wireName) ↔
    looked = namesOfTails domain.name.labels ∧
      ∀ answer ∈ (ZoneCache.lookupEach source.journaled looked (cache, (journal, remote))).value,
        Passes answer
  fetches : (resolve source.journaled domain (cache, (journal, remote))).state.2.1 =
    journal ++ fetched
  fetched_names : fetched.map (·.1) = looked.filter fun name => (cache.find? name).isNone
  fetched_few : fetched.length ≤ domain.name.labels.length
  fetched_fresh : (∀ name, cache.find? name = none) → fetched.map (·.1) = looked

/-- Every resolution looks its candidates up in order until one decides, and fetches just those
that have no list yet. -/
theorem exists_walk (source : ZoneSource σ) (domain : Domain) (cache : ZoneCache)
    (journal : Journal) (remote : σ) :
    ∃ looked fetched, Walk source domain cache journal remote looked fetched := by
  have candidates := domain.zoneCandidates_eq
  obtain ⟨looked, inOrder, lookups, ends⟩ :=
    resolveAmong_ends source.journaled domain domain.zoneCandidates (cache, (journal, remote))
  have once : looked.Nodup := inOrder.sublist.nodup domain.nodup_zoneCandidates
  have named : ∀ name ∈ looked, name ≠ "" := fun name mem =>
    Domain.ne_empty_of_mem_zoneCandidates (inOrder.subset mem)
  obtain ⟨fetched, fetches, names⟩ :=
    journal_lookupEach source looked once named cache journal remote
  rw [resolveAmong_journaled] at ends
  have few : fetched.length ≤ looked.length := by
    have lengths := congrArg List.length names
    rw [List.length_map] at lengths
    exact lengths ▸ List.length_filter_le ..
  refine ⟨looked, fetched, ?_⟩
  constructor
  case inOrder => exact candidates ▸ inOrder
  case once => exact once
  case lookups => exact lookups
  case ends => exact candidates ▸ ends
  case notFound_iff => exact candidates ▸ ends.notFound_iff
  case fetches => rw [← fetches, ← lookups, resolve]
  case fetched_names => exact names
  case fetched_few =>
    have bound := inOrder.length_le
    rw [candidates, namesOfTails, List.length_map, List.length_range] at bound
    exact Nat.le_trans few bound
  case fetched_fresh =>
    intro fresh
    rw [names]
    simp [fresh]

end Resolver

end AddressRecords
