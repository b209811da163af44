import AddressRecords.Proofs.Zone.Walk

/-!
What a cache of zone lists remembers over a run. The cells of a cache do not matter in themselves:
the journal of what the source was asked since the lists were last forgotten decides which names
have a list, and which list that is.
-/

namespace AddressRecords

namespace ZoneCache

variable {σ : Type}

/-! States that cannot be told apart. -/

/-- The caches have the same lists, whatever cells they have. -/
def Alike (first second : ZoneCache × σ) : Prop :=
  first.2 = second.2 ∧ ∀ name, first.1.find? name = second.1.find? name

/-- A look-up depends on the list of its own name only. -/
theorem lookup_congr (source : ZoneSource σ) {name : String} {first second : ZoneCache × σ}
    (asked : first.2 = second.2) (list : first.1.find? name = second.1.find? name) :
    (lookup source name first).value = (lookup source name second).value ∧
    (lookup source name first).state.2 = (lookup source name second).state.2 := by
  by_cases root : name = ""
  · simp [root, asked]
  · cases known : second.1.find? name with
    | some zones =>
      have one := lookup_hit source root (list.trans known)
      have two := lookup_hit source root known
      exact ⟨one.1.trans two.1.symm, by rw [one.2, two.2, asked]⟩
    | none =>
      have one := lookup_miss source root (list.trans known)
      have two := lookup_miss source root known
      exact ⟨by rw [one.1, two.1, asked], by rw [one.2, two.2, asked]⟩

theorem Alike.lookup {first second : ZoneCache × σ} (h : Alike first second)
    (source : ZoneSource σ) (name : String) :
    (lookup source name first).value = (lookup source name second).value ∧
    Alike (lookup source name first).state (lookup source name second).state := by
  obtain ⟨sameValue, sameAsked⟩ := lookup_congr source h.1 (h.2 name)
  refine ⟨sameValue, sameAsked, ?_⟩
  intro other
  by_cases different : other = name
  · subst different
    by_cases root : other = ""
    · subst root
      exact h.2 ""
    · cases known : second.1.find? other with
      | some zones =>
        rw [(lookup_hit source root ((h.2 other).trans known)).2, (lookup_hit source root known).2]
        exact h.2 other
      | none =>
        rw [(lookup_miss source root ((h.2 other).trans known)).2,
          (lookup_miss source root known).2, find?_set_self, find?_set_self, h.1]
  · rw [find?_lookup_of_ne source different, find?_lookup_of_ne source different]
    exact h.2 other

theorem Alike.resolveAmong {first second : ZoneCache × σ} (h : Alike first second)
    (source : ZoneSource σ) (domain : Domain) (candidates : List String) :
    let one := Resolver.resolveAmong source domain candidates first
    let two := Resolver.resolveAmong source domain candidates second
    one.value = two.value ∧ Alike one.state two.state := by
  induction candidates generalizing first second with
  | nil => exact ⟨rfl, h⟩
  | cons candidate rest ih =>
    obtain ⟨sameValue, alike⟩ := h.lookup source candidate
    dsimp only
    rcases Resolver.decides_or_passes candidate (ZoneCache.lookup source candidate second).value
      with passes | ⟨result, decides⟩
    · have one := Resolver.resolveAmong_of_passes source domain rest (sameValue ▸ passes)
      have two := Resolver.resolveAmong_of_passes source domain rest passes
      rw [one.1, one.2, two.1, two.2]
      exact ih alike
    · have one := Resolver.resolveAmong_of_decides source domain rest (sameValue ▸ decides)
      have two := Resolver.resolveAmong_of_decides source domain rest decides
      rw [one.1, one.2, two.1, two.2]
      exact ⟨rfl, alike⟩

/-! Runs. -/

/-- What can happen to one cache and its source. -/
inductive Step (σ : Type)
  | lookup (name : String)
  | resolve (domain : Domain)
  | flush
  /-- The source comes to answer differently. -/
  | change (f : σ → σ)

inductive StepAnswer
  | zones (answer : Except Api.Failure (List Zone))
  | owner (answer : Except Failure String)
  | none

/-- One step. The journal starts anew when the lists are forgotten. -/
def take (source : ZoneSource σ) : Step σ → Act (ZoneCache × (Journal × σ)) StepAnswer
  | .lookup name => .zones <$> lookup source.journaled name
  | .resolve domain => .owner <$> Resolver.resolve source.journaled domain
  | .flush => do
    flush
    Act.modify fun (cache, (_, remote)) => (cache, ([], remote))
    return .none
  | .change f => do
    Act.modify fun (cache, (journal, remote)) => (cache, (journal, f remote))
    return .none

def takeAll (source : ZoneSource σ) (steps : List (Step σ)) :
    Act (ZoneCache × (Journal × σ)) (List StepAnswer) :=
  steps.mapM (take source)

@[simp] theorem takeAll_cons_value (source : ZoneSource σ) (step : Step σ) (rest : List (Step σ))
    (state : ZoneCache × (Journal × σ)) :
    (takeAll source (step :: rest) state).value =
      (take source step state).value ::
        (takeAll source rest (take source step state).state).value := by
  simp [takeAll]

@[simp] theorem takeAll_cons_state (source : ZoneSource σ) (step : Step σ) (rest : List (Step σ))
    (state : ZoneCache × (Journal × σ)) :
    (takeAll source (step :: rest) state).state =
      (takeAll source rest (take source step state).state).state := by
  simp [takeAll]

theorem Alike.take {first second : ZoneCache × (Journal × σ)} (h : Alike first second)
    (source : ZoneSource σ) (step : Step σ) :
    (take source step first).value = (take source step second).value ∧
    Alike (take source step first).state (take source step second).state := by
  cases step with
  | lookup name =>
    obtain ⟨sameValue, alike⟩ := h.lookup source.journaled name
    exact ⟨congrArg StepAnswer.zones sameValue, alike⟩
  | resolve domain =>
    obtain ⟨sameValue, alike⟩ := h.resolveAmong source.journaled domain domain.zoneCandidates
    exact ⟨congrArg StepAnswer.owner sameValue, alike⟩
  | flush => exact ⟨rfl, by simp [ZoneCache.take, flush, h.1], fun _ => rfl⟩
  | change f => exact ⟨rfl, by simp [ZoneCache.take, h.1], h.2⟩

theorem Alike.takeAll {first second : ZoneCache × (Journal × σ)} (h : Alike first second)
    (source : ZoneSource σ) (steps : List (Step σ)) :
    (takeAll source steps first).value = (takeAll source steps second).value ∧
    Alike (takeAll source steps first).state (takeAll source steps second).state := by
  induction steps generalizing first second with
  | nil => exact ⟨rfl, h⟩
  | cons step rest ih =>
    obtain ⟨sameValue, alike⟩ := h.take source step
    obtain ⟨sameValues, after⟩ := ih alike
    rw [takeAll_cons_value, takeAll_cons_value, takeAll_cons_state, takeAll_cons_state, sameValue,
      sameValues]
    exact ⟨rfl, after⟩

/-! The journal and the cache. -/

end ZoneCache

/-- The lists that a source gave for a name. -/
def Journal.lists (journal : Journal) (name : String) : List (List Zone) :=
  journal.filterMap fun (other, answer) => if other = name then answer.toOption else none

theorem Journal.lists_append_self (journal : Journal) (name : String)
    (answer : Except Api.Failure (List Zone)) :
    Journal.lists (journal ++ [(name, answer)]) name =
      journal.lists name ++ answer.toOption.toList := by
  cases answer <;> simp [Journal.lists, Except.toOption]

theorem Journal.lists_append_of_ne {name other : String} (different : other ≠ name)
    (journal : Journal) (answer : Except Api.Failure (List Zone)) :
    Journal.lists (journal ++ [(name, answer)]) other = journal.lists other := by
  simp [Journal.lists, different.symm]

namespace ZoneCache

/-- The cache has a list for just the names for which the source gave one, and the source gave no
name a second list. -/
structure Recalls (state : ZoneCache × (Journal × σ)) : Prop where
  lists : ∀ name, state.2.1.lists name = (state.1.find? name).toList
  named : ∀ entry ∈ state.2.1, entry.1 ≠ ""

variable {source : ZoneSource σ} {state : ZoneCache × (Journal × σ)}

theorem Recalls.initial (remote : σ) : Recalls (empty, (([] : Journal), remote)) where
  lists _ := rfl
  named _ mem := nomatch mem

theorem Recalls.lookup (h : Recalls state) (name : String) :
    Recalls (lookup source.journaled name state).state := by
  by_cases root : name = ""
  · subst root
    exact h
  · cases known : state.1.find? name with
    | some zones =>
      rw [(lookup_hit source.journaled root known).2]
      exact h
    | none =>
      rw [(lookup_miss source.journaled root known).2]
      constructor
      case lists =>
        intro other
        by_cases different : other = name
        · subst different
          have unlisted := h.lists other
          rw [known, Option.toList_none] at unlisted
          rw [find?_set_self, journaled_state, Journal.lists_append_self, unlisted]
          rfl
        · rw [find?_set_of_ne different, journaled_state, Journal.lists_append_of_ne different]
          exact h.lists other
      case named =>
        intro entry mem
        rcases List.mem_append.mp mem with old | new
        · exact h.named entry old
        · rw [List.mem_singleton.mp new]
          exact root

theorem takeAll_lookups_state (names : List String) (state : ZoneCache × (Journal × σ)) :
    (takeAll source (names.map .lookup) state).state =
      (lookupEach source.journaled names state).state := by
  induction names generalizing state with
  | nil => rfl
  | cons name rest ih =>
    rw [List.map_cons, takeAll_cons_state, lookupEach_cons_state]
    exact ih _

/-- What a resolution does to the cache, look-ups could have done. -/
theorem exists_lookups_of_resolve (source : ZoneSource σ) (domain : Domain)
    (state : ZoneCache × (Journal × σ)) :
    ∃ names : List String, (take source (.resolve domain) state).state =
      (takeAll source (names.map .lookup) state).state := by
  obtain ⟨looked, _, same, _⟩ :=
    Resolver.resolveAmong_ends source.journaled domain domain.zoneCandidates state
  exact ⟨looked, same.trans (takeAll_lookups_state looked state).symm⟩

theorem Recalls.lookups (h : Recalls state) (names : List String) :
    Recalls (takeAll source (names.map .lookup) state).state := by
  induction names generalizing state with
  | nil => exact h
  | cons name rest ih =>
    rw [List.map_cons, takeAll_cons_state]
    exact ih (h.lookup name)

theorem Recalls.take (h : Recalls state) (step : Step σ) :
    Recalls (take source step state).state := by
  cases step with
  | lookup name => exact h.lookup name
  | resolve domain =>
    obtain ⟨names, same⟩ := exists_lookups_of_resolve source domain state
    rw [same]
    exact h.lookups names
  | flush => exact .initial state.2.2
  | change f => exact ⟨h.lists, h.named⟩

theorem Recalls.takeAll (h : Recalls state) (steps : List (Step σ)) :
    Recalls (takeAll source steps state).state := by
  induction steps generalizing state with
  | nil => exact h
  | cons step rest ih =>
    rw [takeAll_cons_state]
    exact ih (h.take step)

/-! The law. -/

/-- A failed look-up leaves the cache as if it had not been made. -/
theorem alike_of_failed {name : String} {failure : Api.Failure}
    (failed : (ZoneCache.lookup source.journaled name state).value = .error failure) :
    let done := ZoneCache.lookup source.journaled name state
    Alike done.state (state.1, done.state.2) := by
  refine ⟨rfl, ?_⟩
  intro other
  by_cases different : other = name
  · subst different
    by_cases root : other = ""
    · subst root
      rfl
    · cases known : state.1.find? other with
      | some zones =>
        rw [(lookup_hit source.journaled root known).1] at failed
        cases failed
      | none =>
        have miss := lookup_miss source.journaled root known
        rw [miss.1] at failed
        rw [miss.2, find?_set_self, failed]
        rfl
  · exact find?_lookup_of_ne source.journaled different

/-- How a cache answers that has done with its source what the journal says since its lists were
last forgotten. -/
structure Memo (source : ZoneSource σ) (state : ZoneCache × (Journal × σ)) : Prop where
  fetches_iff : ∀ name, name ≠ "" →
    ((∃ answer, (lookup source.journaled name state).state.2.1 = state.2.1 ++ [(name, answer)]) ↔
      state.2.1.lists name = [])
  /-- A name that got a list keeps it, whatever the list and whatever the source would say. -/
  remembered : ∀ name, ∀ zones ∈ state.2.1.lists name,
    (lookup source.journaled name state).value = .ok zones ∧
    (lookup source.journaled name state).state = state
  /-- For any other name the source is asked, and its answer passed on. -/
  fetched : ∀ name, name ≠ "" → state.2.1.lists name = [] →
    let answer := source name state.2.2
    (lookup source.journaled name state).value = answer.value ∧
    (lookup source.journaled name state).state.2 =
      (state.2.1 ++ [(name, answer.value)], answer.state)
  /-- No answer or fetch from there on tells that the look-up was made, but for the source's own
  state. -/
  failed : ∀ name failure, (lookup source.journaled name state).value = .error failure →
    ∀ later,
      let done := (lookup source.journaled name state).state
      (takeAll source later done).value = (takeAll source later (state.1, done.2)).value ∧
      (takeAll source later done).state.2 = (takeAll source later (state.1, done.2)).state.2
  once : ∀ name, (state.2.1.lists name).length ≤ 1
  apart : ∀ name other, other ≠ name → ∀ asked,
    let done := (lookup source.journaled name state).state
    (lookup source.journaled other (done.1, asked)).value =
      (lookup source.journaled other (state.1, asked)).value ∧
    (lookup source.journaled other (done.1, asked)).state.2 =
      (lookup source.journaled other (state.1, asked)).state.2
  root : lookup source.journaled "" state = ⟨.ok [], state, []⟩
  root_never : ∀ answer, ("", answer) ∉ state.2.1
  /-- Resolutions do nothing that look-ups do not do. -/
  resolves : ∀ domain, ∃ names : List String, (take source (.resolve domain) state).state =
    (takeAll source (names.map .lookup) state).state

theorem Recalls.memo (h : Recalls state) : Memo source state := by
  have known_of_mem {name : String} {zones : List Zone} (mem : zones ∈ state.2.1.lists name) :
      state.1.find? name = some zones := by
    rw [h.lists name] at mem
    exact Option.mem_toList.mp mem
  have unknown_of_nil {name : String} (unlisted : state.2.1.lists name = []) :
      state.1.find? name = none := by
    rw [h.lists name] at unlisted
    exact Option.toList_eq_nil_iff.mp unlisted
  constructor
  case fetches_iff =>
    intro name root
    constructor
    · rintro ⟨answer, grown⟩
      refine List.eq_nil_iff_forall_not_mem.mpr fun zones mem => ?_
      rw [(lookup_hit source.journaled root (known_of_mem mem)).2] at grown
      simp at grown
    · intro unlisted
      rw [(lookup_miss source.journaled root (unknown_of_nil unlisted)).2]
      exact ⟨_, rfl⟩
  case remembered =>
    intro name zones mem
    refine lookup_hit source.journaled ?_ (known_of_mem mem)
    rintro rfl
    obtain ⟨entry, asked, given⟩ := List.mem_filterMap.mp mem
    by_cases same : entry.1 = ""
    · exact h.named entry asked same
    · simp [same] at given
  case fetched =>
    intro name root unlisted
    have miss := lookup_miss source.journaled root (unknown_of_nil unlisted)
    exact ⟨miss.1, congrArg Prod.snd miss.2⟩
  case failed =>
    intro name failure failed later
    have same := (alike_of_failed failed).takeAll source later
    exact ⟨same.1, same.2.1⟩
  case once =>
    intro name
    rw [h.lists name]
    cases state.1.find? name <;> simp
  case apart =>
    intro name other different asked
    exact lookup_congr source.journaled rfl (find?_lookup_of_ne source.journaled different)
  case root => exact lookup_root source.journaled state
  case root_never => exact fun answer mem => h.named _ mem rfl
  case resolves => exact fun domain => exists_lookups_of_resolve source domain state

/-- However a cache is used and its source changes, the cache remembers what the source gave. -/
theorem memo_of_run (source : ZoneSource σ) (remote : σ) (steps : List (Step σ)) :
    Memo source (takeAll source steps (empty, ([], remote))).state :=
  ((Recalls.initial remote).takeAll steps).memo

end ZoneCache

end AddressRecords
