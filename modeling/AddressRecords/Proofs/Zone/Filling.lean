import AddressRecords.Proofs.Zone.Cells

/-!
How cells are filled: by one look-up at a time, and once. Every answer is the content of a cell or
the failure of the look-up's own fetch.
-/

namespace AddressRecords.ZoneLookups

/-- Which look-up fetched the content of which cell, and the answer it got. -/
abbrev Fetches := Nat → Nat → Except Api.Failure (List Zone) → Prop

variable {took : Takes} {fetched : Fetches} {epoch : Nat} {all next : ZoneLookups}

/-- At most one look-up is filling a cell, and only one that has no content. -/
structure Filled (all : ZoneLookups) : Prop where
  filling : ∀ {index : Nat} {name cell answer},
    all.lookups[index]? = some ⟨name, .fetching cell answer⟩ → all.isFilling cell
  alone : ∀ {index other : Nat} {name title cell answer result},
    all.lookups[index]? = some ⟨name, .fetching cell answer⟩ →
    all.lookups[other]? = some ⟨title, .fetching cell result⟩ → index = other
  empty : ∀ {cell}, all.isFilling cell → all.content? cell = none

/-- Contents come from fetches that succeeded, and answers from contents or from own failures. -/
structure Answered (took : Takes) (fetched : Fetches) (all : ZoneLookups) : Prop where
  took_of_fetched : ∀ {index cell answer}, fetched index cell answer →
    ∃ time name, took index time name cell
  /-- A fetch is on its way or its answer has been given, and kept if it is a list. -/
  stands : ∀ {index cell answer}, fetched index cell answer → ∃ name,
    all.lookups[index]? = some ⟨name, .fetching cell answer⟩ ∨
    (all.lookups[index]? = some ⟨name, .done answer⟩ ∧
      ∀ zones, answer = .ok zones → all.content? cell = some zones)
  flying : ∀ {index name cell answer},
    all.lookups[index]? = some ⟨name, .fetching cell answer⟩ → fetched index cell answer
  content : ∀ {cell zones}, all.content? cell = some zones →
    ∃ index name, fetched index cell (.ok zones) ∧
      all.lookups[index]? = some ⟨name, .done (.ok zones)⟩
  shared : ∀ {index time name cell title zones}, took index time name cell →
    all.lookups[index]? = some ⟨title, .done (.ok zones)⟩ → all.content? cell = some zones
  failed : ∀ {index name failure}, all.lookups[index]? = some ⟨name, .done (.error failure)⟩ →
    ∃ cell, fetched index cell (.error failure)
  one_success : ∀ {index other cell zones found}, fetched index cell (.ok zones) →
    fetched other cell (.ok found) → index = other

/-- A look-up comes to a new phase, with no fetch begun or ended. -/
structure Quiet (index : Nat) (name : String) (before phase : LookupPhase)
    (all next : ZoneLookups) : Prop where
  found : all.lookups[index]? = some ⟨name, before⟩
  advances : Advances index name phase all next
  unasked : ∀ cell answer, before ≠ .fetching cell answer ∧ phase ≠ .fetching cell answer
  undone : ∀ answer, before ≠ .done answer
  content? : ∀ cell, next.content? cell = all.content? cell
  isFilling : ∀ cell, next.isFilling cell = all.isFilling cell

section

variable {index : Nat} {name : String} {phase before : LookupPhase}

theorem Filled.quiet (h : Filled all) (quiet : Quiet index name before phase all next) :
    Filled next := by
  have elsewhere {other cell : Nat} {title : String} {answer : Except Api.Failure (List Zone)}
      (found : next.lookups[other]? = some ⟨title, .fetching cell answer⟩) :
      all.lookups[other]? = some ⟨title, .fetching cell answer⟩ := by
    by_cases own : index = other
    · subst own
      rw [quiet.advances.here] at found
      cases found
      exact absurd rfl (quiet.unasked cell answer).2
    · exact quiet.advances.elsewhere own ▸ found
  constructor
  case filling =>
    intro other title cell answer found
    rw [quiet.isFilling]
    exact h.filling (elsewhere found)
  case alone => exact fun found same => h.alone (elsewhere found) (elsewhere same)
  case empty =>
    intro cell busy
    rw [quiet.content?]
    exact h.empty (quiet.isFilling cell ▸ busy)

theorem Answered.quiet (h : Answered took fetched all)
    (quiet : Quiet index name before phase all next) {taken : Takes}
    (more : ∀ {i e n c}, took i e n c → taken i e n c)
    (only : ∀ {i e n c}, taken i e n c → index ≠ i → took i e n c)
    (shares : ∀ {e n c zones}, taken index e n c → phase = .done (.ok zones) →
      all.content? c = some zones)
    (succeeds : ∀ failure, phase ≠ .done (.error failure)) : Answered taken fetched next := by
  constructor
  case took_of_fetched =>
    intro other cell answer began
    obtain ⟨time, title, earlier⟩ := h.took_of_fetched began
    exact ⟨time, title, more earlier⟩
  case stands =>
    intro other cell answer began
    obtain ⟨title, stands⟩ := h.stands began
    have foreign : index ≠ other := by
      rintro rfl
      rw [quiet.found] at stands
      rcases stands with flying | ⟨given, -⟩
      · cases flying
        exact absurd rfl (quiet.unasked cell answer).1
      · cases given
        exact absurd rfl (quiet.undone answer)
    rw [quiet.advances.elsewhere foreign, quiet.content?]
    exact ⟨title, stands⟩
  case flying =>
    intro other title cell answer found
    by_cases own : index = other
    · subst own
      rw [quiet.advances.here] at found
      cases found
      exact absurd rfl (quiet.unasked cell answer).2
    · exact h.flying (quiet.advances.elsewhere own ▸ found)
  case content =>
    intro cell zones filled
    rw [quiet.content?] at filled
    obtain ⟨other, title, began, given⟩ := h.content filled
    have foreign : index ≠ other := by
      rintro rfl
      rw [quiet.found] at given
      cases given
      exact absurd rfl (quiet.undone _)
    exact ⟨other, title, began, quiet.advances.elsewhere foreign ▸ given⟩
  case shared =>
    intro other time title cell label zones earlier given
    rw [quiet.content?]
    by_cases own : index = other
    · subst own
      rw [quiet.advances.here] at given
      cases given
      exact shares earlier rfl
    · exact h.shared (only earlier own) (quiet.advances.elsewhere own ▸ given)
  case failed =>
    intro other title failure given
    by_cases own : index = other
    · subst own
      rw [quiet.advances.here] at given
      cases given
      exact absurd rfl (succeeds failure)
    · exact h.failed (quiet.advances.elsewhere own ▸ given)
  case one_success => exact h.one_success

end

/-! A fetch begins. -/

/-- One more look-up fetched. -/
def Fetches.add (fetched : Fetches) (index cell : Nat)
    (answer : Except Api.Failure (List Zone)) : Fetches :=
  fun i c a => fetched i c a ∨ (i = index ∧ c = cell ∧ a = answer)

section

variable {index cell : Nat} {name : String} {answer : Except Api.Failure (List Zone)}

theorem advances_beginFetch (found : all.lookups[index]? = some ⟨name, .waiting cell⟩) :
    Advances index name (.fetching cell answer) all (all.beginFetch index cell answer) :=
  @advances_setPhase (all.changeCell cell ({ · with isFilling := true })) _ _ _ _ found

@[simp] theorem content?_beginFetch (other : Nat) :
    (all.beginFetch index cell answer).content? other = all.content? other := by
  rw [beginFetch, content?_setPhase, content?_changeCell]
  split
  · rfl
  · rfl

theorem isFilling_beginFetch (inside : cell < all.cells.length) (other : Nat) :
    (all.beginFetch index cell answer).isFilling other =
      if cell = other then true else all.isFilling other := by
  rw [beginFetch, isFilling_setPhase, isFilling_changeCell]
  split
  · rename_i own
    subst own
    rw [List.getElem?_eq_getElem inside]
    rfl
  · rfl

theorem Filled.beginFetch (h : Filled all) (inside : cell < all.cells.length)
    (found : all.lookups[index]? = some ⟨name, .waiting cell⟩)
    (unfilled : all.content? cell = none) (free : all.isFilling cell = false) :
    Filled (all.beginFetch index cell answer) := by
  have advances : Advances index name (.fetching cell answer) all _ := advances_beginFetch found
  have unfetched {other : Nat} {title : String} {result : Except Api.Failure (List Zone)} :
      all.lookups[other]? ≠ some ⟨title, .fetching cell result⟩ := by
    intro busy
    rw [h.filling busy] at free
    cases free
  constructor
  case filling =>
    intro other title place result busy
    rw [isFilling_beginFetch inside]
    split
    · rfl
    · rename_i foreign
      by_cases own : index = other
      · subst own
        rw [advances.here] at busy
        cases busy
        exact absurd rfl foreign
      · exact h.filling (advances.elsewhere own ▸ busy)
  case alone =>
    intro one other title label place result given busy same
    by_cases own : index = one
    · subst own
      rw [advances.here] at busy
      cases busy
      by_cases also : index = other
      · exact also
      · exact absurd (advances.elsewhere also ▸ same) unfetched
    · rw [advances.elsewhere own] at busy
      by_cases also : index = other
      · subst also
        rw [advances.here] at same
        cases same
        exact absurd busy unfetched
      · exact h.alone busy (advances.elsewhere also ▸ same)
  case empty =>
    intro place busy
    rw [isFilling_beginFetch inside] at busy
    rw [content?_beginFetch]
    split at busy
    · rename_i own
      exact own ▸ unfilled
    · exact h.empty busy

theorem Answered.beginFetch (h : Answered took fetched all) (filled : Filled all)
    {epoch : Nat} (taken : took index epoch name cell)
    (found : all.lookups[index]? = some ⟨name, .waiting cell⟩)
    (unfilled : all.content? cell = none) (free : all.isFilling cell = false) :
    Answered took (fetched.add index cell answer) (all.beginFetch index cell answer) := by
  have advances : Advances index name (.fetching cell answer) all _ := advances_beginFetch found
  -- A fetch of the cell that succeeded would have filled it, one on its way would be filling it.
  have unfetched {other : Nat} {zones : List Zone} : ¬ fetched other cell (.ok zones) := by
    intro began
    obtain ⟨title, flying | ⟨-, kept⟩⟩ := h.stands began
    · rw [filled.filling flying] at free
      cases free
    · rw [kept zones rfl] at unfilled
      cases unfilled
  constructor
  case took_of_fetched =>
    rintro other place result (began | ⟨rfl, rfl, rfl⟩)
    · exact h.took_of_fetched began
    · exact ⟨epoch, name, taken⟩
  case stands =>
    rintro other place result (began | ⟨rfl, rfl, rfl⟩)
    · obtain ⟨title, stands⟩ := h.stands began
      have foreign : index ≠ other := by
        rintro rfl
        rw [found] at stands
        rcases stands with flying | ⟨given, -⟩
        · cases flying
        · cases given
      rw [advances.elsewhere foreign, content?_beginFetch]
      exact ⟨title, stands⟩
    · exact ⟨name, .inl advances.here⟩
  case flying =>
    intro other title place result busy
    by_cases own : index = other
    · subst own
      rw [advances.here] at busy
      cases busy
      exact .inr ⟨rfl, rfl, rfl⟩
    · exact .inl (h.flying (advances.elsewhere own ▸ busy))
  case content =>
    intro place zones kept
    rw [content?_beginFetch] at kept
    obtain ⟨other, title, began, given⟩ := h.content kept
    have foreign : index ≠ other := by
      rintro rfl
      rw [found] at given
      cases given
    exact ⟨other, title, .inl began, advances.elsewhere foreign ▸ given⟩
  case shared =>
    intro other time title place label zones earlier given
    rw [content?_beginFetch]
    have foreign : index ≠ other := by
      rintro rfl
      rw [advances.here] at given
      cases given
    exact h.shared earlier (advances.elsewhere foreign ▸ given)
  case failed =>
    intro other title failure given
    have foreign : index ≠ other := by
      rintro rfl
      rw [advances.here] at given
      cases given
    obtain ⟨place, began⟩ := h.failed (advances.elsewhere foreign ▸ given)
    exact ⟨place, .inl began⟩
  case one_success =>
    rintro one other place zones more (began | ⟨rfl, rfl, rfl⟩) (since | ⟨rfl, same, -⟩)
    · exact h.one_success began since
    · exact absurd (same ▸ began) unfetched
    · exact absurd since unfetched
    · rfl

end

/-! A fetch ends. -/

section

variable {index cell : Nat} {name : String} {answer : Except Api.Failure (List Zone)}

theorem advances_endFetch (found : all.lookups[index]? = some ⟨name, .fetching cell answer⟩) :
    Advances index name (.done answer) all (all.endFetch index cell answer) :=
  @advances_setPhase (all.changeCell cell (·.fill answer)) _ _ _ _ found

/-- A list that was fetched for a cell without content is the cell's from then on. -/
theorem content?_endFetch (busy : all.isFilling cell) (unfilled : all.content? cell = none)
    (other : Nat) : (all.endFetch index cell answer).content? other =
      if cell = other then answer.toOption else all.content? other := by
  rw [endFetch, content?_setPhase, content?_changeCell]
  split
  · rename_i own
    subst own
    obtain ⟨held, inside, -⟩ := Option.any_eq_true .. |>.mp busy
    rw [content?, inside, Option.bind_some] at unfilled
    rw [inside, Option.bind_some, SharedCell.fill, unfilled, Option.or_none]
  · rfl

theorem isFilling_endFetch (other : Nat) :
    (all.endFetch index cell answer).isFilling other =
      if cell = other then false else all.isFilling other := by
  rw [endFetch, isFilling_setPhase, isFilling_changeCell]
  split
  · cases all.cells[other]? <;> rfl
  · rfl

theorem Filled.endFetch (h : Filled all)
    (found : all.lookups[index]? = some ⟨name, .fetching cell answer⟩) :
    Filled (all.endFetch index cell answer) := by
  have advances := advances_endFetch found
  have elsewhere {other place : Nat} {title : String} {result : Except Api.Failure (List Zone)}
      (busy : (all.endFetch index cell answer).lookups[other]? =
        some ⟨title, .fetching place result⟩) :
      index ≠ other ∧ all.lookups[other]? = some ⟨title, .fetching place result⟩ := by
    have foreign : index ≠ other := by
      rintro rfl
      rw [advances.here] at busy
      cases busy
    exact ⟨foreign, advances.elsewhere foreign ▸ busy⟩
  constructor
  case filling =>
    intro other title place result busy
    obtain ⟨foreign, still⟩ := elsewhere busy
    rw [isFilling_endFetch, if_neg]
    · exact h.filling still
    · rintro rfl
      exact foreign (h.alone found still)
  case alone => exact fun busy same => h.alone (elsewhere busy).2 (elsewhere same).2
  case empty =>
    intro place busy
    have busyBefore := h.filling found
    rw [isFilling_endFetch] at busy
    split at busy
    · cases busy
    · rename_i foreign
      rw [content?_endFetch busyBefore (h.empty busyBefore), if_neg foreign]
      exact h.empty busy

theorem Answered.endFetch (h : Answered took fetched all) (placed : Placed took all)
    (filled : Filled all) (found : all.lookups[index]? = some ⟨name, .fetching cell answer⟩) :
    Answered took fetched (all.endFetch index cell answer) := by
  have advances := advances_endFetch found
  have busy := filled.filling found
  have content : ∀ other, (all.endFetch index cell answer).content? other = _ :=
    content?_endFetch busy (filled.empty busy)
  have began := h.flying found
  constructor
  case took_of_fetched => exact h.took_of_fetched
  case stands =>
    intro other place result fetch
    obtain ⟨title, stands⟩ := h.stands fetch
    by_cases own : index = other
    · subst own
      rw [found] at stands
      rcases stands with flying | ⟨given, -⟩
      · cases flying
        refine ⟨name, .inr ⟨advances.here, ?_⟩⟩
        rintro zones rfl
        rw [content, if_pos rfl]
        rfl
      · cases given
    · refine ⟨title, ?_⟩
      rw [advances.elsewhere own]
      refine stands.imp_right (And.imp_right fun kept zones success => ?_)
      rw [content, if_neg, kept zones success]
      rintro rfl
      rw [filled.empty busy] at kept
      cases kept zones success
  case flying =>
    intro other title place result flies
    by_cases own : index = other
    · subst own
      rw [advances.here] at flies
      cases flies
    · exact h.flying (advances.elsewhere own ▸ flies)
  case content =>
    intro place zones kept
    rw [content] at kept
    split at kept
    · rename_i own
      subst own
      cases answer with
      | error failure => cases kept
      | ok given =>
        cases kept
        exact ⟨index, name, began, advances.here⟩
    · obtain ⟨other, title, fetch, given⟩ := h.content kept
      have foreign : index ≠ other := by
        rintro rfl
        rw [found] at given
        cases given
      exact ⟨other, title, fetch, advances.elsewhere foreign ▸ given⟩
  case shared =>
    intro other time title place label zones earlier given
    rw [content]
    by_cases own : index = other
    · subst own
      rw [advances.here] at given
      cases given
      obtain ⟨phase, same, has⟩ := placed.holds earlier
      rw [found] at same
      cases same
      have own : cell = place := has
      rw [if_pos own]
      rfl
    · have kept := h.shared earlier (advances.elsewhere own ▸ given)
      rw [if_neg, kept]
      rintro rfl
      rw [filled.empty busy] at kept
      cases kept
  case failed =>
    intro other title failure given
    by_cases own : index = other
    · subst own
      rw [advances.here] at given
      cases given
      exact ⟨cell, began⟩
    · exact h.failed (advances.elsewhere own ▸ given)
  case one_success => exact h.one_success

end

end AddressRecords.ZoneLookups
