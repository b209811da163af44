import AddressRecords.Proofs.Concurrent.Pending

/-!
What entering answers in order is good for: every record that is remembered is as the remote shows
it, but for those with a change on its way.
-/

namespace AddressRecords.Interleaving

variable {σ : Type} {remote : Remote σ}

section

variable (run : Interleaving σ)

/-- A change of the record that was made at some time is on its way at another. -/
def Changing (time given index : Nat) (key : RecordKey) (id : String) : Prop :=
  ∃ operation answer change, run.Pending time given index operation answer ∧
    operation.change? answer = some change ∧ change.key = key ∧ change.id = id

/-- What is known of records at a time. -/
structure Truthful (remote : Remote σ) (time : Nat) : Prop where
  /-- The latest answer about a record is true. -/
  answers : ∀ given index operation answer, run.Pending time given index operation answer →
    ∀ key id address?, operation.tells? answer key id = some address? →
      (∀ moment other, run.Changing time moment other key id → moment ≤ given) →
      remote.Shows (run.holdings remote time) key id address?
  /-- Where no change is on its way, a warm entry is true. -/
  entries : ∀ key records, (run.records time).get key = some records →
    ∀ id, (∀ moment other, ¬ run.Changing time moment other key id) →
      remote.Shows (run.holdings remote time) key id (records.find? id)

end

variable {run : Interleaving σ} {time : Nat}

theorem truthful_zero : run.Truthful remote 0 where
  answers _ _ _ _ pending := absurd pending.before (Nat.not_lt_zero _)
  entries _ _ warm := nomatch warm

variable {index : Nat} {operation : Operation} {answer : Answer}

theorem Truthful.calm (h : run.Truthful remote time)
    (jobs : ∀ index operation answer,
      run.job? (time + 1) index = some ⟨operation, .entering answer⟩ ↔
        run.job? time index = some ⟨operation, .entering answer⟩)
    (records : run.records (time + 1) = run.records time)
    (holdings : run.holdings remote (time + 1) = run.holdings remote time) :
    run.Truthful remote (time + 1) := by
  have still {given index : Nat} {key : RecordKey} {id : String}
      (h : run.Changing time given index key id) : run.Changing (time + 1) given index key id := by
    obtain ⟨operation, answer, change, pending, about⟩ := h
    have stays := (jobs index operation answer).mpr pending.job?
    exact ⟨operation, answer, change, pending.succ stays, about⟩
  constructor
  case answers =>
    intro given index operation answer pending key id address? told latest
    have before := pending.pred (jobs index operation answer).mp
    rw [holdings]
    exact h.answers given index operation answer before key id address? told
      fun moment other changing => latest moment other (still changing)
  case entries =>
    intro key held warm id settled
    rw [records] at warm
    rw [holdings]
    exact h.entries key held warm id fun moment other changing =>
      settled moment other (still changing)

theorem Truthful.gives (h : run.Truthful remote time)
    (answered : run.Answered time index operation answer)
    (others : ∀ other, other ≠ index → run.job? (time + 1) other = run.job? time other)
    (tells : ∀ key id address?, operation.tells? answer key id = some address? →
      remote.Shows (run.holdings remote (time + 1)) key id address?)
    (keeps : ∀ key id address?,
      (∀ change, operation.change? answer = some change →
        ¬ (change.key = key ∧ change.id = id)) →
      remote.Shows (run.holdings remote time) key id address? →
      remote.Shows (run.holdings remote (time + 1)) key id address?)
    (records : run.records (time + 1) = run.records time) :
    run.Truthful remote (time + 1) := by
  have still {given other : Nat} {key : RecordKey} {id : String}
      (h : run.Changing time given other key id) : run.Changing (time + 1) given other key id := by
    obtain ⟨second, reply, change, pending, about⟩ := h
    have apart : other ≠ index := by
      rintro rfl
      exact answered.not_entering pending.job?
    have stays := (others other apart).trans pending.job?
    exact ⟨second, reply, change, pending.succ stays, about⟩
  have begins {change : Change} (made : operation.change? answer = some change) :
      run.Changing (time + 1) time index change.key change.id :=
    ⟨operation, answer, change, .of_answered answered, made, rfl, rfl⟩
  constructor
  case answers =>
    intro given other second reply pending key id address? told latest
    by_cases own : other = index
    · subst own
      have entering := pending.job?
      rw [answered.entering] at entering
      cases entering
      exact tells key id address? told
    · have before := pending.pred fun entering => (others other own).symm.trans entering
      refine keeps key id address? ?_ ?_
      · rintro change made ⟨rfl, rfl⟩
        have newest := latest time index (begins made)
        exact absurd before.before (Nat.not_lt.mpr newest)
      · exact h.answers given other second reply before key id address? told
          fun moment third changing => latest moment third (still changing)
  case entries =>
    intro key held warm id settled
    rw [records] at warm
    refine keeps key id (held.find? id) ?_ ?_
    · rintro change made ⟨rfl, rfl⟩
      exact settled time index (begins made)
    · exact h.entries key held warm id fun moment other changing =>
        settled moment other (still changing)

theorem Truthful.enters (h : run.Truthful remote time) (ordered : run.InOrder) {given : Nat}
    (turn : run.turns[time]? = some (.step index))
    (came : run.Pending time given index operation answer)
    (entered : run.job? (time + 1) index = some ⟨operation, .done (.ok answer)⟩)
    (others : ∀ other, other ≠ index → run.job? (time + 1) other = run.job? time other)
    (records : run.records (time + 1) = Handle.applied operation answer (run.records time))
    (holdings : run.holdings remote (time + 1) = run.holdings remote time) :
    run.Truthful remote (time + 1) := by
  -- What was on its way still is, but for the answer that is entered now.
  have still {moment other : Nat} {key : RecordKey} {id : String}
      (h : run.Changing time moment other key id) :
      run.Changing (time + 1) moment other key id ∨
      moment = given ∧ ∃ change, operation.change? answer = some change ∧ change.key = key ∧
        change.id = id := by
    obtain ⟨second, reply, change, pending, about⟩ := h
    by_cases own : other = index
    · subst own
      have entering := pending.job?
      rw [came.job?] at entering
      cases entering
      exact .inr ⟨pending.unique came, change, about⟩
    · have stays := (others other own).trans pending.job?
      exact .inl ⟨second, reply, change, pending.succ stays, about⟩
  constructor
  case answers =>
    intro moment other second reply pending key id address? told latest
    have apart : other ≠ index := by
      rintro rfl
      have entering := pending.job?
      rw [entered] at entering
      cases entering
    have before := pending.pred fun entering => (others other apart).symm.trans entering
    rw [holdings]
    refine h.answers moment other second reply before key id address? told ?_
    intro last third changing
    rcases still changing with left | ⟨rfl, change, made, rfl, rfl⟩
    · exact latest last third left
    · have spoken : second.tells? reply change.key change.id ≠ none := by
        rw [told]
        exact Option.some_ne_none _
      exact Nat.not_lt.mp (ordered time index turn last operation answer change came made moment
        other second reply before spoken)
  case entries =>
    intro key held warm id settled
    rw [records] at warm
    rw [holdings]
    rcases Handle.find?_applied warm id with told | ⟨untold, before, was, same⟩
    · refine h.answers given index operation answer came key id _ told ?_
      intro last other changing
      rcases still changing with left | ⟨rfl, _⟩
      · exact absurd left (settled last other)
      · exact Nat.le_refl last
    · rw [same]
      refine h.entries key before was id ?_
      intro last other changing
      rcases still changing with left | ⟨_, change, made, rfl, rfl⟩
      · exact settled last other left
      · rw [Operation.tells?_of_change made, if_pos ⟨rfl, rfl⟩] at untold
        cases untold

theorem truthful (ordered : run.InOrder) (passes : ∀ time, run.Passes remote time) (time : Nat) :
    run.Truthful remote time := by
  induction time with
  | zero => exact truthful_zero
  | succ time ih =>
    cases passes time with
    | calm jobs records holdings => exact ih.calm jobs records holdings
    | gives index operation answer answered others tells keeps records =>
      exact ih.gives answered others tells keeps records
    | enters index operation answer turn entering entered others records holdings =>
      obtain ⟨given, came⟩ := exists_pending passes entering
      exact ih.enters ordered turn came entered others records holdings

end AddressRecords.Interleaving
