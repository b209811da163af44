import AddressRecords.Proofs.Concurrent.Interleaving

/-!
Answers on their way, each with the time at which it was given. As long as none of them overtakes
an earlier one about the same record, what is entered last of a record is what the remote shows.
-/

namespace AddressRecords.Interleaving

variable {σ : Type} {remote : Remote σ}

section

variable (run : Interleaving σ)

/-- The remote gives the answer in this turn. -/
structure Answered (time index : Nat) (operation : Operation) (answer : Answer) : Prop where
  asked : ∃ zone, run.job? time index = some ⟨operation, .asking zone⟩
  entering : run.job? (time + 1) index = some ⟨operation, .entering answer⟩

/-- The answer that was given at one time is still on its way at another. -/
structure Pending (time given index : Nat) (operation : Operation) (answer : Answer) : Prop where
  before : given < time
  answered : run.Answered given index operation answer
  since : ∀ moment, given < moment → moment ≤ time →
    run.job? moment index = some ⟨operation, .entering answer⟩

/-- The remote makes the change in this turn. -/
def Applied (time index : Nat) (change : Change) : Prop :=
  ∃ operation answer, run.Answered time index operation answer ∧
    operation.change? answer = some change

/-- No change is entered while an earlier answer about its record is on its way. -/
def InOrder : Prop :=
  ∀ time index, run.turns[time]? = some (.step index) →
    ∀ given operation answer change, run.Pending time given index operation answer →
      operation.change? answer = some change →
      ∀ earlier other second reply, run.Pending time earlier other second reply →
        second.tells? reply change.key change.id ≠ none → ¬ earlier < given

/-- No operation on a key begins before another one on it has ended. -/
def Apart : Prop :=
  ∀ time index other job second, run.job? time index = some job → run.job? time other = some second →
    job.stage.isDone = false → second.stage.isDone = false →
    job.operation.key? ≠ none → job.operation.key? = second.operation.key? → index = other

end

variable {run : Interleaving σ} {time given index other : Nat} {operation second : Operation}
  {answer reply : Answer} {change : Change}

theorem Answered.not_entering (h : run.Answered time index operation answer) :
    run.job? time index ≠ some ⟨second, .entering reply⟩ := by
  obtain ⟨zone, asked⟩ := h.asked
  rw [asked]
  exact fun same => nomatch same

namespace Pending

theorem job? (h : run.Pending time given index operation answer) :
    run.job? time index = some ⟨operation, .entering answer⟩ :=
  h.since time h.before (Nat.le_refl time)

/-- It was on its way all the time since. -/
theorem mono (h : run.Pending time given index operation answer) {earlier : Nat}
    (after : given < earlier) (before : earlier ≤ time) :
    run.Pending earlier given index operation answer :=
  ⟨after, h.answered, fun moment since within =>
    h.since moment since (Nat.le_trans within before)⟩

/-- A job is given one answer. -/
theorem unique {moment : Nat} (first : run.Pending time given index operation answer)
    (again : run.Pending time moment index second reply) : given = moment := by
  have ordered {early late : Nat} {one two : Operation} {first again : Answer}
      (earlier : run.Pending time early index one first)
      (later : run.Pending time late index two again) : ¬ early < late := by
    intro before
    have entering := earlier.since late before (Nat.le_of_lt later.before)
    exact later.answered.not_entering entering
  exact Nat.le_antisymm (Nat.not_lt.mp (ordered again first)) (Nat.not_lt.mp (ordered first again))

theorem succ (h : run.Pending time given index operation answer)
    (stays : run.job? (time + 1) index = some ⟨operation, .entering answer⟩) :
    run.Pending (time + 1) given index operation answer := by
  refine ⟨Nat.lt_succ_of_lt h.before, h.answered, ?_⟩
  intro moment after before
  rcases Nat.le_succ_iff.mp before with before | rfl
  · exact h.since moment after before
  · exact stays

theorem of_answered (h : run.Answered time index operation answer) :
    run.Pending (time + 1) time index operation answer := by
  refine ⟨Nat.lt_succ_self time, h, ?_⟩
  intro moment after before
  obtain rfl : moment = time + 1 := by omega
  exact h.entering

/-- It is either on its way already or given just now. -/
theorem pred (h : run.Pending (time + 1) given index operation answer)
    (old : run.job? (time + 1) index = some ⟨operation, .entering answer⟩ →
      run.job? time index = some ⟨operation, .entering answer⟩) :
    run.Pending time given index operation answer := by
  rcases Nat.lt_succ_iff_lt_or_eq.mp h.before with before | rfl
  · exact h.mono before (Nat.le_succ time)
  · exact absurd (old h.job?) h.answered.not_entering

theorem applied (h : run.Pending time given index operation answer)
    (made : operation.change? answer = some change) : run.Applied given index change :=
  ⟨operation, answer, h.answered, made⟩

end Pending

/-! One turn. -/

/-- What a turn does to answers about records on their way. -/
inductive Passes (run : Interleaving σ) (remote : Remote σ) (time : Nat) : Prop
  | calm (jobs : ∀ index operation answer,
        run.job? (time + 1) index = some ⟨operation, .entering answer⟩ ↔
          run.job? time index = some ⟨operation, .entering answer⟩)
      (records : run.records (time + 1) = run.records time)
      (holdings : run.holdings remote (time + 1) = run.holdings remote time)
  | gives (index : Nat) (operation : Operation) (answer : Answer)
      (answered : run.Answered time index operation answer)
      (others : ∀ other, other ≠ index → run.job? (time + 1) other = run.job? time other)
      (tells : ∀ key id address?, operation.tells? answer key id = some address? →
        remote.Shows (run.holdings remote (time + 1)) key id address?)
      (keeps : ∀ key id address?,
        (∀ change, operation.change? answer = some change →
          ¬ (change.key = key ∧ change.id = id)) →
        remote.Shows (run.holdings remote time) key id address? →
        remote.Shows (run.holdings remote (time + 1)) key id address?)
      (records : run.records (time + 1) = run.records time)
  | enters (index : Nat) (operation : Operation) (answer : Answer)
      (turn : run.turns[time]? = some (.step index))
      (entering : run.job? time index = some ⟨operation, .entering answer⟩)
      (entered : run.job? (time + 1) index = some ⟨operation, .done (.ok answer)⟩)
      (others : ∀ other, other ≠ index → run.job? (time + 1) other = run.job? time other)
      (records : run.records (time + 1) = Handle.applied operation answer (run.records time))
      (holdings : run.holdings remote (time + 1) = run.holdings remote time)

theorem Moves.passes (h : run.Moves remote time) : run.Passes remote time := by
  cases h with
  | idles same =>
    refine .calm (fun index operation answer => ?_) ?_ ?_
    · rw [job?, same, job?]
    · rw [records, same, records]
    · rw [holdings, same, holdings]
  | starts operation jobs state =>
    refine .calm (fun index operation answer => ?_) ?_ ?_
    · simp only [job?, jobs, List.getElem?_append]
      split
      · exact Iff.rfl
      · rename_i beyond
        rw [List.getElem?_eq_none (by omega : (run.reached time).1.length ≤ index)]
        constructor
        · intro entering
          cases List.mem_singleton.mp (List.mem_of_getElem? entering)
        · rintro ⟨⟩
    · rw [records, state, records]
    · rw [holdings, state, holdings]
  | advances index operation stage next turn found jobs advances =>
    have inside := (List.getElem?_eq_some_iff.mp found).1
    have own : run.job? (time + 1) index = some ⟨operation, next⟩ := by
      rw [job?, jobs, List.getElem?_set_self inside]
    have others (other : Nat) (apart : other ≠ index) :
        run.job? (time + 1) other = run.job? time other := by
      rw [job?, jobs, List.getElem?_set_ne (Ne.symm apart), job?]
    have calm (old : ∀ answer, stage ≠ .entering answer) (new : ∀ answer, next ≠ .entering answer)
        (other : Nat) (second : Operation) (answer : Answer) :
        run.job? (time + 1) other = some ⟨second, .entering answer⟩ ↔
          run.job? time other = some ⟨second, .entering answer⟩ := by
      by_cases same : other = index
      · subst same
        rw [own, found]
        constructor
        · rintro ⟨⟩
          exact absurd rfl (new answer)
        · rintro ⟨⟩
          exact absurd rfl (old answer)
      · rw [others other same]
    have now : run.records time = (run.reached time).2.1 := rfl
    have later : run.records (time + 1) = (run.reached (time + 1)).2.1 := rfl
    have held : run.holdings remote time = remote.holdings (run.reached time).2.2.2 := rfl
    have holds : run.holdings remote (time + 1) = remote.holdings (run.reached (time + 1)).2.2.2 :=
      rfl
    generalize (run.reached time).2 = before at advances now held
    generalize (run.reached (time + 1)).2 = after at advances later holds
    cases advances with
    | waits unanswered silent store same =>
      refine .calm (calm ?_ ?_) ?_ ?_
      · rintro answer rfl
        cases unanswered
      · rintro answer rfl
        cases (silent answer rfl).2
      · rw [now, later, store]
      · rw [held, holds, same]
    | reads =>
      refine .calm (calm ?_ ?_) (later.trans now.symm) (holds.trans held.symm)
      · rintro answer ⟨⟩
      · rintro answer ⟨⟩
    | rests =>
      refine .calm (calm ?_ ?_) (later.trans now.symm) (holds.trans held.symm)
      · rintro answer ⟨⟩
      · rintro answer ⟨⟩
    | gives tells keeps store =>
      rw [← holds] at tells keeps
      rw [← held] at keeps
      exact .gives index operation _ ⟨⟨_, found⟩, own⟩ others tells keeps (by rw [now, later, store])
    | enters =>
      exact .enters index operation _ turn found own others (by rw [later, now]) (by rw [held, holds])

/-- What is on its way was given at some time. -/
theorem exists_pending (passes : ∀ time, run.Passes remote time)
    (entering : run.job? time index = some ⟨operation, .entering answer⟩) :
    ∃ given, run.Pending time given index operation answer := by
  induction time with
  | zero => cases entering
  | succ time ih =>
    cases passes time with
    | calm jobs =>
      obtain ⟨given, pending⟩ := ih ((jobs index operation answer).mp entering)
      exact ⟨given, pending.succ entering⟩
    | gives other second reply answered others =>
      by_cases own : index = other
      · subst own
        rw [answered.entering] at entering
        cases entering
        exact ⟨time, .of_answered answered⟩
      · obtain ⟨given, pending⟩ := ih ((others index own).symm.trans entering)
        exact ⟨given, pending.succ entering⟩
    | enters other second reply turn _ entered others =>
      by_cases own : index = other
      · subst own
        rw [entered] at entering
        cases entering
      · obtain ⟨given, pending⟩ := ih ((others index own).symm.trans entering)
        exact ⟨given, pending.succ entering⟩

end AddressRecords.Interleaving
