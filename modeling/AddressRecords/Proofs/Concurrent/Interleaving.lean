import AddressRecords.Proofs.Concurrent.Stages
import Mathlib.Data.Nat.Init

/-!
Operations of one handle with their stages in any order. Time is counted in turns, and each turn
either starts an operation or brings one of them a stage further.
-/

namespace AddressRecords

structure Interleaving (σ : Type) where
  handle : Handle σ
  start : σ
  turns : List Handle.Turn

variable {σ : Type} {remote : Remote σ}

namespace Handle

variable (handle : Handle σ) {reached : List Job × HandleState σ} {index : Nat}

theorem take_start (operation : Operation) (reached : List Job × HandleState σ) :
    (handle.take (.start operation) reached).state =
      (reached.1 ++ [⟨operation, .ready⟩], reached.2) := rfl

theorem take_step_of_none (absent : reached.1[index]? = none) :
    (handle.take (.step index) reached).state = reached := by
  simp [take, absent]

theorem take_step {operation : Operation} {stage : Stage}
    (found : reached.1[index]? = some ⟨operation, stage⟩) :
    (handle.take (.step index) reached).state =
      (reached.1.set index ⟨operation, (handle.advance operation stage reached.2).value⟩,
        (handle.advance operation stage reached.2).state) := by
  simp [take, found]

end Handle

namespace Interleaving

variable (run : Interleaving σ)

/-- How far the operations that were started by this time have come, and the state they share. -/
def reached (time : Nat) : List Job × HandleState σ :=
  (run.turns.take time).foldl (fun before turn => (run.handle.take turn before).state)
    ([], .initial run.start)

def job? (time index : Nat) : Option Job := (run.reached time).1[index]?

def records (time : Nat) : RecordStore := (run.reached time).2.1

/-- What the remote holds at this time. -/
def holdings (remote : Remote σ) (time : Nat) : Holdings := remote.holdings (run.reached time).2.2.2

/-- The remote held a record of the key under this identifier at some time until now. -/
def Held (remote : Remote σ) (time : Nat) (key : RecordKey) (id : String) : Prop :=
  ∃ earlier ≤ time, ∃ zone, remote.owner? key.domain = some zone ∧
    (run.holdings remote earlier).content? zone key id ≠ none

/-- Every update and deletion that the remote is asked for names a record it held under the key. -/
def NamesHeld (remote : Remote σ) : Prop :=
  ∀ time index operation zone, run.turns[time]? = some (.step index) →
    run.job? time index = some ⟨operation, .asking zone⟩ →
    ∀ key id, operation.target? = some (key, id) → run.Held remote time key id

/-! One turn. -/

/-- What a turn can do. -/
inductive Moves (remote : Remote σ) (time : Nat) : Prop
  | idles (same : run.reached (time + 1) = run.reached time)
  | starts (operation : Operation)
      (jobs : (run.reached (time + 1)).1 = (run.reached time).1 ++ [⟨operation, .ready⟩])
      (state : (run.reached (time + 1)).2 = (run.reached time).2)
  | advances (index : Nat) (operation : Operation) (stage next : Stage)
      (turn : run.turns[time]? = some (.step index))
      (found : run.job? time index = some ⟨operation, stage⟩)
      (jobs : (run.reached (time + 1)).1 = (run.reached time).1.set index ⟨operation, next⟩)
      (advances : remote.Advances operation stage (run.reached time).2 next
        (run.reached (time + 1)).2)

/-- What holds between two turns. -/
structure Sound (remote : Remote σ) (time : Nat) : Prop where
  backs : remote.Backs (run.Held remote time) (run.reached time).2
  permits : ∀ index operation stage, run.job? time index = some ⟨operation, stage⟩ →
    remote.Permits operation stage

variable {run} {time : Nat}

theorem reached_succ_of_none (ended : run.turns[time]? = none) :
    run.reached (time + 1) = run.reached time := by
  rw [reached, List.take_add_one, ended, Option.toList_none, List.append_nil, reached]

theorem reached_succ {turn : Handle.Turn} (next : run.turns[time]? = some turn) :
    run.reached (time + 1) = (run.handle.take turn (run.reached time)).state := by
  rw [reached, List.take_add_one, next, Option.toList_some, List.foldl_append, List.foldl_cons,
    List.foldl_nil, ← reached]

theorem held_succ {key : RecordKey} {id : String} (held : run.Held remote (time + 1) key id) :
    run.Held remote time key id ∨ ∃ zone, remote.owner? key.domain = some zone ∧
      (run.holdings remote (time + 1)).content? zone key id ≠ none := by
  obtain ⟨earlier, before, shown⟩ := held
  rcases Nat.le_succ_iff.mp before with before | rfl
  · exact .inl ⟨earlier, before, shown⟩
  · exact .inr shown

/-- What is held now is of the key that it is held under. -/
theorem backs_of_known {known : RecordKey → String → Prop}
    (h : remote.Backs known (run.reached time).2)
    (covers : ∀ key id, run.Held remote time key id → known key id ∨
      ∃ zone, remote.owner? key.domain = some zone ∧
        (run.holdings remote time).content? zone key id ≠ none) :
    remote.Backs (run.Held remote time) (run.reached time).2 := by
  refine ⟨h.lists, h.fits.mirrors, fun key id held => ?_⟩
  rcases covers key id held with before | ⟨zone, owned, shown⟩
  · exact h.fits.fits key id before
  · exact ⟨zone, owned, Holdings.fits_of_content? shown⟩

theorem sound_zero : run.Sound remote 0 where
  backs := by
    have nothing : remote.Backs (fun _ _ => False) (run.reached 0).2 :=
      ⟨fun _ _ impossible => (nomatch impossible), fun _ _ impossible => (nomatch impossible),
        fun _ _ impossible => impossible.elim⟩
    refine backs_of_known nothing ?_
    rintro key id ⟨earlier, before, shown⟩
    obtain rfl := Nat.le_zero.mp before
    exact .inr shown
  permits := fun _ _ _ impossible => nomatch impossible

theorem Sound.of_same (h : run.Sound remote time)
    (jobs : ∀ index operation stage, run.job? (time + 1) index = some ⟨operation, stage⟩ →
      remote.Permits operation stage)
    (state : (run.reached (time + 1)).2 = (run.reached time).2) :
    run.Sound remote (time + 1) :=
  ⟨backs_of_known (state ▸ h.backs) fun _ _ => held_succ, jobs⟩

/-- One turn, whoever's it is. -/
theorem Sound.step (h : run.Sound remote time) (faithful : Faithful run.handle remote)
    (names : run.NamesHeld remote) :
    run.Moves remote time ∧ run.Sound remote (time + 1) := by
  cases next : run.turns[time]? with
  | none =>
    have same := reached_succ_of_none next
    refine ⟨.idles same, h.of_same ?_ (congrArg Prod.snd same)⟩
    intro index operation stage found
    rw [job?, same] at found
    exact h.permits index operation stage found
  | some turn =>
    have after := reached_succ next
    cases turn with
    | start operation =>
      rw [Handle.take_start] at after
      have state : (run.reached (time + 1)).2 = (run.reached time).2 := by rw [after]
      refine ⟨.starts operation (by rw [after]) state, h.of_same ?_ state⟩
      intro index other stage found
      rw [job?, after, List.getElem?_append] at found
      split at found
      · exact h.permits index other stage found
      · cases List.mem_singleton.mp (List.mem_of_getElem? found)
        trivial
    | step index =>
      cases found : run.job? time index with
      | none =>
        have same := after.trans (run.handle.take_step_of_none found)
        refine ⟨.idles same, h.of_same ?_ (congrArg Prod.snd same)⟩
        intro other operation stage held
        rw [job?, same] at held
        exact h.permits other operation stage held
      | some job =>
        obtain ⟨operation, stage⟩ := job
        have continues := faithful.continues h.backs (h.permits index operation stage found)
          (fun zone asking => names time index operation zone next (asking ▸ found))
        rw [run.handle.take_step found] at after
        have jobs := congrArg Prod.fst after
        have state := congrArg Prod.snd after
        dsimp only at jobs state
        rw [← state] at continues
        refine ⟨.advances index operation stage _ next found jobs continues.advances, ?_⟩
        refine ⟨backs_of_known continues.backs fun _ _ => held_succ, ?_⟩
        intro other second reached held
        rw [job?, jobs, List.getElem?_set] at held
        split at held
        · split at held
          · cases held
            exact continues.permits
          · cases held
        · exact h.permits other second reached held

theorem sound (faithful : Faithful run.handle remote) (names : run.NamesHeld remote)
    (time : Nat) : run.Sound remote time := by
  induction time with
  | zero => exact sound_zero
  | succ time ih => exact (ih.step faithful names).2

theorem moves (faithful : Faithful run.handle remote) (names : run.NamesHeld remote)
    (time : Nat) : run.Moves remote time :=
  ((sound faithful names time).step faithful names).1

/-! One job. -/

variable {index : Nat} {operation : Operation}

/-- What one turn can do to one job. -/
theorem Moves.job (h : run.Moves remote time) (index : Nat) :
    run.job? (time + 1) index = run.job? time index ∨
    (run.job? time index = none ∧
      ∃ operation, run.job? (time + 1) index = some ⟨operation, .ready⟩) ∨
    ∃ operation stage next, run.turns[time]? = some (.step index) ∧
      run.job? time index = some ⟨operation, stage⟩ ∧
      run.job? (time + 1) index = some ⟨operation, next⟩ ∧
      remote.Advances operation stage (run.reached time).2 next (run.reached (time + 1)).2 := by
  cases h with
  | idles same => exact .inl (by rw [job?, same, job?])
  | starts operation jobs state =>
    simp only [job?, jobs, List.getElem?_append]
    split
    · exact .inl rfl
    · rename_i beyond
      have absent : (run.reached time).1[index]? = none := List.getElem?_eq_none (by omega)
      rw [absent]
      cases index - (run.reached time).1.length with
      | zero => exact .inr (.inl ⟨rfl, operation, rfl⟩)
      | succ _ => exact .inl rfl
  | advances other operation stage next turn found jobs advances =>
    by_cases own : other = index
    · subst own
      have inside := (List.getElem?_eq_some_iff.mp found).1
      refine .inr (.inr ⟨operation, stage, next, turn, found, ?_, advances⟩)
      rw [job?, jobs, List.getElem?_set_self inside]
    · left
      rw [job?, jobs, List.getElem?_set_ne own, job?]

/-- A job stays one of its operation. -/
theorem exists_stage (moves : ∀ time, run.Moves remote time) {stage : Stage}
    (found : run.job? time index = some ⟨operation, stage⟩) {later : Nat} (after : time ≤ later) :
    ∃ stage, run.job? later index = some ⟨operation, stage⟩ := by
  induction later, after using Nat.le_induction with
  | base => exact ⟨stage, found⟩
  | succ later _ ih =>
    obtain ⟨stage, found⟩ := ih
    rcases (moves later).job index with same | ⟨absent, _⟩ | ⟨_, _, next, _, held, reached, _⟩
    · exact ⟨stage, same.trans found⟩
    · rw [absent] at found
      cases found
    · rw [held] at found
      cases found
      exact ⟨next, reached⟩

/-- A success is for good. -/
theorem job?_of_done (moves : ∀ time, run.Moves remote time) {answer : Answer}
    (found : run.job? time index = some ⟨operation, .done (.ok answer)⟩) {later : Nat}
    (after : time ≤ later) : run.job? later index = some ⟨operation, .done (.ok answer)⟩ := by
  induction later, after using Nat.le_induction with
  | base => exact found
  | succ later _ ih =>
    rcases (moves later).job index with same | ⟨absent, _⟩ | ⟨_, _, _, _, held, reached, advances⟩
    · exact same.trans ih
    · rw [absent] at ih
      cases ih
    · rw [held] at ih
      cases ih
      rw [advances.eq_of_done] at reached
      exact reached

/-- Where an answer came from. -/
theorem exists_origin (moves : ∀ time, run.Moves remote time) {stage : Stage} {answer : Answer}
    (found : run.job? time index = some ⟨operation, stage⟩) (given : stage.answer? = some answer) :
    ∃ origin < time, ∃ before after, run.job? origin index = some ⟨operation, before⟩ ∧
      run.job? (origin + 1) index = some ⟨operation, after⟩ ∧ before.answer? = none ∧
      after.answer? = some answer ∧
      remote.Advances operation before (run.reached origin).2 after
        (run.reached (origin + 1)).2 := by
  induction time generalizing stage with
  | zero => cases found
  | succ time ih =>
    rcases (moves time).job index with same | ⟨_, _, ready⟩ | ⟨_, before, _, _, held, next, advances⟩
    · rw [same] at found
      obtain ⟨origin, before, rest⟩ := ih found given
      exact ⟨origin, by omega, rest⟩
    · rw [ready] at found
      cases found
      cases given
    · rw [next] at found
      cases found
      cases answered : before.answer? with
      | none => exact ⟨time, by omega, before, stage, held, next, answered, given, advances⟩
      | some earlier =>
        obtain rfl := Option.some.inj ((advances.answer? answered).symm.trans given)
        obtain ⟨origin, before, rest⟩ := ih held answered
        exact ⟨origin, by omega, rest⟩

end Interleaving

end AddressRecords
