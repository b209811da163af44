import AddressRecords.Proofs.Zone.Filling
import Mathlib.Data.List.Induction

/-!
Look-ups of one name share their fetches: however look-ups and flushes are interleaved, those that
took their cell between the same two flushes have one fetch at a time and one successful fetch at
most, and whoever fails has failed itself. What was fetched before a flush is never seen after it.
-/

namespace AddressRecords.ZoneLookups

variable {σ : Type} {took taken : Takes} {fetched fetches : Fetches} {epoch : Nat}
  {all : ZoneLookups}

/-! One move. -/

structure Sound (took : Takes) (fetched : Fetches) (epoch : Nat) (all : ZoneLookups) : Prop where
  allotted : Allotted took epoch all
  placed : Placed took all
  filled : Filled all
  answered : Answered took fetched all

namespace Sound

theorem congr (h : Sound took fetched epoch all) (takes : ∀ i e n c, taken i e n c ↔ took i e n c)
    (asks : ∀ i c a, fetches i c a ↔ fetched i c a) : Sound taken fetches epoch all := by
  obtain rfl : taken = took := by
    funext i e n c
    exact propext (takes i e n c)
  obtain rfl : fetches = fetched := by
    funext i c a
    exact propext (asks i c a)
  exact h

theorem flush (h : Sound took fetched epoch all) :
    Sound took fetched (epoch + 1) { all with cellOf := [] } where
  allotted := h.allotted.flush
  placed := ⟨h.placed.holds, h.placed.taken, h.placed.once⟩
  filled := ⟨h.filled.filling, h.filled.alone, h.filled.empty⟩
  answered := ⟨h.answered.took_of_fetched, h.answered.stands, h.answered.flying,
    h.answered.content, h.answered.shared, h.answered.failed, h.answered.one_success⟩

theorem lookups_start {name : String} {index : Nat} {lookup : ZoneLookup}
    (found : all.lookups[index]? = some lookup) :
    (all.start name).lookups[index]? = some lookup :=
  List.getElem?_append_left (List.getElem?_eq_some_iff.mp found).1 ▸ found

theorem of_lookups_start {name title : String} {index : Nat} {phase : LookupPhase}
    (found : (all.start name).lookups[index]? = some ⟨title, phase⟩) :
    phase = .ready ∨ all.lookups[index]? = some ⟨title, phase⟩ := by
  rw [ZoneLookups.start, List.getElem?_append] at found
  split at found
  · exact .inr found
  · obtain ⟨inside, same⟩ := List.getElem?_eq_some_iff.mp found
    rw [List.getElem_singleton] at same
    cases same
    exact .inl rfl

theorem start (h : Sound took fetched epoch all) (name : String) :
    Sound took fetched epoch (all.start name) := by
  have before {index : Nat} {title : String} {phase : LookupPhase} (started : phase ≠ .ready)
      (found : (all.start name).lookups[index]? = some ⟨title, phase⟩) :
      all.lookups[index]? = some ⟨title, phase⟩ :=
    (of_lookups_start found).resolve_left started
  refine ⟨h.allotted.keep rfl rfl, ?_, ?_, ?_⟩
  · constructor
    case holds =>
      intro index time title cell earlier
      obtain ⟨phase, found, has⟩ := h.placed.holds earlier
      exact ⟨phase, lookups_start found, has⟩
    case taken =>
      intro index title phase found
      rcases of_lookups_start found with ready | found
      · exact .inl ready
      · exact h.placed.taken found
    case once => exact h.placed.once
  · constructor
    case filling =>
      intro index title cell answer found
      exact h.filled.filling (before nofun found)
    case alone =>
      intro index other title label cell answer result found same
      exact h.filled.alone (before nofun found) (before nofun same)
    case empty =>
      intro cell busy
      exact h.filled.empty busy
  · constructor
    case took_of_fetched => exact h.answered.took_of_fetched
    case stands =>
      intro index cell answer began
      obtain ⟨title, stands⟩ := h.answered.stands began
      exact ⟨title, stands.imp lookups_start (And.imp_left lookups_start)⟩
    case flying => exact fun found => h.answered.flying (before nofun found)
    case content =>
      intro cell zones kept
      obtain ⟨index, title, began, given⟩ := h.answered.content kept
      exact ⟨index, title, began, lookups_start given⟩
    case shared => exact fun earlier given => h.answered.shared earlier (before nofun given)
    case failed => exact fun given => h.answered.failed (before nofun given)
    case one_success => exact h.answered.one_success

variable {index cell : Nat} {name : String} {before phase : LookupPhase} {next : ZoneLookups}

/-- A look-up comes further with the cell it has. -/
theorem settle (h : Sound took fetched epoch all) (quiet : Quiet index name before phase all next)
    (cellOf : next.cellOf = all.cellOf) (length : next.cells.length = all.cells.length)
    (keeps : ∀ cell, before.Has cell → phase.Has cell)
    (placed : (name = "" ∧ phase = .done (.ok [])) ∨ ∃ time cell, took index time name cell)
    (shares : ∀ {e n c zones}, took index e n c → phase = .done (.ok zones) →
      all.content? c = some zones)
    (succeeds : ∀ failure, phase ≠ .done (.error failure)) : Sound took fetched epoch next where
  allotted := h.allotted.keep cellOf length
  placed := h.placed.advance quiet.found quiet.advances keeps placed
  filled := h.filled.quiet quiet
  answered := h.answered.quiet quiet id (fun earlier _ => earlier) shares succeeds

/-- A look-up takes a cell. -/
theorem take (h : Sound took fetched epoch all)
    (quiet : Quiet index name .ready (.holding cell) all next)
    (allotted : Allotted (took.add index epoch name cell) epoch next) :
    Sound (took.add index epoch name cell) fetched epoch next where
  allotted
  placed := h.placed.take quiet.found quiet.advances
  filled := h.filled.quiet quiet
  answered := by
    refine h.answered.quiet quiet .inl ?_ nofun nofun
    rintro i e n c (earlier | ⟨rfl, -⟩) foreign
    · exact earlier
    · exact absurd rfl foreign

variable {source : ZoneSource σ} {remote : σ} {reached : ZoneLookups × σ}

/-- What is seen of a step decides which cell the look-up took and which fetch it began. -/
theorem step (h : Sound took fetched epoch all)
    (stepped : Stepped source index all remote reached) :
    Sound
      (fun i e n c => took i e n c ∨ (i = index ∧ e = epoch ∧
        all.lookups[index]? = some ⟨n, .ready⟩ ∧
        reached.1.lookups[index]? = some ⟨n, .holding c⟩))
      (fun i c a => fetched i c a ∨ (i = index ∧ ∃ n,
        all.lookups[index]? = some ⟨n, .waiting c⟩ ∧
        reached.1.lookups[index]? = some ⟨n, .fetching c a⟩))
      epoch reached.1 := by
  cases stepped with
  | stays =>
    refine h.congr ?_ ?_
    · intro i e n c
      refine or_iff_left ?_
      rintro ⟨-, -, ready, holds⟩
      rw [ready] at holds
      cases holds
    · intro i c a
      refine or_iff_left ?_
      rintro ⟨-, n, waits, begins⟩
      rw [waits] at begins
      cases begins
  | root found =>
    have advances : Advances index "" (.done (.ok [])) all _ := advances_setPhase found
    have quiet : Quiet index "" .ready (.done (.ok [])) all _ :=
      ⟨found, advances, by simp, by simp, fun _ => rfl, fun _ => rfl⟩
    have untaken {e c : Nat} {n : String} : ¬ took index e n c := by
      intro earlier
      obtain ⟨phase, same, has⟩ := h.placed.holds earlier
      rw [found] at same
      cases same
      exact has
    have settled := h.settle quiet rfl rfl (fun _ impossible => impossible.elim) (.inl ⟨rfl, rfl⟩)
      (fun earlier _ => absurd earlier untaken) (by simp)
    exact settled.congr (by simp [advances.here]) (by simp [advances.here])
  | @joins name cell found named mapped =>
    have advances : Advances index name (.holding cell) all _ := advances_setPhase found
    have quiet : Quiet index name .ready (.holding cell) all _ :=
      ⟨found, advances, by simp, by simp, fun _ => rfl, fun _ => rfl⟩
    have settled := h.take quiet ((h.allotted.join mapped).keep rfl rfl)
    refine settled.congr ?_ (by simp [advances.here])
    simp [Takes.add, found, advances.here, eq_comm]
  | @opens name found named unmapped =>
    have advances : Advances index name (.holding all.cells.length) all
        ((all.openCell name).setPhase index (.holding all.cells.length)) :=
      @advances_setPhase (all.openCell name) _ _ _ _ found
    have quiet : Quiet index name .ready (.holding all.cells.length) all _ :=
      ⟨found, advances, by simp, by simp, by simp, by simp⟩
    have settled := h.take quiet ((h.allotted.opened unmapped).keep rfl rfl)
    refine settled.congr ?_ (by simp [advances.here])
    simp [Takes.add, found, advances.here, eq_comm]
  | @reads name before cell zones found awaits filled =>
    have started : before ≠ .ready ∧ ∀ answer, before ≠ .done answer := by
      rcases awaits with rfl | rfl <;> simp
    have unasked : ∀ place answer, before ≠ .fetching place answer := by
      rcases awaits with rfl | rfl <;> simp
    have own {place : Nat} (has : before.Has place) : cell = place := by
      rcases awaits with rfl | rfl <;> exact has
    have advances : Advances index name (.done (.ok zones)) all _ := advances_setPhase found
    have quiet : Quiet index name before (.done (.ok zones)) all _ :=
      ⟨found, advances, by simp [unasked], started.2, fun _ => rfl, fun _ => rfl⟩
    obtain ⟨time, place, taken, -⟩ := h.placed.exists_took found started.1 started.2
    have settled := h.settle quiet rfl rfl (fun _ _ => trivial) (.inr ⟨time, place, taken⟩)
      (by
        intro e n c given earlier same
        cases same
        obtain ⟨phase, same, has⟩ := h.placed.holds earlier
        rw [found] at same
        cases same
        exact own has ▸ filled)
      (by simp)
    exact settled.congr (by simp [advances.here]) (by simp [advances.here])
  | @misses name cell found =>
    have advances : Advances index name (.waiting cell) all _ := advances_setPhase found
    have quiet : Quiet index name (.holding cell) (.waiting cell) all _ :=
      ⟨found, advances, by simp, by simp, fun _ => rfl, fun _ => rfl⟩
    obtain ⟨time, place, taken, -⟩ := h.placed.exists_took found (by simp) (by simp)
    have settled := h.settle quiet rfl rfl (fun _ has => has) (.inr ⟨time, place, taken⟩)
      (by simp) (by simp)
    exact settled.congr (by simp [advances.here]) (by simp [advances.here])
  | @begins name cell found unfilled free =>
    have advances : Advances index name (.fetching cell (source name remote).value) all _ :=
      advances_beginFetch found
    obtain ⟨time, place, taken, own⟩ := h.placed.exists_took found (by simp) (by simp)
    obtain rfl : cell = place := own
    have inside := (h.allotted.past taken).2
    have begun : Sound took (fetched.add index cell (source name remote).value) epoch
        (all.beginFetch index cell (source name remote).value) :=
      { allotted := h.allotted.keep rfl (length_cells_changeCell ..)
        placed := h.placed.advance found advances (fun _ has => has) (.inr ⟨time, cell, taken⟩)
        filled := h.filled.beginFetch inside found unfilled free
        answered := h.answered.beginFetch h.filled taken found unfilled free }
    refine begun.congr (by simp [found]) ?_
    simp [Fetches.add, found, advances.here, eq_comm]
  | @ends name cell answer found =>
    have advances : Advances index name (.done answer) all _ := advances_endFetch found
    obtain ⟨time, place, taken, -⟩ := h.placed.exists_took found (by simp) (by simp)
    have ended : Sound took fetched epoch (all.endFetch index cell answer) :=
      { allotted := h.allotted.keep rfl (length_cells_changeCell ..)
        placed := h.placed.advance found advances (fun _ _ => trivial) (.inr ⟨time, place, taken⟩)
        filled := h.filled.endFetch found
        answered := h.answered.endFetch h.placed h.filled found }
    exact ended.congr (by simp [found]) (by simp [found])

end Sound

/-! Runs. -/

section

variable (source : ZoneSource σ) (remote : σ) (moves : List Move)

theorem took_concat (last : Move) (index epoch : Nat) (name : String) (cell : Nat) :
    Took source remote (moves ++ [last]) index epoch name cell ↔
      Took source remote moves index epoch name cell ∨
      (last = .step index ∧ epoch = moves.count .flush ∧
        lookupAt source remote moves index = some ⟨name, .ready⟩ ∧
        lookupAt source remote (moves ++ [last]) index = some ⟨name, .holding cell⟩) := by
  constructor
  · rintro ⟨before, within, rfl, ready, holds⟩
    rcases List.prefix_concat_iff.mp within with whole | earlier
    · obtain ⟨rfl, ended⟩ := List.append_inj' whole rfl
      obtain rfl : last = .step index := (List.singleton_inj.mp ended).symm
      exact .inr ⟨rfl, rfl, ready, holds⟩
    · exact .inl ⟨before, earlier, rfl, ready, holds⟩
  · rintro (⟨before, within, rfl, ready, holds⟩ | ⟨rfl, rfl, ready, holds⟩)
    · exact ⟨before, within.trans (List.prefix_append ..), rfl, ready, holds⟩
    · exact ⟨moves, List.prefix_rfl, rfl, ready, holds⟩

theorem fetched_concat (last : Move) (index cell : Nat)
    (answer : Except Api.Failure (List Zone)) :
    (∃ began, Fetched source remote (moves ++ [last]) began index cell answer) ↔
      (∃ began, Fetched source remote moves began index cell answer) ∨
      (last = .step index ∧ ∃ name,
        lookupAt source remote moves index = some ⟨name, .waiting cell⟩ ∧
        lookupAt source remote (moves ++ [last]) index = some ⟨name, .fetching cell answer⟩) := by
  constructor
  · rintro ⟨began, within, name, waits, fetches⟩
    rcases List.prefix_concat_iff.mp within with whole | earlier
    · obtain ⟨rfl, ended⟩ := List.append_inj' whole rfl
      obtain rfl : last = .step index := (List.singleton_inj.mp ended).symm
      exact .inr ⟨rfl, name, waits, fetches⟩
    · exact .inl ⟨began, earlier, name, waits, fetches⟩
  · rintro (⟨began, within, name, waits, fetches⟩ | ⟨rfl, name, waits, fetches⟩)
    · exact ⟨began, within.trans (List.prefix_append ..), name, waits, fetches⟩
    · exact ⟨moves, List.prefix_rfl, name, waits, fetches⟩

theorem sound_idle : Sound (fun _ _ _ _ => False) (fun _ _ _ => False) 0 idle where
  allotted := ⟨nofun, nofun, nofun, nofun, nofun⟩
  placed := ⟨nofun, nofun, nofun⟩
  filled := ⟨nofun, nofun, nofun⟩
  answered := ⟨nofun, nofun, nofun, nofun, nofun, nofun, nofun⟩

theorem sound_of_run :
    Sound (Took source remote moves)
      (fun index cell answer => ∃ began, Fetched source remote moves began index cell answer)
      (moves.count .flush) (after source remote moves).1 := by
  induction moves using List.reverseRecOn with
  | nil =>
    refine sound_idle.congr ?_ ?_
    · rintro index epoch name cell
      simp [Took]
    · rintro index cell answer
      simp [Fetched]
  | append_singleton moves last ih =>
    cases last with
    | start name =>
      have grown := ih.start name
      have same : (after source remote (moves ++ [.start name])).1 =
          (after source remote moves).1.start name := by
        rw [after_concat]
        rfl
      rw [same, List.count_append]
      refine grown.congr ?_ ?_
      · intro index epoch title cell
        simp [took_concat]
      · intro index cell answer
        simp [fetched_concat]
    | flush =>
      have same : (after source remote (moves ++ [.flush])).1 =
          { (after source remote moves).1 with cellOf := [] } := by
        rw [after_concat]
        rfl
      rw [same, List.count_append]
      refine ih.flush.congr ?_ ?_
      · intro index epoch title cell
        simp [took_concat]
      · intro index cell answer
        simp [fetched_concat]
    | step index =>
      have stepped : Stepped source index (after source remote moves).1
          (after source remote moves).2 (after source remote (moves ++ [.step index])) := by
        rw [after_concat]
        exact step_stepped ..
      rw [List.count_append]
      refine (ih.step stepped).congr ?_ ?_
      · intro other epoch title cell
        rw [took_concat]
        refine or_congr_right ?_
        constructor
        · rintro ⟨⟨⟩, seen⟩
          exact ⟨rfl, seen⟩
        · rintro ⟨rfl, seen⟩
          exact ⟨rfl, seen⟩
      · intro other cell answer
        rw [fetched_concat]
        refine or_congr_right ?_
        constructor
        · rintro ⟨⟨⟩, seen⟩
          exact ⟨rfl, seen⟩
        · rintro ⟨rfl, seen⟩
          exact ⟨rfl, seen⟩

end

section

variable {source : ZoneSource σ} {remote : σ} {moves began : List Move} {index cell : Nat}
  {answer : Except Api.Failure (List Zone)}

theorem Took.of_prefix {before : List Move} {epoch : Nat} {name : String}
    (took : Took source remote before index epoch name cell) (within : before <+: moves) :
    Took source remote moves index epoch name cell := by
  obtain ⟨earlier, inside, seen⟩ := took
  exact ⟨earlier, inside.trans within, seen⟩

/-- A look-up that fetches has taken the cell before. -/
theorem Fetched.exists_took (fetched : Fetched source remote moves began index cell answer) :
    ∃ epoch name, Took source remote began index epoch name cell ∧ epoch ≤ began.count .flush ∧
      lookupAt source remote began index = some ⟨name, .waiting cell⟩ := by
  obtain ⟨-, name, waits, -⟩ := fetched
  have sound := sound_of_run source remote began
  obtain ⟨epoch, place, took, own⟩ := sound.placed.exists_took waits (by simp) (by simp)
  obtain rfl : cell = place := own
  exact ⟨epoch, name, took, (sound.allotted.past took).1, waits⟩

theorem Fetched.within (fetched : Fetched source remote moves began index cell answer) :
    began <+: moves :=
  (List.prefix_append ..).trans fetched.1

/-- The answer of a fetch is the source's. -/
theorem Fetched.answer_eq {name : String}
    (fetched : Fetched source remote moves began index cell answer)
    (waits : lookupAt source remote began index = some ⟨name, .waiting cell⟩) :
    answer = (source name (after source remote began).2).value := by
  obtain ⟨-, title, same, fetches⟩ := fetched
  rw [waits] at same
  cases same
  have stepped := step_stepped source index (after source remote began).1
    (after source remote began).2
  rw [lookupAt, after_concat] at fetches
  have reached : ∀ state, Stepped source index (after source remote began).1
      (after source remote began).2 state →
      state.1.lookups[index]? = some ⟨name, .fetching cell answer⟩ →
      answer = (source name (after source remote began).2).value := by
    intro state stepped seen
    rw [lookupAt] at waits
    cases stepped with
    | stays =>
      rw [waits] at seen
      cases seen
    | root found | joins found | opens found | misses found | ends found =>
      rw [waits] at found
      cases found
    | reads found =>
      rw [(advances_setPhase found).here] at seen
      cases seen
    | begins found =>
      rw [(advances_beginFetch found).here] at seen
      rw [waits] at found
      cases found
      cases seen
      rfl
  exact reached _ stepped fetches

/-- Of two stretches of a run, the one with more flushes goes beyond a flush of the other. -/
theorem flushed_of_count_lt {before since : List Move} (flushed : before ++ [.flush] <+: moves)
    (within : since <+: moves) (more : before.count .flush < since.count .flush) :
    before ++ [.flush] <+: since := by
  rcases List.prefix_or_prefix_of_prefix flushed within with after | short
  · exact after
  · rcases List.prefix_concat_iff.mp short with same | shorter
    · exact same ▸ List.prefix_rfl
    · have counted := shorter.sublist.count_le (.flush : Move)
      omega

end

/-! What holds of every run. -/

section

variable (source : ZoneSource σ) (remote : σ) (moves : List Move)

/-- The look-up took the cell of this name after so many flushes. -/
def IsOf (epoch : Nat) (name : String) (index : Nat) : Prop :=
  ∃ cell, Took source remote moves index epoch name cell

/-- Look-ups that take their cell between the same two flushes share one fetch of its name. -/
structure SharesFetches : Prop where
  /-- Whoever is answered took a cell, except for look-ups of the root. -/
  answered : ∀ index name answer,
    lookupAt source remote moves index = some ⟨name, .done answer⟩ →
    (name = "" ∧ answer = .ok []) ∨ ∃ epoch, IsOf source remote moves epoch name index
  /-- Fetches ask the source. -/
  asks : ∀ began index cell answer, Fetched source remote moves began index cell answer →
    ∃ epoch name, IsOf source remote moves epoch name index ∧ epoch ≤ began.count .flush ∧
      answer = (source name (after source remote began).2).value
  one_in_flight : ∀ epoch name index other cell place answer result,
    IsOf source remote moves epoch name index → IsOf source remote moves epoch name other →
    lookupAt source remote moves index = some ⟨name, .fetching cell answer⟩ →
    lookupAt source remote moves other = some ⟨name, .fetching place result⟩ → index = other
  one_success : ∀ epoch name index other began since cell place zones found,
    IsOf source remote moves epoch name index → IsOf source remote moves epoch name other →
    Fetched source remote moves began index cell (.ok zones) →
    Fetched source remote moves since other place (.ok found) → index = other
  shared : ∀ epoch name index zones, IsOf source remote moves epoch name index →
    lookupAt source remote moves index = some ⟨name, .done (.ok zones)⟩ →
    ∃ other began cell, IsOf source remote moves epoch name other ∧
      Fetched source remote moves began other cell (.ok zones) ∧
      lookupAt source remote moves other = some ⟨name, .done (.ok zones)⟩
  own_failure : ∀ index name failure,
    lookupAt source remote moves index = some ⟨name, .done (.error failure)⟩ →
    ∃ began cell, Fetched source remote moves began index cell (.error failure)
  /-- A look-up that had no cell yet at a flush is answered by what was fetched after it. -/
  fresh : ∀ before, before ++ [.flush] <+: moves → ∀ index,
    (∀ name phase, lookupAt source remote before index = some ⟨name, phase⟩ → phase = .ready) →
    ∀ name answer, lookupAt source remote moves index = some ⟨name, .done answer⟩ → name ≠ "" →
    ∃ epoch other began cell, IsOf source remote moves epoch name index ∧
      IsOf source remote moves epoch name other ∧
      Fetched source remote moves began other cell answer ∧ before ++ [.flush] <+: began
  /-- What is remembered was fetched since the last flush. -/
  remembered : ∀ name zones, (after source remote moves).1.toCache.find? name = some zones →
    ∃ index began cell, IsOf source remote moves (moves.count .flush) name index ∧
      Fetched source remote moves began index cell (.ok zones) ∧
      began.count .flush = moves.count .flush

variable {source remote moves}

theorem IsOf.epoch_unique {epoch time : Nat} {name title : String} {index : Nat}
    (one : IsOf source remote moves epoch name index)
    (two : IsOf source remote moves time title index) : epoch = time ∧ name = title := by
  obtain ⟨cell, took⟩ := one
  obtain ⟨place, same⟩ := two
  obtain ⟨epochs, names, -⟩ := (sound_of_run source remote moves).placed.once took same
  exact ⟨epochs, names⟩

/-- A look-up that fetches belongs to an epoch that had begun by then. -/
theorem Fetched.epoch_le {began : List Move} {index cell epoch : Nat} {name : String}
    {answer : Except Api.Failure (List Zone)}
    (fetched : Fetched source remote moves began index cell answer)
    (isOf : IsOf source remote moves epoch name index) : epoch ≤ began.count .flush := by
  obtain ⟨time, title, took, bound, -⟩ := fetched.exists_took
  obtain ⟨rfl, -⟩ := isOf.epoch_unique ⟨cell, took.of_prefix fetched.within⟩
  exact bound

/-- The cell a look-up fetches for is the one it took. -/
theorem Fetched.took_of_isOf {began : List Move} {index cell epoch : Nat} {name : String}
    {answer : Except Api.Failure (List Zone)}
    (fetched : Fetched source remote moves began index cell answer)
    (isOf : IsOf source remote moves epoch name index) :
    Took source remote moves index epoch name cell := by
  obtain ⟨time, title, took, -⟩ := fetched.exists_took
  have since := took.of_prefix fetched.within
  obtain ⟨rfl, rfl⟩ := isOf.epoch_unique ⟨cell, since⟩
  exact since

/-- A look-up that had no cell at a flush takes it after the flush. -/
theorem IsOf.count_lt {before : List Move} {epoch index : Nat} {name : String}
    (isOf : IsOf source remote moves epoch name index) (flushed : before ++ [.flush] <+: moves)
    (unplaced : ∀ title phase,
      lookupAt source remote before index = some ⟨title, phase⟩ → phase = .ready) :
    before.count .flush < epoch := by
  obtain ⟨cell, earlier, within, rfl, ready, holds⟩ := isOf
  rcases List.prefix_or_prefix_of_prefix flushed within with after | short
  · rcases List.prefix_concat_iff.mp after with same | beyond
    · cases (List.append_inj' same rfl).2
    · have counted := beyond.sublist.count_le (.flush : Move)
      rw [List.count_append] at counted
      exact Nat.lt_of_lt_of_le (Nat.lt_succ_self _) counted
  · rcases List.prefix_concat_iff.mp short with same | taken
    · cases (List.append_inj' same rfl).2
    · have took : Took source remote before index (earlier.count .flush) name cell :=
        ⟨earlier, taken, rfl, ready, holds⟩
      obtain ⟨phase, found, has⟩ := (sound_of_run source remote before).placed.holds took
      rw [unplaced name phase found] at has
      exact has.elim

/-- A list that was found is one that a look-up of the same epoch fetched. -/
theorem IsOf.exists_fetched {epoch index : Nat} {name : String} {zones : List Zone}
    (isOf : IsOf source remote moves epoch name index)
    (given : lookupAt source remote moves index = some ⟨name, .done (.ok zones)⟩) :
    ∃ other began cell, IsOf source remote moves epoch name other ∧
      Fetched source remote moves began other cell (.ok zones) ∧
      lookupAt source remote moves other = some ⟨name, .done (.ok zones)⟩ := by
  obtain ⟨cell, took⟩ := isOf
  have sound := sound_of_run source remote moves
  obtain ⟨other, title, ⟨began, fetched⟩, done⟩ :=
    sound.answered.content (sound.answered.shared took given)
  obtain ⟨time, label, also, -⟩ := fetched.exists_took
  have since := also.of_prefix fetched.within
  obtain ⟨rfl, rfl⟩ := sound.allotted.one_name took since
  obtain ⟨phase, found, -⟩ := sound.placed.holds since
  rw [found] at done
  cases done
  exact ⟨other, began, cell, ⟨cell, since⟩, fetched, found⟩

/-- What a cache made of the look-ups finds is the content of the name's cell. -/
theorem find?_toCache (all : ZoneLookups) (name : String) :
    all.toCache.find? name = (all.cellOf.lookup name).bind all.content? := by
  rw [ZoneCache.find?, toCache]
  induction all.cellOf with
  | nil => rfl
  | cons entry rest ih =>
    obtain ⟨other, cell⟩ := entry
    rw [List.map_cons, List.lookup_cons, List.lookup_cons]
    cases name == other with
    | true => rfl
    | false => exact ih

variable (source remote moves)

/-- However look-ups, their steps and flushes are interleaved. -/
theorem sharesFetches_of_run : SharesFetches source remote moves := by
  have sound := sound_of_run source remote moves
  constructor
  case answered =>
    intro index name answer given
    rcases sound.placed.taken given with ready | ⟨root, empty⟩ | ⟨epoch, cell, took⟩
    · cases ready
    · cases empty
      exact .inl ⟨root, rfl⟩
    · obtain ⟨phase, found, -⟩ := sound.placed.holds took
      exact .inr ⟨epoch, cell, took⟩
  case asks =>
    intro began index cell answer fetched
    obtain ⟨epoch, name, took, bound, waits⟩ := fetched.exists_took
    exact ⟨epoch, name, ⟨cell, took.of_prefix fetched.within⟩, bound, fetched.answer_eq waits⟩
  case one_in_flight =>
    rintro epoch name index other cell place answer result ⟨c, one⟩ ⟨d, two⟩ flying also
    obtain rfl := sound.allotted.one_cell one two
    have own {i b : Nat} {a : Except Api.Failure (List Zone)}
        (took : Took source remote moves i epoch name c)
        (flies : lookupAt source remote moves i = some ⟨name, .fetching b a⟩) : b = c := by
      obtain ⟨phase, found, has⟩ := sound.placed.holds took
      rw [lookupAt, found] at flies
      cases flies
      exact has
    obtain rfl := own one flying
    obtain rfl := own two also
    exact sound.filled.alone flying also
  case one_success =>
    intro epoch name index other began since cell place zones found one two fetched also
    obtain rfl := sound.allotted.one_cell (fetched.took_of_isOf one) (also.took_of_isOf two)
    exact sound.answered.one_success ⟨began, fetched⟩ ⟨since, also⟩
  case shared => exact fun epoch name index zones isOf given => isOf.exists_fetched given
  case own_failure =>
    intro index name failure given
    obtain ⟨cell, began, fetched⟩ := sound.answered.failed given
    exact ⟨began, cell, fetched⟩
  case fresh =>
    intro before flushed index unplaced name answer given named
    rcases sound.placed.taken given with ready | ⟨root, -⟩ | ⟨epoch, cell, took⟩
    · cases ready
    · exact absurd root named
    · have isOf : IsOf source remote moves epoch name index := ⟨cell, took⟩
      have later := isOf.count_lt flushed unplaced
      cases answer with
      | error failure =>
        obtain ⟨place, began, fetched⟩ := sound.answered.failed given
        exact ⟨epoch, index, began, place, isOf, isOf, fetched, flushed_of_count_lt flushed
          fetched.within (Nat.lt_of_lt_of_le later (fetched.epoch_le isOf))⟩
      | ok zones =>
        obtain ⟨other, began, place, also, fetched, -⟩ := isOf.exists_fetched given
        exact ⟨epoch, other, began, place, isOf, also, fetched, flushed_of_count_lt flushed
          fetched.within (Nat.lt_of_lt_of_le later (fetched.epoch_le also))⟩
  case remembered =>
    intro name zones found
    rw [find?_toCache] at found
    obtain ⟨cell, mapped, kept⟩ := Option.bind_eq_some_iff.mp found
    obtain ⟨first, opened⟩ := sound.allotted.mapped mapped
    obtain ⟨index, title, ⟨began, fetched⟩, -⟩ := sound.answered.content kept
    obtain ⟨time, label, took, -⟩ := fetched.exists_took
    have since := took.of_prefix fetched.within
    obtain ⟨rfl, rfl⟩ := sound.allotted.one_name opened since
    have isOf : IsOf source remote moves (moves.count .flush) name index := ⟨cell, since⟩
    exact ⟨index, began, cell, isOf, fetched,
      Nat.le_antisymm (fetched.within.sublist.count_le _) (fetched.epoch_le isOf)⟩

end

end AddressRecords.ZoneLookups
