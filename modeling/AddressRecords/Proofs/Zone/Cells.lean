import AddressRecords.Proofs.Zone.Moves

/-!
Whose the cells are: each belongs to one name between two flushes, and each look-up takes one.
-/

namespace AddressRecords

/-- Whether a look-up in this phase may have taken the cell. -/
def LookupPhase.Has (cell : Nat) : LookupPhase → Prop
  | .ready => False
  | .holding held | .waiting held | .fetching held _ => held = cell
  | .done _ => True

namespace ZoneLookups

variable {σ : Type}

/-- Which look-up took which cell, of which name and after how many flushes. -/
abbrev Takes := Nat → Nat → String → Nat → Prop

variable {took : Takes} {epoch : Nat} {all next : ZoneLookups}

/-! Cells. -/

/-- Every cell belongs to one name and one epoch, and each of these pairs has one cell. -/
structure Allotted (took : Takes) (epoch : Nat) (all : ZoneLookups) : Prop where
  mapped : ∀ {name cell}, all.cellOf.lookup name = some cell → ∃ index, took index epoch name cell
  current : ∀ {index name cell}, took index epoch name cell → all.cellOf.lookup name = some cell
  past : ∀ {index time name cell}, took index time name cell →
    time ≤ epoch ∧ cell < all.cells.length
  one_cell : ∀ {index other time name cell place}, took index time name cell →
    took other time name place → cell = place
  one_name : ∀ {index other time later name title cell}, took index time name cell →
    took other later title cell → time = later ∧ name = title

namespace Allotted

theorem keep (h : Allotted took epoch all) (cellOf : next.cellOf = all.cellOf)
    (length : next.cells.length = all.cells.length) : Allotted took epoch next where
  mapped found := h.mapped (cellOf ▸ found)
  current taken := cellOf ▸ h.current taken
  past taken := length ▸ h.past taken
  one_cell := h.one_cell
  one_name := h.one_name

theorem flush (h : Allotted took epoch all) :
    Allotted took (epoch + 1) { all with cellOf := [] } where
  mapped impossible := nomatch impossible
  current taken := absurd (h.past taken).1 (by omega)
  past taken := ⟨Nat.le_succ_of_le (h.past taken).1, (h.past taken).2⟩
  one_cell := h.one_cell
  one_name := h.one_name

end Allotted

/-- One more look-up took a cell. -/
def Takes.add (took : Takes) (index epoch : Nat) (name : String) (cell : Nat) : Takes :=
  fun i e n c => took i e n c ∨ (i = index ∧ e = epoch ∧ n = name ∧ c = cell)

namespace Allotted

variable {index cell : Nat} {name : String}

theorem join (h : Allotted took epoch all) (mapped : all.cellOf.lookup name = some cell) :
    Allotted (took.add index epoch name cell) epoch all := by
  obtain ⟨first, taken⟩ := h.mapped mapped
  constructor
  case mapped =>
    intro title place found
    obtain ⟨other, before⟩ := h.mapped found
    exact ⟨other, .inl before⟩
  case current =>
    rintro other title place (before | ⟨-, -, rfl, rfl⟩)
    · exact h.current before
    · exact mapped
  case past =>
    rintro other time title place (before | ⟨-, rfl, rfl, rfl⟩)
    · exact h.past before
    · exact h.past taken
  case one_cell =>
    rintro one other time title c d (before | ⟨-, rfl, rfl, rfl⟩) (since | ⟨-, at_epoch, same, rfl⟩)
    · exact h.one_cell before since
    · subst at_epoch same
      exact h.one_cell before taken
    · exact h.one_cell taken since
    · rfl
  case one_name =>
    rintro one other time later title label c (before | ⟨-, rfl, rfl, rfl⟩)
      (since | ⟨-, rfl, rfl, same⟩)
    · exact h.one_name before since
    · subst same
      exact h.one_name before taken
    · exact h.one_name taken since
    · exact ⟨rfl, rfl⟩

theorem opened (h : Allotted took epoch all) (unmapped : all.cellOf.lookup name = none) :
    Allotted (took.add index epoch name all.cells.length) epoch (all.openCell name) := by
  have fresh {other time : Nat} {title : String} :
      ¬ took other time title all.cells.length :=
    fun taken => Nat.lt_irrefl _ (h.past taken).2
  have unnamed {other place : Nat} : ¬ took other epoch name place := by
    intro taken
    rw [h.current taken] at unmapped
    cases unmapped
  constructor
  case mapped =>
    intro title place found
    rw [lookup_openCell] at found
    cases known : all.cellOf.lookup title with
    | some held =>
      rw [known] at found
      cases found
      obtain ⟨other, before⟩ := h.mapped known
      exact ⟨other, .inl before⟩
    | none =>
      rw [known, Option.none_or] at found
      split at found
      · rename_i own
        cases found
        exact ⟨index, .inr ⟨rfl, rfl, own, rfl⟩⟩
      · cases found
  case current =>
    rintro other title place (before | ⟨-, -, rfl, rfl⟩)
    · rw [lookup_openCell, h.current before]
      rfl
    · rw [lookup_openCell, unmapped, if_pos rfl]
      rfl
  case past =>
    rw [length_cells_openCell]
    rintro other time title place (before | ⟨-, rfl, rfl, rfl⟩)
    · exact ⟨(h.past before).1, Nat.lt_succ_of_lt (h.past before).2⟩
    · exact ⟨Nat.le_refl _, Nat.lt_succ_self _⟩
  case one_cell =>
    rintro one other time title c d (before | ⟨-, rfl, rfl, rfl⟩) (since | ⟨-, at_epoch, same, rfl⟩)
    · exact h.one_cell before since
    · subst at_epoch same
      exact absurd before unnamed
    · exact absurd since unnamed
    · rfl
  case one_name =>
    rintro one other time later title label c (before | ⟨-, rfl, rfl, rfl⟩)
      (since | ⟨-, rfl, rfl, same⟩)
    · exact h.one_name before since
    · subst same
      exact absurd before fresh
    · exact absurd since fresh
    · exact ⟨rfl, rfl⟩

end Allotted

/-! Look-ups. -/

/-- A look-up that is on its way or has an answer took one cell, but for one of the root. -/
structure Placed (took : Takes) (all : ZoneLookups) : Prop where
  holds : ∀ {index time name cell}, took index time name cell →
    ∃ phase, all.lookups[index]? = some ⟨name, phase⟩ ∧ phase.Has cell
  taken : ∀ {index name phase}, all.lookups[index]? = some ⟨name, phase⟩ →
    phase = .ready ∨ (name = "" ∧ phase = .done (.ok [])) ∨ ∃ time cell, took index time name cell
  once : ∀ {index time later name title cell place}, took index time name cell →
    took index later title place → time = later ∧ name = title ∧ cell = place

/-- The look-up with this index, and no other, has come to a new phase. -/
def Advances (index : Nat) (name : String) (phase : LookupPhase) (all next : ZoneLookups) : Prop :=
  ∀ other, next.lookups[other]? =
    if index = other then some ⟨name, phase⟩ else all.lookups[other]?

section

variable {index : Nat} {name : String} {phase before : LookupPhase}

theorem advances_setPhase (found : all.lookups[index]? = some ⟨name, before⟩) :
    Advances index name phase all (all.setPhase index phase) := by
  intro other
  rw [lookups_setPhase]
  split
  · rename_i own
    rw [← own, found, Option.map_some]
  · rfl

theorem Advances.here (h : Advances index name phase all next) :
    next.lookups[index]? = some ⟨name, phase⟩ := by
  rw [h index, if_pos rfl]

theorem Advances.elsewhere (h : Advances index name phase all next) {other : Nat}
    (foreign : index ≠ other) : next.lookups[other]? = all.lookups[other]? := by
  rw [h other, if_neg foreign]

namespace Placed

/-- A look-up that is not done and not about to start has the cell it took. -/
theorem exists_took (h : Placed took all) (found : all.lookups[index]? = some ⟨name, before⟩)
    (started : before ≠ .ready) (undone : ∀ answer, before ≠ .done answer) :
    ∃ time cell, took index time name cell ∧ before.Has cell := by
  rcases h.taken found with ready | ⟨-, answered⟩ | ⟨time, cell, taken⟩
  · exact absurd ready started
  · exact absurd answered (undone _)
  · obtain ⟨held, same, has⟩ := h.holds taken
    obtain rfl : before = held := by simpa [found] using same
    exact ⟨time, cell, taken, has⟩

theorem advance (h : Placed took all) (found : all.lookups[index]? = some ⟨name, before⟩)
    (advances : Advances index name phase all next)
    (keeps : ∀ cell, before.Has cell → phase.Has cell)
    (placed : (name = "" ∧ phase = .done (.ok [])) ∨ ∃ time cell, took index time name cell) :
    Placed took next := by
  constructor
  case holds =>
    intro other time title cell taken
    obtain ⟨held, same, has⟩ := h.holds taken
    by_cases own : index = other
    · subst own
      rw [found] at same
      cases same
      exact ⟨phase, advances.here, keeps cell has⟩
    · exact ⟨held, advances.elsewhere own ▸ same, has⟩
  case taken =>
    intro other title held same
    by_cases own : index = other
    · subst own
      rw [advances.here] at same
      cases same
      exact .inr placed
    · exact h.taken (advances.elsewhere own ▸ same)
  case once => exact h.once

theorem take {cell : Nat} (h : Placed took all) (found : all.lookups[index]? = some ⟨name, .ready⟩)
    (advances : Advances index name (.holding cell) all next) :
    Placed (took.add index epoch name cell) next := by
  have untaken {time : Nat} {title : String} {place : Nat} : ¬ took index time title place := by
    intro taken
    obtain ⟨held, same, has⟩ := h.holds taken
    rw [found] at same
    cases same
    exact has
  constructor
  case holds =>
    rintro other time title place (earlier | ⟨rfl, rfl, rfl, rfl⟩)
    · obtain ⟨held, same, has⟩ := h.holds earlier
      have foreign : index ≠ other := fun own => untaken (own ▸ earlier)
      exact ⟨held, advances.elsewhere foreign ▸ same, has⟩
    · exact ⟨_, advances.here, rfl⟩
  case taken =>
    intro other title held same
    by_cases own : index = other
    · subst own
      rw [advances.here] at same
      cases same
      exact .inr (.inr ⟨epoch, cell, .inr ⟨rfl, rfl, rfl, rfl⟩⟩)
    · rw [advances.elsewhere own] at same
      rcases h.taken same with ready | root | ⟨time, place, earlier⟩
      · exact .inl ready
      · exact .inr (.inl root)
      · exact .inr (.inr ⟨time, place, .inl earlier⟩)
  case once =>
    rintro other time later title label c d (earlier | ⟨rfl, rfl, rfl, rfl⟩)
      (since | ⟨same, rfl, rfl, rfl⟩)
    · exact h.once earlier since
    · exact absurd (same ▸ earlier) untaken
    · exact absurd since untaken
    · exact ⟨rfl, rfl, rfl⟩

end Placed

end

end ZoneLookups

end AddressRecords
