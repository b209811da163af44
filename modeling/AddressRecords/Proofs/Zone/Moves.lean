import AddressRecords.Zone.Concurrent

/-!
Runs of look-ups at the same time: what one step can do, and which look-up took which cell and made
which fetch on the way.
-/

namespace AddressRecords.ZoneLookups

variable {σ : Type}

/-! Changes and what is seen of them. -/

section

variable (all : ZoneLookups) (index cell : Nat) (phase : LookupPhase)
  (change : SharedCell → SharedCell)

theorem lookups_setPhase (other : Nat) :
    (all.setPhase index phase).lookups[other]? =
      if index = other then all.lookups[other]?.map ({ · with phase }) else all.lookups[other]? := by
  rw [setPhase, List.getElem?_modify]
  split <;> simp [*]

@[simp] theorem content?_setPhase : (all.setPhase index phase).content? cell = all.content? cell :=
  rfl

@[simp] theorem isFilling_setPhase :
    (all.setPhase index phase).isFilling cell = all.isFilling cell := rfl

@[simp] theorem length_cells_changeCell :
    (all.changeCell cell change).cells.length = all.cells.length := by
  simp [changeCell]

theorem content?_changeCell (other : Nat) :
    (all.changeCell cell change).content? other =
      if cell = other then all.cells[other]?.bind fun held => (change held).content
      else all.content? other := by
  rw [content?, changeCell, List.getElem?_modify]
  split <;> cases found : all.cells[other]? <;> simp [content?, found]

theorem isFilling_changeCell (other : Nat) :
    (all.changeCell cell change).isFilling other =
      if cell = other then all.cells[other]?.any fun held => (change held).isFilling
      else all.isFilling other := by
  rw [isFilling, changeCell, List.getElem?_modify]
  split <;> cases found : all.cells[other]? <;> simp [isFilling, found]

end

/-- The look-ups with a new cell, which is the one of the name from now on. -/
def openCell (all : ZoneLookups) (name : String) : ZoneLookups := { all with
  cellOf := all.cellOf ++ [(name, all.cells.length)]
  cells := all.cells ++ [⟨none, false⟩] }

section

variable (all : ZoneLookups) (name : String) (cell : Nat)

@[simp] theorem length_cells_openCell :
    (all.openCell name).cells.length = all.cells.length + 1 := by
  simp [openCell]

theorem lookup_openCell (other : String) :
    (all.openCell name).cellOf.lookup other =
      (all.cellOf.lookup other).or (if other = name then some all.cells.length else none) := by
  rw [openCell, List.lookup_append]
  by_cases own : other = name
  · simp [own]
  · simp [List.lookup_cons, beq_eq_false_iff_ne.mpr own, own]

@[simp] theorem content?_openCell : (all.openCell name).content? cell = all.content? cell := by
  simp only [content?, openCell, List.getElem?_append]
  split
  · rfl
  · rename_i beyond
    rw [List.getElem?_eq_none (by omega : all.cells.length ≤ cell)]
    cases cell - all.cells.length <;> rfl

@[simp] theorem isFilling_openCell : (all.openCell name).isFilling cell = all.isFilling cell := by
  simp only [isFilling, openCell, List.getElem?_append]
  split
  · rfl
  · rename_i beyond
    rw [List.getElem?_eq_none (by omega : all.cells.length ≤ cell)]
    cases cell - all.cells.length <;> rfl

end

/-- The look-ups once this one has begun to fetch. -/
def beginFetch (all : ZoneLookups) (index cell : Nat)
    (answer : Except Api.Failure (List Zone)) : ZoneLookups :=
  (all.changeCell cell ({ · with isFilling := true })).setPhase index (.fetching cell answer)

/-- The look-ups once the fetch of this one has ended. -/
def endFetch (all : ZoneLookups) (index cell : Nat)
    (answer : Except Api.Failure (List Zone)) : ZoneLookups :=
  (all.changeCell cell (·.fill answer)).setPhase index (.done answer)

/-! One step. -/

/-- What a step of the look-up with this index can come to. -/
inductive Stepped (source : ZoneSource σ) (index : Nat) (all : ZoneLookups) (remote : σ) :
    ZoneLookups × σ → Prop
  /-- It is done, it has to wait or there is no such look-up. -/
  | stays : Stepped source index all remote (all, remote)
  | root (found : all.lookups[index]? = some ⟨"", .ready⟩) :
      Stepped source index all remote (all.setPhase index (.done (.ok [])), remote)
  | joins {name : String} {cell : Nat} (found : all.lookups[index]? = some ⟨name, .ready⟩)
      (named : name ≠ "") (mapped : all.cellOf.lookup name = some cell) :
      Stepped source index all remote (all.setPhase index (.holding cell), remote)
  | opens {name : String} (found : all.lookups[index]? = some ⟨name, .ready⟩)
      (named : name ≠ "") (unmapped : all.cellOf.lookup name = none) :
      Stepped source index all remote
        ((all.openCell name).setPhase index (.holding all.cells.length), remote)
  | reads {name : String} {phase : LookupPhase} {cell : Nat} {zones : List Zone}
      (found : all.lookups[index]? = some ⟨name, phase⟩)
      (awaits : phase = .holding cell ∨ phase = .waiting cell)
      (filled : all.content? cell = some zones) :
      Stepped source index all remote (all.setPhase index (.done (.ok zones)), remote)
  | misses {name : String} {cell : Nat} (found : all.lookups[index]? = some ⟨name, .holding cell⟩) :
      Stepped source index all remote (all.setPhase index (.waiting cell), remote)
  | begins {name : String} {cell : Nat} (found : all.lookups[index]? = some ⟨name, .waiting cell⟩)
      (unfilled : all.content? cell = none) (free : all.isFilling cell = false) :
      Stepped source index all remote
        (all.beginFetch index cell (source name remote).value, (source name remote).state)
  | ends {name : String} {cell : Nat} {answer : Except Api.Failure (List Zone)}
      (found : all.lookups[index]? = some ⟨name, .fetching cell answer⟩) :
      Stepped source index all remote
        (all.endFetch index cell answer, remote)

theorem step_stepped (source : ZoneSource σ) (index : Nat) (all : ZoneLookups) (remote : σ) :
    Stepped source index all remote (step source index (all, remote)).state := by
  cases found : all.lookups[index]? with
  | none =>
    have stays : (step source index (all, remote)).state = (all, remote) := by
      simp [step, current, found]
    rw [stays]
    exact .stays
  | some lookup =>
    obtain ⟨name, phase⟩ := lookup
    cases phase with
    | ready =>
      by_cases root : name = ""
      · subst root
        have answered : (step source index (all, remote)).state =
            (all.setPhase index (.done (.ok [])), remote) := by
          simp [step, current, found, change]
        exact answered ▸ .root found
      · have took : (step source index (all, remote)).state = (all.takeCell index name, remote) := by
          simp [step, current, found, root, change]
        rw [took]
        cases mapped : all.cellOf.lookup name with
        | some cell =>
          have joined : all.takeCell index name = all.setPhase index (.holding cell) := by
            simp only [takeCell, mapped]
          exact joined ▸ .joins found root mapped
        | none =>
          have opened : all.takeCell index name =
              (all.openCell name).setPhase index (.holding all.cells.length) := by
            simp only [takeCell, mapped, openCell]
          exact opened ▸ .opens found root mapped
    | holding cell =>
      cases filled : all.content? cell with
      | some zones =>
        have read : (step source index (all, remote)).state =
            (all.setPhase index (.done (.ok zones)), remote) := by
          simp [step, current, found, filled, change]
        exact read ▸ .reads found (.inl rfl) filled
      | none =>
        have missed : (step source index (all, remote)).state =
            (all.setPhase index (.waiting cell), remote) := by
          simp [step, current, found, filled, change]
        exact missed ▸ .misses found
    | waiting cell =>
      cases filled : all.content? cell with
      | some zones =>
        have read : (step source index (all, remote)).state =
            (all.setPhase index (.done (.ok zones)), remote) := by
          simp [step, current, found, filled, change]
        exact read ▸ .reads found (.inr rfl) filled
      | none =>
        by_cases busy : all.isFilling cell
        · have stays : (step source index (all, remote)).state = (all, remote) := by
            simp [step, current, found, filled, busy]
          rw [stays]
          exact .stays
        · have begun : (step source index (all, remote)).state =
              (all.beginFetch index cell (source name remote).value,
                (source name remote).state) := by
            simp [step, current, found, filled, busy, change, beginFetch]
          exact begun ▸ .begins found filled (eq_false_of_ne_true busy)
    | fetching cell answer =>
      have ended : (step source index (all, remote)).state =
          (all.endFetch index cell answer, remote) := by
        simp [step, current, found, change, endFetch]
      exact ended ▸ .ends found
    | done answer =>
      have stays : (step source index (all, remote)).state = (all, remote) := by
        simp [step, current, found]
      rw [stays]
      exact .stays

/-! Runs. -/

/-- What can happen next: a look-up is started, one takes a step, or the lists are forgotten. -/
inductive Move
  | start (name : String)
  | step (index : Nat)
  | flush
  deriving DecidableEq

def move (source : ZoneSource σ) : Move → Act (ZoneLookups × σ) Unit
  | .start name => change (·.start name)
  | .step index => step source index
  | .flush => flush

/-- No list is known and no look-up has been started. -/
def idle : ZoneLookups := ofCache .empty []

/-- The look-ups and the source's state after some moves. -/
def after (source : ZoneSource σ) (remote : σ) (moves : List Move) : ZoneLookups × σ :=
  moves.foldl (fun state next => (move source next state).state) (idle, remote)

section

variable (source : ZoneSource σ) (remote : σ)

theorem after_concat (moves : List Move) (last : Move) :
    after source remote (moves ++ [last]) =
      (move source last (after source remote moves)).state := by
  rw [after, List.foldl_append]
  rfl

/-- A look-up as it is after some moves. -/
def lookupAt (moves : List Move) (index : Nat) : Option ZoneLookup :=
  (after source remote moves).1.lookups[index]?

/-- The look-up took the cell of its name after the lists had been forgotten `epoch` times. -/
def Took (moves : List Move) (index epoch : Nat) (name : String) (cell : Nat) : Prop :=
  ∃ before, before ++ [.step index] <+: moves ∧ before.count .flush = epoch ∧
    lookupAt source remote before index = some ⟨name, .ready⟩ ∧
    lookupAt source remote (before ++ [.step index]) index = some ⟨name, .holding cell⟩

/-- The look-up began to fetch the content of the cell right after the moves `began`. -/
def Fetched (moves began : List Move) (index cell : Nat)
    (answer : Except Api.Failure (List Zone)) : Prop :=
  began ++ [.step index] <+: moves ∧ ∃ name,
    lookupAt source remote began index = some ⟨name, .waiting cell⟩ ∧
    lookupAt source remote (began ++ [.step index]) index = some ⟨name, .fetching cell answer⟩

end

end AddressRecords.ZoneLookups
