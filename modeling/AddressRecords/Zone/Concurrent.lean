import AddressRecords.Zone.Cache

/-!
Look-ups of zone lists that run at the same time. Those of one name share a cell, and at most one
of them at a time fills it: if it succeeds all get its list, and if it fails the next one fetches
for itself. Forgetting takes the cells away from later look-ups only.
-/

namespace AddressRecords

structure SharedCell where
  content : Option (List Zone)
  /-- Whether a look-up is fetching the content. -/
  isFilling : Bool

namespace SharedCell

/-- What a fetch leaves behind. -/
def fill (answer : Except Api.Failure (List Zone)) (cell : SharedCell) : SharedCell :=
  ⟨answer.toOption.or cell.content, false⟩

end SharedCell

/-- How far a look-up has come. -/
inductive LookupPhase
  | ready
  | holding (cell : Nat)
  /-- Until the cell has a content or can be filled. -/
  | waiting (cell : Nat)
  /-- The answer is on its way. -/
  | fetching (cell : Nat) (answer : Except Api.Failure (List Zone))
  | done (answer : Except Api.Failure (List Zone))

structure ZoneLookup where
  name : String
  phase : LookupPhase

def ZoneLookup.answer? (lookup : ZoneLookup) : Option (Except Api.Failure (List Zone)) :=
  match lookup.phase with
  | .done answer => some answer
  | _ => none

structure ZoneLookups where
  /-- The cells that look-ups can still find, by name. -/
  cellOf : List (String × Nat)
  cells : List SharedCell
  lookups : List ZoneLookup

namespace ZoneLookups

variable {σ : Type}

def setPhase (all : ZoneLookups) (index : Nat) (phase : LookupPhase) : ZoneLookups :=
  { all with lookups := all.lookups.modify index ({ · with phase }) }

def changeCell (all : ZoneLookups) (cell : Nat) (change : SharedCell → SharedCell) : ZoneLookups :=
  { all with cells := all.cells.modify cell change }

def content? (all : ZoneLookups) (cell : Nat) : Option (List Zone) :=
  all.cells[cell]?.bind (·.content)

def isFilling (all : ZoneLookups) (cell : Nat) : Bool := all.cells[cell]?.any (·.isFilling)

/-- Gives a look-up the cell of a name, which is made if there is none. -/
def takeCell (all : ZoneLookups) (index : Nat) (name : String) : ZoneLookups :=
  match all.cellOf.lookup name with
  | some cell => all.setPhase index (.holding cell)
  | none =>
    let cell := all.cells.length
    let grown : ZoneLookups := { all with
      cellOf := all.cellOf ++ [(name, cell)]
      cells := all.cells ++ [⟨none, false⟩] }
    grown.setPhase index (.holding cell)

def current : Act (ZoneLookups × σ) ZoneLookups := do
  return (← Act.get).1

def change (f : ZoneLookups → ZoneLookups) : Act (ZoneLookups × σ) Unit :=
  Act.modify fun (all, remote) => (f all, remote)

/-- One step of one look-up; others may run before its next. One that has to wait does nothing. -/
def step (source : ZoneSource σ) (index : Nat) : Act (ZoneLookups × σ) Unit := do
  let all ← current
  match all.lookups[index]? with
  | none => return ()
  | some ⟨name, phase⟩ =>
    match phase with
    | .ready =>
      if name = "" then change (·.setPhase index (.done (.ok [])))
      else change (·.takeCell index name)
    | .holding cell =>
      match all.content? cell with
      | some zones =>
        Act.debug s!"Zone cache hit for {Text.quote name}"
        change (·.setPhase index (.done (.ok zones)))
      | none => change (·.setPhase index (.waiting cell))
    | .waiting cell =>
      match all.content? cell with
      | some zones => change (·.setPhase index (.done (.ok zones)))
      | none =>
        if all.isFilling cell then return ()
        else
          Act.debug s!"Zone cache miss for {Text.quote name}, querying"
          let answer ← (source name).onSecond
          change fun all => (all.changeCell cell ({ · with isFilling := true })).setPhase index
            (.fetching cell answer)
    | .fetching cell answer =>
      change fun all => (all.changeCell cell (·.fill answer)).setPhase index (.done answer)
    | .done _ => return ()

/-- Adds a look-up. -/
def start (all : ZoneLookups) (name : String) : ZoneLookups :=
  { all with lookups := all.lookups ++ [⟨name, .ready⟩] }

/-- Forgets every list. Look-ups that hold a cell keep it. -/
def flush : Act (ZoneLookups × σ) Unit := do
  Act.debug s!"Flushing {(← current).cellOf.length} cached zone lookups"
  change ({ · with cellOf := [] })

/-! Taking turns. -/

/-- The steps of a look-up up to where it waits for something. -/
def turn (source : ZoneSource σ) (index : Nat) : Act (ZoneLookups × σ) Unit := do
  let all ← current
  match all.lookups[index]? with
  | some ⟨_, .ready⟩ =>
    step source index
    step source index
    step source index
  | _ => step source index

/-- Gives each look-up one turn. -/
def round (source : ZoneSource σ) (count : Nat) : Act (ZoneLookups × σ) Unit :=
  (List.range count).forM (turn source)

def ofCache (cache : ZoneCache) (names : List String) : ZoneLookups :=
  { cellOf := cache.cells.mapIdx fun cell (name, _) => (name, cell)
    cells := cache.cells.map fun (_, content) => ⟨content, false⟩
    lookups := names.map (⟨·, .ready⟩) }

def toCache (all : ZoneLookups) : ZoneCache :=
  ⟨all.cellOf.map fun (name, cell) => (name, all.content? cell)⟩

/-- Starts look-ups of several names together and lets them take turns. Each round but the first
answers at least one, as long as there is one without an answer. -/
def lookupAll (source : ZoneSource σ) (names : List String) :
    Act (ZoneCache × σ) (List (Except Api.Failure (List Zone))) := fun (cache, remote) =>
  let done := (List.range (names.length + 1)).forM (fun _ => round source names.length)
    (ofCache cache names, remote)
  ⟨done.state.1.lookups.filterMap ZoneLookup.answer?, (done.state.1.toCache, done.state.2),
    done.events⟩

end ZoneLookups

end AddressRecords
