import AddressRecords.Validation.Run

/-!
The validation program: what it shows and how it exits, for each environment and each API.
-/

namespace AddressRecords.Validation

inductive Ending
  | passed
  | badSettings
  | failed
  deriving DecidableEq, Repr

def Ending.exitCode : Ending → Nat
  | passed => 0
  | badSettings => 1
  | failed => 2

structure Report where
  ending : Ending
  /-- Lines for standard output. -/
  output : List String
  /-- Lines for standard error. -/
  complaints : List String
  deriving DecidableEq

variable {σ : Type}

/-- A run that logs its own failure. -/
def conclude (api : Api.Service σ) (settings : Settings) : Act σ Ending := do
  match ← (run api settings).run with
  | .ok () => return .passed
  | .error error =>
    Act.error s!"Validation failed: {error.message}"
    return .failed

/-- The lines that a log shows of events at the given level, messages for the user among them. -/
def shownLines (level : Diagnostics.Severity) (events : List Event) : List String :=
  ((events.filterMap Event.line?).filter fun line => level.rank ≤ line.severity.rank).map
    Diagnostics.LogLine.render

def program (api : Api.Service σ) (env : Environment) : Act σ Report := fun remote =>
  match Settings.ofEnvironment env with
  | .error error => ⟨⟨.badSettings, [], ["Configuration error: " ++ error.message]⟩, remote, []⟩
  | .ok settings =>
    let done := conclude api settings remote
    let level := Diagnostics.Severity.ofName settings.logLevel
    ⟨⟨done.value, shownLines level done.events, []⟩, done.state, done.events⟩

end AddressRecords.Validation
