import AddressRecords.Diagnostics.Message

/-!
The log: lines for operators, graver ones ranking higher. Messages for the user become lines that
carry their tag.
-/

namespace AddressRecords.Diagnostics

inductive Severity
  | trace
  | debug
  | info
  | warn
  | error
  deriving DecidableEq, Repr

namespace Severity

instance : ToString Severity where
  toString
    | trace => "TRACE"
    | debug => "DEBUG"
    | info => "INFO"
    | warn => "WARN"
    | error => "ERROR"

def rank : Severity → Nat
  | trace => 0
  | debug => 1
  | info => 2
  | warn => 3
  | error => 4

/-- The least severity that a level by this name lets through; a word that names none means
`info`. Case does not matter, and no letter beyond ASCII has one of these for its lower case. -/
def ofName (name : String) : Severity :=
  match (name.map Char.toLower) with
  | "trace" => trace
  | "debug" => debug
  | "warn" => warn
  | "error" => error
  | _ => info

end Severity

structure LogLine where
  severity : Severity
  text : String
  tag : Option Tag
  deriving DecidableEq, Repr

def LogLine.ofMessage (message : Message) : LogLine :=
  let severity := match message.level with
    | .info => .info
    | .warning => .warn
    | .error => .error
  ⟨severity, message.text, some message.tag⟩

/-- How a line is shown: its severity, its text, and its tag if it has one. -/
def LogLine.render (line : LogLine) : String :=
  let tag := match line.tag with
    | some tag => s!" tag={tag}"
    | none => ""
  s!"{line.severity} {line.text}{tag}"

end AddressRecords.Diagnostics
