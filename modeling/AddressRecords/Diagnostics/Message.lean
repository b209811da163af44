/-!
Messages for the user: how grave they are, and what they are about.
-/

namespace AddressRecords.Diagnostics

inductive Level
  | info
  | warning
  | error
  deriving DecidableEq, Repr

inductive Tag
  /-- Ordinary progress. -/
  | notice
  /-- Something works but deserves attention. -/
  | warning
  /-- An operation failed. -/
  | error
  /-- A failure that comes from the user's settings. -/
  | userError
  /-- The provider answered something that should not happen. -/
  | impossible
  deriving DecidableEq, Repr

instance : ToString Tag where
  toString
    | .notice => "notice"
    | .warning => "warning"
    | .error => "error"
    | .userError => "user-error"
    | .impossible => "impossible"

structure Message where
  level : Level
  tag : Tag
  text : String
  deriving DecidableEq, Repr

end AddressRecords.Diagnostics
