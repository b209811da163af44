/-!
What the status of a zone means for its records.
-/

namespace AddressRecords

inductive ZoneStatus
  | active
  /-- Usable, though its activation has not finished. -/
  | degraded (raw : String)
  /-- A status that is not known; taken to be usable. -/
  | undocumented (raw : String)
  | removed
  deriving DecidableEq, Repr

namespace ZoneStatus

def ofText (raw : String) : ZoneStatus :=
  if raw = "active" then active
  else if raw = "pending" ∨ raw = "initializing" then degraded raw
  else if raw = "deleted" then removed
  else undocumented raw

/-- Whether a zone of this status may own records. -/
def isEligible : ZoneStatus → Bool
  | removed => false
  | _ => true

end ZoneStatus

/-- A zone registered under some name. -/
structure Zone where
  id : String
  status : ZoneStatus
  deriving DecidableEq, Repr

end AddressRecords
