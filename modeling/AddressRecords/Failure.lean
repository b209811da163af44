import AddressRecords.Json.Fault

/-!
Why an operation on the records of a domain failed.
-/

namespace AddressRecords

inductive Mutation
  | create
  | update
  | delete
  deriving DecidableEq, Repr

instance : ToString Mutation where
  toString
    | .create => "create"
    | .update => "update"
    | .delete => "delete"

inductive Failure
  /-- The token is empty, refused or not active. -/
  | authInvalid (reason : String)
  | zoneLookupFailed (zone reason : String)
  | zoneAmbiguous (zone : String)
  | zoneNotFound (domain : String)
  /-- A listed record holds no address of the family asked for. -/
  | recordParseFailed (domain reason : String)
  | recordListFailed (domain reason : String)
  | recordMutationFailed (mutation : Mutation) (domain reason : String)
  /-- The record to change is gone. -/
  | staleRecord (mutation : Mutation) (domain id reason : String)
  | http (reason : String)
  | config (reason : String)
  | json (fault : Json.Fault)
  | invalidInput (reason : String)
  | other (reason : String)
  deriving DecidableEq, Repr

namespace Failure

def message : Failure → String
  | authInvalid reason => "Authentication failed: " ++ reason
  | zoneLookupFailed zone reason => s!"Zone lookup for {Text.quote zone} failed: {reason}"
  | zoneAmbiguous zone => "Multiple eligible zones named " ++ Text.quote zone
  | zoneNotFound domain => "No zone found for " ++ Text.quote domain
  | recordParseFailed domain reason =>
    s!"Unparseable address in records of {Text.quote domain}: {reason}"
  | recordListFailed domain reason => s!"Listing records of {Text.quote domain} failed: {reason}"
  | recordMutationFailed mutation domain reason =>
    s!"Failed to {mutation} record of {Text.quote domain}: {reason}"
  | staleRecord mutation domain id reason =>
    s!"Failed to {mutation} record {id} of {Text.quote domain}: " ++
      s!"record no longer exists ({reason})"
  | http reason => "HTTP error: " ++ reason
  | config reason => "Configuration error: " ++ reason
  | json fault => "JSON error: " ++ fault.message
  | invalidInput reason => "Invalid input: " ++ reason
  | other reason => reason

/-- A failure told in several contexts, innermost first. Only the outermost is kept. -/
def ofContexts (reason : String) (contexts : List String) : Failure :=
  other (contexts.getLast?.getD reason)

def isStaleRecord : Failure → Bool
  | staleRecord .. => true
  | _ => false

/-- Whether the zone could not be determined, rather than the operation itself failing. -/
def isZoneError : Failure → Bool
  | zoneLookupFailed .. | zoneAmbiguous _ | zoneNotFound _ => true
  | _ => false

end Failure

end AddressRecords
