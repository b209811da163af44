import AddressRecords.Domain.Basic
import AddressRecords.Failure
import AddressRecords.Zone.Cache

/-!
Finding the zone that owns a domain. The names the zone could have are looked up from the most
specific one on; the first with an eligible zone decides, and with two it is ambiguous.
-/

namespace AddressRecords.Resolver

variable {σ : Type}

/-- Tells the user what is not in order with a zone that is used. -/
def tellStatus (name : String) : ZoneStatus → Act σ Unit
  | .active | .removed => pure ()
  | .degraded raw => do
    Act.tell .warning .warning
      s!"Zone {Text.quote name} is {Text.quote raw}; your Cloudflare setup is incomplete"
    Act.tell .warning .warning "Some features might stop working"
  | .undocumented raw => do
    Act.tell .warning .impossible
      s!"Zone {Text.quote name} is in an undocumented status {Text.quote raw}"
    Act.tell .warning .impossible "Please report this status to the maintainers"

/-- Tells the user of each zone that is not eligible. -/
def tellSkipped (name : String) : List Zone → Act σ Unit
  | [] => pure ()
  | zone :: rest => do
    if !zone.status.isEligible then
      Act.tell .info .warning s!"Zone {Text.quote name} is \"deleted\" and thus skipped"
    tellSkipped name rest

/-- Looks the candidates up in turn. -/
def resolveAmong (source : ZoneSource σ) (domain : Domain) :
    List String → Act (ZoneCache × σ) (Except Failure String)
  | [] => do
    Act.tell .warning .error s!"Failed to find the zone of {Text.quote domain.wireName}"
    return .error (.zoneNotFound domain.wireName)
  | candidate :: rest => do
    match ← ZoneCache.lookup source candidate with
    | .error failure =>
      Act.tell .warning .error
        (s!"Failed to check the existence of a zone named {Text.quote candidate}: " ++
          failure.message)
      return .error (.zoneLookupFailed candidate failure.message)
    | .ok zones =>
      tellSkipped candidate zones
      match zones.filter (·.status.isEligible) with
      | [] => resolveAmong source domain rest
      | [zone] =>
        tellStatus candidate zone.status
        Act.debug s!"Zone of {domain} is {Text.quote candidate} (ID {zone.id})"
        return .ok zone.id
      | _ =>
        Act.tell .warning .impossible
          (s!"Found multiple active zones named {Text.quote candidate}. " ++
            "Specifying CF_ACCOUNT_ID might help")
        return .error (.zoneAmbiguous candidate)

/-- The identifier of the one eligible zone that owns the domain. -/
def resolve (source : ZoneSource σ) (domain : Domain) :
    Act (ZoneCache × σ) (Except Failure String) :=
  resolveAmong source domain domain.zoneCandidates

end AddressRecords.Resolver
