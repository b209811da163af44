import AddressRecords.Api.Client
import AddressRecords.Zone.Status

/-!
Zone lists, remembered by name. A name that has been looked up keeps its list, empty or not, until
all are forgotten; one whose look-up failed is asked for again.
-/

namespace AddressRecords

/-- Where zone lists come from. -/
abbrev ZoneSource (σ : Type) := String → Act σ (Except Api.Failure (List Zone))

/-- The zones that an API lists under a name. -/
def Api.Client.zoneSource {σ : Type} (client : Api.Client) (api : Api.Service σ) : ZoneSource σ :=
  fun name => do
    let answer ← client.listZones api name
    return answer.map fun zones => zones.map fun zone => ⟨zone.id, .ofText zone.status⟩

/-- A cell for each name that has been asked for, empty as long as no look-up succeeded. -/
structure ZoneCache where
  cells : List (String × Option (List Zone))

namespace ZoneCache

def empty : ZoneCache := ⟨[]⟩

/-- The list remembered for a name. -/
def find? (cache : ZoneCache) (name : String) : Option (List Zone) :=
  (cache.cells.lookup name).join

def size (cache : ZoneCache) : Nat := cache.cells.length

/-- Sets the cell of a name, which is added if there is none. -/
def setCell (name : String) (content : Option (List Zone)) :
    List (String × Option (List Zone)) → List (String × Option (List Zone))
  | [] => [(name, content)]
  | (other, held) :: rest =>
    if other = name then (name, content) :: rest
    else (other, held) :: setCell name content rest

def set (cache : ZoneCache) (name : String) (content : Option (List Zone)) : ZoneCache :=
  ⟨setCell name content cache.cells⟩

variable {σ : Type}

/-- The zones of a name. The source is asked only if nothing is remembered. The root has none. -/
def lookup (source : ZoneSource σ) (name : String) :
    Act (ZoneCache × σ) (Except Api.Failure (List Zone)) := do
  if name = "" then return .ok []
  else
    match (← Act.get).1.find? name with
    | some zones =>
      Act.debug s!"Zone cache hit for {Text.quote name}"
      return .ok zones
    | none =>
      Act.debug s!"Zone cache miss for {Text.quote name}, querying"
      let answer ← (source name).onSecond
      Act.modify fun (cache, remote) => (cache.set name answer.toOption, remote)
      return answer

/-- Forgets every list. -/
def flush : Act (ZoneCache × σ) Unit := do
  Act.debug s!"Flushing {(← Act.get).1.size} cached zone lookups"
  Act.modify fun (_, remote) => (empty, remote)

end ZoneCache

end AddressRecords
