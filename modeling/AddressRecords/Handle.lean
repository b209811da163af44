import AddressRecords.Record.Store
import AddressRecords.Zone.Resolver

/-!
Handles: verified connections through which address records are listed and changed. An operation
finds the zone that owns the domain and then makes its calls, each of them once. What a handle
remembers changes only when an operation succeeds, and each failure is told to the user.
-/

namespace AddressRecords

structure Handle (σ : Type) where
  api : Api.Service σ
  client : Api.Client

/-- The records and zones that a handle remembers, and the state of the API it talks to. -/
abbrev HandleState (σ : Type) := RecordStore × (ZoneCache × σ)

/-- Nothing is remembered yet. -/
def HandleState.initial {σ : Type} (remote : σ) : HandleState σ :=
  (RecordStore.empty, (ZoneCache.empty, remote))

namespace Handle

variable {σ τ α : Type}

/-- An action on the API alone. -/
def onRemote (act : Act σ α) : Act (HandleState σ) α := act.onSecond.onSecond

def remember (change : RecordStore → RecordStore) : Act (HandleState σ) Unit :=
  Act.modify fun (records, rest) => (change records, rest)

/-- The identifier of the zone that owns a domain. -/
def resolve (handle : Handle σ) (domain : Domain) :
    Act (HandleState σ) (Except Failure String) :=
  (Resolver.resolve (handle.client.zoneSource handle.api) domain).onSecond

/-- Does something in the zone that owns a domain. -/
def inZone (handle : Handle σ) (domain : Domain)
    (act : String → Act (HandleState σ) (Except Failure α)) :
    Act (HandleState σ) (Except Failure α) := do
  match ← handle.resolve domain with
  | .error failure => return .error failure
  | .ok zone => act zone

/-- Does something with an address, unless it is of the other family. -/
def withOwn (family : Family) (address : Address) (act : Act τ (Except Failure α)) :
    Act τ (Except Failure α) := do
  if family.owns address then act
  else
    let reason := s!"{address} is not an {family} address"
    Act.tell .warning .impossible reason
    return .error (.invalidInput reason)

/-! Listing. -/

/-- A listed record without an address of the family. -/
structure Unreadable where
  content : String
  error : AddressError
  deriving DecidableEq

/-- The addresses of listed records, or the first record that has none. -/
def readRecords (family : Family) :
    List Api.RawRecord → Except Unreadable (List (String × Address))
  | [] => .ok []
  | record :: rest =>
    match family.parseAddress record.content with
    | .error error => .error ⟨record.content, error⟩
    | .ok address => (readRecords family rest).map ((record.id, address) :: ·)

/-- Fetches the records of a name and family. -/
def fetch (handle : Handle σ) (key : RecordKey) (zone : String) :
    Act (HandleState σ) (Except Failure RecordMap) := do
  let name := key.domain.wireName
  match ← onRemote (handle.client.listRecords handle.api zone name key.family.recordType) with
  | .error failure =>
    Act.tell .warning .error
      s!"Failed to retrieve records of {Text.quote name}: {failure.message}"
    return .error (.recordListFailed name failure.message)
  | .ok listed =>
    match readRecords key.family listed with
    | .error ⟨content, error⟩ =>
      Act.tell .warning .impossible
        s!"Failed to parse the IP address in records of {Text.quote name}: {error.message}"
      return .error (.recordParseFailed name
        s!"{Text.quote content} is not an {key.family} address: {error.message}")
    | .ok entries => return .ok (.ofList entries)

/-- Lists the records of a key in its zone and remembers them. -/
def relist (handle : Handle σ) (key : RecordKey) (zone : String) :
    Act (HandleState σ) (Except Failure RecordMap) := do
  match ← handle.fetch key zone with
  | .error failure => return .error failure
  | .ok records =>
    Act.debug s!"Found {records.size} {key.family.recordType} record(s) of {key.domain}"
    remember (·.replace key records)
    return .ok records

/-- The records of a domain and family: those remembered, or else those that the API lists, which
are then remembered. -/
def list (handle : Handle σ) (key : RecordKey) :
    Act (HandleState σ) (Except Failure RecordMap) := do
  match (← Act.get).1.get key with
  | some records =>
    Act.debug s!"Record cache hit for {key.domain} ({key.family.recordType})"
    return .ok records
  | none => handle.inZone key.domain (handle.relist key)

/-! Changes. -/

def newRecord (key : RecordKey) (address : Address) (ttl : Ttl) (proxied : Bool) :
    Api.NewRecord :=
  ⟨key.domain.wireName, key.family.recordType, toString address, ttl, proxied⟩

def recordPatch (key : RecordKey) (address : Address) : Api.RecordPatch :=
  ⟨key.domain.wireName, key.family.recordType, toString address⟩

def createIn (handle : Handle σ) (key : RecordKey) (address : Address) (ttl : Ttl)
    (proxied : Bool) (zone : String) : Act (HandleState σ) (Except Failure String) := do
  let record := newRecord key address ttl proxied
  match ← onRemote (handle.client.createRecord handle.api zone record) with
  | .error failure =>
    Act.tell .warning .error
      (s!"Failed to add a new {record.recordType} record of {Text.quote record.name}: " ++
        failure.message)
    return .error (.recordMutationFailed .create record.name failure.message)
  | .ok created =>
    let cache := if (← Act.get).1.isWarm key then "patched" else "cold"
    remember (·.upsertIfWarm key created.id address)
    Act.info
      (s!"Created {record.recordType} record of {key.domain} -> {address} " ++
        s!"(ID {created.id}, TTL {ttl}, proxied {proxied}, cache {cache})")
    return .ok created.id

/-- Creates a record and gives its identifier. -/
def create (handle : Handle σ) (key : RecordKey) (address : Address) (ttl : Ttl)
    (proxied : Bool) : Act (HandleState σ) (Except Failure String) :=
  withOwn key.family address <|
    handle.inZone key.domain (handle.createIn key address ttl proxied)

/-- Tells why an existing record could not be changed. One that the API does not know is stale. -/
def reportUnchanged (mutation : Mutation) (key : RecordKey) (id : String)
    (failure : Api.Failure) : Act τ Failure := do
  let name := key.domain.wireName
  let what := s!"Failed to {mutation} a {key.family.recordType} record of " ++
    s!"{Text.quote name} (ID: {id})"
  if failure.isMissing then
    Act.tell .warning .error (what ++ s!" because it no longer exists: {failure.message}")
    return .staleRecord mutation name id failure.message
  else
    Act.tell .warning .error (what ++ s!": {failure.message}")
    return .recordMutationFailed mutation name failure.message

def updateIn (handle : Handle σ) (key : RecordKey) (id : String) (address : Address)
    (zone : String) : Act (HandleState σ) (Except Failure Unit) := do
  let patch := recordPatch key address
  match ← onRemote (handle.client.updateRecord handle.api zone id patch) with
  | .error failure => return .error (← reportUnchanged .update key id failure)
  | .ok () =>
    remember (·.upsertIfWarm key id address)
    Act.info s!"Updated {patch.recordType} record of {key.domain} -> {address} (ID {id})"
    return .ok ()

/-- Points a record at an address. -/
def update (handle : Handle σ) (key : RecordKey) (id : String) (address : Address) :
    Act (HandleState σ) (Except Failure Unit) :=
  withOwn key.family address <| handle.inZone key.domain (handle.updateIn key id address)

def deleteIn (handle : Handle σ) (key : RecordKey) (id : String) (zone : String) :
    Act (HandleState σ) (Except Failure Unit) := do
  match ← onRemote (handle.client.deleteRecord handle.api zone id) with
  | .error failure => return .error (← reportUnchanged .delete key id failure)
  | .ok () =>
    remember (·.removeIfWarm key id)
    Act.info s!"Deleted {key.family.recordType} record of {key.domain} (ID {id})"
    return .ok ()

def delete (handle : Handle σ) (key : RecordKey) (id : String) :
    Act (HandleState σ) (Except Failure Unit) :=
  handle.inZone key.domain (handle.deleteIn key id)

/-- Forgets all zones. The records stay. -/
def flush : Act (HandleState σ) Unit := ZoneCache.flush.onSecond

end Handle

end AddressRecords
