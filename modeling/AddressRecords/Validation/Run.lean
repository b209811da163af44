import AddressRecords.Credentials
import AddressRecords.Validation.Settings

/-!
A validation run: the token is verified, and for each domain the zone is found and the records are
listed. A live run also creates, updates and deletes a record of the test address. The run ends at
the first thing that goes wrong.
-/

namespace AddressRecords.Validation

inductive RunError
  | operation (failure : Failure)
  /-- A created record is missing from the listing after it. -/
  | notListed (id : String)
  /-- A deleted record is still in the listing after it. -/
  | stillListed (id : String)
  deriving DecidableEq

def RunError.message : RunError → String
  | operation failure => failure.message
  | notListed id => s!"Created record {id} missing from cache"
  | stillListed id => s!"Deleted record {id} still cached"

variable {σ τ α : Type}

/-- An action that ends at its first error. -/
abbrev Steps (τ α : Type) := ExceptT RunError (Act τ) α

def orEnd (act : Act τ (Except Failure α)) : Steps τ α :=
  ExceptT.mk do return (← act).mapError .operation

def note (text : String) : Steps τ Unit := ExceptT.lift (Act.info text)

/-- Steps with a handle that remembers nothing yet. -/
def freshly (steps : Steps (HandleState σ) α) : Steps σ α := ExceptT.mk fun remote =>
  let done := steps.run (.initial remote)
  ⟨done.value, done.state.2.2, done.events⟩

/-- Creates, updates and deletes one record, with a look at the records in between. -/
def mutate (handle : Handle σ) (domain : Domain) (address : Address) :
    Steps (HandleState σ) Unit := do
  let key : RecordKey := ⟨domain, address.family⟩
  note s!"--- Step 3: Mutating {domain} ({key.family}) ---"
  let id ← orEnd (handle.create key address .auto false)
  let listed ← orEnd (handle.list key)
  if listed.find? id ≠ some address then throw (.notListed id)
  note s!"Created record {id}"
  orEnd (handle.update key id address)
  note s!"Updated record {id}"
  orEnd (handle.delete key id)
  let listed ← orEnd (handle.list key)
  if (listed.find? id).isSome then throw (.stillListed id)
  note s!"Deleted record {id}"

/-- Lists the records of one family. -/
def inspect (handle : Handle σ) (key : RecordKey) : Steps (HandleState σ) Unit := do
  let records ← orEnd (handle.list key)
  note s!"{records.size} record(s) of type {key.family.recordType}"
  records.entries.forM fun (id, address) => note s!"  {id} -> {address}"

/-- `testAddress` is the address of the record to create, if records are to be changed. -/
def checkDomain (handle : Handle σ) (testAddress : Option Address) (domain : Domain) :
    Steps (HandleState σ) Unit := do
  note s!"--- Step 2: {domain} ---"
  let zone ← orEnd (handle.resolve domain)
  note s!"Zone ID: {zone}"
  Family.all.forM fun family => inspect handle ⟨domain, family⟩
  testAddress.forM (mutate handle domain)

/-- The address that a run writes. A run that is not live writes none. -/
def Settings.writtenAddress (settings : Settings) : Option Address :=
  if settings.live then settings.testAddress else none

/-- Says beforehand whether records will change. -/
def announcement (settings : Settings) : String :=
  if settings.live then "Running in LIVE mode - will make actual DNS changes!"
  else "Running in DRY-RUN mode - no changes will be made"

def run (api : Api.Service σ) (settings : Settings) : Steps σ Unit := do
  ExceptT.lift (Act.warn (announcement settings))
  note "--- Step 1: Verifying the API token ---"
  let credentials ← orEnd (pure ((Credentials.ofConfig settings.handle.provider).mapError
    ConfigError.toFailure))
  let handle ← orEnd (credentials.connect api)
  note "Handle ready (API token not shown)"
  freshly (settings.domains.forM (checkDomain handle settings.writtenAddress))
  note "=== Validation complete ==="

end AddressRecords.Validation
