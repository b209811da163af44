import AddressRecords.Handle.Operation

/-!
Operations of one handle that run at the same time. Each of them gives way to the others while its
zone is looked for and while the API is asked, and once more before it enters the answer in the
records: nothing keeps two operations on one key apart.
-/

namespace AddressRecords

/-- How far an operation has come. -/
inductive Stage
  | ready
  /-- About to look for the zone. -/
  | locating
  /-- About to ask the API for what is to be done in the zone. -/
  | asking (zone : String)
  /-- The API has done it, and its answer is on its way. -/
  | entering (answer : Answer)
  | done (result : Except Failure Answer)

/-- An operation under way. -/
structure Job where
  operation : Operation
  stage : Stage

namespace Handle

variable {σ : Type} (handle : Handle σ)

/-! The stages. -/

/-- What an operation does before it needs the API, if it does. -/
def prepare : Operation → Act (HandleState σ) Stage
  | .list key => do
    match (← Act.get).1.get key with
    | some records =>
      Act.debug s!"Record cache hit for {key.domain} ({key.family.recordType})"
      return .done (.ok (.records records))
    | none => return .locating
  | .create key address _ _ | .update key _ address => do
    match ← withOwn key.family address (return .ok ()) with
    | .error failure => return .done (.error failure)
    | .ok () => return .locating
  | .delete .. | .resolve _ => return .locating
  | .flush => do
    flush
    return .done (.ok .done)

/-- Has the API do what an operation is for. -/
def ask : Operation → String → Act (HandleState σ) (Except Failure Answer)
  | .list key, zone => do return (← handle.fetch key zone).map .records
  | .create key address ttl proxied, zone => do
    let record := newRecord key address ttl proxied
    match ← onRemote (handle.client.createRecord handle.api zone record) with
    | .error failure =>
      Act.tell .warning .error
        (s!"Failed to add a new {record.recordType} record of {Text.quote record.name}: " ++
          failure.message)
      return .error (.recordMutationFailed .create record.name failure.message)
    | .ok created => return .ok (.id created.id)
  | .update key id address, zone => do
    match ← onRemote (handle.client.updateRecord handle.api zone id (recordPatch key address)) with
    | .error failure => return .error (← reportUnchanged .update key id failure)
    | .ok () => return .ok .done
  | .delete key id, zone => do
    match ← onRemote (handle.client.deleteRecord handle.api zone id) with
    | .error failure => return .error (← reportUnchanged .delete key id failure)
    | .ok () => return .ok .done
  | .resolve _, zone => return .ok (.id zone)
  | .flush, _ => return .ok .done

/-- Enters an answer of the API in the records. -/
def enter : Operation → Answer → Act (HandleState σ) Unit
  | .list key, .records records => do
    Act.debug s!"Found {records.size} {key.family.recordType} record(s) of {key.domain}"
    remember (·.replace key records)
  | .create key address ttl proxied, .id id => do
    let cache := if (← Act.get).1.isWarm key then "patched" else "cold"
    remember (·.upsertIfWarm key id address)
    Act.info
      (s!"Created {key.family.recordType} record of {key.domain} -> {address} " ++
        s!"(ID {id}, TTL {ttl}, proxied {proxied}, cache {cache})")
  | .update key id address, _ => do
    remember (·.upsertIfWarm key id address)
    Act.info s!"Updated {key.family.recordType} record of {key.domain} -> {address} (ID {id})"
  | .delete key id, _ => do
    remember (·.removeIfWarm key id)
    Act.info s!"Deleted {key.family.recordType} record of {key.domain} (ID {id})"
  | _, _ => return ()

/-- From one stage to the next. -/
def advance (operation : Operation) : Stage → Act (HandleState σ) Stage
  | .ready => prepare operation
  | .locating => do
    match operation.domain? with
    | none => return .done (.ok .done)
    | some domain =>
      match ← handle.resolve domain with
      | .error failure => return .done (.error failure)
      | .ok zone => return .asking zone
  | .asking zone => do
    match ← handle.ask operation zone with
    | .error failure => return .done (.error failure)
    | .ok answer => return .entering answer
  | .entering answer => do
    enter operation answer
    return .done (.ok answer)
  | .done result => return .done result

/-! Runs. -/

/-- What can happen next. -/
inductive Turn
  | start (operation : Operation)
  | step (index : Nat)

def take : Turn → Act (List Job × HandleState σ) Unit
  | .start operation => Act.modify fun (jobs, state) => (jobs ++ [⟨operation, .ready⟩], state)
  | .step index => do
    match (← Act.get).1[index]? with
    | none => return ()
    | some ⟨operation, stage⟩ =>
      let next ← (handle.advance operation stage).onSecond
      Act.modify fun (jobs, state) => (jobs.set index ⟨operation, next⟩, state)

end Handle

end AddressRecords
