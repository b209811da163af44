import AddressRecords.Handle

/-!
What can be done with a handle, as data, and runs of several operations.
-/

namespace AddressRecords

inductive Operation
  | list (key : RecordKey)
  | create (key : RecordKey) (address : Address) (ttl : Ttl) (proxied : Bool)
  | update (key : RecordKey) (id : String) (address : Address)
  | delete (key : RecordKey) (id : String)
  | resolve (domain : Domain)
  | flush

/-- What an operation gives when it succeeds. -/
inductive Answer
  | records (records : RecordMap)
  /-- Of a new record, or of a zone. -/
  | id (id : String)
  | done
  deriving DecidableEq

namespace Operation

/-- The key whose records the operation is about. -/
def key? : Operation → Option RecordKey
  | list key | create key .. | update key .. | delete key .. => some key
  | resolve _ | flush => none

/-- The domain whose zone the operation needs. -/
def domain? : Operation → Option Domain
  | list key | create key .. | update key .. | delete key .. => some key.domain
  | resolve domain => some domain
  | flush => none

end Operation

namespace Handle

variable {σ : Type}

def perform (handle : Handle σ) : Operation → Act (HandleState σ) (Except Failure Answer)
  | .list key => do return (← handle.list key).map .records
  | .create key address ttl proxied => do
    return (← handle.create key address ttl proxied).map .id
  | .update key id address => do return (← handle.update key id address).map fun () => .done
  | .delete key id => do return (← handle.delete key id).map fun () => .done
  | .resolve domain => do return (← handle.resolve domain).map .id
  | .flush => do
    flush
    return .ok .done

/-- Performs operations one after the other, whether they succeed or not. -/
def performAll (handle : Handle σ) (operations : List Operation) :
    Act (HandleState σ) (List (Except Failure Answer)) :=
  operations.mapM handle.perform

end Handle

end AddressRecords
