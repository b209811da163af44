import AddressRecords.Domain.Basic
import AddressRecords.Record.Map

/-!
The records last known of each domain and family. An entry is cold until a listing sets it, and
changes to single records reach only an entry that is warm.
-/

namespace AddressRecords

/-- What entries are kept by. -/
structure RecordKey where
  domain : Domain
  family : Family
  deriving DecidableEq

structure RecordStore where
  entry? : RecordKey → Option RecordMap

namespace RecordStore

def empty : RecordStore := ⟨fun _ => none⟩

/-- The records of a warm entry. -/
def get (store : RecordStore) (key : RecordKey) : Option RecordMap := store.entry? key

def setEntry (store : RecordStore) (key : RecordKey) (entry : Option RecordMap) : RecordStore :=
  ⟨fun other => if other = key then entry else store.entry? other⟩

/-- Sets an entry to a complete listing. -/
def replace (store : RecordStore) (key : RecordKey) (records : RecordMap) : RecordStore :=
  store.setEntry key (some records)

def isWarm (store : RecordStore) (key : RecordKey) : Bool := (store.get key).isSome

/-- Sets one record of a warm entry. -/
def upsertIfWarm (store : RecordStore) (key : RecordKey) (id : String) (address : Address) :
    RecordStore :=
  store.setEntry key ((store.get key).map (·.insert id address))

/-- Drops one record of a warm entry. -/
def removeIfWarm (store : RecordStore) (key : RecordKey) (id : String) : RecordStore :=
  store.setEntry key ((store.get key).map (·.erase id))

end RecordStore

end AddressRecords
