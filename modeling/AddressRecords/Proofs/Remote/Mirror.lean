import AddressRecords.Proofs.Record.Key
import AddressRecords.Proofs.Record.Map
import AddressRecords.Proofs.Record.Remembered
import AddressRecords.Proofs.Remote.Faithful

/-!
Remembered records that mirror what a remote holds, and how they go on doing so when both are
changed alike. What makes this work is that an identifier once given for a key can never come to
stand for a record of another key of the same zone.
-/

namespace AddressRecords

namespace Holdings

variable (holdings : Holdings)

/-- What the record with this identifier says, if it is one of the key. -/
def content? (zone : String) (key : RecordKey) (id : String) : Option String :=
  (holdings.find? zone id).bind fun entry =>
    if entry.name = key.domain.wireName ∧ entry.recordType = key.family.recordType then
      some entry.content
    else none

/-- The records are all those of the key in the zone, and each has the address it says. -/
def Mirrors (zone : String) (key : RecordKey) (records : RecordMap) : Prop :=
  ∀ id, (records.find? id).map Except.ok =
    (holdings.content? zone key id).map key.family.parseAddress

/-- If there is a record with this identifier, it is one of the key. -/
def Fits (zone : String) (key : RecordKey) (id : String) : Prop :=
  ∀ entry, holdings.find? zone id = some entry →
    entry.name = key.domain.wireName ∧ entry.recordType = key.family.recordType

variable {holdings} {zone id : String} {key other : RecordKey}

theorem content?_of_find {content : String}
    (h : holdings.find? zone id = some ⟨key.domain.wireName, key.family.recordType, content⟩) :
    holdings.content? zone key id = some content := by
  simp [content?, h]

theorem find_of_content? {content : String} (h : holdings.content? zone key id = some content) :
    holdings.find? zone id = some ⟨key.domain.wireName, key.family.recordType, content⟩ := by
  obtain ⟨entry, found, given⟩ := Option.bind_eq_some_iff.mp h
  split at given
  · rename_i own
    obtain ⟨name, recordType, held⟩ := entry
    cases given
    rw [found]
    obtain ⟨rfl, rfl⟩ := own
    rfl
  · cases given

/-- A record is of one key only. -/
theorem key_unique {entry : Entry}
    (one : entry.name = key.domain.wireName ∧ entry.recordType = key.family.recordType)
    (two : entry.name = other.domain.wireName ∧ entry.recordType = other.family.recordType) :
    other = key :=
  RecordKey.ext_wire (two.1.symm.trans one.1) (two.2.symm.trans one.2)

theorem Fits.content?_eq_none (fits : holdings.Fits zone key id) (different : other ≠ key) :
    holdings.content? zone other id = none := by
  cases found : holdings.find? zone id with
  | none => simp [content?, found]
  | some entry =>
    have foreign : ¬ (entry.name = other.domain.wireName ∧
        entry.recordType = other.family.recordType) :=
      fun own => different (key_unique (fits entry found) own)
    simp [content?, found, foreign]

theorem content?_put (zone id content : String) (key : RecordKey) (valid : IsId id)
    (z : String) (other : RecordKey) (i : String) :
    (holdings.put zone id ⟨key.domain.wireName, key.family.recordType, content⟩ valid).content?
        z other i =
      if z = zone ∧ i = id then (if other = key then some content else none)
      else holdings.content? z other i := by
  by_cases here : z = zone ∧ i = id
  · by_cases own : other = key
    · simp [content?, put, here, own]
    · have foreign : ¬ (key.domain.wireName = other.domain.wireName ∧
          key.family.recordType = other.family.recordType) :=
        fun same => own (RecordKey.ext_wire same.1.symm same.2.symm)
      simp [content?, put, here, own, foreign]
  · simp [content?, put, here]

theorem content?_drop (zone id z : String) (other : RecordKey) (i : String) :
    (holdings.drop zone id).content? z other i =
      if z = zone ∧ i = id then none else holdings.content? z other i := by
  by_cases here : z = zone ∧ i = id
  · simp [content?, drop, here]
  · simp [content?, drop, here]

/-! One key. -/

variable {records : RecordMap} {content : String} {address : Address}

theorem Mirrors.insert (h : holdings.Mirrors zone key records) (valid : IsId id)
    (parsed : key.family.parseAddress content = .ok address) :
    (holdings.put zone id ⟨key.domain.wireName, key.family.recordType, content⟩ valid).Mirrors
      zone key (records.insert id address) := by
  intro i
  rw [RecordMap.find?_insert, content?_put]
  by_cases own : i = id
  · simp [own, parsed]
  · simp only [own, and_false, if_false]
    exact h i

theorem Mirrors.erase (h : holdings.Mirrors zone key records) :
    (holdings.drop zone id).Mirrors zone key (records.erase id) := by
  intro i
  rw [RecordMap.find?_erase, content?_drop]
  by_cases own : i = id
  · simp [own]
  · simp only [own, and_false, if_false]
    exact h i

/-- Records of other keys do not show in the mirror. -/
theorem Mirrors.put_other (h : holdings.Mirrors zone other records) {place : String}
    (fits : holdings.Fits place key id) (different : other ≠ key) (valid : IsId id) :
    (holdings.put place id ⟨key.domain.wireName, key.family.recordType, content⟩ valid).Mirrors
      zone other records := by
  intro i
  rw [content?_put, h i]
  by_cases here : zone = place ∧ i = id
  · obtain ⟨rfl, rfl⟩ := here
    simp [different, fits.content?_eq_none different]
  · rw [if_neg here]

theorem Mirrors.drop_other (h : holdings.Mirrors zone other records) {place : String}
    (fits : holdings.Fits place key id) (different : other ≠ key) :
    (holdings.drop place id).Mirrors zone other records := by
  intro i
  rw [content?_drop, h i]
  by_cases here : zone = place ∧ i = id
  · obtain ⟨rfl, rfl⟩ := here
    simp [fits.content?_eq_none different]
  · rw [if_neg here]

end Holdings

end AddressRecords
