import AddressRecords.Address.Family

/-!
The address records of one name: addresses by the identifier of their record, in the order of the
identifiers.
-/

namespace AddressRecords

structure RecordMap where
  entries : List (String × Address)
  sorted : entries.Pairwise (·.1 < ·.1)
  deriving DecidableEq

namespace RecordMap

def empty : RecordMap := ⟨[], .nil⟩

def find? (records : RecordMap) (id : String) : Option Address := records.entries.lookup id

def size (records : RecordMap) : Nat := records.entries.length

/-- Puts an entry in its place, in place of one with the same identifier. -/
def insertEntry (id : String) (address : Address) :
    List (String × Address) → List (String × Address)
  | [] => [(id, address)]
  | (other, held) :: rest =>
    if id < other then (id, address) :: (other, held) :: rest
    else if id = other then (id, address) :: rest
    else (other, held) :: insertEntry id address rest

theorem mem_insertEntry {id : String} {address : Address} {entries : List (String × Address)}
    {entry : String × Address} (h : entry ∈ insertEntry id address entries) :
    entry = (id, address) ∨ entry ∈ entries := by
  induction entries with
  | nil => simpa [insertEntry] using h
  | cons head rest ih =>
    obtain ⟨other, held⟩ := head
    unfold insertEntry at h
    split at h
    · simpa using h
    · split at h
      · rcases List.mem_cons.mp h with h | h
        · exact .inl h
        · exact .inr (List.mem_cons_of_mem _ h)
      · rcases List.mem_cons.mp h with h | h
        · exact .inr (h ▸ List.mem_cons_self)
        · exact (ih h).imp_right (List.mem_cons_of_mem _)

theorem sorted_insertEntry {id : String} {address : Address} {entries : List (String × Address)}
    (sorted : entries.Pairwise (·.1 < ·.1)) :
    (insertEntry id address entries).Pairwise (·.1 < ·.1) := by
  induction entries with
  | nil => exact List.pairwise_singleton ..
  | cons head rest ih =>
    obtain ⟨other, held⟩ := head
    obtain ⟨above, sortedRest⟩ := List.pairwise_cons.mp sorted
    unfold insertEntry
    split
    · rename_i before
      refine List.pairwise_cons.mpr ⟨fun entry mem => ?_, sorted⟩
      rcases List.mem_cons.mp mem with rfl | mem
      · exact before
      · exact String.lt_trans before (above entry mem)
    · split
      · rename_i same
        subst same
        exact List.pairwise_cons.mpr ⟨above, sortedRest⟩
      · rename_i notBefore different
        refine List.pairwise_cons.mpr ⟨fun entry mem => ?_, ih sortedRest⟩
        rcases mem_insertEntry mem with rfl | mem
        · exact Decidable.byContradiction fun notAfter =>
            different (String.le_antisymm (String.not_lt.mp notAfter) (String.not_lt.mp notBefore))
        · exact above entry mem

def insert (records : RecordMap) (id : String) (address : Address) : RecordMap :=
  ⟨insertEntry id address records.entries, sorted_insertEntry records.sorted⟩

def erase (records : RecordMap) (id : String) : RecordMap :=
  ⟨records.entries.filter (·.1 ≠ id), records.sorted.filter _⟩

/-- The entries in order; of several with one identifier the last counts. -/
def ofList (entries : List (String × Address)) : RecordMap :=
  entries.foldl (fun records entry => records.insert entry.1 entry.2) empty

end RecordMap

end AddressRecords
