import AddressRecords.Record.Map

/-!
What is found in the records of a name after they have been changed, and in those made of a list.
-/

namespace AddressRecords.RecordMap

theorem lookup_insertEntry_self (id : String) (address : Address)
    (entries : List (String × Address)) :
    (insertEntry id address entries).lookup id = some address := by
  induction entries with
  | nil => simp [insertEntry]
  | cons entry rest ih =>
    obtain ⟨first, held⟩ := entry
    unfold insertEntry
    split
    · exact List.lookup_cons_self
    · split
      · exact List.lookup_cons_self
      · rename_i different
        rw [List.lookup_cons, beq_eq_false_iff_ne.mpr different]
        exact ih

theorem lookup_insertEntry_of_ne {id other : String} (different : other ≠ id) (address : Address)
    (entries : List (String × Address)) :
    (insertEntry id address entries).lookup other = entries.lookup other := by
  have apart : (other == id) = false := beq_eq_false_iff_ne.mpr different
  induction entries with
  | nil => simp [insertEntry, List.lookup_cons, apart]
  | cons entry rest ih =>
    obtain ⟨first, held⟩ := entry
    unfold insertEntry
    split
    · rw [List.lookup_cons, apart]
    · split
      · rename_i same
        subst same
        rw [List.lookup_cons, List.lookup_cons, apart]
      · rw [List.lookup_cons, List.lookup_cons, ih]

theorem lookup_filter_ne (id : String) (entries : List (String × Address)) (other : String) :
    (entries.filter (·.1 ≠ id)).lookup other =
      if other = id then none else entries.lookup other := by
  induction entries with
  | nil => simp
  | cons entry rest ih =>
    obtain ⟨first, held⟩ := entry
    by_cases dropped : first = id
    · rw [List.filter_cons_of_neg (by simp [dropped]), ih]
      by_cases own : other = id
      · simp [own]
      · have apart : (other == first) = false := beq_eq_false_iff_ne.mpr (dropped ▸ own)
        simp [own, List.lookup_cons, apart]
    · rw [List.filter_cons_of_pos (by simp [dropped]), List.lookup_cons, List.lookup_cons, ih]
      by_cases here : other = first
      · simp [here, dropped]
      · simp [beq_eq_false_iff_ne.mpr here]

theorem find?_insert (records : RecordMap) (id : String) (address : Address) (other : String) :
    (records.insert id address).find? other =
      if other = id then some address else records.find? other := by
  split
  · rename_i own
    subst own
    exact lookup_insertEntry_self other address records.entries
  · exact lookup_insertEntry_of_ne ‹_› address records.entries

theorem find?_erase (records : RecordMap) (id other : String) :
    (records.erase id).find? other = if other = id then none else records.find? other :=
  lookup_filter_ne id records.entries other

theorem find?_foldl_insert (entries : List (String × Address)) (records : RecordMap)
    (id : String) :
    (entries.foldl (fun records entry => records.insert entry.1 entry.2) records).find? id =
      (entries.reverse.lookup id).or (records.find? id) := by
  induction entries generalizing records with
  | nil => simp
  | cons entry rest ih =>
    obtain ⟨first, address⟩ := entry
    rw [List.foldl_cons, ih, find?_insert, List.reverse_cons, List.lookup_append, Option.or_assoc,
      List.lookup_cons]
    by_cases own : id = first
    · rw [if_pos own, beq_iff_eq.mpr own]
      rfl
    · rw [if_neg own, beq_eq_false_iff_ne.mpr own]
      rfl

/-- Of several entries with one identifier the last is found. -/
theorem find?_ofList (entries : List (String × Address)) (id : String) :
    (ofList entries).find? id = entries.reverse.lookup id := by
  rw [ofList, find?_foldl_insert]
  exact Option.or_none

end AddressRecords.RecordMap
