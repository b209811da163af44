import AddressRecords.Record.Store

/-!
Keys and what a remote knows them by: the name and the type of a record tell its domain and its
family.
-/

namespace AddressRecords

theorem Family.recordType_injective {first second : Family}
    (h : first.recordType = second.recordType) : first = second := by
  cases first <;> cases second <;> first | rfl | simp [recordType] at h

/-- No name starts with a label that is an asterisk. -/
theorem DomainName.text_ne_star (name : DomainName) (rest : List Char) :
    name.text.toList ≠ '*' :: '.' :: rest := by
  intro starts
  have star : "*" ∈ labelsOf name.text := by
    rw [labelsOf, starts]
    simp [List.splitOn_cons_eq_if_modifyHead]
  exact (name.labels_valid "*" star).2 rfl

namespace Domain

/-- The first label of a wildcard's name is an asterisk, which is a label of no other name. -/
theorem text_ne_wildcard (name apex : DomainName) : name.text ≠ "*." ++ apex.text := by
  intro same
  have starts : name.text.toList = '*' :: '.' :: apex.text.toList := by
    rw [same, String.toList_append]
    rfl
  exact name.text_ne_star apex.text.toList starts

theorem name_ext {first second : DomainName} (h : first.text = second.text) : first = second := by
  cases first
  cases second
  cases h
  rfl

theorem wireName_injective {first second : Domain} (h : first.wireName = second.wireName) :
    first = second := by
  cases first with
  | literal name =>
    cases second with
    | literal other => exact congrArg literal (name_ext h)
    | wildcard apex => exact absurd h (text_ne_wildcard name apex)
  | wildcard apex =>
    cases second with
    | literal name => exact absurd h.symm (text_ne_wildcard name apex)
    | wildcard other =>
      exact congrArg wildcard (name_ext (String.append_right_inj "*." |>.mp h))

end Domain

theorem RecordKey.ext_wire {first second : RecordKey}
    (names : first.domain.wireName = second.domain.wireName)
    (types : first.family.recordType = second.family.recordType) : first = second := by
  obtain ⟨domain, family⟩ := first
  obtain rfl := Domain.wireName_injective names
  obtain rfl := Family.recordType_injective types
  rfl

end AddressRecords
