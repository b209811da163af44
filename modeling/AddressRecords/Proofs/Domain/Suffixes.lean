import AddressRecords.Domain.Basic

/-!
The suffixes of a name, in terms of its labels: the name itself, then the name without its first
label, and so on down to the last label alone. None of them is empty, and each is shorter than the
one before it.
-/

namespace AddressRecords

/-- A name with these labels. -/
def nameOfLabels (labels : List String) : String := ".".intercalate labels

/-- The names of all the labels, of all but the first, and so on down to the last one. -/
def namesOfTails (labels : List String) : List String :=
  (List.range labels.length).map fun i => nameOfLabels (labels.drop i)

theorem namesOfTails_cons (label : String) (rest : List String) :
    namesOfTails (label :: rest) = nameOfLabels (label :: rest) :: namesOfTails rest := by
  simp [namesOfTails, List.range_succ_eq_map, Function.comp_def]

theorem nameOfLabels_map_ofList (labels : List (List Char)) :
    nameOfLabels (labels.map String.ofList) = String.ofList (['.'].intercalate labels) := by
  apply String.toList_injective
  simp [nameOfLabels, String.toList_intercalate, Function.comp_def]

namespace DomainName

/-- Each dot leaves the labels behind it. -/
theorem tailsAfterDots_eq (text : List Char) :
    (tailsAfterDots text).map String.ofList =
      namesOfTails (((text.splitOn '.').map String.ofList).drop 1) := by
  induction text with
  | nil => rfl
  | cons c rest ih =>
    obtain ⟨label, more, split⟩ := List.exists_cons_of_ne_nil (List.splitOn_ne_nil '.' rest)
    rw [split] at ih
    by_cases dot : c = '.'
    · have whole : nameOfLabels ((label :: more).map String.ofList) = String.ofList rest := by
        rw [nameOfLabels_map_ofList, ← split, List.intercalate_splitOn]
      simp only [List.map_cons] at whole
      simpa [tailsAfterDots, dot, List.splitOn_cons_eq_if_modifyHead, split, namesOfTails_cons, whole]
        using ih
    · simpa [tailsAfterDots, dot, List.splitOn_cons_eq_if_modifyHead, split] using ih

theorem nameOfLabels_labels (name : DomainName) : nameOfLabels name.labels = name.text := by
  rw [labels, labelsOf, nameOfLabels_map_ofList, List.intercalate_splitOn, String.ofList_toList]

theorem labels_ne_nil (name : DomainName) : name.labels ≠ [] := by
  simp [labels, labelsOf, List.splitOn_ne_nil]

/-- The suffixes of a name drop its labels one by one. -/
theorem suffixes_eq (name : DomainName) : name.suffixes = namesOfTails name.labels := by
  obtain ⟨label, rest, split⟩ := List.exists_cons_of_ne_nil name.labels_ne_nil
  have tails := tailsAfterDots_eq name.text.toList
  rw [← labelsOf, ← labels, split, List.drop_one, List.tail_cons] at tails
  rw [suffixes, tails, split, namesOfTails_cons, ← split, nameOfLabels_labels]

end DomainName

theorem nameOfLabels_ne_empty {label : String} (rest : List String) (h : label ≠ "") :
    nameOfLabels (label :: rest) ≠ "" := by
  intro empty
  apply h
  cases rest with
  | nil => simpa [nameOfLabels] using empty
  | cons next more =>
    have := congrArg String.toList empty
    simp [nameOfLabels, String.intercalate_cons_cons] at this

theorem ne_empty_of_mem_namesOfTails {labels : List String} (valid : ∀ label ∈ labels, label ≠ "")
    {name : String} (h : name ∈ namesOfTails labels) : name ≠ "" := by
  obtain ⟨i, bound, rfl⟩ := List.mem_map.mp h
  have inside := List.mem_range.mp bound
  rw [List.drop_eq_getElem_cons inside]
  exact nameOfLabels_ne_empty _ (valid _ (List.getElem_mem inside))

/-- Dropping a label takes it and its dot off the front of a name. -/
theorem toList_nameOfLabels_cons (label : String) (next : String) (rest : List String) :
    (nameOfLabels (label :: next :: rest)).toList =
      (label.toList ++ ['.']) ++ (nameOfLabels (next :: rest)).toList := by
  have dot : ".".toList = ['.'] := rfl
  simp only [nameOfLabels, String.intercalate_cons_cons, String.toList_append, dot]

/-- Each name has something in front of those after it. -/
theorem namesOfTails_extend (labels : List String) :
    (namesOfTails labels).Pairwise fun longer shorter =>
      ∃ front : List Char, front ≠ [] ∧ longer.toList = front ++ shorter.toList := by
  induction labels with
  | nil => exact .nil
  | cons label rest ih =>
    rw [namesOfTails_cons]
    refine List.pairwise_cons.mpr ⟨?_, ih⟩
    intro name mem
    cases rest with
    | nil => cases mem
    | cons next more =>
      have first := toList_nameOfLabels_cons label next more
      rw [namesOfTails_cons] at ih mem
      rcases List.mem_cons.mp mem with rfl | mem
      · exact ⟨label.toList ++ ['.'], by simp, first⟩
      · obtain ⟨front, _, extended⟩ := (List.pairwise_cons.mp ih).1 name mem
        exact ⟨label.toList ++ ['.'] ++ front, by simp, by simp [first, extended]⟩

theorem nodup_namesOfTails (labels : List String) : (namesOfTails labels).Nodup :=
  (namesOfTails_extend labels).imp fun ⟨_, some_front, longer⟩ same =>
    some_front (List.append_left_eq_self.mp (same ▸ longer).symm)

namespace Domain

theorem zoneCandidates_eq (domain : Domain) :
    domain.zoneCandidates = namesOfTails domain.name.labels :=
  domain.name.suffixes_eq

theorem ne_empty_of_mem_zoneCandidates {domain : Domain} {name : String}
    (h : name ∈ domain.zoneCandidates) : name ≠ "" := by
  rw [zoneCandidates_eq] at h
  exact ne_empty_of_mem_namesOfTails (fun label mem => (domain.name.labels_valid label mem).1) h

theorem nodup_zoneCandidates (domain : Domain) : domain.zoneCandidates.Nodup := by
  rw [zoneCandidates_eq]
  exact nodup_namesOfTails _

end Domain

end AddressRecords
