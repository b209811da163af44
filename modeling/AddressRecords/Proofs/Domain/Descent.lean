import AddressRecords.Proofs.Domain.Rereading
import AddressRecords.Proofs.Zone.Walk

/-!
The suffixes of a name, taken one by one. Each is cut off behind the first dot of the one before it,
and they run out after the top-level label: there is one for each label, and each is shorter than
the one before. So a resolution, which goes through them, never comes to the root and never asks
twice for one name.
-/

namespace AddressRecords

/-! Taking suffixes. -/

namespace Suffixes

/-- What is taken until there is nothing left. -/
inductive Gives : Suffixes → List String → Prop
  | ends {suffixes : Suffixes} (ended : suffixes.next = none) : Gives suffixes []
  | takes {suffixes later : Suffixes} {suffix : String} {more : List String}
      (due : suffixes.next = some (suffix, later)) (rest : Gives later more) :
      Gives suffixes (suffix :: more)

theorem Gives.unique {suffixes : Suffixes} {given other : List String}
    (h : Gives suffixes given) (again : Gives suffixes other) : other = given := by
  induction h generalizing other with
  | ends ended =>
    cases again with
    | ends => rfl
    | takes due =>
      rw [ended] at due
      cases due
  | takes due _ ih =>
    cases again with
    | ends ended =>
      rw [ended] at due
      cases due
    | takes again rest =>
      rw [due] at again
      cases again
      rw [ih rest]

/-- Cutting behind the first dot, and again, gives what all the dots leave behind them. -/
theorem gives_behindDot (text : List Char) :
    Gives ⟨DomainName.behindDot text⟩ ((DomainName.tailsAfterDots text).map String.ofList) := by
  induction text with
  | nil => exact .ends rfl
  | cons c rest ih =>
    by_cases dot : c = '.'
    · rw [DomainName.behindDot, if_pos dot, DomainName.tailsAfterDots, if_pos dot]
      exact .takes rfl ih
    · rw [DomainName.behindDot, if_neg dot, DomainName.tailsAfterDots, if_neg dot]
      exact ih

theorem gives_descent (name : DomainName) : Gives name.descent name.suffixes := by
  have first : name.descent.next =
      some (name.text, ⟨DomainName.behindDot name.text.toList⟩) := by
    rw [DomainName.descent, next, Option.map_some, String.ofList_toList]
  exact .takes first (gives_behindDot name.text.toList)

theorem gives_descent_iff (name : DomainName) (given : List String) :
    Gives name.descent given ↔ given = name.suffixes :=
  ⟨(gives_descent name).unique, fun same => same ▸ gives_descent name⟩

end Suffixes

/-! Names. -/

theorem length_namesOfTails (labels : List String) :
    (namesOfTails labels).length = labels.length := by
  rw [namesOfTails, List.length_map, List.length_range]

theorem getElem?_namesOfTails {labels : List String} {i : Nat} (inside : i < labels.length) :
    (namesOfTails labels)[i]? = some (nameOfLabels (labels.drop i)) := by
  rw [namesOfTails, List.getElem?_map, List.getElem?_range inside]
  rfl

theorem nameOfLabels_singleton (label : String) : nameOfLabels [label] = label := by
  rw [← String.toList_inj, nameOfLabels, String.toList_intercalate]
  simp

theorem getLast?_namesOfTails (labels : List String) :
    (namesOfTails labels).getLast? = labels.getLast? := by
  induction labels with
  | nil => rfl
  | cons label rest ih =>
    cases rest with
    | nil =>
      rw [namesOfTails_cons, nameOfLabels_singleton]
      rfl
    | cons next more =>
      rw [namesOfTails_cons, List.getLast?_cons_cons, ← ih, namesOfTails_cons,
        List.getLast?_cons_cons]

/-- What has something in front is longer, in characters and in bytes. -/
theorem shorter_of_extends {longer shorter : String} {front : List Char} (some_front : front ≠ [])
    (extended : longer.toList = front ++ shorter.toList) :
    shorter.length < longer.length ∧ shorter.utf8ByteSize < longer.utf8ByteSize := by
  have whole : longer = String.ofList front ++ shorter := by
    rw [← String.toList_inj, String.toList_append, String.toList_ofList, extended]
  have long : 0 < front.length := List.length_pos_of_ne_nil some_front
  have wide : 0 < (String.ofList front).utf8ByteSize := by
    rw [Nat.pos_iff_ne_zero, Ne, String.utf8ByteSize_eq_zero_iff, String.ofList_eq_empty_iff]
    exact some_front
  constructor
  · rw [whole, String.length_append, String.length_ofList]
    omega
  · rw [whole, String.utf8ByteSize_append]
    omega

/-- Each name is shorter than those before it. -/
theorem namesOfTails_shorten (labels : List String) :
    (namesOfTails labels).Pairwise fun longer shorter =>
      shorter.length < longer.length ∧ shorter.utf8ByteSize < longer.utf8ByteSize :=
  (namesOfTails_extend labels).imp fun ⟨_, some_front, extended⟩ =>
    shorter_of_extends some_front extended

namespace DomainName

/-- There is one piece more than there are dots. -/
theorem length_splitOn (text : List Char) :
    (text.splitOn '.').length = text.count '.' + 1 := by
  induction text with
  | nil => rfl
  | cons c rest ih =>
    rw [List.splitOn_cons_eq_if_modifyHead, List.count_cons]
    by_cases dot : c = '.'
    · simp [dot, ih]
    · simp [dot, ih]

theorem length_labels (name : DomainName) :
    name.labels.length = name.text.toList.count '.' + 1 := by
  rw [labels, labelsOf, List.length_map, length_splitOn]

theorem empty_not_mem_splitOn (name : DomainName) : [] ∉ name.text.toList.splitOn '.' := by
  intro mem
  exact (name.labels_valid "" (List.mem_map.mpr ⟨[], mem, rfl⟩)).1 rfl

theorem head?_text_ne (name : DomainName) : name.text.toList.head? ≠ some '.' := by
  intro starts
  obtain ⟨rest, whole⟩ := List.head?_eq_some_iff.mp starts
  refine name.empty_not_mem_splitOn ?_
  rw [whole, List.splitOn_cons_eq_if_modifyHead, if_pos (beq_self_eq_true '.')]
  exact List.mem_cons_self

/-- Between two dots in a row there would be an empty label. -/
theorem not_doubled (name : DomainName) : ¬ ['.', '.'] <:+: name.text.toList := by
  rintro ⟨front, rest, whole⟩
  have text : name.text.toList = front ++ '.' :: ([] ++ '.' :: rest) := by
    rw [← whole, List.append_assoc]
    rfl
  refine name.empty_not_mem_splitOn ?_
  rw [text, List.splitOn_append_cons_self, List.splitOn_append_cons_self, List.splitOn_nil]
  exact List.mem_append_right _ List.mem_cons_self

end DomainName

/-! Resolutions. -/

namespace Resolver

variable {σ : Type} (source : ZoneSource σ) (domain : Domain)

/-- A resolution is a row of look-ups, none of them of the root and no two of one name. -/
theorem exists_looks (state : ZoneCache × σ) :
    ∃ looked, looked <+: domain.name.suffixes ∧ looked.Nodup ∧ "" ∉ looked ∧
      (resolve source domain state).state = (ZoneCache.lookupEach source looked state).state ∧
      Ends domain domain.name.suffixes looked (ZoneCache.lookupEach source looked state).value
        (resolve source domain state).value := by
  obtain ⟨looked, inOrder, lookups, ends⟩ :=
    resolveAmong_ends source domain domain.zoneCandidates state
  refine ⟨looked, inOrder, inOrder.sublist.nodup domain.nodup_zoneCandidates, ?_, lookups, ends⟩
  intro root
  exact Domain.ne_empty_of_mem_zoneCandidates (inOrder.subset root) rfl

/-- So the source is asked for no name twice, and never for the root. -/
theorem exists_asks (cache : ZoneCache) (journal : Journal) (remote : σ) :
    ∃ asked, (resolve source.journaled domain (cache, (journal, remote))).state.2.1 =
        journal ++ asked ∧ (asked.map (·.1)).Nodup ∧ "" ∉ asked.map (·.1) := by
  obtain ⟨looked, -, once, named, lookups, -⟩ :=
    exists_looks source.journaled domain (cache, (journal, remote))
  have some_name : ∀ name ∈ looked, name ≠ "" := fun name mem root => named (root ▸ mem)
  obtain ⟨asked, journaled, names⟩ :=
    journal_lookupEach source looked once some_name cache journal remote
  refine ⟨asked, ?_, ?_, ?_⟩
  · rw [lookups, journaled]
  · rw [names]
    exact once.filter _
  · rw [names]
    exact fun root => named (List.mem_of_mem_filter root)

end Resolver

/-! All of it. -/

namespace DomainName

/-- What is known of the name that a text is read as, and of its suffixes. -/
structure Descends (raw : String) (name : DomainName) : Prop where
  /-- All that follows is checked on the ASCII form. -/
  ascii : Idna.toAscii (String.ofList (bare raw)) = some name.text
  text_ne : name.text ≠ ""
  labels : ∀ label ∈ name.labels, label ≠ "" ∧ label ≠ "*"
  joined : nameOfLabels name.labels = name.text
  count : name.labels.length = name.text.toList.count '.' + 1
  leading : name.text.toList.head? ≠ some '.'
  trailing : name.text.toList.getLast? ≠ some '.'
  doubled : ¬ ['.', '.'] <:+: name.text.toList
  /-- Taking suffixes comes to an end, and to no other one. -/
  taken : ∀ given, Suffixes.Gives name.descent given ↔ given = name.suffixes
  length : name.suffixes.length = name.labels.length
  suffix : ∀ i < name.labels.length,
    name.suffixes[i]? = some (nameOfLabels (name.labels.drop i))
  first : name.suffixes.head? = some name.text
  last : name.suffixes.getLast? = name.labels.getLast?
  suffix_ne : ∀ suffix ∈ name.suffixes, suffix ≠ ""
  distinct : name.suffixes.Nodup
  shorten : name.suffixes.Pairwise fun longer shorter =>
    shorter.length < longer.length ∧ shorter.utf8ByteSize < longer.utf8ByteSize
  looks : ∀ (domain : Domain), domain.name = name →
    ∀ {σ : Type} (source : ZoneSource σ) (state : ZoneCache × σ),
    ∃ looked, looked <+: name.suffixes ∧ looked.Nodup ∧ "" ∉ looked ∧
      (Resolver.resolve source domain state).state =
        (ZoneCache.lookupEach source looked state).state ∧
      Resolver.Ends domain name.suffixes looked (ZoneCache.lookupEach source looked state).value
        (Resolver.resolve source domain state).value
  asks : ∀ (domain : Domain), domain.name = name →
    ∀ {σ : Type} (source : ZoneSource σ) (cache : ZoneCache) (journal : Journal) (remote : σ),
    ∃ asked, (Resolver.resolve source.journaled domain (cache, (journal, remote))).state.2.1 =
        journal ++ asked ∧ (asked.map (·.1)).Nodup ∧ "" ∉ asked.map (·.1)

/-- Whatever text a name was read from, its suffixes lead down to its top-level label. -/
theorem descends_of_ofText {raw : String} {name : DomainName} (read : ofText raw = .ok name) :
    Descends raw name := by
  have suffixes := name.suffixes_eq
  constructor
  case ascii =>
    rw [Idna.toAscii_eq_some_iff, String.toList_ofList]
    exact (ofText_eq_ok_iff.mp read).2
  case text_ne => exact name.text_ne_empty
  case labels => exact name.labels_valid
  case joined => exact name.nameOfLabels_labels
  case count => exact name.length_labels
  case leading => exact name.head?_text_ne
  case trailing => exact name.getLast?_text_ne
  case doubled => exact name.not_doubled
  case taken => exact Suffixes.gives_descent_iff name
  case length => rw [suffixes, length_namesOfTails]
  case suffix =>
    intro i inside
    rw [suffixes, getElem?_namesOfTails inside]
  case first => rfl
  case last => rw [suffixes, getLast?_namesOfTails]
  case suffix_ne =>
    intro suffix mem
    rw [suffixes] at mem
    exact ne_empty_of_mem_namesOfTails (fun label within => (name.labels_valid label within).1) mem
  case distinct =>
    rw [suffixes]
    exact nodup_namesOfTails name.labels
  case shorten =>
    rw [suffixes]
    exact namesOfTails_shorten name.labels
  case looks =>
    rintro domain rfl σ source state
    exact Resolver.exists_looks source domain state
  case asks =>
    rintro domain rfl σ source cache journal remote
    exact Resolver.exists_asks source domain cache journal remote

theorem descends_home : ∃ name, ofText " A.Sub.Home.Example. " = .ok name ∧
    name.suffixes = ["a.sub.home.example", "sub.home.example", "home.example", "example"] ∧
    Descends " A.Sub.Home.Example. " name := by
  have read : ofText " A.Sub.Home.Example. " = .ok ⟨"a.sub.home.example", by decide⟩ := by
    decide +kernel
  exact ⟨_, read, by decide +kernel, descends_of_ofText read⟩

end DomainName

end AddressRecords
