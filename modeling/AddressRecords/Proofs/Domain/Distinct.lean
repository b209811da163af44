import AddressRecords.Proofs.Domain.Rereading

/-!
Domains are told apart by their names. A wildcard's name starts with an asterisk for its first
label, and no name has such a label of its own: that is checked on the ASCII form, where everything
that is mapped to an asterisk or to a dot has become one.
-/

namespace AddressRecords

open Unicode (trim trimBoth)

/-! Texts. -/

theorem Unicode.trim_trim (raw : String) : trim (trim raw) = trim raw := by
  rw [← String.toList_inj, trim, String.toList_ofList, trim, String.toList_ofList]
  exact trimBoth_eq_self (fun _ => of_head?_trimBoth) fun _ => of_getLast?_trimBoth

theorem labelsOf_star (name : String) : labelsOf ("*." ++ name) = "*" :: labelsOf name := by
  have text : ("*." ++ name).toList = '*' :: '.' :: name.toList := String.toList_append
  rw [labelsOf, text, List.splitOn_cons_eq_if_modifyHead, List.splitOn_cons_eq_if_modifyHead]
  rfl

namespace DomainName

variable {raw : String} {name : DomainName}

theorem star_not_mem_labels (name : DomainName) : "*" ∉ name.labels :=
  fun mem => (name.labels_valid "*" mem).2 rfl

theorem bare_trim (raw : String) : bare (trim raw) = bare raw := by
  rw [bare, bare, Unicode.trim_trim]

/-- The name of a text is its ASCII form. -/
theorem toAscii_of_ofText (read : ofText raw = .ok name) :
    Idna.toAscii (String.ofList (bare raw)) = some name.text := by
  rw [Idna.toAscii_eq_some_iff, String.toList_ofList]
  exact (ofText_eq_ok_iff.mp read).2

/-- What has an asterisk for a label once it is mapped is no name. -/
theorem ofText_ne_ok_of_star {ascii : String}
    (mapped : Idna.toAscii (String.ofList (bare raw)) = some ascii)
    (star : "*" ∈ labelsOf ascii) : ofText raw ≠ .ok name := by
  intro read
  rw [toAscii_of_ofText read] at mapped
  cases mapped
  exact name.star_not_mem_labels star

end DomainName

namespace Domain

/-- A domain that is made of a text: by reading it, or by taking it for a name or for an apex. -/
inductive Made : String → Domain → Prop
  | parsed {raw : String} {domain : Domain} (read : parse raw = .ok domain) : Made raw domain
  | literal {raw : String} {name : DomainName} (read : DomainName.ofText raw = .ok name) :
      Made raw (literal name)
  | wildcard {raw : String} {apex : DomainName} (read : DomainName.ofText raw = .ok apex) :
      Made raw (wildcard apex)

/-- A text whose ASCII form has the label of a wildcard is itself written as one. -/
theorem Made.starts_of_mapped {raw ascii : String} {domain : Domain} (made : Made raw domain)
    (mapped : Idna.toAscii (String.ofList (DomainName.bare raw)) = some ascii)
    (star : "*" ∈ labelsOf ascii) :
    domain.isWildcard = true ∧ ∃ apex, (trim raw).toList = '*' :: '.' :: apex := by
  cases made with
  | literal read | wildcard read =>
    exact absurd read (DomainName.ofText_ne_ok_of_star mapped star)
  | parsed read =>
    cases domain with
    | literal name =>
      rw [← DomainName.bare_trim] at mapped
      exact absurd (of_parse_literal read) (DomainName.ofText_ne_ok_of_star mapped star)
    | wildcard apex =>
      obtain ⟨text, starts, -⟩ := of_parse_wildcard read
      exact ⟨rfl, text, starts⟩

/-! Names. -/

/-- The labels under which a domain's records are kept. -/
theorem labelsOf_wireName (domain : Domain) :
    labelsOf domain.wireName = (if domain.isWildcard then ["*"] else []) ++ domain.name.labels := by
  cases domain with
  | literal name => rfl
  | wildcard apex => exact labelsOf_star apex.text

theorem exists_wireName_iff (domain : Domain) :
    (∃ rest, domain.wireName = "*." ++ rest) ↔ domain.isWildcard := by
  cases domain with
  | literal name =>
    refine iff_of_false ?_ Bool.false_ne_true
    rintro ⟨rest, starts⟩
    have starts : name.text = "*." ++ rest := starts
    refine name.star_not_mem_labels ?_
    rw [DomainName.labels, starts, labelsOf_star]
    exact List.mem_cons_self
  | wildcard apex => exact iff_of_true ⟨apex.text, rfl⟩ rfl

theorem toString_eq_wireName (domain : Domain) : toString domain = domain.wireName := by
  cases domain <;> rfl

/-- What the names of two domains tell, one of them made of the text `raw`. -/
structure ToldApart (raw : String) (domain other : Domain) : Prop where
  wireName_eq_iff : domain.wireName = other.wireName ↔ domain = other
  shown : toString domain = domain.wireName
  labels : labelsOf domain.wireName =
    (if domain.isWildcard then ["*"] else []) ++ domain.name.labels
  unstarred : ∀ label ∈ domain.name.labels, label ≠ "" ∧ label ≠ "*"
  starts_iff : (∃ rest, domain.wireName = "*." ++ rest) ↔ domain.isWildcard
  /-- No asterisk and no dot that come of the mapping make a wildcard. -/
  mapped : ∀ ascii, Idna.toAscii (String.ofList (DomainName.bare raw)) = some ascii →
    "*" ∈ labelsOf ascii →
    domain.isWildcard = true ∧ ∃ apex, (trim raw).toList = '*' :: '.' :: apex
  /-- Two keys of one family are never those of one remote name. -/
  keys : ∀ family, (⟨domain, family⟩ : RecordKey) ≠ ⟨other, family⟩ →
    domain.wireName ≠ other.wireName

/-- However a domain came to be, its name is that of no other. -/
theorem toldApart_of_made {raw : String} {domain : Domain} (made : Made raw domain)
    (other : Domain) : ToldApart raw domain other := by
  have told : domain.wireName = other.wireName ↔ domain = other :=
    ⟨wireName_injective, congrArg wireName⟩
  constructor
  case wireName_eq_iff => exact told
  case shown => exact domain.toString_eq_wireName
  case labels => exact domain.labelsOf_wireName
  case unstarred => exact domain.name.labels_valid
  case starts_iff => exact domain.exists_wireName_iff
  case mapped => exact fun ascii => made.starts_of_mapped
  case keys =>
    intro family different same
    exact different (congrArg (RecordKey.mk · family) (told.mp same))

theorem toldApart_home :
    ∃ name : DomainName, Made " *.Home.Example. " (wildcard name) ∧
      Made "Home.Example." (literal name) ∧
      ToldApart " *.Home.Example. " (wildcard name) (literal name) ∧
      ToldApart "Home.Example." (literal name) (wildcard name) := by
  have read : parse " *.Home.Example. " = .ok (wildcard ⟨"home.example", by decide⟩) := by
    decide +kernel
  have taken : DomainName.ofText "Home.Example." = .ok ⟨"home.example", by decide⟩ := by
    decide +kernel
  have star := Made.parsed read
  have name := Made.literal taken
  exact ⟨_, star, name, toldApart_of_made star _, toldApart_of_made name _⟩

end Domain

end AddressRecords
