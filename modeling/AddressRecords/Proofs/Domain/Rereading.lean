import AddressRecords.Proofs.Domain.Suffixes
import AddressRecords.Proofs.Idna.Ascii
import AddressRecords.Proofs.Record.Key
import Mathlib.Data.List.Basic

/-!
Reading the text of a name once more. It gives the same name just where the text has no white space
around it and the ASCII form leaves it as it is. White space is dropped before the trailing dot and
not again, so a name that had some before that dot keeps it, and loses it on the second reading.
-/

namespace AddressRecords

open Unicode (trim trimBoth isWhiteSpace)

/-! Trimming. -/

namespace Unicode

variable {p : Char → Bool} {text : List Char}

theorem trimBoth_sublist (p : Char → Bool) (text : List Char) : (trimBoth p text).Sublist text := by
  have back : (((text.dropWhile p).reverse.dropWhile p).reverse).Sublist
      (text.dropWhile p).reverse.reverse :=
    List.reverse_sublist.mpr (List.dropWhile_sublist p)
  rw [List.reverse_reverse] at back
  exact back.trans (List.dropWhile_sublist p)

theorem dropWhile_eq_self {text : List Char} (h : ∀ c, text.head? = some c → p c = false) :
    text.dropWhile p = text := by
  cases text with
  | nil => rfl
  | cons c rest => rw [List.dropWhile_cons_of_neg (by simp [h c rfl])]

/-- What neither starts nor ends with something to drop stays. -/
theorem trimBoth_eq_self (first : ∀ c, text.head? = some c → p c = false)
    (last : ∀ c, text.getLast? = some c → p c = false) : trimBoth p text = text := by
  rw [trimBoth, dropWhile_eq_self first, dropWhile_eq_self, List.reverse_reverse]
  rwa [List.head?_reverse]

/-- Nothing to drop is left at the start. -/
theorem of_head?_trimBoth {c : Char} (h : (trimBoth p text).head? = some c) : p c = false := by
  have front : trimBoth p text <+: text.dropWhile p := by
    rw [trimBoth, ← List.reverse_suffix, List.reverse_reverse]
    exact List.dropWhile_suffix p
  obtain ⟨rest, whole⟩ := front
  have starts := List.head?_dropWhile_not p text
  rw [← whole, List.head?_append, h] at starts
  simpa using starts

/-- Nothing to drop is left at the end. -/
theorem of_getLast?_trimBoth {c : Char} (h : (trimBoth p text).getLast? = some c) :
    p c = false := by
  rw [trimBoth, List.getLast?_reverse] at h
  have ends := List.head?_dropWhile_not p (text.dropWhile p).reverse
  rw [h] at ends
  simpa using ends

theorem trim_sublist (text : String) : (trim text).toList.Sublist text.toList := by
  rw [trim, String.toList_ofList]
  exact trimBoth_sublist _ _

end Unicode

/-! Names. -/

namespace DomainName

theorem dropRoot_front (text : List Char) : dropRoot text <+: text := by
  unfold dropRoot
  split
  · exact List.dropLast_prefix text
  · exact List.prefix_rfl

/-- The last piece of a text that ends in a dot is empty. -/
theorem exists_splitOn_of_dot (text : List Char) :
    ∃ pieces, pieces ≠ [] ∧ (text ++ ['.']).splitOn '.' = pieces ++ [[]] := by
  induction text with
  | nil => exact ⟨[[]], by simp, rfl⟩
  | cons c rest ih =>
    obtain ⟨pieces, some_pieces, split⟩ := ih
    rw [List.cons_append, List.splitOn_cons_eq_if_modifyHead, split]
    split
    · exact ⟨[] :: pieces, by simp, rfl⟩
    · obtain ⟨piece, more, rfl⟩ := List.exists_cons_of_ne_nil some_pieces
      exact ⟨(c :: piece) :: more, by simp, rfl⟩

theorem getLast?_text_ne (name : DomainName) : name.text.toList.getLast? ≠ some '.' := by
  intro ends
  obtain ⟨front, whole⟩ := List.getLast?_eq_some_iff.mp ends
  obtain ⟨pieces, -, split⟩ := exists_splitOn_of_dot front
  have empty : "" ∈ labelsOf name.text := by
    rw [labelsOf, whole, split]
    simp
  exact (name.labels_valid "" empty).1 rfl

theorem text_ne_empty (name : DomainName) : name.text ≠ "" := by
  intro empty
  have only : "" ∈ labelsOf name.text := by
    rw [empty]
    decide
  exact (name.labels_valid "" only).1 rfl

/-- What is left of a raw text before it is brought to ASCII. -/
abbrev bare (raw : String) : List Char := dropRoot (trim raw).toList

theorem bare_sublist (raw : String) : (bare raw).Sublist raw.toList :=
  (dropRoot_front _).sublist.trans (Unicode.trim_sublist raw)

/-- A text is read as the name that its ASCII form is. -/
theorem ofText_eq_ok_iff {raw : String} {name : DomainName} : ofText raw = .ok name ↔
    bare raw ≠ [] ∧ Idna.toAsciiChars (bare raw) = some name.text.toList := by
  have empty : String.ofList (bare raw) = "" ↔ bare raw = [] := by
    rw [← String.toList_inj, String.toList_ofList]
    rfl
  have converts : Idna.toAscii (String.ofList (bare raw)) = some name.text ↔
      Idna.toAsciiChars (bare raw) = some name.text.toList := by
    rw [Idna.toAscii_eq_some_iff, String.toList_ofList]
  rw [← converts]
  constructor
  · intro h
    rw [ofText] at h
    split at h
    · cases h
    · rename_i some_text
      refine ⟨mt empty.mpr some_text, ?_⟩
      split at h
      · cases h
      · rename_i ascii given
        split at h
        · cases h
        · split at h
          · cases h
          · cases h
            exact given
  · rintro ⟨some_text, given⟩
    have no_empty : "" ∉ labelsOf name.text := fun mem => (name.labels_valid "" mem).1 rfl
    have no_star : "*" ∉ labelsOf name.text := fun mem => (name.labels_valid "*" mem).2 rfl
    rw [ofText, if_neg (mt empty.mp some_text)]
    split
    · rename_i none
      rw [none] at given
      cases given
    · rename_i ascii other
      obtain rfl : ascii = name.text := Option.some.inj (other.symm.trans given)
      rw [dif_neg no_empty, dif_neg no_star]

/-- The text stands as it is when it is read: nothing is trimmed, and it is its own ASCII form. -/
structure Stands (name : DomainName) : Prop where
  trimmed : trim name.text = name.text
  ascii : Idna.toAscii name.text = some name.text

theorem Stands.trimBoth_eq {name : DomainName} (h : name.Stands) :
    trimBoth isWhiteSpace name.text.toList = name.text.toList := by
  rw [← String.toList_ofList (l := trimBoth _ _), ← trim, h.trimmed]

theorem Stands.bare_eq {name : DomainName} (h : name.Stands) :
    bare name.text = name.text.toList := by
  rw [bare, h.trimmed, dropRoot, if_neg name.getLast?_text_ne]

theorem Stands.ofText {name : DomainName} (h : name.Stands) : ofText name.text = .ok name := by
  refine ofText_eq_ok_iff.mpr ⟨?_, ?_⟩
  · rw [h.bare_eq]
    exact fun empty => name.text_ne_empty (String.toList_eq_nil_iff.mp empty)
  · rw [h.bare_eq]
    exact Idna.toAscii_eq_some_iff.mp h.ascii

/-- A part of a name's text is read as that name only if it is all of it: what has an ASCII form is
ASCII then, and the ASCII form of ASCII is as long as before. -/
theorem eq_of_ofText_sublist {raw : String} {name : DomainName}
    (h : DomainName.ofText raw = .ok name) (part : raw.toList.Sublist name.text.toList) :
    raw = name.text ∧ name.Stands := by
  obtain ⟨-, converted⟩ := ofText_eq_ok_iff.mp h
  have low : Idna.isAscii (bare raw) := by
    have all := Idna.isAscii_of_toAsciiChars converted
    refine List.all_eq_true.mpr fun c mem => List.all_eq_true.mp all c ?_
    exact part.subset ((bare_sublist raw).subset mem)
  -- The text is as long as what was left of a part of it, so nothing was dropped on the way.
  have length : name.text.toList.length = (bare raw).length := by
    rw [Idna.toAsciiChars_of_isAscii low converted, List.length_map]
  have bare_eq : bare raw = raw.toList := by
    refine (bare_sublist raw).eq_of_length_le ?_
    rw [← length]
    exact part.length_le
  have whole : raw.toList = name.text.toList :=
    part.eq_of_length (by rw [length, bare_eq])
  obtain rfl : raw = name.text := String.toList_inj.mp whole
  have trimmed : trim name.text = name.text := by
    have inside : (bare name.text).Sublist (trim name.text).toList := (dropRoot_front _).sublist
    refine String.toList_inj.mp ((Unicode.trim_sublist _).eq_of_length_le ?_)
    rw [length]
    exact inside.length_le
  rw [bare_eq] at converted
  exact ⟨rfl, trimmed, Idna.toAscii_eq_some_iff.mpr converted⟩

theorem ofText_text_iff (name : DomainName) : ofText name.text = .ok name ↔ name.Stands :=
  ⟨fun h => (eq_of_ofText_sublist h (List.Sublist.refl _)).2, Stands.ofText⟩

/-! Names that are given in ASCII. -/

theorem isWhiteSpace_toLower {c : Char} (low : c.toNat < 0x80) :
    isWhiteSpace c.toLower = isWhiteSpace c :=
  Idna.forall_ascii (motive := fun c => isWhiteSpace c.toLower = isWhiteSpace c) (by decide) low

variable {raw : String} {name : DomainName}

/-- The name is in lower case and otherwise as it was given. -/
theorem text_of_isAscii (read : ofText raw = .ok name) (low : Idna.isAscii raw.toList) :
    Idna.isAscii (bare raw) ∧ name.text.toList = (bare raw).map Char.toLower ∧
      Idna.toAscii name.text = some name.text := by
  obtain ⟨-, converted⟩ := ofText_eq_ok_iff.mp read
  have lowBare : Idna.isAscii (bare raw) := List.all_eq_true.mpr fun c mem =>
    List.all_eq_true.mp low c ((bare_sublist raw).subset mem)
  have text := Idna.toAsciiChars_of_isAscii lowBare converted
  have again : Idna.toAsciiChars name.text.toList = some name.text.toList := by
    rw [← converted, text]
    exact Idna.toAsciiChars_map_toLower lowBare
  exact ⟨lowBare, text, Idna.toAscii_eq_some_iff.mpr again⟩

theorem isWhiteSpace_of_head?_bare {c : Char} (first : (bare raw).head? = some c) :
    isWhiteSpace c = false := by
  obtain ⟨rest, whole⟩ := dropRoot_front (trim raw).toList
  have front : (trim raw).toList.head? = some c := by
    rw [← whole, List.head?_append, first, Option.some_or]
  rw [trim, String.toList_ofList] at front
  exact Unicode.of_head?_trimBoth front

/-- White space at the end stood before the dot that was dropped. -/
theorem exists_dotted_of_getLast?_bare {c : Char} (last : (bare raw).getLast? = some c)
    (space : isWhiteSpace c = true) : ∃ stem, (trim raw).toList = stem ++ [c, '.'] := by
  by_cases dot : (trim raw).toList.getLast? = some '.'
  · obtain ⟨stem, whole⟩ := List.getLast?_eq_some_iff.mp last
    obtain ⟨front, dotted⟩ := List.getLast?_eq_some_iff.mp dot
    rw [bare, dropRoot, if_pos dot, dotted, List.dropLast_concat] at whole
    refine ⟨stem, ?_⟩
    rw [dotted, whole, List.append_assoc]
    rfl
  · rw [bare, dropRoot, if_neg dot, trim, String.toList_ofList] at last
    rw [Unicode.of_getLast?_trimBoth last] at space
    cases space

theorem bare_of_dotted {stem : List Char} {c : Char}
    (whole : (trim raw).toList = stem ++ [c, '.']) : bare raw = stem ++ [c] := by
  have dotted : (trim raw).toList = (stem ++ [c]) ++ ['.'] := by
    rw [whole, List.append_assoc]
    rfl
  rw [bare, dropRoot, dotted, List.getLast?_concat, if_pos rfl, List.dropLast_concat]

/-- The one thing that can keep the name from standing is white space before the dot that was
dropped. -/
theorem stands_iff_of_isAscii (read : ofText raw = .ok name) (low : Idna.isAscii raw.toList) :
    name.Stands ↔ ∀ stem c, (trim raw).toList = stem ++ [c, '.'] → isWhiteSpace c = false := by
  obtain ⟨lowBare, text, ascii⟩ := text_of_isAscii read low
  have small : ∀ c ∈ bare raw, c.toNat < 0x80 := Idna.toNat_lt_of_isAscii lowBare
  constructor
  · intro stands stem c whole
    have last : name.text.toList.getLast? = some c.toLower := by
      rw [text, bare_of_dotted whole, List.map_append, List.map_singleton, List.getLast?_concat]
    have space := Unicode.of_getLast?_trimBoth (stands.trimBoth_eq.symm ▸ last)
    rwa [isWhiteSpace_toLower (small c (by simp [bare_of_dotted whole]))] at space
  · intro clear
    have trimmed : trimBoth isWhiteSpace name.text.toList = name.text.toList := by
      rw [text]
      refine Unicode.trimBoth_eq_self ?_ ?_
      · intro c starts
        rw [List.head?_map, Option.map_eq_some_iff] at starts
        obtain ⟨d, first, rfl⟩ := starts
        rw [isWhiteSpace_toLower (small d (List.mem_of_mem_head? first))]
        exact isWhiteSpace_of_head?_bare first
      · intro c ends
        rw [List.getLast?_map, Option.map_eq_some_iff] at ends
        obtain ⟨d, last, rfl⟩ := ends
        rw [isWhiteSpace_toLower (small d (List.mem_of_mem_getLast? last))]
        cases space : isWhiteSpace d with
        | false => rfl
        | true =>
          obtain ⟨stem, whole⟩ := exists_dotted_of_getLast?_bare last space
          exact space.symm.trans (clear stem d whole)
    refine ⟨?_, ascii⟩
    rw [trim, trimmed, String.ofList_toList]

end DomainName

/-! Domains. -/

namespace Domain

theorem parse_of_star {raw : String} {rest : List Char}
    (starts : (trim raw).toList = '*' :: '.' :: rest) :
    parse raw = (DomainName.ofText (String.ofList rest)).map wildcard := by
  rw [parse, starts]
  rfl

theorem parse_of_plain {raw : String} (plain : ∀ rest, (trim raw).toList ≠ '*' :: '.' :: rest) :
    parse raw = (DomainName.ofText (trim raw)).map literal := by
  rw [parse]
  split
  · rename_i rest starts
    exact absurd starts (plain rest)
  · rw [String.ofList_toList]

theorem exists_of_map_eq_ok {answer : Except NameError DomainName} {make : DomainName → Domain}
    {domain : Domain} (h : answer.map make = .ok domain) :
    ∃ name, answer = .ok name ∧ make name = domain := by
  cases answer with
  | error error => cases h
  | ok name => exact ⟨name, rfl, Except.ok.inj h⟩

theorem of_parse_literal {raw : String} {name : DomainName} (h : parse raw = .ok (literal name)) :
    DomainName.ofText (trim raw) = .ok name := by
  by_cases starts : ∃ rest, (trim raw).toList = '*' :: '.' :: rest
  · obtain ⟨rest, starts⟩ := starts
    rw [parse_of_star starts] at h
    obtain ⟨apex, -, impossible⟩ := exists_of_map_eq_ok h
    cases impossible
  · rw [parse_of_plain fun rest here => starts ⟨rest, here⟩] at h
    obtain ⟨other, read, same⟩ := exists_of_map_eq_ok h
    cases same
    exact read

theorem of_parse_wildcard {raw : String} {apex : DomainName} (h : parse raw = .ok (wildcard apex)) :
    ∃ rest, (trim raw).toList = '*' :: '.' :: rest ∧
      DomainName.ofText (String.ofList rest) = .ok apex := by
  by_cases starts : ∃ rest, (trim raw).toList = '*' :: '.' :: rest
  · obtain ⟨rest, starts⟩ := starts
    rw [parse_of_star starts] at h
    obtain ⟨other, read, same⟩ := exists_of_map_eq_ok h
    cases same
    exact ⟨rest, starts, read⟩
  · rw [parse_of_plain fun rest here => starts ⟨rest, here⟩] at h
    obtain ⟨name, -, impossible⟩ := exists_of_map_eq_ok h
    cases impossible

theorem toList_wildcard (apex : DomainName) :
    (wildcard apex).wireName.toList = '*' :: '.' :: apex.text.toList := by
  rw [wireName, String.toList_append]
  rfl

/-- Nothing is trimmed off a wildcard where nothing is trimmed off its apex. -/
theorem trim_wildcard {apex : DomainName} (stands : apex.Stands) :
    trim (wildcard apex).wireName = (wildcard apex).wireName := by
  rw [← String.toList_inj, trim, String.toList_ofList, toList_wildcard]
  refine Unicode.trimBoth_eq_self ?_ ?_
  · rintro c starts
    cases starts
    decide
  · intro c ends
    have some_text : apex.text.toList ≠ [] :=
      fun empty => apex.text_ne_empty (String.toList_eq_nil_iff.mp empty)
    rw [List.getLast?_cons_of_ne_nil (by simp), List.getLast?_cons_of_ne_nil some_text] at ends
    exact Unicode.of_getLast?_trimBoth (stands.trimBoth_eq.symm ▸ ends)

/-- A domain is read back from its name where the name stands as it is. -/
theorem parse_wireName_iff (domain : Domain) :
    parse domain.wireName = .ok domain ↔ domain.name.Stands := by
  cases domain with
  | literal name =>
    constructor
    · intro h
      have read := of_parse_literal h
      exact (DomainName.eq_of_ofText_sublist read (Unicode.trim_sublist _)).2
    · intro stands
      have stands : name.Stands := stands
      have plain : ∀ rest, (trim name.text).toList ≠ '*' :: '.' :: rest := by
        rw [stands.trimmed]
        exact name.text_ne_star
      rw [wireName, parse_of_plain plain, stands.trimmed, stands.ofText]
      rfl
  | wildcard apex =>
    constructor
    · intro h
      obtain ⟨rest, starts, read⟩ := of_parse_wildcard h
      have part := Unicode.trim_sublist (wildcard apex).wireName
      rw [starts, toList_wildcard] at part
      refine (DomainName.eq_of_ofText_sublist read ?_).2
      rw [String.toList_ofList]
      exact List.cons_sublist_cons.mp (List.cons_sublist_cons.mp part)
    · intro stands
      have stands : apex.Stands := stands
      have read : DomainName.ofText apex.text = .ok apex := stands.ofText
      have starts : (trim (wildcard apex).wireName).toList = '*' :: '.' :: apex.text.toList := by
        rw [trim_wildcard stands, toList_wildcard]
      rw [parse_of_star starts, String.ofList_toList, read]
      rfl

/-- What is accepted is read back from its own text where that text has no white space around it.
In ASCII that is wherever no white space stood before the trailing dot. -/
theorem rereads_iff_trimmed (raw : String) :
    (∀ domain, parse raw = .ok domain → Idna.toAscii domain.name.text = some domain.name.text →
      (parse (toString domain) = .ok domain ↔ trim domain.name.text = domain.name.text) ∧
      (parse domain.wireName = .ok domain ↔ trim domain.name.text = domain.name.text)) ∧
    (∀ name, DomainName.ofText raw = .ok name → Idna.toAscii name.text = some name.text →
      (DomainName.ofText name.text = .ok name ↔ trim name.text = name.text)) ∧
    (∀ name, DomainName.ofText raw = .ok name → Idna.isAscii raw.toList →
      (DomainName.ofText name.text = .ok name ↔
        ∀ stem c, (trim raw).toList = stem ++ [c, '.'] → isWhiteSpace c = false)) := by
  have stands {name : DomainName} (ascii : Idna.toAscii name.text = some name.text) :
      name.Stands ↔ trim name.text = name.text :=
    ⟨fun stands => stands.trimmed, fun trimmed => ⟨trimmed, ascii⟩⟩
  refine ⟨?_, ?_, ?_⟩
  · intro domain _ ascii
    have reread := (parse_wireName_iff domain).trans (stands ascii)
    exact ⟨reread, reread⟩
  · intro name _ ascii
    exact name.ofText_text_iff.trans (stands ascii)
  · intro name read low
    exact name.ofText_text_iff.trans (DomainName.stands_iff_of_isAscii read low)

theorem rereads_iff_trimmed_home :
    ∃ domain, parse " *.Home.Example.\t" = .ok domain ∧ toString domain = "*.home.example" ∧
      parse (toString domain) = .ok domain ∧ parse domain.wireName = .ok domain ∧
      DomainName.ofText domain.name.text = .ok domain.name := by
  have accepted : parse " *.Home.Example.\t" = .ok (wildcard ⟨"home.example", by decide⟩) := by
    decide +kernel
  have read : DomainName.ofText "Home.Example." = .ok ⟨"home.example", by decide⟩ := by
    decide +kernel
  have ascii : Idna.toAscii "home.example" = some "home.example" := by decide +kernel
  have trimmed : trim "home.example" = "home.example" := by decide +kernel
  obtain ⟨shown, wired⟩ := (rereads_iff_trimmed _).1 _ accepted ascii
  have named := (rereads_iff_trimmed _).2.1 _ read ascii
  exact ⟨_, accepted, by decide +kernel, shown.mpr trimmed, wired.mpr trimmed, named.mpr trimmed⟩

/-- The blank before the last dot stays in the name, and is gone when the name is read again. -/
theorem not_reread_blank :
    ∃ domain, parse "a.b ." = .ok domain ∧ Idna.toAscii domain.name.text = some domain.name.text ∧
      parse (toString domain) ≠ .ok domain ∧ parse domain.wireName ≠ .ok domain ∧
      DomainName.ofText "a.b ." = .ok domain.name ∧
      DomainName.ofText domain.name.text ≠ .ok domain.name :=
  ⟨literal ⟨"a.b ", by decide⟩, by decide +kernel⟩

end Domain

end AddressRecords
