import AddressRecords.Idna.Ascii
import Mathlib.Data.Option.Basic

/-!
What the ASCII form makes of ASCII. It is ASCII itself, whatever it was made of; and a name that is
ASCII already loses its case and nothing else.
-/

namespace AddressRecords

variable {α : Type}

/-! Normalization leaves text without marks alone. -/

namespace Unicode

namespace Table

/-- A value is found in a row that covers the code point. -/
theorem exists_row_of_search {rows : Array (Row α)} {code low high : Nat} {bound : high ≤ rows.size}
    {value : α} (h : search rows code low high bound = some value) :
    ∃ row ∈ rows, row.first ≤ code ∧ code ≤ row.last := by
  fun_induction search with
  | case1 low high bound open_ middle inside row below ih => exact ih h
  | case2 low high bound open_ middle inside row below above ih => exact ih h
  | case3 low high bound open_ middle inside row below above =>
    exact ⟨row, Array.getElem_mem inside, Nat.not_lt.mp below, Nat.not_lt.mp above⟩
  | case4 low high bound closed => cases h

theorem find?_eq_none {table : Table α} {code : Nat}
    (uncovered : ∀ row ∈ table.rows, row.first ≤ code → row.last < code) :
    table.find? code = none := by
  cases h : table.find? code with
  | none => rfl
  | some value =>
    obtain ⟨row, mem, first, last⟩ := exists_row_of_search h
    exact absurd (uncovered row mem first) (Nat.not_lt.mpr last)

/-- Every row of a line passes a test. -/
def lineAll (value : List Char → α) (test : Row α → Bool) (line : List Char) : Bool :=
  (line.splitOn ' ').all fun text => test (readRow value text)

theorem forall_mem_rows_of_lineAll {value : List Char → α} {lines : List String}
    (test : Row α → Bool) (h : ∀ line ∈ lines, lineAll value test line.toList) :
    ∀ row ∈ (ofLines value lines).rows, test row := by
  intro row mem
  simp only [ofLines, List.mem_toArray, List.mem_map, List.mem_flatMap] at mem
  obtain ⟨text, ⟨line, among, within⟩, rfl⟩ := mem
  exact List.all_eq_true.mp (h line among) text within

/-- The kernel reads characters faster than strings. -/
theorem lineAll_cons {value : List Char → α} {test : Row α → Bool} {line : List Char}
    {lines : List String} (first : lineAll value test line)
    (later : ∀ other ∈ lines, lineAll value test other.toList) :
    ∀ other ∈ String.ofList line :: lines, lineAll value test other.toList := by
  refine List.forall_mem_cons.mpr ⟨?_, later⟩
  rw [String.toList_ofList]
  exact first

end Table

/-! Marks begin at U+0300, and only marks and Hangul letters compose with what is before them. -/

theorem le_first_of_mem_combiningClasses : ∀ row ∈ combiningClasses.rows, 0x300 ≤ row.first := by
  intro row mem
  refine of_decide_eq_true (Table.forall_mem_rows_of_lineAll (decide <| 0x300 ≤ ·.first) ?_ row mem)
  repeat refine Table.lineAll_cons (by decide +kernel) ?_
  exact fun _ mem => nomatch mem

theorem le_mod_of_mem_compositions :
    ∀ row ∈ compositions.rows, row.first = row.last ∧ 0x300 ≤ row.first % 0x110000 := by
  intro row mem
  obtain ⟨source, among, rfl⟩ := Array.mem_map.mp mem
  have second : 0x300 ≤ source.value.getD 1 0 ∧ source.value.getD 1 0 < 0x110000 := by
    refine of_decide_eq_true (Table.forall_mem_rows_of_lineAll (fun row =>
      decide (0x300 ≤ row.value.getD 1 0 ∧ row.value.getD 1 0 < 0x110000)) ?_ source among)
    repeat refine Table.lineAll_cons (by decide +kernel) ?_
    exact fun _ mem => nomatch mem
  refine ⟨rfl, ?_⟩
  change 0x300 ≤ (source.value.headD 0 * 0x110000 + source.value.getD 1 0) % 0x110000
  omega

theorem combiningClass_of_lt {c : Char} (h : c.toNat < 0x300) : combiningClass c = 0 := by
  have missing : combiningClasses.find? c.toNat = none := by
    refine Table.find?_eq_none fun row mem first => ?_
    have := le_first_of_mem_combiningClasses row mem
    omega
  rw [combiningClass, missing]
  rfl

theorem composePair_of_lt (first : Char) {second : Char} (h : second.toNat < 0x300) :
    composePair first second = none := by
  have missing : compositions.find? (pairKey first.toNat second.toNat) = none := by
    refine Table.find?_eq_none fun row mem low => ?_
    obtain ⟨single, mark⟩ := le_mod_of_mem_compositions row mem
    rw [pairKey] at low ⊢
    omega
  have letters : Hangul.compose? first.toNat second.toNat = none := by
    have vowel : ¬ Hangul.vowelBase ≤ second.toNat := by
      rw [Hangul.vowelBase]
      omega
    have trail : ¬ Hangul.trailBase < second.toNat := by
      rw [Hangul.trailBase]
      omega
    rw [Hangul.compose?, if_neg fun fits => vowel fits.2.2.1, if_neg fun fits => trail fits.2.2.2.1]
  rw [composePair, letters, missing]
  rfl

theorem decompose_of_lt {c : Char} (h : c.toNat < 0xc0) : decompose c = [c] := if_pos h

theorem orderMarks_of_lt {text : List Char} (h : ∀ c ∈ text, c.toNat < 0x300) :
    orderMarks text = text := by
  induction text with
  | nil => rfl
  | cons c rest ih =>
    obtain ⟨first, later⟩ := List.forall_mem_cons.mp h
    rw [orderMarks, List.foldr_cons, ← orderMarks, ih later]
    cases rest with
    | nil => rfl
    | cons d more =>
      have starts : combiningClass d = 0 := combiningClass_of_lt (later d List.mem_cons_self)
      rw [placeMark, if_neg (by omega)]

/-- Stated on its own, as the equations that `rw` would make up look every class up. -/
theorem composeFrom_cons (starter c : Char) (rest : List Char) :
    composeFrom starter [] (c :: rest) =
      match composePair starter c with
      | some composed => composeFrom composed [] rest
      | none =>
        if combiningClass c = 0 then starter :: composeFrom c [] rest
        else composeFrom starter [c] rest := rfl

theorem composeFrom_of_lt (starter : Char) {text : List Char} (h : ∀ c ∈ text, c.toNat < 0x300) :
    composeFrom starter [] text = starter :: text := by
  induction text generalizing starter with
  | nil => rfl
  | cons c rest ih =>
    obtain ⟨first, later⟩ := List.forall_mem_cons.mp h
    rw [composeFrom_cons, composePair_of_lt starter first]
    dsimp only
    rw [if_pos (combiningClass_of_lt first), ih c later]

theorem compose_of_lt {text : List Char} (h : ∀ c ∈ text, c.toNat < 0x300) :
    compose text = text := by
  cases text with
  | nil => rfl
  | cons c rest =>
    obtain ⟨first, later⟩ := List.forall_mem_cons.mp h
    rw [compose, if_pos (combiningClass_of_lt first), composeFrom_of_lt c later]

/-- Text that takes nothing apart and has no marks is normal. -/
theorem normalize_of_lt {text : List Char} (h : ∀ c ∈ text, c.toNat < 0xc0) :
    normalize text = text := by
  have apart : text.flatMap decompose = text := by
    induction text with
    | nil => rfl
    | cons c rest ih =>
      obtain ⟨first, later⟩ := List.forall_mem_cons.mp h
      rw [List.flatMap_cons, decompose_of_lt first, ih later, List.singleton_append]
  have low : ∀ c ∈ text, c.toNat < 0x300 := fun c mem => by
    have := h c mem
    omega
  rw [normalize, apart, orderMarks_of_lt low, compose_of_lt low]

end Unicode

/-! Punycode is ASCII. -/

namespace Idna.Punycode

theorem isAscii_digitOf {value : Nat} (h : value < base) : isAscii (digitOf value) := by
  have all : ∀ value < 36, isAscii (digitOf value) := by decide
  exact all value h

theorem threshold_le (place bias : Nat) : threshold place bias ≤ mostThreshold := by
  unfold threshold
  split
  · decide
  · split <;> omega

theorem all_digits (value place bias : Nat) : (digits value place bias).all isAscii := by
  have few : mostThreshold < base := by decide
  fun_induction digits value place bias with
  | case1 value place least below =>
    have bounded : least ≤ mostThreshold := threshold_le place bias
    rw [List.all_cons, isAscii_digitOf (by omega)]
    rfl
  | case2 value place least above ih =>
    have bounded : least ≤ mostThreshold := threshold_le place bias
    have digit : (value - least) % (base - least) < base - least := Nat.mod_lt _ (by omega)
    rw [List.all_cons, isAscii_digitOf (by omega), ih]
    rfl

theorem Encoder.all_pass {e : Encoder} (h : e.written.all isAscii) (code basic : Nat) (c : Char) :
    (e.pass code basic c).written.all isAscii := by
  unfold Encoder.pass
  split
  · exact h
  · split
    · rw [List.all_append, Bool.and_eq_true]
      exact ⟨h, all_digits _ _ _⟩
    · exact h

theorem all_encodeCodes (text : List Char) (basic last : Nat) (codes : List Nat) {e : Encoder}
    (h : e.written.all isAscii) : (encodeCodes text basic e last codes).all isAscii := by
  induction codes generalizing e last with
  | nil => exact h
  | cons code rest ih =>
    have passed (letters : List Char) {e : Encoder} (h : e.written.all isAscii) :
        (letters.foldl (Encoder.pass code basic) e).written.all isAscii := by
      induction letters generalizing e with
      | nil => exact h
      | cons c more again => exact again (Encoder.all_pass h code basic c)
    exact ih _ (passed text h)

theorem all_encode (text : List Char) : (encode text).all isAscii := by
  refine all_encodeCodes _ _ _ _ ?_
  have kept : (text.filter isAscii).all isAscii :=
    List.all_eq_true.mpr fun c mem => (List.mem_filter.mp mem).2
  dsimp only
  split
  · rfl
  · rw [List.all_append, Bool.and_eq_true]
    exact ⟨kept, by decide⟩

end Idna.Punycode

/-! Names. -/

namespace Idna

open Unicode (normalize)

theorem toNat_lt_of_isAscii {text : List Char} (h : isAscii text) : ∀ c ∈ text, c.toNat < 0x80 :=
  fun c mem => of_decide_eq_true (List.all_eq_true.mp h c mem)

/-- What holds of each of the ASCII characters holds of a character below them. -/
theorem forall_ascii {motive : Char → Prop} (h : ∀ code < 0x80, motive (Char.ofNat code)) {c : Char}
    (low : c.toNat < 0x80) : motive c := by
  have given := h c.toNat low
  rwa [Char.ofNat_toNat] at given

theorem toNat_toLower_lt {c : Char} (low : c.toNat < 0x80) : c.toLower.toNat < 0x80 :=
  forall_ascii (motive := fun c => c.toLower.toNat < 0x80) (by decide) low

/-- Preparing ASCII is lowering it. -/
theorem prepare_of_isAscii {text : List Char} (h : isAscii text) :
    prepare text = some (text.map Char.toLower) := by
  have low := toNat_lt_of_isAscii h
  have mapped : text.mapM mapChar = some (text.map ([·.toLower])) := by
    clear h
    induction text with
    | nil => rfl
    | cons c rest ih =>
      obtain ⟨first, later⟩ := List.forall_mem_cons.mp low
      rw [List.mapM_cons, mapChar, if_pos first, ih later]
      rfl
  have normal : normalize (text.map Char.toLower) = text.map Char.toLower := by
    refine Unicode.normalize_of_lt fun c mem => ?_
    obtain ⟨d, among, rfl⟩ := List.mem_map.mp mem
    have := toNat_toLower_lt (low d among)
    omega
  have singles : (text.map ([·.toLower])).flatten = text.map Char.toLower := by
    rw [← List.flatMap_def, List.map_eq_flatMap]
  rw [prepare, mapped, Option.map_some, singles, normal]

theorem isAscii_of_decode {payload text : List Char} (h : Punycode.decode payload = some text) :
    isAscii payload := by
  unfold Punycode.decode at h
  dsimp only at h
  cases ascii : payload.all Punycode.isAscii with
  | true => exact ascii
  | false =>
    rw [ascii] at h
    cases h

/-- An encoded label is written as it is. -/
theorem of_decodeLabel {label : List Char} {decoded : Label}
    (h : decodeLabel label = some decoded) :
    decoded.ascii = label ∧ isAscii (label.drop marker.length) := by
  unfold decodeLabel at h
  simp only [Option.bind_eq_bind, Option.bind_eq_some_iff, Option.pure_def, Option.some.injEq] at h
  obtain ⟨_, -, text, decodes, _, -, rfl⟩ := h
  exact ⟨rfl, isAscii_of_decode decodes⟩

/-- An ASCII label is written as it is. -/
theorem ascii_of_isAscii {label : List Char} {read : Label} (ascii : isAscii label)
    (h : readLabel label = some read) : read.ascii = label := by
  unfold readLabel at h
  split at h
  · exact (of_decodeLabel h).1
  · cases h
    rfl

theorem isAscii_of_readLabel {label : List Char} {read : Label} (h : readLabel label = some read) :
    isAscii read.ascii := by
  unfold readLabel at h
  split at h
  · rename_i marked
    obtain ⟨same, payload⟩ := of_decodeLabel h
    have whole : label = marker ++ label.drop marker.length := by
      obtain ⟨rest, rfl⟩ := List.isPrefixOf_iff_prefix.mp marked
      rw [List.drop_left]
    rw [same, whole, isAscii, List.all_append, Bool.and_eq_true]
    exact ⟨by decide, payload⟩
  · split at h
    · rename_i ascii
      cases h
      exact ascii
    · simp only [Option.bind_eq_bind, Option.bind_eq_some_iff, Option.pure_def,
        Option.some.injEq] at h
      obtain ⟨_, -, rfl⟩ := h
      rw [isAscii, List.all_append, Bool.and_eq_true]
      exact ⟨by decide, Punycode.all_encode label⟩

theorem mem_of_mem_splitOn {text piece : List Char} {c dot : Char}
    (within : piece ∈ text.splitOn dot) (mem : c ∈ piece) : c ∈ text := by
  induction text generalizing piece with
  | nil =>
    obtain rfl := List.mem_singleton.mp within
    exact mem
  | cons d rest ih =>
    obtain ⟨label, more, split⟩ := List.exists_cons_of_ne_nil (List.splitOn_ne_nil dot rest)
    rw [split] at ih
    rw [List.splitOn_cons_eq_if_modifyHead, split] at within
    split at within
    · rcases List.mem_cons.mp within with rfl | behind
      · cases mem
      · exact List.mem_cons_of_mem _ (ih behind mem)
    · rcases List.mem_cons.mp within with rfl | behind
      · rcases List.mem_cons.mp mem with rfl | inside
        · exact List.mem_cons_self
        · exact List.mem_cons_of_mem _ (ih List.mem_cons_self inside)
      · exact List.mem_cons_of_mem _ (ih (List.mem_cons_of_mem _ behind) mem)

theorem isAscii_intercalate {labels : List (List Char)} (h : ∀ label ∈ labels, isAscii label) :
    isAscii (['.'].intercalate labels) := by
  induction labels with
  | nil => rfl
  | cons label rest ih =>
    obtain ⟨first, later⟩ := List.forall_mem_cons.mp h
    cases rest with
    | nil => rwa [List.intercalate_singleton]
    | cons next more =>
      rw [List.intercalate_cons_cons, isAscii, List.all_append, List.all_append]
      exact Bool.and_eq_true_iff.mpr ⟨Bool.and_eq_true_iff.mpr ⟨first, by decide⟩, ih later⟩

theorem isAscii_of_mapM {texts : List (List Char)} {labels : List Label}
    (h : texts.mapM readLabel = some labels) : ∀ label ∈ labels, isAscii label.ascii := by
  induction texts generalizing labels with
  | nil =>
    cases h
    exact fun _ mem => nomatch mem
  | cons text rest ih =>
    simp only [List.mapM_cons, Option.bind_eq_bind, Option.bind_eq_some_iff, Option.pure_def,
      Option.some.injEq] at h
    obtain ⟨first, reads, others, later, rfl⟩ := h
    exact List.forall_mem_cons.mpr ⟨isAscii_of_readLabel reads, ih later⟩

theorem map_ascii_of_mapM {texts : List (List Char)} {labels : List Label}
    (low : ∀ text ∈ texts, isAscii text) (h : texts.mapM readLabel = some labels) :
    labels.map (·.ascii) = texts := by
  induction texts generalizing labels with
  | nil =>
    cases h
    rfl
  | cons text rest ih =>
    simp only [List.mapM_cons, Option.bind_eq_bind, Option.bind_eq_some_iff, Option.pure_def,
      Option.some.injEq] at h
    obtain ⟨first, reads, others, later, rfl⟩ := h
    obtain ⟨ascii, behind⟩ := List.forall_mem_cons.mp low
    rw [List.map_cons, ascii_of_isAscii ascii reads, ih behind later]

theorem isAscii_map_toLower {text : List Char} (h : isAscii text) :
    isAscii (text.map Char.toLower) := by
  refine List.all_eq_true.mpr fun c mem => ?_
  obtain ⟨d, among, rfl⟩ := List.mem_map.mp mem
  exact decide_eq_true (toNat_toLower_lt (toNat_lt_of_isAscii h d among))

/-- The ASCII form is ASCII. -/
theorem isAscii_of_toAsciiChars {name ascii : List Char} (h : toAsciiChars name = some ascii) :
    isAscii ascii := by
  unfold toAsciiChars at h
  split at h
  · rename_i plain
    cases h
    exact isAscii_map_toLower (Bool.and_eq_true_iff.mp plain).1
  · simp only [Option.bind_eq_bind, Option.bind_eq_some_iff, Option.pure_def,
      Option.some.injEq] at h
    obtain ⟨prepared, -, labels, read, _, -, rfl⟩ := h
    refine isAscii_intercalate fun label mem => ?_
    obtain ⟨given, among, rfl⟩ := List.mem_map.mp mem
    exact isAscii_of_mapM read given among

/-- An ASCII name loses its case and nothing else. -/
theorem toAsciiChars_of_isAscii {name ascii : List Char} (low : isAscii name)
    (h : toAsciiChars name = some ascii) : ascii = name.map Char.toLower := by
  unfold toAsciiChars at h
  split at h
  · cases h
    rfl
  · simp only [Option.bind_eq_bind, Option.bind_eq_some_iff, Option.pure_def,
      Option.some.injEq] at h
    obtain ⟨prepared, prepares, labels, read, _, -, rfl⟩ := h
    -- The labels of an ASCII name are ASCII, and each is written as it is.
    rw [prepare_of_isAscii low] at prepares
    obtain rfl := Option.some.inj prepares
    have pieces : ∀ text ∈ (name.map Char.toLower).splitOn '.', isAscii text := by
      intro text within
      refine List.all_eq_true.mpr fun c mem => ?_
      exact List.all_eq_true.mp (isAscii_map_toLower low) c (mem_of_mem_splitOn within mem)
    rw [map_ascii_of_mapM pieces read, List.intercalate_splitOn]

/-! Case. -/

theorem toLower_toLower {c : Char} (low : c.toNat < 0x80) : c.toLower.toLower = c.toLower :=
  forall_ascii (motive := fun c => c.toLower.toLower = c.toLower) (by decide) low

theorem toLower_beq_dot {c : Char} (low : c.toNat < 0x80) : (c.toLower == '.') = (c == '.') :=
  forall_ascii (motive := fun c => (c.toLower == '.') = (c == '.')) (by decide) low

theorem map_toLower_map_toLower {text : List Char} (low : isAscii text) :
    (text.map Char.toLower).map Char.toLower = text.map Char.toLower := by
  rw [List.map_map]
  exact List.map_congr_left fun c mem => toLower_toLower (toNat_lt_of_isAscii low c mem)

/-- The labels are the same but for their case. -/
theorem splitOn_map_toLower {text : List Char} (low : ∀ c ∈ text, c.toNat < 0x80) :
    (text.map Char.toLower).splitOn '.' = (text.splitOn '.').map (·.map Char.toLower) := by
  induction text with
  | nil => rfl
  | cons c rest ih =>
    obtain ⟨first, later⟩ := List.forall_mem_cons.mp low
    obtain ⟨label, more, split⟩ := List.exists_cons_of_ne_nil (List.splitOn_ne_nil '.' rest)
    have again := ih later
    rw [split] at again
    rw [List.map_cons, List.splitOn_cons_eq_if_modifyHead, List.splitOn_cons_eq_if_modifyHead,
      toLower_beq_dot first, again, split]
    split <;> rfl

/-- The case of an ASCII name does not matter to its ASCII form. -/
theorem toAsciiChars_map_toLower {name : List Char} (low : isAscii name) :
    toAsciiChars (name.map Char.toLower) = toAsciiChars name := by
  have lower := map_toLower_map_toLower low
  have labels : ∀ label ∈ name.splitOn '.', (label.map Char.toLower).map Char.toLower =
      label.map Char.toLower := by
    intro label within
    refine map_toLower_map_toLower (List.all_eq_true.mpr fun c mem => ?_)
    exact List.all_eq_true.mp low c (mem_of_mem_splitOn within mem)
  have plain : isPlain (name.map Char.toLower) = isPlain name := by
    rw [isPlain, isPlain, isAscii_map_toLower low, low,
      splitOn_map_toLower (toNat_lt_of_isAscii low), List.all_map, Bool.eq_iff_iff,
      Bool.true_and, Bool.true_and, List.all_eq_true, List.all_eq_true]
    refine forall_congr' fun label => imp_congr_right fun within => ?_
    rw [Function.comp_apply, labels label within]
  rw [toAsciiChars, toAsciiChars, plain, lower, prepare_of_isAscii low,
    prepare_of_isAscii (isAscii_map_toLower low), lower]

theorem toAscii_eq_some_iff {name ascii : String} :
    toAscii name = some ascii ↔ toAsciiChars name.toList = some ascii.toList := by
  rw [toAscii, Option.map_eq_some_iff]
  constructor
  · rintro ⟨chars, converted, rfl⟩
    rw [converted, String.toList_ofList]
  · intro converted
    exact ⟨ascii.toList, converted, String.ofList_toList⟩

end Idna

end AddressRecords
