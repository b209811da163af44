import AddressRecords.Proofs.Calls.Query
import AddressRecords.Proofs.Url.Plain
import Mathlib.Data.List.Flatten

/-!
What becomes of a text that is written behind the slash of a path. Reading can only take bytes
away from it: dots take segments away, and escapes stand for fewer bytes than they have. If no byte
is lost, the path has the segments of the text, each for itself.
-/

namespace AddressRecords.Url

/-! Escapes. -/

namespace Percent

/-- Whether there is a percent sign with two digits behind it. -/
def holdsEscape : List Char → Bool
  | '%' :: a :: b :: rest =>
    ((Text.digitValue? a).isSome && (Text.digitValue? b).isSome) || holdsEscape (a :: b :: rest)
  | _ :: rest => holdsEscape rest
  | [] => false

/-- A digit stands for itself in a path, and it is no percent sign. -/
theorem keepsPath_of_digit {c : Char} (digit : (Text.digitValue? c).isSome) :
    keepsPath c ∧ c ≠ '%' := by
  have small : c.toNat < 128 := by
    have within (high : Char) (below : c ≤ high) (ascii : high.toNat < 128) : c.toNat < 128 :=
      Nat.lt_of_le_of_lt (UInt32.le_iff_toNat_le.mp below) ascii
    unfold Text.digitValue? at digit
    split at digit
    · rename_i range
      exact within '9' range.2 (by decide)
    · split at digit
      · rename_i range
        exact within 'f' range.2 (by decide)
      · split at digit
        · rename_i range
          exact within 'F' range.2 (by decide)
        · cases digit
  have all : ∀ n < 128, (Text.digitValue? (Char.ofNat n)).isSome →
      keepsPath (Char.ofNat n) ∧ Char.ofNat n ≠ '%' := by decide
  have known := all c.toNat small
  rw [Char.ofNat_toNat] at known
  exact known digit

/-- A percent sign without two digits behind it stands for itself. -/
theorem decode_percent {rest : List Char} (free : ∀ a b more, rest = a :: b :: more →
      ¬ ((Text.digitValue? a).isSome ∧ (Text.digitValue? b).isSome)) :
    decode ('%' :: rest) = String.utf8EncodeChar '%' ++ decode rest := by
  match rest with
  | [] => rfl
  | [a] => rfl
  | a :: b :: more =>
    have here := free a b more rfl
    rw [decode]
    cases high : Text.digitValue? a with
    | none => rfl
    | some value =>
      cases low : Text.digitValue? b with
      | none => rfl
      | some value => simp [high, low] at here

theorem encode_keepsPath_cons (c : Char) (rest : List Char) :
    Percent.encode keepsPath (c :: rest) =
      (if keepsPath c then [c] else (String.utf8EncodeChar c).flatMap encodeByte) ++
        Percent.encode keepsPath rest := by
  rw [Percent.encode, List.flatMap_cons]
  rfl

theorem decode_encode_cons {c : Char} (other : c ≠ '%') (rest : List Char) :
    decode (Percent.encode keepsPath (c :: rest)) =
      String.utf8EncodeChar c ++ decode (Percent.encode keepsPath rest) := by
  rw [encode_keepsPath_cons]
  by_cases kept : keepsPath c
  · rw [if_pos kept, List.singleton_append, decode_cons other]
  · rw [if_neg kept, decode_flatMap_encodeByte]

theorem length_utf8EncodeChar_pos (c : Char) : 0 < (String.utf8EncodeChar c).length := by
  rw [String.length_utf8EncodeChar]
  exact c.utf8Size_pos

/-- What is not kept starts with a percent sign. -/
theorem exists_encode_of_lost {c : Char} (lost : ¬ keepsPath c) (rest : List Char) :
    ∃ tail, Percent.encode keepsPath (c :: rest) = '%' :: tail := by
  obtain ⟨byte, more, bytes⟩ :=
    List.exists_cons_of_ne_nil (List.ne_nil_of_length_pos (length_utf8EncodeChar_pos c))
  rw [encode_keepsPath_cons, if_neg lost, bytes]
  exact ⟨_, rfl⟩

/-- A digit in front of an encoded text was there before. -/
theorem head_of_encode {text more : List Char} {a : Char} (digit : (Text.digitValue? a).isSome)
    (written : Percent.encode keepsPath text = a :: more) :
    ∃ rest, text = a :: rest ∧ Percent.encode keepsPath rest = more := by
  cases text with
  | nil => cases written
  | cons c rest =>
    by_cases kept : keepsPath c
    · rw [encode_keepsPath_cons, if_pos kept, List.singleton_append] at written
      obtain ⟨rfl, same⟩ := List.cons.inj written
      exact ⟨rest, rfl, same⟩
    · obtain ⟨tail, signed⟩ := exists_encode_of_lost kept rest
      rw [signed] at written
      exact absurd (List.cons.inj written).1.symm (keepsPath_of_digit digit).2

theorem decode_encode_percent {rest : List Char} (free : ∀ a b more, rest = a :: b :: more →
      ¬ ((Text.digitValue? a).isSome ∧ (Text.digitValue? b).isSome)) :
    decode (Percent.encode keepsPath ('%' :: rest)) =
      String.utf8EncodeChar '%' ++ decode (Percent.encode keepsPath rest) := by
  have kept : keepsPath '%' := by decide
  rw [encode_keepsPath_cons, if_pos kept, List.singleton_append]
  apply decode_percent
  intro a b more written digits
  obtain ⟨behind, first, later⟩ := head_of_encode digits.1 written
  obtain ⟨last, second, -⟩ := head_of_encode digits.2 later
  exact free a b last (second ▸ first) digits

/-- An escape is kept, and it stands for one byte. -/
theorem decode_encode_escape {a b : Char}
    (digits : (Text.digitValue? a).isSome ∧ (Text.digitValue? b).isSome) (rest : List Char) :
    ∃ byte, decode (Percent.encode keepsPath ('%' :: a :: b :: rest)) =
      byte :: decode (Percent.encode keepsPath rest) := by
  obtain ⟨high, first⟩ := Option.isSome_iff_exists.mp digits.1
  obtain ⟨low, second⟩ := Option.isSome_iff_exists.mp digits.2
  have kept : keepsPath '%' := by decide
  rw [encode_keepsPath_cons, if_pos kept, encode_keepsPath_cons,
    if_pos (keepsPath_of_digit digits.1).1, encode_keepsPath_cons,
    if_pos (keepsPath_of_digit digits.2).1]
  simp only [List.singleton_append]
  rw [decode, first, second]
  exact ⟨_, rfl⟩

/-- A text comes back out of its encoding, or it loses bytes to an escape that it holds. -/
theorem decode_encode_cases (text : List Char) :
    holdsEscape text = false ∧
        decode (Percent.encode keepsPath text) = Text.Utf8.encode text ∨
      holdsEscape text = true ∧
        (decode (Percent.encode keepsPath text)).length < (Text.Utf8.encode text).length := by
  fun_induction holdsEscape text with
  | case1 a b rest ih =>
    have bytes : Text.Utf8.encode ('%' :: a :: b :: rest) =
      String.utf8EncodeChar '%' ++ Text.Utf8.encode (a :: b :: rest) := rfl
    by_cases digits : (Text.digitValue? a).isSome ∧ (Text.digitValue? b).isSome
    · refine .inr ⟨by simp [digits], ?_⟩
      have bound : (decode (Percent.encode keepsPath (a :: b :: rest))).length ≤
          (Text.Utf8.encode (a :: b :: rest)).length := by
        rcases ih with ⟨-, same⟩ | ⟨-, shorter⟩
        · exact Nat.le_of_eq (congrArg List.length same)
        · exact Nat.le_of_lt shorter
      obtain ⟨first, second⟩ := And.imp keepsPath_of_digit keepsPath_of_digit digits
      rw [decode_encode_cons first.2, decode_encode_cons second.2, List.length_append,
        List.length_append] at bound
      obtain ⟨byte, read⟩ := decode_encode_escape digits rest
      rw [bytes, List.length_append, read, List.length_cons]
      have some_byte := length_utf8EncodeChar_pos a
      have one_byte : (String.utf8EncodeChar '%').length = 1 := by decide
      omega
    · have here : decode (Percent.encode keepsPath ('%' :: a :: b :: rest)) =
          String.utf8EncodeChar '%' ++ decode (Percent.encode keepsPath (a :: b :: rest)) := by
        apply decode_encode_percent
        intro c d more shape
        cases shape
        exact digits
      have unread : ((Text.digitValue? a).isSome && (Text.digitValue? b).isSome) = false := by
        simpa using digits
      rw [here, bytes, unread, Bool.false_or]
      rcases ih with ⟨free, same⟩ | ⟨escaped, shorter⟩
      · exact .inl ⟨free, by rw [same]⟩
      · refine .inr ⟨escaped, ?_⟩
        rw [List.length_append, List.length_append]
        omega
  | case2 c rest plain ih =>
    have bytes : Text.Utf8.encode (c :: rest) =
      String.utf8EncodeChar c ++ Text.Utf8.encode rest := rfl
    have here : decode (Percent.encode keepsPath (c :: rest)) =
        String.utf8EncodeChar c ++ decode (Percent.encode keepsPath rest) := by
      by_cases percent : c = '%'
      · subst percent
        apply decode_encode_percent
        intro a b more shape
        exact absurd shape (plain a b more rfl)
      · exact decode_encode_cons percent rest
    rw [here, bytes]
    rcases ih with ⟨free, same⟩ | ⟨escaped, shorter⟩
    · exact .inl ⟨free, by rw [same]⟩
    · refine .inr ⟨escaped, ?_⟩
      rw [List.length_append, List.length_append]
      omega
  | case3 => exact .inl ⟨rfl, rfl⟩

end Percent

/-! Dots. -/

/-- Lower case is told apart for ASCII only. -/
theorem toLower_of_high {c : Char} (high : 128 ≤ c.toNat) : c.toLower = c := by
  unfold Char.toLower
  apply dif_neg
  rintro ⟨-, below⟩
  have : c.toNat ≤ 'Z'.toNat := UInt32.le_iff_toNat_le.mp below
  have : 'Z'.toNat = 90 := rfl
  omega

theorem toLower_eq_iff {c sign : Char} (mem : sign ∈ ['.', '%']) : c.toLower = sign ↔ c = sign := by
  by_cases low : c.toNat < 128
  · have dots : ∀ n < 128, (Char.ofNat n).toLower = '.' ↔ Char.ofNat n = '.' := by decide
    have percents : ∀ n < 128, (Char.ofNat n).toLower = '%' ↔ Char.ofNat n = '%' := by decide
    have dot := dots c.toNat low
    have percent := percents c.toNat low
    rw [Char.ofNat_toNat] at dot percent
    rw [List.mem_cons, List.mem_singleton] at mem
    rcases mem with rfl | rfl
    · exact dot
    · exact percent
  · rw [toLower_of_high (Nat.not_lt.mp low)]

theorem digitValue?_toLower (c : Char) : Text.digitValue? c.toLower = Text.digitValue? c := by
  by_cases low : c.toNat < 128
  · have all : ∀ n < 128,
        Text.digitValue? (Char.ofNat n).toLower = Text.digitValue? (Char.ofNat n) := by decide
    have known := all c.toNat low
    rwa [Char.ofNat_toNat] at known
  · rw [toLower_of_high (Nat.not_lt.mp low)]

theorem holdsEscape_map_toLower (text : List Char) :
    Percent.holdsEscape (text.map Char.toLower) = Percent.holdsEscape text := by
  fun_induction Percent.holdsEscape text with
  | case1 a b rest ih =>
    have percent : '%'.toLower = '%' := by decide
    rw [List.map_cons, List.map_cons, List.map_cons, percent, Percent.holdsEscape,
      digitValue?_toLower, digitValue?_toLower, ← List.map_cons, ← List.map_cons, ih]
  | case2 c rest plain ih =>
    rw [List.map_cons, Percent.holdsEscape, ih]
    intro a b more percent shape
    obtain ⟨first, behind, rfl, -, later⟩ := List.map_eq_cons_iff.mp shape
    obtain ⟨second, others, rfl, -, -⟩ := List.map_eq_cons_iff.mp later
    exact plain first second others ((toLower_eq_iff (by simp)).mp percent) rfl
  | case3 => rfl

theorem map_toLower_eq_dots (segment : List Char) (count : Nat) :
    segment.map Char.toLower = List.replicate count '.' ↔
      segment = List.replicate count '.' := by
  have dot {c : Char} : c.toLower = '.' ↔ c = '.' := toLower_eq_iff (by simp)
  simp only [List.eq_replicate_iff, List.length_map, List.forall_mem_map, dot]

/-- A dot that is not written as an escape is written as itself. -/
theorem isDotted_iff {segment : List Char} (free : Percent.holdsEscape segment = false) :
    (isSingleDot segment ↔ segment = ['.']) ∧ (isDoubleDot segment ↔ segment = ['.', '.']) := by
  have unlike {form : List Char} (escape : Percent.holdsEscape form = true) :
      segment.map Char.toLower ≠ form := by
    rintro rfl
    rw [holdsEscape_map_toLower, free] at escape
    cases escape
  have code := unlike (show Percent.holdsEscape ['%', '2', 'e'] = true by decide)
  have first := unlike (show Percent.holdsEscape ['.', '%', '2', 'e'] = true by decide)
  have second := unlike (show Percent.holdsEscape ['%', '2', 'e', '.'] = true by decide)
  have both := unlike (show Percent.holdsEscape ['%', '2', 'e', '%', '2', 'e'] = true by decide)
  constructor
  · rw [isSingleDot, Bool.or_eq_true, beq_iff_eq, beq_iff_eq, or_iff_left code]
    exact map_toLower_eq_dots segment 1
  · simp only [isDoubleDot, Bool.or_eq_true, beq_iff_eq, or_iff_left both, or_iff_left second,
      or_iff_left first]
    exact map_toLower_eq_dots segment 2

/-- The segment stands for itself in a path. -/
structure IsWhole (segment : List Char) : Prop where
  undotted : isDoubleDot segment = false ∧ isSingleDot segment = false
  unescaped : Percent.holdsEscape segment = false

/-! Bytes. -/

/-- How many bytes there are, with a slash before each part. -/
def slashed : List (List UInt8) → Nat
  | [] => 0
  | part :: rest => 1 + part.length + slashed rest

/-- How many bytes segments stand for, with the slash of each. -/
def weight (segments : List (List Char)) : Nat := slashed (segments.map Percent.decode)

/-- How many bytes texts have, with the slash of each. -/
def size (texts : List (List Char)) : Nat := slashed (texts.map Text.Utf8.encode)

theorem slashed_append (parts others : List (List UInt8)) :
    slashed (parts ++ others) = slashed parts + slashed others := by
  induction parts with
  | nil => rw [List.nil_append, slashed, Nat.zero_add]
  | cons part rest ih =>
    rw [List.cons_append, slashed, slashed, ih]
    omega

theorem weight_append (segments others : List (List Char)) :
    weight (segments ++ others) = weight segments + weight others := by
  rw [weight, List.map_append, slashed_append]
  rfl

theorem weight_dropLast_le (segments : List (List Char)) :
    weight segments.dropLast ≤ weight segments := by
  rcases List.eq_nil_or_concat segments with rfl | ⟨before, last, rfl⟩
  · exact Nat.le_refl _
  · rw [List.concat_eq_append, List.dropLast_concat, weight_append]
    exact Nat.le_add_right _ _

theorem size_cons (text : List Char) (texts : List (List Char)) :
    size (text :: texts) = 1 + (Text.Utf8.encode text).length + size texts := rfl

/-- Without a drive, shortening leaves out the last segment. -/
theorem shorten_eq_dropLast (path : List (List Char)) : shorten false path = path.dropLast := by
  match path with
  | [] => rfl
  | [first] => rfl
  | first :: second :: rest => rfl

theorem IsWhole.decode_encode {segment : List Char} (h : IsWhole segment) :
    Percent.decode (Percent.encode Percent.keepsPath segment) = Text.Utf8.encode segment := by
  rcases Percent.decode_encode_cases segment with ⟨-, same⟩ | ⟨escaped, -⟩
  · exact same
  · rw [h.unescaped] at escaped
    cases escaped

/-- A segment that stands for itself is added, and any other one loses bytes. -/
theorem addSegment_cases (last : Bool) (path : List (List Char)) (segment : List Char) :
    IsWhole segment ∧ addSegment false last path segment =
        path ++ [Percent.encode Percent.keepsPath segment] ∨
      ¬ IsWhole segment ∧ weight (addSegment false last path segment) <
        weight path + (1 + (Text.Utf8.encode segment).length) := by
  have closed (shown : List (List Char)) :
      weight (if last then shown ++ [[]] else shown) ≤ weight shown + 1 := by
    cases last
    · exact Nat.le_succ _
    · exact Nat.le_of_eq (weight_append shown [[]])
  have some_bytes : segment ≠ [] → 0 < (Text.Utf8.encode segment).length := by
    intro some_char
    obtain ⟨c, rest, rfl⟩ := List.exists_cons_of_ne_nil some_char
    have := Percent.length_utf8EncodeChar_pos c
    rw [Text.Utf8.encode, List.flatMap_cons, List.length_append]
    omega
  unfold addSegment
  by_cases double : isDoubleDot segment
  · have here := some_bytes (by rintro rfl; cases double)
    have := closed path.dropLast
    have := weight_dropLast_le path
    refine .inr ⟨fun whole => by simp [whole.undotted.1] at double, ?_⟩
    rw [if_pos double]
    dsimp only
    rw [shorten_eq_dropLast]
    omega
  · by_cases single : isSingleDot segment
    · have here := some_bytes (by rintro rfl; cases single)
      have := closed path
      refine .inr ⟨fun whole => by simp [whole.undotted.2] at single, ?_⟩
      rw [if_neg double, if_pos single]
      omega
    · have undriven : (if (false : Bool) = true ∧ path.isEmpty = true then drive? segment
          else none) = none := by simp
      rw [if_neg double, if_neg single, undriven]
      dsimp only
      rw [Option.getD_none]
      rw [Bool.not_eq_true] at double single
      rcases Percent.decode_encode_cases segment with ⟨free, -⟩ | ⟨escaped, shorter⟩
      · exact .inl ⟨⟨⟨double, single⟩, free⟩, rfl⟩
      · refine .inr ⟨fun whole => by simp [whole.unescaped] at escaped, ?_⟩
        rw [weight_append]
        apply Nat.add_lt_add_left
        rw [weight, List.map_singleton, slashed, slashed]
        omega

/-- If all texts stand for themselves, they are added as they are, and otherwise bytes are lost. -/
theorem addSegments_cases (path texts : List (List Char)) :
    (∀ text ∈ texts, IsWhole text) ∧
        addSegments false path texts = path ++ texts.map (Percent.encode Percent.keepsPath) ∧
        weight (addSegments false path texts) = weight path + size texts ∨
      ¬ (∀ text ∈ texts, IsWhole text) ∧
        weight (addSegments false path texts) < weight path + size texts := by
  induction texts generalizing path with
  | nil => exact .inl ⟨by simp, by simp [addSegments], rfl⟩
  | cons text rest ih =>
    obtain ⟨last, step⟩ : ∃ last, addSegments false path (text :: rest) =
        addSegments false (addSegment false last path text) rest := by
      cases rest with
      | nil => exact ⟨true, rfl⟩
      | cons next more => exact ⟨false, rfl⟩
    rw [step, size_cons, List.forall_mem_cons]
    have later := ih (addSegment false last path text)
    rcases addSegment_cases last path text with ⟨whole, added⟩ | ⟨broken, lighter⟩
    · have grown : weight (addSegment false last path text) =
          weight path + (1 + (Text.Utf8.encode text).length) := by
        rw [added, weight_append, ← whole.decode_encode]
        rfl
      rcases later with ⟨wholes, all, sum⟩ | ⟨broken, lighter⟩
      · refine .inl ⟨⟨whole, wholes⟩, ?_, by omega⟩
        rw [all, added, List.append_assoc]
        rfl
      · exact .inr ⟨fun wholes => broken wholes.2, by omega⟩
    · refine .inr ⟨fun wholes => broken wholes.1, ?_⟩
      rcases later with ⟨-, -, sum⟩ | ⟨-, lighter⟩ <;> omega

/-! Texts. -/

theorem encode_injective {text other : List Char}
    (same : Text.Utf8.encode text = Text.Utf8.encode other) : text = other := by
  rw [← Text.Utf8.decodeLossy_encode text, same, Text.Utf8.decodeLossy_encode]

/-- A text that has lost no byte has lost nothing. -/
theorem eq_of_sublist {text other : List Char} (part : text.Sublist other)
    (bytes : (Text.Utf8.encode other).length ≤ (Text.Utf8.encode text).length) : text = other :=
  encode_injective ((part.flatMap String.utf8EncodeChar).eq_of_length_le bytes)

/-- Slashes are bytes too. -/
theorem size_splitOnP (text : List Char) :
    size (text.splitOnP (isSlash true)) = 1 + (Text.Utf8.encode text).length := by
  have slash_byte : ∀ c, isSlash true c → (String.utf8EncodeChar c).length = 1 := by
    intro c slash
    simp only [isSlash, Bool.true_and, Bool.or_eq_true, decide_eq_true_eq] at slash
    rcases slash with rfl | rfl <;> decide
  induction text with
  | nil => rfl
  | cons c rest ih =>
    have bytes : (Text.Utf8.encode (c :: rest)).length =
        (String.utf8EncodeChar c).length + (Text.Utf8.encode rest).length := by
      rw [Text.Utf8.encode, List.flatMap_cons, List.length_append]
      rfl
    rw [List.splitOnP_cons_eq_if_modifyHead, bytes]
    by_cases slash : isSlash true c
    · rw [if_pos slash, size_cons, ih, slash_byte c slash]
      rfl
    · rw [if_neg slash]
      obtain ⟨first, others, split⟩ :=
        List.exists_cons_of_ne_nil (List.splitOnP_ne_nil (isSlash true) rest)
      rw [split, size_cons] at ih
      have longer : (Text.Utf8.encode (c :: first)).length =
          (String.utf8EncodeChar c).length + (Text.Utf8.encode first).length := by
        rw [Text.Utf8.encode, List.flatMap_cons, List.length_append]
        rfl
      rw [split, List.modifyHead_cons, size_cons, longer]
      omega

/-- No piece has a slash. -/
theorem not_isSlash_of_mem_splitOnP {text piece : List Char}
    (mem : piece ∈ text.splitOnP (isSlash true)) : ∀ c ∈ piece, isSlash true c = false := by
  induction text generalizing piece with
  | nil =>
    rw [List.splitOnP_nil, List.mem_singleton] at mem
    subst mem
    simp
  | cons c rest ih =>
    rw [List.splitOnP_cons_eq_if_modifyHead] at mem
    by_cases slash : isSlash true c
    · rw [if_pos slash, List.mem_cons] at mem
      rcases mem with rfl | later
      · simp
      · exact ih later
    · rw [if_neg slash] at mem
      obtain ⟨first, others, split⟩ :=
        List.exists_cons_of_ne_nil (List.splitOnP_ne_nil (isSlash true) rest)
      rw [split, List.modifyHead_cons, List.mem_cons] at mem
      rw [split] at ih
      rcases mem with rfl | later
      · exact List.forall_mem_cons.mpr
          ⟨Bool.eq_false_iff.mpr slash, ih List.mem_cons_self⟩
      · exact ih (List.mem_cons_of_mem first later)

end AddressRecords.Url
