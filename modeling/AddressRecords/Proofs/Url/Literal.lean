import AddressRecords.Proofs.Url.Behind

/-!
Texts that are put into a path as they are. The path has one segment for each of them, which reads
as the text, if none of them has a meaning of its own there, and only then.
-/

namespace AddressRecords.Url

/-! Texts that a path has room for. -/

/-- Characters that end a segment, or that do not count in a URL. -/
def segmentMarks : List Char := ['/', '\\', '?', '#', '\t', '\n', '\r']

/-- A text that is one segment of a path, and is read as it is written. -/
structure IsLiteral (text : List Char) : Prop where
  unmarked : ∀ c ∈ text, c ∉ segmentMarks
  undotted : text ≠ ['.'] ∧ text ≠ ['.', '.']
  unescaped : Percent.holdsEscape text = false

instance (text : List Char) : Decidable (IsLiteral text) :=
  decidable_of_iff (text.all (fun c => !segmentMarks.contains c) = true ∧
      (text ≠ ['.'] ∧ text ≠ ['.', '.']) ∧ Percent.holdsEscape text = false)
    ⟨fun h => ⟨by simpa using h.1, h.2.1, h.2.2⟩,
      fun h => ⟨by simpa using h.unmarked, h.undotted, h.unescaped⟩⟩

/-- The text does not end with a blank or a control. -/
def EndsVisibly (text : List Char) : Prop := ∀ c ∈ text.getLast?, 0x20 < c.toNat

instance (text : List Char) : Decidable (EndsVisibly text) :=
  decidable_of_iff (text.getLast?.all (fun c => 0x20 < c.toNat) = true)
    (by cases shape : text.getLast? <;> simp [EndsVisibly, shape])

variable {text : List Char} {c : Char}

/-- Without marks, a literal text is one that stands for itself. -/
theorem isLiteral_iff_isWhole (unmarked : ∀ c ∈ text, c ∉ segmentMarks) :
    IsLiteral text ↔ IsWhole text := by
  constructor
  · intro h
    obtain ⟨single, double⟩ := isDotted_iff h.unescaped
    have one : ¬ isSingleDot text := fun dot => h.undotted.1 (single.mp dot)
    have two : ¬ isDoubleDot text := fun dots => h.undotted.2 (double.mp dots)
    exact ⟨⟨Bool.not_eq_true _ ▸ two, Bool.not_eq_true _ ▸ one⟩, h.unescaped⟩
  · intro h
    obtain ⟨single, double⟩ := isDotted_iff h.unescaped
    have one : text ≠ ['.'] := by
      intro dot
      have dotted := single.mpr dot
      rw [h.undotted.2] at dotted
      cases dotted
    have two : text ≠ ['.', '.'] := by
      intro dots
      have dotted := double.mpr dots
      rw [h.undotted.1] at dotted
      cases dotted
    exact ⟨unmarked, ⟨one, two⟩, h.unescaped⟩

theorem IsLiteral.isWhole (h : IsLiteral text) : IsWhole text :=
  (isLiteral_iff_isWhole h.unmarked).mp h

/-! Texts that nothing is taken away from. -/

theorem dropWhile_eq_self_iff {drops : Char → Bool} :
    text.dropWhile drops = text ↔ ∀ c ∈ text.head?, drops c = false := by
  cases text with
  | nil => simp
  | cons c rest =>
    by_cases dropped : drops c = true
    · have shorter := (List.dropWhile_sublist drops : (rest.dropWhile drops).Sublist rest).length_le
      rw [List.dropWhile_cons_of_pos dropped]
      refine iff_of_false ?_ (by simp [dropped])
      intro same
      have := congrArg List.length same
      rw [List.length_cons] at this
      omega
    · rw [List.dropWhile_cons_of_neg dropped]
      simpa using dropped

theorem dropEnd_sublist (text : List Char) :
    (text.reverse.dropWhile fun c => c.toNat ≤ 0x20).reverse.Sublist text := by
  rw [← List.reverse_sublist, List.reverse_reverse]
  exact List.dropWhile_sublist _

theorem tidyEnd_sublist (text : List Char) : (tidyEnd text).Sublist text :=
  List.filter_sublist.trans (dropEnd_sublist text)

theorem tidyEnd_eq_iff : tidyEnd text = text ↔
    (∀ c ∈ text, c ≠ '\t' ∧ c ≠ '\n' ∧ c ≠ '\r') ∧ EndsVisibly text := by
  have visible : (text.reverse.dropWhile fun c => c.toNat ≤ 0x20).reverse = text ↔
      EndsVisibly text := by
    rw [List.reverse_eq_iff, dropWhile_eq_self_iff, List.head?_reverse]
    simp [EndsVisibly]
  have kept : text.filter (fun c => c ≠ '\t' && c ≠ '\n' && c ≠ '\r') = text ↔
      ∀ c ∈ text, c ≠ '\t' ∧ c ≠ '\n' ∧ c ≠ '\r' := by
    simp [List.filter_eq_self, and_assoc]
  rw [← visible, ← kept]
  constructor
  · intro same
    have whole : (text.reverse.dropWhile fun c => c.toNat ≤ 0x20).reverse = text := by
      apply (dropEnd_sublist text).eq_of_length_le
      conv_lhs => rw [← same]
      exact List.length_filter_le ..
    rw [tidyEnd, whole] at same
    exact ⟨same, whole⟩
  · rintro ⟨same, whole⟩
    rw [tidyEnd, whole, same]

theorem cut_sublist (mark : Char) (text : List Char) : (cut mark text).1.Sublist text := by
  rw [cut, List.span_eq_takeWhile_dropWhile]
  exact List.takeWhile_sublist _

theorem cut_eq_iff {mark : Char} : (cut mark text).1 = text ↔ mark ∉ text := by
  constructor
  · intro same mem
    obtain ⟨before, after, rfl, first⟩ := List.eq_append_cons_of_mem mem
    rw [cut_first first] at same
    exact absurd (List.self_eq_append_right.mp same) (List.cons_ne_nil mark after)
  · intro unmarked
    rw [cut_of_not_mem unmarked]

/-! Texts with slashes between them. -/

def joined (parts : List (List Char)) : List Char := ['/'].intercalate parts

variable {parts : List (List Char)}

theorem joined_cons (part : List Char) (some_parts : parts ≠ []) :
    joined (part :: parts) = part ++ '/' :: joined parts := by
  obtain ⟨next, more, rfl⟩ := List.exists_cons_of_ne_nil some_parts
  simp [joined, List.intercalate_cons_cons]

theorem joined_singleton (part : List Char) : joined [part] = part := by
  simp [joined]

theorem mem_joined (mem : c ∈ joined parts) : c = '/' ∨ ∃ part ∈ parts, c ∈ part := by
  induction parts with
  | nil => cases mem
  | cons part rest ih =>
    by_cases alone : rest = []
    · rw [alone, joined_singleton] at mem
      exact .inr ⟨part, List.mem_cons_self, mem⟩
    · rw [joined_cons part alone] at mem
      rcases List.mem_append.mp mem with here | behind
      · exact .inr ⟨part, List.mem_cons_self, here⟩
      · rcases List.mem_cons.mp behind with slash | later
        · exact .inl slash
        · exact (ih later).imp_right fun ⟨other, among, within⟩ =>
            ⟨other, List.mem_cons_of_mem part among, within⟩

theorem mem_joined_of_mem {part : List Char} (among : part ∈ parts) (mem : c ∈ part) :
    c ∈ joined parts := by
  induction parts with
  | nil => cases among
  | cons first rest ih =>
    by_cases alone : rest = []
    · rw [alone, List.mem_singleton] at among
      rw [alone, joined_singleton, ← among]
      exact mem
    · rw [joined_cons first alone]
      rcases List.mem_cons.mp among with rfl | later
      · exact List.mem_append_left _ mem
      · exact List.mem_append_right _ (List.mem_cons_of_mem _ (ih later))

theorem splitOnP_joined (unslashed : ∀ part ∈ parts, ∀ c ∈ part, isSlash true c = false)
    (some_parts : parts ≠ []) : (joined parts).splitOnP (isSlash true) = parts := by
  induction parts with
  | nil => exact absurd rfl some_parts
  | cons part rest ih =>
    obtain ⟨here, later⟩ := List.forall_mem_cons.mp unslashed
    by_cases alone : rest = []
    · rw [alone, joined_singleton]
      exact List.splitOnP_eq_singleton here
    · rw [joined_cons part alone, List.splitOnP_append_cons_of_forall_mem here _ rfl,
        ih later alone]

theorem size_joined (some_parts : parts ≠ []) :
    size parts = 1 + (Text.Utf8.encode (joined parts)).length := by
  induction parts with
  | nil => exact absurd rfl some_parts
  | cons part rest ih =>
    rw [size_cons]
    by_cases alone : rest = []
    · rw [alone, joined_singleton]
      rfl
    · have bytes : Text.Utf8.encode (part ++ '/' :: joined rest) =
          Text.Utf8.encode part ++ (String.utf8EncodeChar '/' ++
            Text.Utf8.encode (joined rest)) := by
        rw [Text.Utf8.encode, List.flatMap_append, List.flatMap_cons]
        rfl
      have slash : (String.utf8EncodeChar '/').length = 1 := by decide
      rw [joined_cons part alone, bytes, List.length_append, List.length_append, slash, ih alone]
      omega

/-- The end of a joined text is that of the last one, or a slash. -/
theorem endsVisibly_joined (front : List (List Char)) (last : List Char) :
    EndsVisibly (joined (front ++ [last])) ↔ EndsVisibly last := by
  induction front with
  | nil => rw [List.nil_append, joined_singleton]
  | cons part rest ih =>
    have some_parts : rest ++ [last] ≠ [] := by simp
    rw [List.cons_append, joined_cons part some_parts, ← ih]
    unfold EndsVisibly
    rw [List.getLast?_append, List.getLast?_cons]
    cases shape : (joined (rest ++ [last])).getLast? with
    | none => simp
    | some c => simp

/-! Paths. -/

/-- What is read of a path text: the end, the fragment and the query do not belong to it. -/
def pathText (text : List Char) : List Char := (cut '?' (cut '#' (tidyEnd text)).1).1

theorem pathText_sublist (text : List Char) : (pathText text).Sublist text :=
  (cut_sublist '?' _).trans ((cut_sublist '#' _).trans (tidyEnd_sublist text))

/-- Nothing is taken away from a path text that has no end within it. -/
theorem pathText_eq_iff : pathText text = text ↔ tidyEnd text = text ∧ '#' ∉ text ∧ '?' ∉ text := by
  constructor
  · intro same
    have unasked := cut_sublist '?' (cut '#' (tidyEnd text)).1
    have unmarked := cut_sublist '#' (tidyEnd text)
    have lengths : text.length = (pathText text).length := by rw [same]
    have tidy : tidyEnd text = text := by
      apply (tidyEnd_sublist text).eq_of_length_le
      have := unasked.length_le
      have := unmarked.length_le
      rw [pathText] at lengths
      omega
    have marked : (cut '#' text).1 = text := by
      apply (cut_sublist '#' text).eq_of_length_le
      rw [pathText, tidy] at lengths
      rw [tidy] at unasked
      have := unasked.length_le
      omega
    rw [pathText, tidy, marked] at same
    exact ⟨tidy, cut_eq_iff.mp marked, cut_eq_iff.mp same⟩
  · rintro ⟨tidy, unmarked, unasked⟩
    rw [pathText, tidy, cut_eq_iff.mpr unmarked, cut_eq_iff.mpr unasked]

/-- Behind a path text that is whole there is neither a query nor a fragment. -/
theorem cuts_of_pathText (whole : pathText text = text) :
    (cut '#' (tidyEnd text)).2 = none ∧ (cut '?' (cut '#' (tidyEnd text)).1).2 = none := by
  obtain ⟨tidy, unmarked, unasked⟩ := pathText_eq_iff.mp whole
  rw [tidy, cut_of_not_mem unmarked]
  exact ⟨rfl, congrArg Prod.snd (cut_of_not_mem unasked)⟩

/-- In a path text that is whole, all marks are slashes. -/
theorem not_mem_marks_of_pathText (whole : pathText text = text) (mem : c ∈ text)
    (unslashed : isSlash true c = false) : c ∉ segmentMarks := by
  obtain ⟨tidy, unmarked, unasked⟩ := pathText_eq_iff.mp whole
  obtain ⟨tab, line, feed⟩ := (tidyEnd_eq_iff.mp tidy).1 c mem
  intro mark
  simp only [segmentMarks, List.mem_cons, List.not_mem_nil, or_false] at mark
  rcases mark with rfl | rfl | rfl | rfl | rfl | rfl | rfl
  · cases unslashed
  · cases unslashed
  · exact unasked mem
  · exact unmarked mem
  · exact tab rfl
  · exact line rfl
  · exact feed rfl

/-- Texts without marks leave a path text alone that they are joined to. -/
theorem pathText_joined {front : List (List Char)} {last : List Char}
    (literal : ∀ part ∈ front ++ [last], ∀ c ∈ part, c ∉ segmentMarks)
    (visible : EndsVisibly last) :
    pathText (joined (front ++ [last])) = joined (front ++ [last]) := by
  have plain : ∀ c ∈ joined (front ++ [last]), c ∉ segmentMarks.drop 2 := by
    intro c mem
    rcases mem_joined mem with rfl | ⟨part, among, within⟩
    · decide
    · intro mark
      exact literal part among c within (List.mem_of_mem_drop mark)
  have other {mark : Char} (dropped : mark ∈ segmentMarks.drop 2) :
      mark ∉ joined (front ++ [last]) := fun mem => plain mark mem dropped
  refine pathText_eq_iff.mpr ⟨tidyEnd_eq_iff.mpr ⟨?_, ?_⟩, other (by decide), other (by decide)⟩
  · intro c mem
    have := plain c mem
    simp only [segmentMarks, List.drop_succ_cons, List.drop_zero, List.mem_cons, not_or] at this
    exact ⟨this.2.2.1, this.2.2.2.1, this.2.2.2.2.1⟩
  · exact (endsVisibly_joined front last).mpr visible

/-- What segments stand for tells their weight. -/
theorem weight_eq_size {segments texts : List (List Char)}
    (same : segments.map Percent.decode = texts.map Text.Utf8.encode) :
    weight segments = size texts :=
  congrArg slashed same

variable {dir segments : List (List Char)}

theorem literal_of_segments {front : List (List Char)} {last : List Char}
    (read : addSegments false dir
      ((pathText (joined (front ++ [last]))).splitOnP (isSlash true)) = dir ++ segments)
    (same : segments.map Percent.decode = (front ++ [last]).map Text.Utf8.encode) :
    (∀ part ∈ front ++ [last], IsLiteral part) ∧ EndsVisibly last := by
  have some_parts : front ++ [last] ≠ [] := by simp
  have part := pathText_sublist (joined (front ++ [last]))
  have given := congrArg weight read
  rw [weight_append, weight_eq_size same, size_joined some_parts] at given
  have bound := (part.flatMap String.utf8EncodeChar).length_le
  rcases addSegments_cases dir ((pathText (joined (front ++ [last]))).splitOnP (isSlash true)) with
    ⟨wholes, added, sum⟩ | ⟨-, lighter⟩
  · -- No byte is lost, so the path text is whole and has these texts between its slashes.
    rw [size_splitOnP] at sum
    have whole : pathText (joined (front ++ [last])) = joined (front ++ [last]) := by
      apply eq_of_sublist part
      unfold Text.Utf8.encode
      unfold Text.Utf8.encode at given sum
      omega
    rw [whole] at wholes added read
    have segmentsEq := List.append_cancel_left (added.symm.trans read)
    have pieces : (joined (front ++ [last])).splitOnP (isSlash true) = front ++ [last] := by
      apply (List.map_inj_right fun _ _ => encode_injective).mp
      rw [← same, ← segmentsEq, List.map_map]
      apply List.map_congr_left
      intro piece mem
      exact (wholes piece mem).decode_encode.symm
    obtain ⟨-, visible⟩ := tidyEnd_eq_iff.mp (pathText_eq_iff.mp whole).1
    refine ⟨?_, (endsVisibly_joined front last).mp visible⟩
    intro piece among
    have mem := among
    rw [← pieces] at mem
    have unmarked : ∀ c ∈ piece, c ∉ segmentMarks := by
      intro c within
      exact not_mem_marks_of_pathText whole (mem_joined_of_mem among within)
        (not_isSlash_of_mem_splitOnP mem c within)
    exact (isLiteral_iff_isWhole unmarked).mpr (wholes piece mem)
  · rw [size_splitOnP] at lighter
    rw [← Text.Utf8.encode, ← Text.Utf8.encode] at bound
    omega

theorem not_isSlash_of_unmarked {part : List Char} (unmarked : ∀ c ∈ part, c ∉ segmentMarks) :
    ∀ c ∈ part, isSlash true c = false := by
  intro c mem
  have := unmarked c mem
  simp only [segmentMarks, List.mem_cons, not_or] at this
  simp [isSlash, this.1, this.2.1]

theorem addSegments_of_literal {front : List (List Char)} {last : List Char}
    (literal : ∀ part ∈ front ++ [last], IsLiteral part) (visible : EndsVisibly last) :
    addSegments false dir ((pathText (joined (front ++ [last]))).splitOnP (isSlash true)) =
      dir ++ (front ++ [last]).map (Percent.encode Percent.keepsPath) := by
  have unmarked : ∀ part ∈ front ++ [last], ∀ c ∈ part, c ∉ segmentMarks :=
    fun part among => (literal part among).unmarked
  have some_parts : front ++ [last] ≠ [] := by simp
  rw [pathText_joined unmarked visible,
    splitOnP_joined (fun part among => not_isSlash_of_unmarked (unmarked part among)) some_parts]
  rcases addSegments_cases dir (front ++ [last]) with ⟨-, added, -⟩ | ⟨broken, -⟩
  · exact added
  · exact absurd (fun part among => (literal part among).isWhole) broken

/-- Behind other segments, the path that is read of joined texts has one more for each text. -/
theorem segments_iff_literal (dir front : List (List Char)) (last : List Char) :
    (∃ segments, addSegments false dir
        ((pathText (joined (front ++ [last]))).splitOnP (isSlash true)) = dir ++ segments ∧
        segments.map Percent.decode = (front ++ [last]).map Text.Utf8.encode) ↔
      (∀ part ∈ front ++ [last], IsLiteral part) ∧ EndsVisibly last := by
  constructor
  · rintro ⟨segments, read, same⟩
    exact literal_of_segments read same
  · rintro ⟨literal, visible⟩
    refine ⟨_, addSegments_of_literal literal visible, ?_⟩
    rw [List.map_map]
    apply List.map_congr_left
    intro part among
    exact (literal part among).isWhole.decode_encode

/-! Paths as texts. -/

theorem flatMap_slash (some_parts : parts ≠ []) : parts.flatMap ('/' :: ·) = '/' :: joined parts := by
  induction parts with
  | nil => exact absurd rfl some_parts
  | cons part rest ih =>
    by_cases alone : rest = []
    · rw [alone, joined_singleton, List.flatMap_singleton]
    · rw [List.flatMap_cons, ih alone, joined_cons part alone, List.cons_append]

theorem joined_injective {others : List (List Char)}
    (unslashed : ∀ part ∈ parts, ∀ c ∈ part, isSlash true c = false)
    (plain : ∀ part ∈ others, ∀ c ∈ part, isSlash true c = false) (some_parts : parts ≠ [])
    (some_others : others ≠ []) (same : joined parts = joined others) : parts = others := by
  rw [← splitOnP_joined unslashed some_parts, same, splitOnP_joined plain some_others]

/-- Encoding brings no slash into a segment. -/
theorem not_isSlash_of_mem_encode {part : List Char}
    (unslashed : ∀ c ∈ part, isSlash true c = false) :
    ∀ c ∈ Percent.encode Percent.keepsPath part, isSlash true c = false := by
  have digits : ∀ value < 16, isSlash true (Percent.upperDigit value) = false := by decide
  intro c mem
  obtain ⟨letter, among, within⟩ := List.mem_flatMap.mp mem
  by_cases kept : Percent.keepsPath letter
  · rw [if_pos kept, List.mem_singleton] at within
    exact within ▸ unslashed letter among
  · rw [if_neg kept] at within
    obtain ⟨byte, -, written⟩ := List.mem_flatMap.mp within
    have small := byte.toNat_lt
    simp only [Percent.encodeByte, List.mem_cons, List.not_mem_nil, or_false] at written
    rcases written with rfl | rfl | rfl
    · rfl
    · exact digits _ (by omega)
    · exact digits _ (by omega)

end AddressRecords.Url
