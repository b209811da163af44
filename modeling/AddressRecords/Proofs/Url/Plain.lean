import AddressRecords.Proofs.Text.Digits
import AddressRecords.Url.Parse

/-!
URLs whose host and path have no character with a meaning of its own are read as they are written:
one segment for each that stands between slashes.
-/

namespace AddressRecords.Url

/-! Characters. -/

/-- Neither a blank nor the end of any part of a URL. -/
def isQuiet (c : Char) : Bool := 0x20 < c.toNat && c ≠ '#' && c ≠ '?' && !isSlash true c

/-- Stands for itself in a host. -/
def isPlainInHost (c : Char) : Bool := isQuiet c && c ≠ ':' && c ≠ '@'

/-- Stands for itself in a segment, which it keeps from being a dot. -/
def isPlainInPath (c : Char) : Bool :=
  isQuiet c && Percent.keepsPath c && c.toLower ≠ '.' && c.toLower ≠ '%'

theorem toNat_lt_of_isAlphanum {c : Char} (alphanumeric : c.isAlphanum) : c.toNat < 128 := by
  have within : ∀ high : Char, c.val ≤ high.val → high.toNat < 128 → c.toNat < 128 := by
    intro high below small
    exact Nat.lt_of_le_of_lt (UInt32.le_iff_toNat_le.mp below) small
  rcases Bool.or_eq_true_iff.mp alphanumeric with letter | digit
  · rcases Bool.or_eq_true_iff.mp letter with upper | lower
    · exact within 'Z' (of_decide_eq_true upper).2 (by decide)
    · exact within 'z' (of_decide_eq_true (Bool.and_eq_true_iff.mp lower).2) (by decide)
  · exact within '9' (of_decide_eq_true (Bool.and_eq_true_iff.mp digit).2) (by decide)

theorem isPlainInPath_of_isAlphanum {c : Char} (alphanumeric : c.isAlphanum) :
    isPlainInPath c := by
  have all : ∀ n < 128, (Char.ofNat n).isAlphanum → isPlainInPath (Char.ofNat n) := by decide
  have known := all c.toNat (toNat_lt_of_isAlphanum alphanumeric)
  rw [Char.ofNat_toNat] at known
  exact known alphanumeric

theorem isQuiet_of_isPlainInPath {c : Char} (plain : isPlainInPath c) : isQuiet c := by
  simp only [isPlainInPath, Bool.and_eq_true] at plain
  exact plain.1.1.1

theorem isQuiet_of_isPlainInHost {c : Char} (plain : isPlainInHost c) : isQuiet c := by
  simp only [isPlainInHost, Bool.and_eq_true] at plain
  exact plain.1.1

theorem isQuiet_iff {c : Char} :
    isQuiet c ↔ 0x20 < c.toNat ∧ c ≠ '#' ∧ c ≠ '?' ∧ isSlash true c = false := by
  simp [isQuiet, and_assoc]

/-! What nothing is taken away from. -/

theorem clean_of_forall {text : List Char} (above : ∀ c ∈ text, 0x20 < c.toNat) :
    clean text = text := by
  have kept : ∀ {text : List Char}, (∀ c ∈ text, 0x20 < c.toNat) →
      text.dropWhile (fun c => c.toNat ≤ 0x20) = text := by
    intro text above
    cases text with
    | nil => rfl
    | cons c rest => simp [Nat.not_le.mpr (above c List.mem_cons_self)]
  have reversed : ∀ c ∈ text.reverse, 0x20 < c.toNat :=
    fun c mem => above c (List.mem_reverse.mp mem)
  rw [clean, Unicode.trimBoth, kept above, kept reversed, List.reverse_reverse,
    List.filter_eq_self]
  intro c mem
  have := above c mem
  simp only [ne_eq, Bool.and_eq_true, decide_eq_true_eq]
  refine ⟨⟨?_, ?_⟩, ?_⟩
  all_goals
    rintro rfl
    contradiction

theorem cut_of_forall {mark : Char} {text : List Char} (other : ∀ c ∈ text, c ≠ mark) :
    cut mark text = (text, none) := by
  have spanned : (text ++ []).span (· ≠ mark) = (text, []) :=
    Text.span_append (by simpa using other) (by simp)
  rw [List.append_nil] at spanned
  rw [cut, spanned]
  rfl

theorem cut_append {mark : Char} {before : List Char} (other : ∀ c ∈ before, c ≠ mark)
    (after : List Char) : cut mark (before ++ mark :: after) = (before, some after) := by
  rw [cut, Text.span_append (by simpa using other) (by simp)]
  rfl

theorem encode_of_forall {keep : Char → Bool} {text : List Char} (kept : ∀ c ∈ text, keep c) :
    Percent.encode keep text = text := by
  induction text with
  | nil => rfl
  | cons c rest ih =>
    have here : keep c := kept c List.mem_cons_self
    have others := ih fun d mem => kept d (List.mem_cons_of_mem c mem)
    rw [Percent.encode] at others ⊢
    rw [List.flatMap_cons, others, if_pos here, List.singleton_append]

/-! Hosts. -/

theorem splitPort_of_forall {text : List Char} (other : ∀ c ∈ text, c ≠ ':') :
    ∀ inside, splitPort inside text = (text, none) := by
  induction text with
  | nil => exact fun inside => rfl
  | cons c rest ih =>
    intro inside
    have here : c ≠ ':' := other c List.mem_cons_self
    have others := ih fun d mem => other d (List.mem_cons_of_mem c mem)
    rw [splitPort, if_neg (by simp [here])]
    dsimp only
    rw [others]

theorem dropCredentials_of_forall {authority : List Char} (other : ∀ c ∈ authority, c ≠ '@') :
    dropCredentials authority = (false, authority) := by
  have spanned : (authority.reverse ++ []).span (· ≠ '@') = (authority.reverse, []) :=
    Text.span_append (by simpa using other) (by simp)
  rw [List.append_nil] at spanned
  rw [dropCredentials, spanned]
  simp

section

variable {host : List Char} {named : Host} (plain : ∀ c ∈ host, isPlainInHost c)
  (some_host : host ≠ []) (read : Host.ofSpecial host = some named)

include plain some_host read

theorem authority?_of_plain : authority? "https".toList host = some (named, none) := by
  have unsigned : ∀ c ∈ host, c ≠ '@' := by
    intro c mem
    have := plain c mem
    simp only [isPlainInHost, Bool.and_eq_true, decide_eq_true_eq] at this
    exact this.2
  have unnumbered : ∀ c ∈ host, c ≠ ':' := by
    intro c mem
    have := plain c mem
    simp only [isPlainInHost, Bool.and_eq_true, decide_eq_true_eq] at this
    exact this.1.2
  have special : isSpecial ['h', 't', 't', 'p', 's'] := rfl
  have portless : port? ['h', 't', 't', 'p', 's'] [] = some none := rfl
  rw [authority?, dropCredentials_of_forall unsigned]
  dsimp only
  rw [splitPort_of_forall unnumbered]
  simp [some_host, special, read, portless, guard]

theorem specialLocation?_of_plain (path : List Char) :
    specialLocation? "https".toList ('/' :: '/' :: (host ++ '/' :: path)) =
      some ⟨some named, none, .segments (segmentsOf true false path)⟩ := by
  have quiet : ∀ c ∈ host, isSlash true c = false :=
    fun c mem => (isQuiet_iff.mp (isQuiet_of_isPlainInHost (plain c mem))).2.2.2
  have behind : ('/' :: '/' :: (host ++ '/' :: path)).dropWhile (isSlash true) =
      host ++ '/' :: path := by
    obtain ⟨c, rest, rfl⟩ := List.exists_cons_of_ne_nil some_host
    have slash : isSlash true '/' := rfl
    have letter := quiet c List.mem_cons_self
    simp [slash, letter]
  have spanned : (host ++ '/' :: path).span (!isSlash true ·) = (host, '/' :: path) :=
    Text.span_append (by simpa using quiet) (by simp [isSlash])
  rw [specialLocation?, behind, spanned]
  dsimp only
  rw [authority?_of_plain plain some_host read]
  rfl

end

/-! Paths. -/

section

variable {segment : List Char} (plain : ∀ c ∈ segment, isPlainInPath c)

include plain

theorem isSlash_of_plain : ∀ c ∈ segment, isSlash true c = false :=
  fun c mem => (isQuiet_iff.mp (isQuiet_of_isPlainInPath (plain c mem))).2.2.2

/-- Every dotted segment starts with a dot or with its code. -/
theorem addSegment_of_plain (last : Bool) (path : List (List Char)) :
    addSegment false last path segment = path ++ [segment] := by
  have kept : Percent.encode Percent.keepsPath segment = segment := by
    refine encode_of_forall fun c mem => ?_
    have := plain c mem
    simp only [isPlainInPath, Bool.and_eq_true] at this
    exact this.1.1.2
  have undotted : isDoubleDot segment = false ∧ isSingleDot segment = false := by
    cases segment with
    | nil => exact ⟨rfl, rfl⟩
    | cons c rest =>
      have := plain c List.mem_cons_self
      simp only [isPlainInPath, Bool.and_eq_true, decide_eq_true_eq] at this
      simp [isDoubleDot, isSingleDot, this.1.2, this.2]
  rw [addSegment, undotted.1, undotted.2, kept]
  simp

end

variable {segments : List (List Char)}
  (plain : ∀ segment ∈ segments, ∀ c ∈ segment, isPlainInPath c)

include plain

theorem addSegments_of_plain (path : List (List Char)) :
    addSegments false path segments = path ++ segments := by
  induction segments generalizing path with
  | nil => simp [addSegments]
  | cons segment rest ih =>
    have here := addSegment_of_plain (plain segment List.mem_cons_self)
    have others : ∀ other ∈ rest, ∀ c ∈ other, isPlainInPath c :=
      fun other mem => plain other (List.mem_cons_of_mem segment mem)
    cases rest with
    | nil => rw [addSegments, here]
    | cons next more =>
      rw [addSegments, here, ih others]
      · simp
      · exact fun impossible => nomatch impossible

theorem splitOnP_of_plain (some_segments : segments ≠ []) :
    ((segments.flatMap ('/' :: ·)).drop 1).splitOnP (isSlash true) = segments := by
  induction segments with
  | nil => exact absurd rfl some_segments
  | cons segment rest ih =>
    have quiet := isSlash_of_plain (plain segment List.mem_cons_self)
    have others : ∀ other ∈ rest, ∀ c ∈ other, isPlainInPath c :=
      fun other mem => plain other (List.mem_cons_of_mem segment mem)
    cases rest with
    | nil => simpa using List.splitOnP_eq_singleton quiet
    | cons next more =>
      have following := ih others (List.cons_ne_nil next more)
      simp only [List.flatMap_cons, List.cons_append, List.drop_one, List.tail_cons] at following ⊢
      rw [List.splitOnP_append_cons_of_forall_mem quiet _ rfl, following]

theorem quiet_of_plain {host : List Char} (plainHost : ∀ c ∈ host, isPlainInHost c) :
    ∀ c ∈ "https://".toList ++ host ++ segments.flatMap ('/' :: ·),
      0x20 < c.toNat ∧ c ≠ '#' ∧ c ≠ '?' := by
  have fixed : "https://".toList.all fun c => 0x20 < c.toNat ∧ c ≠ '#' ∧ c ≠ '?' := by decide
  have slash : 0x20 < '/'.toNat ∧ '/' ≠ '#' ∧ '/' ≠ '?' := by decide
  have other : ∀ c, isQuiet c → 0x20 < c.toNat ∧ c ≠ '#' ∧ c ≠ '?' := by
    intro c quiet
    obtain ⟨above, unmarked, unasked, _⟩ := isQuiet_iff.mp quiet
    exact ⟨above, unmarked, unasked⟩
  intro c mem
  rcases List.mem_append.mp mem with start | inside
  · rcases List.mem_append.mp start with scheme | letter
    · exact of_decide_eq_true (List.all_eq_true.mp fixed c scheme)
    · exact other c (isQuiet_of_isPlainInHost (plainHost c letter))
  · obtain ⟨segment, listed, there⟩ := List.mem_flatMap.mp inside
    rcases List.mem_cons.mp there with rfl | letter
    · exact slash
    · exact other c (isQuiet_of_isPlainInPath (plain segment listed c letter))

/-- The path that is read behind a host is the one that was written. -/
theorem location?_of_plain {host : List Char} {named : Host}
    (plainHost : ∀ c ∈ host, isPlainInHost c) (some_host : host ≠ [])
    (read : Host.ofSpecial host = some named) (some_segments : segments ≠ []) :
    location? "https".toList ('/' :: '/' :: (host ++ segments.flatMap ('/' :: ·))) =
      some ⟨some named, none, .segments segments⟩ := by
  obtain ⟨path, begun⟩ : ∃ path, segments.flatMap ('/' :: ·) = '/' :: path := by
    obtain ⟨first, rest, rfl⟩ := List.exists_cons_of_ne_nil some_segments
    exact ⟨_, rfl⟩
  have split := splitOnP_of_plain plain some_segments
  rw [begun, List.drop_one, List.tail_cons] at split
  have listed : segmentsOf true false path = segments := by
    rw [segmentsOf, split, addSegments_of_plain plain, List.nil_append]
  have special := specialLocation?_of_plain plainHost some_host read path
  rw [listed] at special
  rw [begun]
  exact special

theorem ofText?_of_plain {host : List Char} {named : Host} (plainHost : ∀ c ∈ host, isPlainInHost c)
    (some_host : host ≠ []) (read : Host.ofSpecial host = some named)
    (some_segments : segments ≠ []) :
    ofText? (String.ofList ("https://".toList ++ host ++ segments.flatMap ('/' :: ·))) =
      some ⟨"https".toList, some named, none, .segments segments, none, none⟩ := by
  let text := "https://".toList ++ host ++ segments.flatMap ('/' :: ·)
  have quiet := quiet_of_plain plain plainHost
  have cleaned : clean text = text := clean_of_forall fun c mem => (quiet c mem).1
  have unmarked : cut '#' text = (text, none) := cut_of_forall fun c mem => (quiet c mem).2.1
  have unasked : cut '?' text = (text, none) := cut_of_forall fun c mem => (quiet c mem).2.2
  have schemed : scheme? text =
      some ("https".toList, '/' :: '/' :: (host ++ segments.flatMap ('/' :: ·))) := by
    have begins : text = "https".toList ++ ':' :: '/' :: '/' ::
        (host ++ segments.flatMap ('/' :: ·)) := by simp [text]
    rw [scheme?, begins, cut_append (by simp)]
    rfl
  rw [ofText?, String.toList_ofList, cleaned, unmarked]
  dsimp only
  rw [unasked]
  dsimp only
  rw [schemed]
  dsimp only [Option.bind_eq_bind, Option.bind_some]
  rw [location?_of_plain plain plainHost some_host read some_segments]
  rfl

end AddressRecords.Url
