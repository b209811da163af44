import AddressRecords.Json.Value
import AddressRecords.Proofs.Text.Digits

/-!
Strings and numbers are scanned as they were written: every character behind its escape, and the
digits of an integer up to a sign that cannot go on with them.
-/

namespace AddressRecords.Json

/-! Strings. -/

/-- The ways in which a character stands in a string. -/
inductive Escapes : Char → List Char → Prop
  | simple {letter c : Char} (known : Scan.simpleEscape? letter = some c) :
      Escapes c ['\\', letter]
  | code {c : Char} (control : c.toNat < 32) :
      Escapes c ['\\', 'u', '0', '0', Nat.digitChar (c.toNat / 16), Nat.digitChar (c.toNat % 16)]
  | plain {c : Char} (quote : c ≠ '"') (mark : c ≠ '\\') (visible : ¬ Scan.isControl c) :
      Escapes c [c]

theorem escapes (c : Char) : Escapes c (escape c) := by
  have named {n : Nat} (code : c.toNat = n) : Char.ofNat n = c := by
    rw [← code, Char.ofNat_toNat]
  unfold escape
  split
  case isTrue quote =>
    subst quote
    exact .simple rfl
  split
  case isTrue mark =>
    subst mark
    exact .simple rfl
  split
  case isTrue code => exact .simple (congrArg some (named code))
  split
  case isTrue code => exact .simple (congrArg some (named code))
  split
  case isTrue line =>
    subst line
    exact .simple rfl
  split
  case isTrue line =>
    subst line
    exact .simple rfl
  split
  case isTrue tab =>
    subst tab
    exact .simple rfl
  split
  case isTrue control => exact .code control
  case isFalse quote mark _ _ _ _ _ visible =>
    exact .plain quote mark (by simpa [Scan.isControl] using visible)

namespace Scan

theorem unit?_of_control :
    ∀ n < 32, unit? '0' '0' (Nat.digitChar (n / 16)) (Nat.digitChar (n % 16)) = some n := by
  decide

variable {c : Char} {written : List Char} (h : Escapes c written) (rest : List Char)

include h

theorem skipString_escapes : skipString (written ++ rest) = skipString rest := by
  cases h with
  | @simple letter _ known =>
    have other : letter ≠ 'u' := by
      rintro rfl
      cases known
    rw [List.cons_append, List.singleton_append, skipString, known]
    · rfl
    · exact fun _ _ _ _ _ same => absurd same other
    · exact other
  | code control =>
    simp only [List.cons_append, List.nil_append]
    rw [skipString, unit?_of_control _ control]
    rfl
  | plain quote mark visible =>
    rw [List.singleton_append, skipString, if_neg visible]
    all_goals intros; contradiction

theorem readString_escapes : readString (written ++ rest) = (c :: ·) <$> readString rest := by
  cases h with
  | @simple letter _ known =>
    have other : letter ≠ 'u' := by
      rintro rfl
      cases known
    rw [List.cons_append, List.singleton_append, readString, known]
    · exact fun _ _ _ _ _ same => absurd same other
    · exact other
  | code control =>
    have trailing : ¬ isTrailing c.toNat := by
      simp [isTrailing]
      omega
    have leading : ¬ isLeading c.toNat := by
      simp [isLeading]
      omega
    simp only [List.cons_append, List.nil_append]
    rw [readString, unit?_of_control _ control]
    dsimp only
    rw [if_neg trailing, if_neg leading, Char.ofNat_toNat]
  | plain quote mark visible =>
    rw [List.singleton_append, readString, if_neg visible]
    all_goals intros; contradiction

omit h

/-- A string ends at the quote that was written behind it. -/
theorem skipString_written (text : List Char) :
    skipString (text.flatMap escape ++ '"' :: rest) = .ok rest := by
  induction text with
  | nil => rfl
  | cons c more ih =>
    rw [List.flatMap_cons, List.append_assoc, skipString_escapes (escapes c), ih]

theorem readString_written (text : List Char) :
    readString (text.flatMap escape ++ '"' :: rest) = .ok text := by
  induction text with
  | nil => rfl
  | cons c more ih =>
    rw [List.flatMap_cons, List.append_assoc, readString_escapes (escapes c), ih]
    rfl

theorem string_written (text : String) :
    string (text.toList.flatMap escape ++ '"' :: rest) = (.whole (.ok text), rest) := by
  rw [string, skipString_written, readString_written]
  simp [Functor.map, Except.map]

end Scan

/-! Numbers. -/

/-- A character by which a number would go on. -/
def extendsNumber (c : Char) : Bool := c.isDigit || c = '.' || c = 'e' || c = 'E'

/-- No number goes on in the text. -/
def EndsNumber (rest : List Char) : Prop := ∀ c ∈ rest.head?, extendsNumber c = false

namespace Scan

section

variable {rest : List Char} (ends : EndsNumber rest)

include ends

theorem span_of_endsNumber (n : Nat) :
    (Nat.toDigits 10 n ++ rest).span Char.isDigit = (Nat.toDigits 10 n, rest) := by
  refine Text.span_append (fun c mem => Nat.isDigit_of_mem_toDigits (by decide) (by decide) mem) ?_
  intro c first
  have stops := ends c first
  simp only [extendsNumber, Bool.or_eq_false_iff] at stops
  exact stops.1.1.1

theorem wholeDigits_toDigits (n : Nat) :
    wholeDigits (Nat.toDigits 10 n ++ rest) = .ok (Nat.toDigits 10 n, rest) := by
  rw [wholeDigits, span_of_endsNumber ends]
  split
  case h_1 none => exact absurd (Prod.mk.inj none).1 Nat.toDigits_ne_nil
  case h_2 zero =>
    have first := (Prod.mk.inj zero).1
    by_cases positive : 0 < n
    · have nonzero : (Nat.toDigits 10 n).head? ≠ some '0' :=
        Text.head?_toDigits_ne_zero (by decide) positive
      exact absurd (congrArg List.head? first) nonzero
    · obtain rfl : n = 0 := by omega
      cases first
  case h_3 digits behind _ _ same => rw [← same]

theorem fractionDigits_of_endsNumber : fractionDigits rest = .ok ([], rest) := by
  cases rest with
  | nil => rfl
  | cons c more =>
    have stops := ends c rfl
    rw [fractionDigits]
    rintro _ ⟨⟩
    cases stops

theorem exponentDigits_of_endsNumber : exponentDigits rest = .ok (none, rest) := by
  cases rest with
  | nil => rfl
  | cons c more =>
    have stops := ends c rfl
    have other : ¬ (c = 'e' ∨ c = 'E') := by
      rintro (rfl | rfl) <;> cases stops
    rw [exponentDigits, if_neg other]

theorem number_toDigits {isNegative : Bool} {n : Nat} (fits : fitsInteger isNegative n) :
    number isNegative (Nat.toDigits 10 n ++ rest) =
      (.whole (.ok (if isNegative then .negative n else .natural n)), rest) := by
  have written : numeral isNegative (Nat.toDigits 10 n ++ rest) =
      .ok (⟨isNegative, Nat.toDigits 10 n, [], none⟩, rest) := by
    rw [numeral, wholeDigits_toDigits ends]
    simp only [bind, Except.bind, fractionDigits_of_endsNumber ends,
      exponentDigits_of_endsNumber ends]
    rfl
  have value : Text.numberOf 10 (Nat.toDigits 10 n) = n :=
    Text.numberOf_toDigits (by decide) (by decide) n
  rw [number, written]
  simp [Numeral.value, value, fits]

end

end Scan

end AddressRecords.Json
