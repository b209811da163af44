import AddressRecords.Address.Numeral
import Mathlib.Data.List.TakeDrop

/-!
Numbers written in some base are read back: their digits are taken off a text that goes on with
something else, and stand for the number.
-/

namespace AddressRecords

namespace Text

/-- What a span takes is all that it may take. -/
theorem span_append {p : Char → Bool} {taken rest : List Char} (all : ∀ c ∈ taken, p c)
    (ends : ∀ c ∈ rest.head?, p c = false) : (taken ++ rest).span p = (taken, rest) := by
  rw [List.span_eq_takeWhile_dropWhile, List.takeWhile_append_of_pos all,
    List.dropWhile_append_of_pos all]
  cases rest with
  | nil => simp
  | cons c more => simp [ends c rfl]

theorem digitValue?_digitChar : ∀ digit < 16, digitValue? (Nat.digitChar digit) = some digit := by
  decide

theorem isDigitOf_digitChar {base digit : Nat} (small : base ≤ 16) (below : digit < base) :
    isDigitOf base (Nat.digitChar digit) := by
  simp [isDigitOf, digitValue?_digitChar digit (by omega), below]

theorem isDigitOf_of_mem_toDigits {base : Nat} (large : 1 < base) (small : base ≤ 16) {n : Nat} :
    ∀ c ∈ Nat.toDigits base n, isDigitOf base c := by
  induction n using Nat.strongRecOn with
  | ind n ih =>
    intro c mem
    rw [Nat.toDigits_eq_if large] at mem
    split at mem
    · rw [List.mem_singleton.mp mem]
      exact isDigitOf_digitChar small ‹_›
    · rcases List.mem_append.mp mem with earlier | last
      · exact ih (n / base) (Nat.div_lt_self (by omega) large) c earlier
      · rw [List.mem_singleton.mp last]
        exact isDigitOf_digitChar small (Nat.mod_lt n (by omega))

theorem numberOf_append_singleton (base : Nat) (digits : List Char) (c : Char) :
    numberOf base (digits ++ [c]) = base * numberOf base digits + (digitValue? c).getD 0 := by
  simp [numberOf]

/-- The digits of a number stand for it. -/
theorem numberOf_toDigits {base : Nat} (large : 1 < base) (small : base ≤ 16) (n : Nat) :
    numberOf base (Nat.toDigits base n) = n := by
  induction n using Nat.strongRecOn with
  | ind n ih =>
    rw [Nat.toDigits_eq_if large]
    split
    · simp [numberOf, digitValue?_digitChar n (by omega)]
    · have last : n % base < 16 := Nat.lt_of_lt_of_le (Nat.mod_lt n (by omega)) small
      rw [numberOf_append_singleton, ih (n / base) (Nat.div_lt_self (by omega) large),
        digitValue?_digitChar _ last]
      exact Nat.div_add_mod n base

/-- Only zero is written with a zero in front. -/
theorem head?_toDigits_ne_zero {base n : Nat} (large : 1 < base) (positive : 0 < n) :
    (Nat.toDigits base n).head? ≠ some '0' := by
  induction n using Nat.strongRecOn with
  | ind n ih =>
    rw [Nat.toDigits_eq_if large]
    split
    · simp [Nat.pos_iff_ne_zero.mp positive]
    · rw [List.head?_append, List.head?_eq_some_head Nat.toDigits_ne_nil, Option.some_or,
        ← List.head?_eq_some_head Nat.toDigits_ne_nil]
      exact ih (n / base) (Nat.div_lt_self positive large) (Nat.div_pos (by omega) (by omega))

end Text

namespace Address

/-- The text does not go on with a digit. -/
def EndsDigits (base : Nat) (rest : List Char) : Prop :=
  ∀ c ∈ rest.head?, Text.isDigitOf base c = false

/-- The digits of a number are taken as they were written. -/
theorem takeDigits_toDigits {base most n : Nat} {rest : List Char} (large : 1 < base)
    (small : base ≤ 16) (short : (Nat.toDigits base n).length ≤ most)
    (ends : EndsDigits base rest) :
    takeDigits base most (Nat.toDigits base n ++ rest) = some (Nat.toDigits base n, rest) := by
  rw [takeDigits, Text.span_append (Text.isDigitOf_of_mem_toDigits large small) ends]
  simp [Nat.toDigits_ne_nil, Nat.not_lt.mpr short]

theorem takeDigits_append {base most : Nat} {text digits rest : List Char}
    (h : takeDigits base most text = some (digits, rest)) : digits ++ rest = text := by
  rw [takeDigits, List.span_eq_takeWhile_dropWhile] at h
  dsimp only at h
  split at h
  · cases h
  · cases h
    exact List.takeWhile_append_dropWhile

end Address

end AddressRecords
