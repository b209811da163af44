import AddressRecords.Text.Digits

/-!
Numbers in the text of an address: a bounded count of digits in some base, with no sign.
-/

namespace AddressRecords.Address

/-- Takes the digits a text starts with, if there are some and at most `most`. -/
def takeDigits (base most : Nat) (text : List Char) : Option (List Char × List Char) :=
  let (digits, rest) := text.span (Text.isDigitOf base)
  if digits.isEmpty ∨ most < digits.length then none else some (digits, rest)

/-- Takes the character `c` off a text that starts with it. -/
def takeChar (c : Char) : List Char → Option (List Char)
  | [] => none
  | d :: rest => if d = c then some rest else none

end AddressRecords.Address
