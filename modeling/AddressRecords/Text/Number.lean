import AddressRecords.Text.Digits

/-!
Whole numbers of 64 bits, read from decimal text with an optional plus sign.
-/

namespace AddressRecords.Text

inductive NumberError
  | empty
  | notDigit
  | tooLarge
  deriving DecidableEq, Repr

def NumberError.message : NumberError → String
  | empty => "cannot parse integer from empty string"
  | notDigit => "invalid digit found in string"
  | tooLarge => "number too large to fit in target type"

/-- Reads digits behind those that `value` stands for. What goes wrong first counts. -/
def readDigits (value : Nat) : List Char → Except NumberError Nat
  | [] => .ok value
  | c :: rest =>
    if isDigitOf 10 c then
      let next := 10 * value + (digitValue? c).getD 0
      if next < UInt64.size then readDigits next rest else .error .tooLarge
    else .error .notDigit

def readWord64 (text : String) : Except NumberError UInt64 :=
  match text.toList with
  | [] => .error .empty
  | ['+'] => .error .notDigit
  | '+' :: digits => (readDigits 0 digits).map UInt64.ofNat
  | digits => (readDigits 0 digits).map UInt64.ofNat

end AddressRecords.Text
