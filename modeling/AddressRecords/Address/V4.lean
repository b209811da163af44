import AddressRecords.Address.Numeral

/-!
IPv4 addresses and their dotted text: four decimal numbers without leading zeros.
-/

namespace AddressRecords.Address

structure V4 where
  first : UInt8
  second : UInt8
  third : UInt8
  fourth : UInt8
  deriving DecidableEq, Repr

namespace V4

def takeOctet (text : List Char) : Option (UInt8 × List Char) := do
  let (digits, rest) ← takeDigits 10 3 text
  guard (digits.head? != some '0' || digits.length == 1)
  let value := Text.numberOf 10 digits
  guard (value < 256)
  return (UInt8.ofNat value, rest)

/-- Takes the address a text starts with. -/
def take (text : List Char) : Option (V4 × List Char) := do
  let (first, rest) ← takeOctet text
  let (second, rest) ← takeOctet (← takeChar '.' rest)
  let (third, rest) ← takeOctet (← takeChar '.' rest)
  let (fourth, rest) ← takeOctet (← takeChar '.' rest)
  return (⟨first, second, third, fourth⟩, rest)

def ofChars (text : List Char) : Option V4 :=
  match take text with
  | some (address, []) => some address
  | _ => none

def octetChars (octet : UInt8) : List Char := Nat.toDigits 10 octet.toNat

def toChars (address : V4) : List Char :=
  octetChars address.first ++ '.' :: octetChars address.second ++
    '.' :: octetChars address.third ++ '.' :: octetChars address.fourth

end V4

end AddressRecords.Address
