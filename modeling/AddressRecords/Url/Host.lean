import AddressRecords.Address.V6
import AddressRecords.Idna.Ascii
import AddressRecords.Url.Percent

/-!
Hosts: names in ASCII form, addresses, and for schemes without rules of their own any text.
-/

namespace AddressRecords.Url

inductive Host
  | name (text : List Char)
  | v4 (address : Address.V4)
  | v6 (address : Address.V6)
  | bare (text : List Char)
  deriving DecidableEq

namespace Host

def chars : Host → List Char
  | name text | bare text => text
  | v4 address => address.toChars
  | v6 address => '[' :: address.compressed ++ [']']

/-- Characters that end a host or have a meaning next to one. -/
def isForbidden (c : Char) : Bool :=
  c.toNat = 0 || "\t\n\r #/:<>?@[\\]^|".toList.contains c

/-- Names can hold neither these nor controls nor an undecoded percent sign. -/
def isForbiddenInName (c : Char) : Bool :=
  isForbidden c || c.toNat ≤ 0x20 || c.toNat = 0x7f || c = '%'

/-- A number in an address: hexadecimal behind `0x`, octal behind `0`, decimal otherwise. -/
def number? (text : List Char) : Option Nat :=
  let read (base : Nat) (digits : List Char) : Option Nat :=
    if digits.all (Text.isDigitOf base) then some (Text.numberOf base digits) else none
  match text with
  | [] => none
  | '0' :: 'x' :: digits | '0' :: 'X' :: digits => read 16 digits
  | '0' :: digit :: digits => read 8 (digit :: digits)
  | digits => read 10 digits

/-- The labels of a name, without an empty one at the end. -/
def numericParts (name : List Char) : List (List Char) :=
  let parts := name.splitOn '.'
  if 1 < parts.length ∧ parts.getLast? = some [] then parts.dropLast else parts

/-- Whether a name has to be read as an address. -/
def endsInNumber (name : List Char) : Bool :=
  match (numericParts name).getLast? with
  | some last => (!last.isEmpty && last.all Char.isDigit) || (number? last).isSome
  | none => false

/-- Up to four numbers, of which the last fills the bytes that are left. -/
def addressOfName (name : List Char) : Option Address.V4 := do
  let numbers ← (numericParts name).mapM number?
  guard (numbers.length ≤ 4)
  let last ← numbers.getLast?
  let leading := numbers.dropLast
  guard (leading.all (· < 256) && last < Nat.pow 256 (4 - leading.length))
  let bytes := leading ++ (List.range (4 - leading.length)).reverse.map (last / Nat.pow 256 · % 256)
  match bytes with
  | [a, b, c, d] => some ⟨UInt8.ofNat a, UInt8.ofNat b, UInt8.ofNat c, UInt8.ofNat d⟩
  | _ => none

/-- An address between brackets; `text` is what follows the opening one. -/
def ofBracketed (text : List Char) : Option Host := do
  guard (text.getLast? = some ']')
  v6 <$> Address.V6.ofChars text.dropLast

/-- Reads the host of a scheme with its own rules. -/
def ofSpecial : List Char → Option Host
  | '[' :: text => ofBracketed text
  | text => do
    let decoded ← Text.Utf8.decode? (Percent.decode text)
    let ascii ← Idna.toAsciiChars decoded
    guard (!ascii.isEmpty && !ascii.any isForbiddenInName)
    if endsInNumber ascii then v4 <$> addressOfName ascii else some (name ascii)

/-- Reads the host of any other scheme. -/
def ofAny : List Char → Option Host
  | '[' :: text => ofBracketed text
  | text =>
    if text.any isForbidden then none else some (bare (Percent.encode Percent.keepsBare text))

/-- Characters of a name that a request line can hold. -/
def isSendable (host : Host) : Bool :=
  host.chars.all fun c =>
    c.isAlphanum || "-._~!$&'()*+,;=[]:".toList.contains c

end Host

end AddressRecords.Url
