import AddressRecords.Text.Digits
import AddressRecords.Text.Utf8

/-!
Percent encoding: bytes that a part of a URL cannot hold are written as a percent sign and two
digits. Each part keeps a set of ASCII characters as they are.
-/

namespace AddressRecords.Url.Percent

def upperDigit (value : Nat) : Char :=
  Char.ofNat (if value < 10 then '0'.toNat + value else 'A'.toNat + (value - 10))

def encodeByte (b : UInt8) : List Char :=
  ['%', upperDigit (b.toNat / 16), upperDigit (b.toNat % 16)]

/-- Writes every character that `keep` does not keep byte by byte. -/
def encode (keep : Char → Bool) (text : List Char) : List Char :=
  text.flatMap fun c => if keep c then [c] else (String.utf8EncodeChar c).flatMap encodeByte

/-- Reads two digits behind a percent sign as one byte; anything else stands for itself. -/
def decode : List Char → List UInt8
  | [] => []
  | '%' :: a :: b :: rest =>
    match Text.digitValue? a, Text.digitValue? b with
    | some high, some low => UInt8.ofNat (16 * high + low) :: decode rest
    | _, _ => String.utf8EncodeChar '%' ++ decode (a :: b :: rest)
  | c :: rest => String.utf8EncodeChar c ++ decode rest

/-- Printable ASCII without the characters of `except`. -/
def isPlain (except : String) (c : Char) : Bool :=
  0x20 ≤ c.toNat && c.toNat < 0x7f && !except.toList.contains c

/-- Hosts and paths of unknown structure keep all printable ASCII. -/
def keepsBare : Char → Bool := isPlain ""

def keepsFragment : Char → Bool := isPlain " \"<>`"

def keepsPath : Char → Bool := isPlain " \"<>`#?\x7b\x7d"

def keepsQuery : Char → Bool := isPlain " \"#<>"

/-- In the query of a scheme with its own rules an apostrophe is encoded too. -/
def keepsSpecialQuery : Char → Bool := isPlain " \"#<>'"

end AddressRecords.Url.Percent
