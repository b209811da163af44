import AddressRecords.Unicode.Printable

/-!
Quoted text, as names and values stand in messages: between double quotes, with a backslash
before quotes and backslashes and a short or numeric escape for what does not print.
-/

namespace AddressRecords.Text

/-- A code point in lower-case hexadecimal between braces. -/
def numericEscape (c : Char) : List Char :=
  ['\\', 'u', Char.ofNat 0x7b] ++ Nat.toDigits 16 c.toNat ++ [Char.ofNat 0x7d]

def escape (c : Char) : List Char :=
  if c = '"' then ['\\', '"']
  else if c = '\\' then ['\\', '\\']
  else if c = '\n' then ['\\', 'n']
  else if c = '\r' then ['\\', 'r']
  else if c = '\t' then ['\\', 't']
  else if c.toNat = 0 then ['\\', '0']
  else if Unicode.isPrintable c then [c]
  else numericEscape c

def quote (text : String) : String :=
  String.ofList ('"' :: text.toList.flatMap escape ++ ['"'])

/-- An optional text, with a word for its presence or absence. -/
def quoteOption (text : Option String) : String :=
  match text with
  | none => "None"
  | some text => "Some(" ++ quote text ++ ")"

/-- What replaces a secret wherever it would be shown. -/
def redacted : String := quote "<REDACTED>"

end AddressRecords.Text
