import AddressRecords.Url.Percent

/-!
Queries as lists of named values: `name=value` pairs joined by ampersands, with a plus sign for a
blank.
-/

namespace AddressRecords.Url.Form

/-- Characters that stand for themselves. -/
def keeps (c : Char) : Bool :=
  c.isAlphanum || c = '*' || c = '-' || c = '.' || c = '_'

def encodeChar (c : Char) : List Char :=
  if keeps c then [c]
  else if c = ' ' then ['+']
  else (String.utf8EncodeChar c).flatMap Percent.encodeByte

def encodeText (text : String) : List Char := text.toList.flatMap encodeChar

def encodePair (pair : String × String) : List Char :=
  encodeText pair.1 ++ '=' :: encodeText pair.2

def encode (pairs : List (String × String)) : List Char :=
  ['&'].intercalate (pairs.map encodePair)

def decodeText (text : List Char) : String :=
  String.ofList (Text.Utf8.decodeLossy
    (Percent.decode (text.map fun c => if c = '+' then ' ' else c)))

/-- The name ends at the first equals sign; a pair without one has an empty value. -/
def decodePair (text : List Char) : String × String :=
  let (name, rest) := text.span (· ≠ '=')
  (decodeText name, decodeText (rest.drop 1))

def decode (query : List Char) : List (String × String) :=
  ((query.splitOn '&').filter (!·.isEmpty)).map decodePair

end AddressRecords.Url.Form
