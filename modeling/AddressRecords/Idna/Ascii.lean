import AddressRecords.Idna.Bidi
import AddressRecords.Idna.Joiner
import AddressRecords.Idna.Mapping
import AddressRecords.Idna.Punycode
import AddressRecords.Unicode.Mark
import AddressRecords.Unicode.Normalization

/-!
The ASCII form of an international domain name. A name is mapped and normalized, cut into labels
at its dots, each label is checked, and one with characters beyond ASCII is written in Punycode
behind `xn--`. No ASCII character is refused, and neither hyphens nor lengths are checked.
-/

namespace AddressRecords.Idna

open Unicode (normalize isMark)

/-- What the mapping makes of a character; `none` refuses it. -/
def mapChar (c : Char) : Option (List Char) :=
  if c.toNat < 0x80 then some [c.toLower]
  else
    match treatments.find? c.toNat with
    | none => some [c]
    | some .refused => none
    | some .dropped => some []
    | some (.shifted offset) => some [Char.ofNat (c.toNat + offset).toNat]
    | some .evenRaised => some [if c.toNat % 2 = 0 then Char.ofNat (c.toNat + 1) else c]
    | some .oddRaised => some [if c.toNat % 2 = 1 then Char.ofNat (c.toNat + 1) else c]
    | some (.replaced codes) => some (codes.map Char.ofNat)

/-- Maps every character and normalizes the result. -/
def prepare (text : List Char) : Option (List Char) :=
  (text.mapM mapChar).map (normalize ·.flatten)

/-- What an encoded label starts with. -/
def marker : List Char := ['x', 'n', '-', '-']

/-- The longest payload that is decoded. -/
def longestPayload : Nat := 2000

/-- The longest label that is encoded. -/
def longestLabel : Nat := 1000

def isAscii (text : List Char) : Bool := text.all Punycode.isAscii

/-- A label with characters beyond ASCII starts with no mark and has its joiners placed. -/
def isValidLabel (label : List Char) : Bool :=
  !label.head?.any isMark && Joiner.allPlaced label

/-- A label on its way to ASCII: what it says, and how it is written. -/
structure Label where
  text : List Char
  ascii : List Char

/-- The label that an encoded one stands for. It has to be one that mapping leaves alone. -/
def decodeLabel (label : List Char) : Option Label := do
  let payload := label.drop marker.length
  guard (payload.length ≤ longestPayload && payload.getLast? != some '-' && !payload.isEmpty)
  let text ← Punycode.decode payload
  guard (prepare text == some text && isValidLabel text)
  return ⟨text, label⟩

/-- Checks one label of a prepared name and gives its ASCII form. -/
def readLabel (label : List Char) : Option Label := do
  if marker.isPrefixOf label then decodeLabel label
  else if isAscii label then return ⟨label, label⟩
  else
    guard (isValidLabel label && label.length ≤ longestLabel)
    return ⟨label, marker ++ Punycode.encode label⟩

/-- A name that is ASCII and has no encoded label only loses its case. -/
def isPlain (name : List Char) : Bool :=
  isAscii name && (name.splitOn '.').all (fun label => !marker.isPrefixOf (label.map Char.toLower))

def toAsciiChars (name : List Char) : Option (List Char) :=
  if isPlain name then some (name.map Char.toLower)
  else do
    let labels ← ((← prepare name).splitOn '.').mapM readLabel
    guard (!labels.any (·.text.any isRightToLeft) || labels.all (Bidi.isValid ·.text))
    return ['.'].intercalate (labels.map (·.ascii))

/-- The ASCII form of `name`, or `none` if it has none. -/
def toAscii (name : String) : Option String :=
  (toAsciiChars name.toList).map String.ofList

end AddressRecords.Idna
