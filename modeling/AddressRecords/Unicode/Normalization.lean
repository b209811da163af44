import AddressRecords.Unicode.CombiningClass
import AddressRecords.Unicode.Composition

/-!
Normalization to composed form: characters are taken apart, the marks after each starter are put
in the order of their combining classes, and what composes is composed again.
-/

namespace AddressRecords.Unicode

/-!
Hangul syllables are numbered: a leading consonant, a vowel and an optional trailing consonant
determine the syllable's place in its block.
-/

namespace Hangul

def syllableBase : Nat := 0xac00

def leadBase : Nat := 0x1100

def vowelBase : Nat := 0x1161

/-- One below the first trailing consonant, so that number 0 means none. -/
def trailBase : Nat := 0x11a7

def leadCount : Nat := 19

def vowelCount : Nat := 21

def trailCount : Nat := 28

def syllableCount : Nat := leadCount * vowelCount * trailCount

/-- The letters of the syllable with number `index`. -/
def letters (index : Nat) : List Nat :=
  let lead := leadBase + index / (vowelCount * trailCount)
  let vowel := vowelBase + index % (vowelCount * trailCount) / trailCount
  let trail := index % trailCount
  if trail = 0 then [lead, vowel] else [lead, vowel, trailBase + trail]

/-- A leading consonant and a vowel make a syllable, which may then take a trailing consonant. -/
def compose? (first second : Nat) : Option Nat :=
  if leadBase ≤ first ∧ first < leadBase + leadCount ∧
      vowelBase ≤ second ∧ second < vowelBase + vowelCount then
    some (syllableBase + ((first - leadBase) * vowelCount + (second - vowelBase)) * trailCount)
  else if syllableBase ≤ first ∧ first < syllableBase + syllableCount ∧
      (first - syllableBase) % trailCount = 0 ∧
      trailBase < second ∧ second < trailBase + trailCount then
    some (first + (second - trailBase))
  else none

end Hangul

def decompose (c : Char) : List Char :=
  let code := c.toNat
  if code < 0xc0 then [c]
  else if Hangul.syllableBase ≤ code ∧ code < Hangul.syllableBase + Hangul.syllableCount then
    (Hangul.letters (code - Hangul.syllableBase)).map Char.ofNat
  else
    match decompositions.find? code with
    | some codes => codes.map Char.ofNat
    | none => [c]

/-- Puts `c` before an ordered text, behind the marks of lower class that it has to follow. -/
def placeMark (c : Char) : List Char → List Char
  | [] => [c]
  | d :: rest =>
    if 0 < combiningClass d ∧ combiningClass d < combiningClass c then d :: placeMark c rest
    else c :: d :: rest

def orderMarks (text : List Char) : List Char :=
  text.foldr placeMark []

def composePair (first second : Char) : Option Char :=
  match Hangul.compose? first.toNat second.toNat with
  | some code => some (Char.ofNat code)
  | none => (compositions.find? (pairKey first.toNat second.toNat)).map Char.ofNat

/-- Composes `starter` with what follows it. `marks` are those between, last one first, that
did not compose; one of them blocks a later mark unless that mark's class is higher. -/
def composeFrom (starter : Char) (marks : List Char) : List Char → List Char
  | [] => starter :: marks.reverse
  | c :: rest =>
    let reaches := match marks with
      | [] => true
      | last :: _ => combiningClass last < combiningClass c
    match if reaches then composePair starter c else none with
    | some composed => composeFrom composed marks rest
    | none =>
      if combiningClass c = 0 then starter :: marks.reverse ++ composeFrom c [] rest
      else composeFrom starter (c :: marks) rest

/-- Marks before the first starter have nothing to compose with. -/
def compose : List Char → List Char
  | [] => []
  | c :: rest => if combiningClass c = 0 then composeFrom c [] rest else c :: compose rest

/-- The composed normal form. -/
def normalize (text : List Char) : List Char :=
  compose (orderMarks (text.flatMap decompose))

end AddressRecords.Unicode
