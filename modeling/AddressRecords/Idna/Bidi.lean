import AddressRecords.Unicode.BidiClass

/-!
The rule for labels in a name that has right-to-left characters: each label has one direction,
given by its first character, and ends in a letter or number of that direction.
-/

namespace AddressRecords.Idna

open Unicode (BidiClass bidiClass)

/-- A character that makes the whole name subject to the rule. -/
def isRightToLeft (c : Char) : Bool :=
  match bidiClass c with
  | .rightToLeft | .arabicLetter | .arabicNumber => true
  | _ => false

namespace Bidi

/-- Separators, terminators, neutrals and marks stand in labels of either direction. -/
def isShared (cls : BidiClass) : Bool :=
  match cls with
  | .europeanSeparator | .commonSeparator | .europeanTerminator | .otherNeutral
  | .boundaryNeutral | .nonspacingMark => true
  | _ => false

/-- The last class that is not a nonspacing mark. -/
def lastClass (classes : List BidiClass) : Option BidiClass :=
  (classes.reverse.dropWhile (· == .nonspacingMark)).head?

def isRightToLeftLabel (classes : List BidiClass) : Bool :=
  classes.all (fun cls =>
      isShared cls || cls == .rightToLeft || cls == .arabicLetter || cls == .arabicNumber ||
        cls == .europeanNumber) &&
    (lastClass classes).any (fun cls =>
      cls == .rightToLeft || cls == .arabicLetter || cls == .arabicNumber ||
        cls == .europeanNumber) &&
    !(classes.contains .arabicNumber && classes.contains .europeanNumber)

def isLeftToRightLabel (classes : List BidiClass) : Bool :=
  classes.all (fun cls => isShared cls || cls == .leftToRight || cls == .europeanNumber) &&
    (lastClass classes).any (fun cls => cls == .leftToRight || cls == .europeanNumber)

/-- An empty label breaks no rule of direction. -/
def isValid (label : List Char) : Bool :=
  let classes := label.map bidiClass
  match classes with
  | [] => true
  | .rightToLeft :: _ | .arabicLetter :: _ => isRightToLeftLabel classes
  | .leftToRight :: _ => isLeftToRightLabel classes
  | _ => false

end Bidi

end AddressRecords.Idna
