import AddressRecords.Unicode.CombiningClass
import AddressRecords.Unicode.JoiningType

/-!
Where the invisible joiners may stand: after a virama, and the non-joiner also between two
letters that would join without it.
-/

namespace AddressRecords.Idna.Joiner

open Unicode (joiningType isVirama)

def nonJoiner : Char := Char.ofNat 0x200c

def joiner : Char := Char.ofNat 0x200d

/-- Whether the nearest character that takes part in joining joins towards its successor. -/
def joinsForward (before : List Char) : Bool :=
  match (before.dropWhile (joiningType · == .transparent)).head?.map joiningType with
  | some .left | some .dual => true
  | _ => false

/-- Whether the nearest character that takes part in joining joins towards its predecessor. -/
def joinsBackward (after : List Char) : Bool :=
  match (after.dropWhile (joiningType · == .transparent)).head?.map joiningType with
  | some .right | some .dual => true
  | _ => false

/-- `before` is what precedes `c`, nearest first. -/
def isPlaced (before : List Char) (c : Char) (after : List Char) : Bool :=
  if c = joiner then before.head?.any isVirama
  else if c = nonJoiner then
    before.head?.any isVirama || (joinsForward before && joinsBackward after)
  else true

def allPlacedFrom (before : List Char) : List Char → Bool
  | [] => true
  | c :: after => isPlaced before c after && allPlacedFrom (c :: before) after

def allPlaced (label : List Char) : Bool := allPlacedFrom [] label

end AddressRecords.Idna.Joiner
