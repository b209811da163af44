import AddressRecords.Domain.Name

/-!
Domains: the names whose address records are managed. A domain is one name, or all children of
one name that have no records of their own.
-/

namespace AddressRecords

inductive Domain
  | literal (name : DomainName)
  /-- The children of `apex`. -/
  | wildcard (apex : DomainName)
  deriving DecidableEq

namespace Domain

/-- Reads a domain; a leading `*.` selects the wildcard of what follows. -/
def parse (raw : String) : Except NameError Domain :=
  match (Unicode.trim raw).toList with
  | '*' :: '.' :: apex => (DomainName.ofText (String.ofList apex)).map wildcard
  | bare => (DomainName.ofText (String.ofList bare)).map literal

def name : Domain → DomainName
  | literal name => name
  | wildcard apex => apex

def isWildcard : Domain → Bool
  | literal _ => false
  | wildcard _ => true

/-- The name under which the domain's records are kept. -/
def wireName : Domain → String
  | literal name => name.text
  | wildcard apex => "*." ++ apex.text

instance : ToString Domain where
  toString
    | literal name => toString name
    | wildcard apex => "*." ++ toString apex

/-- The names a zone holding the domain could have, most specific first. -/
def zoneCandidates (domain : Domain) : List String :=
  domain.name.suffixes

/-- Literals come before wildcards, and names go by their text. -/
instance : Ord Domain where
  compare
    | literal a, literal b => compare a b
    | literal _, wildcard _ => .lt
    | wildcard _, literal _ => .gt
    | wildcard a, wildcard b => compare a b

/-- Leaves out each element that equals the one before it. -/
def dropRepeats : List Domain → List Domain
  | a :: b :: rest => if a = b then dropRepeats (b :: rest) else a :: dropRepeats (b :: rest)
  | short => short

/-- The domains in ascending order, each once. -/
def sortDistinct (domains : List Domain) : List Domain :=
  dropRepeats (domains.mergeSort (compare · · != .gt))

end Domain

end AddressRecords
