import AddressRecords.Idna.Ascii
import AddressRecords.Text.Quoted
import AddressRecords.Unicode.WhiteSpace

/-!
Normalized domain names. A name is lower-case ASCII without a trailing dot, none of its labels is
empty and none is a lone asterisk.
-/

namespace AddressRecords

/-- The labels of a name, most specific first. -/
def labelsOf (name : String) : List String :=
  (name.toList.splitOn '.').map String.ofList

/-- A label that can stand in a name. -/
def IsLabel (label : String) : Prop := label ≠ "" ∧ label ≠ "*"

instance (label : String) : Decidable (IsLabel label) := inferInstanceAs (Decidable (_ ∧ _))

structure DomainName where
  text : String
  labels_valid : ∀ label ∈ labelsOf text, IsLabel label
  deriving DecidableEq

/-- Why a text is no domain name; the text is kept as it was given. -/
inductive NameError
  | blank
  | notConvertible (raw : String)
  | emptyLabel (raw : String)
  | misplacedWildcard (raw : String)
  deriving DecidableEq, Repr

def NameError.message : NameError → String
  | blank => "Domain name cannot be empty"
  | notConvertible raw => s!"Domain name {Text.quote raw} is not valid: Errors"
  | emptyLabel raw => s!"Domain name {Text.quote raw} has an empty label"
  | misplacedWildcard raw => s!"Domain name {Text.quote raw} has a misplaced wildcard label"

namespace DomainName

/-- One trailing dot names the root and is dropped. -/
def dropRoot (text : List Char) : List Char :=
  if text.getLast? = some '.' then text.dropLast else text

/-- What the first dots of a text leave behind them, one dot after the other. -/
def tailsAfterDots : List Char → List (List Char)
  | [] => []
  | c :: rest => if c = '.' then rest :: tailsAfterDots rest else tailsAfterDots rest

/-- Normalizes a name: surrounding white space and one trailing dot are dropped, and the rest is
brought to its ASCII form. -/
def ofText (raw : String) : Except NameError DomainName :=
  let bare := String.ofList (dropRoot (Unicode.trim raw).toList)
  if bare = "" then .error .blank
  else
    match Idna.toAscii bare with
    | none => .error (.notConvertible raw)
    | some ascii =>
      if _ : "" ∈ labelsOf ascii then .error (.emptyLabel raw)
      else if _ : "*" ∈ labelsOf ascii then .error (.misplacedWildcard raw)
      else .ok ⟨ascii, fun label h => ⟨by rintro rfl; contradiction, by rintro rfl; contradiction⟩⟩

instance : ToString DomainName := ⟨text⟩

def labels (name : DomainName) : List String := labelsOf name.text

/-- The name and all it is a child of, down to the top-level label. -/
def suffixes (name : DomainName) : List String :=
  name.text :: (tailsAfterDots name.text.toList).map String.ofList

instance : Ord DomainName := ⟨fun a b => compare a.text b.text⟩

/-- What the first dot of a text leaves behind it, if there is a dot. -/
def behindDot : List Char → Option (List Char)
  | [] => none
  | c :: rest => if c = '.' then some rest else behindDot rest

end DomainName

/-- The suffixes of a name, taken one by one: the one that is due, unless all have been taken. -/
structure Suffixes where
  rest : Option (List Char)

/-- The next suffix, and those after it. -/
def Suffixes.next (suffixes : Suffixes) : Option (String × Suffixes) :=
  suffixes.rest.map fun text => (String.ofList text, ⟨DomainName.behindDot text⟩)

/-- None of the suffixes has been taken yet. -/
def DomainName.descent (name : DomainName) : Suffixes := ⟨some name.text.toList⟩

end AddressRecords
