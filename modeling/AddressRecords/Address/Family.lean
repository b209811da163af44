import AddressRecords.Address.V6

/-!
Addresses of both families, and the record types that hold them.
-/

namespace AddressRecords

inductive Address
  | v4 (address : Address.V4)
  | v6 (address : Address.V6)
  deriving DecidableEq

inductive Family
  | v4
  | v6
  deriving DecidableEq, Repr

/-- What a text was expected to be an address of. -/
inductive AddressError
  | notOf (family : Family)
  | neither
  deriving DecidableEq, Repr

namespace Family

def recordType : Family → String
  | v4 => "A"
  | v6 => "AAAA"

instance : ToString Family where
  toString
    | v4 => "IPv4"
    | v6 => "IPv6"

def all : List Family := [v4, v6]

end Family

def AddressError.message : AddressError → String
  | notOf family => s!"invalid {family} address syntax"
  | neither => "invalid IP address syntax"

namespace Address

def family : Address → Family
  | v4 _ => .v4
  | v6 _ => .v6

instance : ToString Address where
  toString
    | v4 address => String.ofList address.toChars
    | v6 address => String.ofList address.toChars

/-- Reads a text as an address of either family. -/
def parse (text : String) : Except AddressError Address :=
  match V4.ofChars text.toList with
  | some address => .ok (v4 address)
  | none =>
    match V6.ofChars text.toList with
    | some address => .ok (v6 address)
    | none => .error .neither

end Address

namespace Family

def owns (family : Family) (address : Address) : Bool := address.family == family

/-- Reads a text strictly as an address of `family`. -/
def parseAddress (family : Family) (text : String) : Except AddressError Address :=
  match family with
  | v4 =>
    match Address.V4.ofChars text.toList with
    | some address => .ok (.v4 address)
    | none => .error (.notOf v4)
  | v6 =>
    match Address.V6.ofChars text.toList with
    | some address => .ok (.v6 address)
    | none => .error (.notOf v6)

end Family

end AddressRecords
