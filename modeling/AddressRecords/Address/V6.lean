import AddressRecords.Address.V4

/-!
IPv6 addresses and their text: eight groups in hexadecimal with colons between them, where one
run of zero groups may be left out and the last two groups may be written as an IPv4 address.
-/

namespace AddressRecords.Address

structure V6 where
  groups : List UInt16
  length_groups : groups.length = 8
  deriving DecidableEq

namespace V6

def takeGroup (text : List Char) : Option (UInt16 × List Char) := do
  let (digits, rest) ← takeDigits 16 4 text
  return (UInt16.ofNat (Text.numberOf 16 digits), rest)

/-- The two groups that hold an IPv4 address. -/
def groupsOfV4 (address : V4) : List UInt16 :=
  [address.first.toUInt16 * 256 + address.second.toUInt16,
    address.third.toUInt16 * 256 + address.fourth.toUInt16]

/-- A stretch of groups, and whether an IPv4 address ended it. -/
structure Stretch where
  groups : List UInt16
  endsInV4 : Bool
  rest : List Char

/-- Takes as many groups as stand there, at most `slots`. Every group but the first of a stretch
has a colon before it. -/
def takeStretch (isFirst : Bool) (slots : Nat) (text : List Char) : Stretch :=
  match slots with
  | 0 => ⟨[], false, text⟩
  | slots + 1 =>
    let item := if isFirst then some text else takeChar ':' text
    match if slots = 0 then none else item.bind V4.take with
    | some (address, rest) => ⟨groupsOfV4 address, true, rest⟩
    | none =>
      match item.bind takeGroup with
      | some (group, rest) =>
        let more := takeStretch false slots rest
        { more with groups := group :: more.groups }
      | none => ⟨[], false, text⟩

/-- The address of a head and a tail with zeros between them. -/
def ofParts (head tail : List UInt16) : Option V6 :=
  let groups := head ++ List.replicate (8 - head.length - tail.length) 0 ++ tail
  if h : groups.length = 8 then some ⟨groups, h⟩ else none

def ofChars (text : List Char) : Option V6 :=
  let head := takeStretch true 8 text
  if head.groups.length = 8 then
    if head.rest.isEmpty then ofParts head.groups [] else none
  else if head.endsInV4 then none
  else do
    let rest ← takeChar ':' (← takeChar ':' head.rest)
    let tail := takeStretch true (7 - head.groups.length) rest
    if tail.rest.isEmpty then ofParts head.groups tail.groups else none

/-- How many zero groups the list starts with. -/
def leadingZeros (groups : List UInt16) : Nat := (groups.takeWhile (· == 0)).length

/-- Where the longest run of zeros starts and its length; of equal runs the first. -/
def longestZeros : List UInt16 → Nat × Nat
  | [] => (0, 0)
  | group :: rest =>
    let (start, length) := longestZeros rest
    let here := leadingZeros (group :: rest)
    if length ≤ here then (0, here) else (start + 1, length)

def groupChars (groups : List UInt16) : List Char :=
  [':'].intercalate (groups.map fun group => Nat.toDigits 16 group.toNat)

/-- The groups, with the longest run of at least two zeros left out. -/
def compressed (address : V6) : List Char :=
  let (start, length) := longestZeros address.groups
  if 1 < length then
    groupChars (address.groups.take start) ++ [':', ':'] ++
      groupChars (address.groups.drop (start + length))
  else groupChars address.groups

/-- The IPv4 address that the address stands for, if it is of the mapped kind. -/
def mappedV4? (address : V6) : Option V4 :=
  match address.groups with
  | [0, 0, 0, 0, 0, 0xffff, high, low] =>
    some ⟨(high / 256).toUInt8, high.toUInt8, (low / 256).toUInt8, low.toUInt8⟩
  | _ => none

/-- A mapped IPv4 address is written as one; any other is compressed. -/
def toChars (address : V6) : List Char :=
  match address.mappedV4? with
  | some v4 => [':', ':', 'f', 'f', 'f', 'f', ':'] ++ v4.toChars
  | none => address.compressed

end V6

end AddressRecords.Address
