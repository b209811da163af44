import AddressRecords.Json.Reader

/-!
JSON values of any shape, read from a text and written to one. The members of an object that is
read are in the order of their keys, and the last of several members with one key counts.
-/

namespace AddressRecords.Json

inductive Value
  | null
  | boolean (value : Bool)
  | number (value : Number)
  | string (value : String)
  | list (items : List Value)
  | object (members : List (String × Value))

/-- Puts a member in its place, in place of one with the same key. -/
def insertMember (key : String) (value : Value) : List (String × Value) → List (String × Value)
  | [] => [(key, value)]
  | (other, held) :: rest =>
    match compare key other with
    | .lt => (key, value) :: (other, held) :: rest
    | .eq => (key, value) :: rest
    | .gt => (other, held) :: insertMember key value rest

mutual

def Node.value (depth : Nat) : Node → Except Fault Value
  | .null => .ok .null
  | .boolean value => .ok (.boolean value)
  | .number token => .number <$> token.read
  | .string token => .string <$> token.read
  | .list items => enter depth fun depth => .list <$> items.values depth
  | .object members => enter depth fun depth => .object <$> members.values depth []
  | .absent fault => .error fault

def Items.values (depth : Nat) : Items → Except Fault (List Value)
  | .done ending => do ending.read; return []
  | .item node rest => do
    let value ← node.value depth
    return value :: (← rest.values depth)

def Members.values (depth : Nat) (read : List (String × Value)) :
    Members → Except Fault (List (String × Value))
  | .done ending => do ending.read; return read
  | .member key value rest => do
    let key ← key.read
    let value ← value.value depth
    rest.values depth (insertMember key value read)

end

/-- Reads any value. -/
def Reader.value : Reader Value := fun depth node => node.value depth

/-! Writing: no blanks, and escapes only where a string needs them. -/

def escape (c : Char) : List Char :=
  if c = '"' then ['\\', '"']
  else if c = '\\' then ['\\', '\\']
  else if c.toNat = 8 then ['\\', 'b']
  else if c.toNat = 12 then ['\\', 'f']
  else if c = '\n' then ['\\', 'n']
  else if c = '\r' then ['\\', 'r']
  else if c = '\t' then ['\\', 't']
  else if c.toNat < 0x20 then
    ['\\', 'u', '0', '0', Nat.digitChar (c.toNat / 16), Nat.digitChar (c.toNat % 16)]
  else [c]

def stringChars (text : String) : List Char :=
  '"' :: text.toList.flatMap escape ++ ['"']

def numberChars : Number → List Char
  | .natural value => Nat.toDigits 10 value
  | .negative magnitude => '-' :: Nat.toDigits 10 magnitude
  | .real value => (toString value).toList

mutual

def Value.chars : Value → List Char
  | .null => ['n', 'u', 'l', 'l']
  | .boolean true => ['t', 'r', 'u', 'e']
  | .boolean false => ['f', 'a', 'l', 's', 'e']
  | .number value => numberChars value
  | .string value => stringChars value
  | .list items => '[' :: itemChars items ++ [']']
  | .object members => Char.ofNat 0x7b :: memberChars members ++ [Char.ofNat 0x7d]

def itemChars : List Value → List Char
  | [] => []
  | [value] => value.chars
  | value :: rest => value.chars ++ ',' :: itemChars rest

def memberChars : List (String × Value) → List Char
  | [] => []
  | [(key, value)] => stringChars key ++ ':' :: value.chars
  | (key, value) :: rest => stringChars key ++ ':' :: value.chars ++ ',' :: memberChars rest

end

instance : ToString Value := ⟨fun value => String.ofList value.chars⟩

/-- A text or null. -/
def Value.ofOption : Option String → Value
  | none => .null
  | some text => .string text

def Value.ofNat (n : Nat) : Value := .number (.natural n)

end AddressRecords.Json
