import AddressRecords.Json.Document

/-!
Readers: what a program expects of a JSON text, stated on documents. A reader reports the first
fault in the order of the text. Lists and objects may be nested to a fixed depth where they are
read, and to any depth where they are passed over.
-/

namespace AddressRecords.Json

mutual

/-- Passes over a value, which has to be well formed but may hold anything. -/
def Node.skip : Node → Except Fault Unit
  | .null | .boolean _ => .ok ()
  | .number token => token.skip
  | .string token => token.skip
  | .list items => items.skip
  | .object members => members.skip
  | .absent fault => .error fault

def Items.skip : Items → Except Fault Unit
  | .done ending => ending.skip
  | .item node rest => do node.skip; rest.skip

def Members.skip : Members → Except Fault Unit
  | .done ending => ending.skip
  | .member key value rest => do key.skip; value.skip; rest.skip

end

/-- Reads a value at which so many levels of nesting are still free. -/
abbrev Reader (α : Type) := Nat → Node → Except Fault α

/-- A level of nesting is free only if another one stays free below it. -/
def enter {α : Type} (depth : Nat) (inside : Nat → Except Fault α) : Except Fault α :=
  match depth with
  | depth + 2 => inside (depth + 1)
  | _ => .error .tooDeep

/-- The fault of finding `node` where something else was expected. A scalar is scanned to its end
before it is told apart. -/
def Node.mismatch (node : Node) (expected : String) : Fault :=
  match node with
  | .null => .invalidType .null expected
  | .boolean value => .invalidType (.boolean value) expected
  | .number token =>
    match token.read with
    | .ok value => .invalidType (.number value) expected
    | .error fault => fault
  | .string token =>
    match token.read with
    | .ok value => .invalidType (.string value) expected
    | .error fault => fault
  | .list _ => .invalidType .sequence expected
  | .object _ => .invalidType .map expected
  | .absent fault => fault

namespace Reader

def boolean : Reader Bool
  | _, .boolean value => .ok value
  | _, node => .error (node.mismatch "a boolean")

/-- A natural number below `bound`; `name` is what the type is called. -/
def natural (name : String) (bound : Nat) : Reader Nat
  | _, .number token => do
    match ← token.read with
    | .natural value =>
      if value < bound then .ok value else .error (.invalidValue (.number (.natural value)) name)
    | .negative value => .error (.invalidValue (.number (.negative value)) name)
    | .real value => .error (.invalidType (.number (.real value)) name)
  | _, node => .error (node.mismatch name)

def word32 : Reader UInt32 := fun depth node =>
  UInt32.ofNat <$> natural "u32" UInt32.size depth node

def word64 : Reader UInt64 := fun depth node =>
  UInt64.ofNat <$> natural "u64" UInt64.size depth node

def string : Reader String
  | _, .string token => token.read
  | _, node => .error (node.mismatch "a string")

/-- A null is read as nothing. -/
def option {α : Type} (reader : Reader α) : Reader (Option α)
  | _, .null => .ok none
  | depth, node => some <$> reader depth node

end Reader

namespace Items

def readAll {α : Type} (reader : Node → Except Fault α) : Items → Except Fault (List α)
  | .done ending => do ending.read; return []
  | .item node rest => do
    let value ← reader node
    return value :: (← rest.readAll reader)

/-- Reads one element; `missing` is the answer if the list has ended. -/
def next {α : Type} (items : Items) (reader : Node → Except Fault α)
    (missing : Except Fault α) : Except Fault (α × Items) :=
  match items with
  | .done ending => do ending.read; return (← missing, .done ending)
  | .item node rest => do return (← reader node, rest)

/-- The list has to end here. -/
def finish : Items → Except Fault Unit
  | .done .closed => .ok ()
  | .done .textEnds => .error .endInList
  | .done .closedAfterComma => .error .trailingComma
  | _ => .error .trailingCharacters

end Items

/-- Goes through the members of an object. `step` is given the key and the value of each. -/
def Members.fold {σ : Type} (step : σ → String → Node → Except Fault σ) (state : σ) :
    Members → Except Fault σ
  | .done ending => do ending.read; return state
  | .member key value rest => do
    let state ← step state (← key.read) value
    rest.fold step state

namespace Reader

def list {α : Type} (reader : Reader α) : Reader (List α)
  | depth, .list items => enter depth fun depth => items.readAll (reader depth)
  | _, node => .error (node.mismatch "a sequence")

/-- A record is an object, or the list of its fields in their order. -/
def record {α : Type} (name : String) (ofItems : Nat → Items → Except Fault (α × Items))
    (ofMembers : Nat → Members → Except Fault α) : Reader α
  | depth, .list items => enter depth fun depth => do
    let (value, rest) ← ofItems depth items
    rest.finish
    return value
  | depth, .object members => enter depth fun depth => ofMembers depth members
  | _, node => .error (node.mismatch name)

/-- Fills a field of a record. A field may be given once. -/
def fill {α : Type} (name : String) (slot : Option α) (value : Except Fault α) :
    Except Fault (Option α) :=
  match slot with
  | some _ => .error (.duplicateField name)
  | none => some <$> value

/-- The value of a field that has no default. -/
def require {α : Type} (name : String) (slot : Option α) : Except Fault α :=
  match slot with
  | some value => .ok value
  | none => .error (.missingField name)

end Reader

/-- How many levels lists and objects may be nested, and one more. -/
def depthLimit : Nat := 128

/-- Reads a text that holds one value and nothing behind it. -/
def readText {α : Type} (reader : Reader α) (text : String) : Except Fault α := do
  let document := Document.ofText text
  let value ← reader depthLimit document.root
  if document.trailing then .error .trailingCharacters else .ok value

end AddressRecords.Json
