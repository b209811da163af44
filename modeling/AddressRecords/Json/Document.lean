import AddressRecords.Json.Scan

/-!
The structure of a JSON text, as far as it goes. A text is taken apart once, without asking what
it should hold; where it breaks off, the document says so in the place of what is missing. Readers
then go through the document in the order of the text, so that of several faults they report the
first one that they come to.
-/

namespace AddressRecords.Json

/-- How a list ends: with its bracket, or where the text breaks off. -/
inductive ListEnd
  | closed
  | textEnds
  /-- Something other than a comma or the bracket follows an element. -/
  | unseparated
  | closedAfterComma
  | textEndsAfterComma
  deriving DecidableEq, Repr

/-- How an object ends: with its brace, or where the text breaks off. -/
inductive ObjectEnd
  | closed
  | textEnds
  /-- Something other than a comma or the brace follows a member. -/
  | unseparated
  | closedAfterComma
  | textEndsAfterComma
  /-- Something other than a string stands where a member starts. -/
  | notKey
  deriving DecidableEq, Repr

mutual

inductive Node
  | null
  | boolean (value : Bool)
  | number (token : Token Number)
  | string (token : Token String)
  | list (items : Items)
  | object (members : Members)
  /-- No value stands here, and the text is not taken apart any further. -/
  | absent (fault : Fault)

inductive Items
  | done (ending : ListEnd)
  | item (node : Node) (rest : Items)

inductive Members
  | done (ending : ObjectEnd)
  | member (key : Token String) (value : Node) (rest : Members)

end

/-- A whole text: one value, and whether anything but white space follows it. -/
structure Document where
  root : Node
  trailing : Bool

namespace ListEnd

def read : ListEnd → Except Fault Unit
  | closed => .ok ()
  | textEnds => .error .endInList
  | unseparated => .error .expectedCommaOrBracket
  | closedAfterComma => .error .trailingComma
  | textEndsAfterComma => .error .endInValue

def skip : ListEnd → Except Fault Unit
  | closed => .ok ()
  | textEnds => .error .endInList
  | unseparated => .error .expectedCommaOrBracket
  | closedAfterComma => .error .expectedValue
  | textEndsAfterComma => .error .endInValue

end ListEnd

namespace ObjectEnd

def read : ObjectEnd → Except Fault Unit
  | closed => .ok ()
  | textEnds => .error .endInObject
  | unseparated => .error .expectedCommaOrBrace
  | closedAfterComma => .error .trailingComma
  | textEndsAfterComma => .error .endInValue
  | notKey => .error .keyNotString

def skip : ObjectEnd → Except Fault Unit
  | closed => .ok ()
  | textEnds | textEndsAfterComma => .error .endInObject
  | unseparated => .error .expectedCommaOrBrace
  | closedAfterComma | notKey => .error .keyNotString

end ObjectEnd

namespace Document

def isBlank (c : Char) : Bool := c = ' ' || c = '\n' || c = '\t' || c = '\r'

def skipBlanks (text : List Char) : List Char := text.dropWhile isBlank

/-- Takes the rest of a word whose first letter has been seen. -/
def word (rest text : List Char) (node : Node) : Node × Option (List Char) :=
  match rest, text with
  | [], text => (node, some text)
  | _ :: _, [] => (.absent .endInValue, none)
  | c :: rest, d :: text => if c = d then word rest text node else (.absent .expectedWord, none)

/-- A token as a node; after a broken one the text is not followed. -/
def ofToken {α : Type} (make : Token α → Node) (scanned : Token α × List Char) :
    Node × Option (List Char) :=
  match scanned with
  | (.whole value, rest) => (make (.whole value), some rest)
  | (.broken read skip, _) => (make (.broken read skip), none)

mutual

/-- The value a text starts with and what follows it. Each step lowers `steps`. -/
def node (steps : Nat) (text : List Char) : Node × Option (List Char) :=
  match steps, skipBlanks text with
  | 0, _ => (.absent .tooDeep, none)
  | _, [] => (.absent .endInValue, none)
  | steps + 1, c :: rest =>
    if c = 'n' then word ['u', 'l', 'l'] rest .null
    else if c = 't' then word ['r', 'u', 'e'] rest (.boolean true)
    else if c = 'f' then word ['a', 'l', 's', 'e'] rest (.boolean false)
    else if c = '-' then ofToken .number (Scan.number true rest)
    else if c.isDigit then ofToken .number (Scan.number false (c :: rest))
    else if c = '"' then ofToken .string (Scan.string rest)
    else if c = '[' then
      match skipBlanks rest with
      | [] => (.list (.done .textEnds), none)
      | ']' :: rest => (.list (.done .closed), some rest)
      | rest => let (items, rest) := items steps rest; (.list items, rest)
    else if c.toNat = 0x7b then
      match skipBlanks rest with
      | [] => (.object (.done .textEnds), none)
      | d :: rest =>
        if d.toNat = 0x7d then (.object (.done .closed), some rest)
        else let (members, rest) := members steps (d :: rest); (.object members, rest)
    else (.absent .expectedValue, none)

/-- The elements from one on that is due. -/
def items (steps : Nat) (text : List Char) : Items × Option (List Char) :=
  match steps with
  | 0 => (.done .textEnds, none)
  | steps + 1 =>
    match node steps text with
    | (node, none) => (.item node (.done .textEnds), none)
    | (node, some rest) =>
      match skipBlanks rest with
      | [] => (.item node (.done .textEnds), none)
      | ']' :: rest => (.item node (.done .closed), some rest)
      | ',' :: rest =>
        match skipBlanks rest with
        | [] => (.item node (.done .textEndsAfterComma), none)
        | ']' :: _ => (.item node (.done .closedAfterComma), none)
        | rest => let (more, rest) := items steps rest; (.item node more, rest)
      | _ => (.item node (.done .unseparated), none)

/-- The members from one on that is due. -/
def members (steps : Nat) (text : List Char) : Members × Option (List Char) :=
  match steps, text with
  | steps + 1, '"' :: rest =>
    match Scan.string rest with
    | (.broken read skip, _) => (.member (.broken read skip) .null (.done .textEnds), none)
    | (.whole key, rest) =>
      match skipBlanks rest with
      | [] => (.member (.whole key) (.absent .endInObject) (.done .textEnds), none)
      | ':' :: rest =>
        match node steps rest with
        | (node, none) => (.member (.whole key) node (.done .textEnds), none)
        | (node, some rest) =>
          match skipBlanks rest with
          | [] => (.member (.whole key) node (.done .textEnds), none)
          | ',' :: rest =>
            match skipBlanks rest with
            | [] => (.member (.whole key) node (.done .textEndsAfterComma), none)
            | d :: rest =>
              if d.toNat = 0x7d then
                (.member (.whole key) node (.done .closedAfterComma), none)
              else
                let (more, rest) := members steps (d :: rest)
                (.member (.whole key) node more, rest)
          | d :: rest =>
            if d.toNat = 0x7d then (.member (.whole key) node (.done .closed), some rest)
            else (.member (.whole key) node (.done .unseparated), none)
      | _ => (.member (.whole key) (.absent .expectedColon) (.done .textEnds), none)
  | _, _ => (.done .notKey, none)

end

/-- Takes a text apart. Two steps for each character are enough, and one for the end. -/
def ofText (text : String) : Document :=
  match node (2 * text.length + 2) text.toList with
  | (root, some rest) => ⟨root, !(skipBlanks rest).isEmpty⟩
  | (root, none) => ⟨root, false⟩

end Document

end AddressRecords.Json
