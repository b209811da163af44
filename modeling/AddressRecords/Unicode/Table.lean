import AddressRecords.Text.Digits

/-!
Tables over code points. A table is an ascending list of rows, each giving one value to a range
of code points, and is looked up by halving. The tables of this library are written as text, a
row being `first-last:value` in hexadecimal, and read once.
-/

namespace AddressRecords.Unicode

/-- The code points from `first` to `last` share `value`. -/
structure Row (α : Type) where
  first : Nat
  last : Nat
  value : α

/-- Rows in ascending order, no two of which overlap. -/
structure Table (α : Type) where
  rows : Array (Row α)

namespace Table

/-- Looks `code` up among the rows from `low` on and below `high`. -/
def search {α : Type} (rows : Array (Row α)) (code low high : Nat) (bound : high ≤ rows.size) :
    Option α :=
  if open_ : low < high then
    let middle := (low + high) / 2
    have inside : middle < rows.size := by omega
    let row := rows[middle]
    if code < row.first then search rows code low middle (by omega)
    else if row.last < code then search rows code (middle + 1) high bound
    else some row.value
  else none
termination_by high - low

def find? {α : Type} (table : Table α) (code : Nat) : Option α :=
  search table.rows code 0 table.rows.size (Nat.le_refl _)

def contains {α : Type} (table : Table α) (c : Char) : Bool :=
  (table.find? c.toNat).isSome

def readHex (digits : List Char) : Nat := Text.numberOf 16 digits

/-- Code points written in hexadecimal with points between them. -/
def readCodes (text : List Char) : List Nat :=
  (text.splitOn '.').map readHex

def readRow {α : Type} (value : List Char → α) (text : List Char) : Row α :=
  let (range, rest) := text.span (· ≠ ':')
  let (first, last) := range.span (· ≠ '-')
  { first := readHex first
    last := if last.isEmpty then readHex first else readHex (last.drop 1)
    value := value (rest.drop 1) }

/-- The table whose rows stand in `lines` with blanks between them. -/
def ofLines {α : Type} (value : List Char → α) (lines : List String) : Table α :=
  ⟨((lines.flatMap (·.toList.splitOn ' ')).map (readRow value)).toArray⟩

/-- The table of a set of code points, whose rows carry no value. -/
def ofRanges (lines : List String) : Table Unit :=
  ofLines (fun _ => ()) lines

end Table

end AddressRecords.Unicode
