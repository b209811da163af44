import AddressRecords.Json.Fault
import AddressRecords.Text.Digits

/-!
Strings and numbers at the start of a text. Each is scanned in two ways: to read its value, and
to pass over it, which asks for less.
-/

namespace AddressRecords.Json

/-- What a scan found: a whole token, whose value may still be out of bounds, or a place where
the text breaks off, which looks different to a reader and to one who passes over. -/
inductive Token (α : Type)
  | whole (value : Except Fault α)
  | broken (read skip : Fault)

namespace Token

variable {α : Type}

def read : Token α → Except Fault α
  | whole value => value
  | broken fault _ => .error fault

def skip : Token α → Except Fault Unit
  | whole _ => .ok ()
  | broken _ fault => .error fault

theorem skip_of_read {t : Token α} {a : α} (h : t.read = .ok a) : t.skip = .ok () := by
  cases t with
  | whole => rfl
  | broken => cases h

end Token

namespace Scan

/-! Strings. All functions start behind the opening quote. -/

/-- The UTF-16 unit that four digits stand for. -/
def unit? (a b c d : Char) : Option Nat := do
  let _ ← [a, b, c, d].mapM Text.digitValue?
  return Text.numberOf 16 [a, b, c, d]

/-- Fewer than four characters follow an escape for a code point. Counted in bytes there may
still be four. -/
def shortEscape (rest : List Char) : Fault :=
  if (String.ofList rest).utf8ByteSize < 4 then .endInString else .invalidEscape

/-- What a one-letter escape stands for. -/
def simpleEscape? (c : Char) : Option Char :=
  if c = '"' ∨ c = '\\' ∨ c = '/' then some c
  else if c = 'b' then some (Char.ofNat 8)
  else if c = 'f' then some (Char.ofNat 12)
  else if c = 'n' then some '\n'
  else if c = 'r' then some '\r'
  else if c = 't' then some '\t'
  else none

def isControl (c : Char) : Bool := c.toNat < 0x20

/-- Passes over a string and gives what follows it. -/
def skipString : List Char → Except Fault (List Char)
  | [] => .error .endInString
  | '"' :: rest => .ok rest
  | ['\\'] => .error .endInString
  | '\\' :: 'u' :: a :: b :: c :: d :: rest =>
    if (unit? a b c d).isSome then skipString rest else .error .invalidEscape
  | '\\' :: 'u' :: rest => .error (shortEscape rest)
  | '\\' :: c :: rest =>
    if (simpleEscape? c).isSome then skipString rest else .error .invalidEscape
  | c :: rest => if isControl c then .error .controlCharacter else skipString rest

def isLeading (unit : Nat) : Bool := 0xd800 ≤ unit && unit < 0xdc00

def isTrailing (unit : Nat) : Bool := 0xdc00 ≤ unit && unit < 0xe000

/-- The character of a surrogate pair. -/
def pairChar (leading trailing : Nat) : Char :=
  Char.ofNat (0x10000 + (leading - 0xd800) * 0x400 + (trailing - 0xdc00))

/-- The characters of a string. Surrogates have to come in pairs. -/
def readString : List Char → Except Fault (List Char)
  | [] => .error .endInString
  | '"' :: _ => .ok []
  | ['\\'] => .error .endInString
  | '\\' :: 'u' :: a :: b :: c :: d :: rest =>
    match unit? a b c d with
    | none => .error .invalidEscape
    | some unit =>
      if isTrailing unit then .error .loneSurrogate
      else if isLeading unit then
        match rest with
        | '\\' :: 'u' :: a :: b :: c :: d :: rest =>
          match unit? a b c d with
          | none => .error .invalidEscape
          | some second =>
            if isTrailing second then (pairChar unit second :: ·) <$> readString rest
            else .error .loneSurrogate
        | '\\' :: 'u' :: rest => .error (shortEscape rest)
        | [] | ['\\'] => .error .endInString
        | _ => .error .endOfSurrogate
      else (Char.ofNat unit :: ·) <$> readString rest
  | '\\' :: 'u' :: rest => .error (shortEscape rest)
  | '\\' :: c :: rest =>
    match simpleEscape? c with
    | some value => (value :: ·) <$> readString rest
    | none => .error .invalidEscape
  | c :: rest => if isControl c then .error .controlCharacter else (c :: ·) <$> readString rest

/-- The string a text starts with, and what follows it. -/
def string (text : List Char) : Token String × List Char :=
  let value := String.ofList <$> readString text
  match skipString text with
  | .ok rest => (.whole value, rest)
  | .error fault =>
    match value with
    | .error first => (.broken first fault, [])
    | .ok _ => (.broken fault fault, [])

/-! Numbers. -/

/-- A number as it is written. -/
structure Numeral where
  isNegative : Bool
  whole : List Char
  /-- The digits behind the point; none if there is no point. -/
  fraction : List Char
  exponent : Option (Bool × List Char)

/-- Where a digit was due, the text ends or goes on with something else. -/
def digitMissing (rest : List Char) : Fault × Fault :=
  (if rest.isEmpty then .endInValue else .invalidNumber, .invalidNumber)

/-- The digits before the point: a zero alone, or a number that does not start with one. -/
def wholeDigits (text : List Char) : Except (Fault × Fault) (List Char × List Char) :=
  match text.span Char.isDigit with
  | ([], rest) => .error (digitMissing rest)
  | ('0' :: _ :: _, _) => .error (.invalidNumber, .invalidNumber)
  | (digits, rest) => .ok (digits, rest)

def fractionDigits (text : List Char) : Except (Fault × Fault) (List Char × List Char) :=
  match text with
  | '.' :: rest =>
    match rest.span Char.isDigit with
    | ([], rest) => .error (digitMissing rest)
    | (digits, rest) => .ok (digits, rest)
  | rest => .ok ([], rest)

/-- The sign of an exponent, and the digits behind it. -/
def exponentSign : List Char → Bool × List Char
  | '+' :: rest => (false, rest)
  | '-' :: rest => (true, rest)
  | rest => (false, rest)

def exponentDigits (text : List Char) :
    Except (Fault × Fault) (Option (Bool × List Char) × List Char) :=
  match text with
  | c :: rest =>
    if c = 'e' ∨ c = 'E' then
      let (isNegative, rest) := exponentSign rest
      match rest.span Char.isDigit with
      | ([], rest) => .error (digitMissing rest)
      | (digits, rest) => .ok (some (isNegative, digits), rest)
    else .ok (none, text)
  | [] => .ok (none, [])

/-- The number a text starts with, behind its sign. A fault is given twice: for a reader and for
one who passes over. -/
def numeral (isNegative : Bool) (text : List Char) :
    Except (Fault × Fault) (Numeral × List Char) := do
  let (whole, rest) ← wholeDigits text
  let (fraction, rest) ← fractionDigits rest
  let (exponent, rest) ← exponentDigits rest
  return (⟨isNegative, whole, fraction, exponent⟩, rest)

/-- Numbers are accumulated in 64 bits. -/
def wordLimit : Nat := UInt64.size

/-- Appends digits to a number as long as it stays in 64 bits, and counts them. -/
def absorb (significand count : Nat) : List Char → Nat × Nat
  | [] => (significand, count)
  | c :: rest =>
    let next := significand * 10 + Text.numberOf 10 [c]
    if next < wordLimit then absorb next (count + 1) rest else (significand, count)

def powerOfTen (exponent : Nat) : Float := Float.ofScientific 1 false exponent

/-- The greatest power of ten that is a double. -/
def greatestPower : Nat := 308

/-- Divides by a power of ten in steps that are doubles. -/
def divide (x : Float) (exponent : Nat) : Float :=
  if greatestPower < exponent then
    if x == 0 then x else divide (x / powerOfTen greatestPower) (exponent - greatestPower)
  else x / powerOfTen exponent
termination_by exponent
decreasing_by
  simp only [greatestPower] at *
  omega

/-- The product of `significand` and a power of ten, rounded after each step. -/
def scaled (significand : Nat) (exponent : Int) : Except Fault Float :=
  let x := (UInt64.ofNat significand).toFloat
  if exponent < 0 then .ok (divide x (-exponent).toNat)
  else if greatestPower < exponent.toNat then
    if x == 0 then .ok x else .error .numberOutOfRange
  else
    let product := x * powerOfTen exponent.toNat
    if product.isInf then .error .numberOutOfRange else .ok product

/-- Exponents are accumulated in 32 bits; one that does not fit makes the number zero or too
large. -/
def exponentLimit : Nat := Nat.pow 2 31

def Numeral.toFloat (n : Numeral) : Except Fault Float := do
  let (significand, taken) := absorb 0 0 n.whole
  let dropped := n.whole.length - taken
  let (significand, taken) := absorb significand 0 n.fraction
  let shift : Int := dropped - taken
  let magnitude ←
    match n.exponent with
    | none => scaled significand shift
    | some (isNegative, digits) =>
      let exponent := Text.numberOf 10 digits
      if exponent < exponentLimit then
        scaled significand (if isNegative then shift - exponent else shift + exponent)
      else if significand = 0 ∨ isNegative then .ok 0
      else .error .numberOutOfRange
  return if n.isNegative then -magnitude else magnitude

/-- Integers are those of 64 bits, with or without a sign. Minus zero is none. -/
def fitsInteger (isNegative : Bool) (magnitude : Nat) : Bool :=
  if isNegative then 0 < magnitude && magnitude ≤ Nat.pow 2 63 else magnitude < wordLimit

/-- A number without point and exponent is an integer if it fits one. -/
def Numeral.value (n : Numeral) : Except Fault Number :=
  let magnitude := Text.numberOf 10 n.whole
  if n.fraction.isEmpty ∧ n.exponent.isNone ∧ fitsInteger n.isNegative magnitude then
    .ok (if n.isNegative then .negative magnitude else .natural magnitude)
  else (fun x => .real (Double.ofFloat x)) <$> n.toFloat

/-- The number a text starts with, behind its sign, and what follows it. -/
def number (isNegative : Bool) (text : List Char) : Token Number × List Char :=
  match numeral isNegative text with
  | .ok (n, rest) => (.whole n.value, rest)
  | .error (read, skip) => (.broken read skip, [])

end Scan

end AddressRecords.Json
