/-!
Numbers of double precision: their exact value, the decimal with the fewest digits that reads
back, and the layout of that decimal.
-/

namespace AddressRecords.Json

/-- A double by its bits: sign, eleven bits of exponent, fifty-two of significand. -/
structure Double where
  bits : UInt64
  deriving DecidableEq, Repr

namespace Double

def ofFloat (x : Float) : Double := ⟨x.toBits⟩

def toFloat (d : Double) : Float := Float.ofBits d.bits

def isNegative (d : Double) : Bool := Nat.pow 2 63 ≤ d.bits.toNat

def exponentBits (d : Double) : Nat := d.bits.toNat / Nat.pow 2 52 % Nat.pow 2 11

def significandBits (d : Double) : Nat := d.bits.toNat % Nat.pow 2 52

/-- A finite magnitude is `significand * 2 ^ (scale - 1075)`. -/
def significand (d : Double) : Nat :=
  if d.exponentBits = 0 then d.significandBits else d.significandBits + Nat.pow 2 52

def scale (d : Double) : Nat := max 1 d.exponentBits

/-- The decimal `digits * 10 ^ exponent`. -/
structure Decimal where
  digits : Nat
  exponent : Int
  deriving DecidableEq, Repr

/-- The numbers that read as one magnitude: those between `low` and `high`, ends included or
not, all over `denominator`. -/
structure Basin where
  low : Nat
  middle : Nat
  high : Nat
  denominator : Nat
  closed : Bool

/-- The numbers nearer to the magnitude than to any other. Below a power of two the next one
down is twice as close. -/
def basin (d : Double) : Basin :=
  let lower := if d.significandBits = 0 ∧ 1 < d.exponentBits then 1 else 2
  let up := Nat.pow 2 (d.scale - 1077)
  { low := (4 * d.significand - lower) * up
    middle := 4 * d.significand * up
    high := (4 * d.significand + 2) * up
    denominator := Nat.pow 2 (1077 - d.scale)
    closed := d.significand % 2 == 0 }

namespace Basin

/-- Whether `n * 10 ^ exponent` lies in the basin. -/
def contains (b : Basin) (n : Nat) (exponent : Int) : Bool :=
  let point := n * Nat.pow 10 exponent.toNat * b.denominator
  let unit := Nat.pow 10 (-exponent).toNat
  if b.closed then b.low * unit ≤ point && point ≤ b.high * unit
  else b.low * unit < point && point < b.high * unit

/-- The multiple of `10 ^ exponent` in the basin that is nearest to its middle. -/
def nearest? (b : Basin) (exponent : Int) : Option Nat :=
  let step := Nat.pow 10 exponent.toNat * b.denominator
  let target := b.middle * Nat.pow 10 (-exponent).toNat
  let below := target / step
  match b.contains below exponent, b.contains (below + 1) exponent with
  | true, true =>
    let rest := target - below * step
    some (if 2 * rest < step ∨ (2 * rest = step ∧ below % 2 = 0) then below else below + 1)
  | true, false => some below
  | false, true => some (below + 1)
  | false, false => none

/-- Tries coarse grids first: `exponent`, and then `steps` finer ones. -/
def search (b : Basin) (exponent : Int) : Nat → Decimal
  | 0 => ⟨0, 0⟩
  | steps + 1 =>
    match b.nearest? exponent with
    | some n => ⟨n, exponent⟩
    | none => b.search (exponent - 1) steps

end Basin

/-- The decimal with the fewest digits that reads as the magnitude, and of those the nearest.
Between the largest double and the smallest lie fewer than 640 powers of ten. -/
def shortest (d : Double) : Decimal :=
  if d.significand = 0 then ⟨0, 0⟩ else d.basin.search 309 640

/-- The most places before the point that are written without an exponent. -/
def positionalDigits : Int := 16

/-- With as many zeros right after the point, a number is written with an exponent. -/
def leadingZeros : Int := 5

def decimalChars (decimal : Decimal) : List Char :=
  let digits := Nat.toDigits 10 decimal.digits
  let point := digits.length + decimal.exponent
  if 0 ≤ decimal.exponent ∧ point ≤ positionalDigits then
    digits ++ List.replicate decimal.exponent.toNat '0' ++ ['.', '0']
  else if 0 < point ∧ point ≤ positionalDigits then
    digits.take point.toNat ++ '.' :: digits.drop point.toNat
  else if -leadingZeros < point ∧ point ≤ 0 then
    ['0', '.'] ++ List.replicate (-point).toNat '0' ++ digits
  else
    let fraction := digits.drop 1
    digits.take 1 ++ (if fraction.isEmpty then [] else '.' :: fraction) ++
      'e' :: (toString (point - 1)).toList

instance : ToString Double where
  toString d := String.ofList ((if d.isNegative then ['-'] else []) ++ decimalChars d.shortest)

end Double

end AddressRecords.Json
