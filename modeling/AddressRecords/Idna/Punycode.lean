/-!
Punycode: a sequence of code points written with letters, digits and hyphens. The ASCII
characters come first; each other one is an insertion, given by how far it lies from the one
before in the order of (code point, position), in a number of variable length.
-/

namespace AddressRecords.Idna.Punycode

def base : Nat := 36

def leastThreshold : Nat := 1

def mostThreshold : Nat := 26

def skew : Nat := 38

def damp : Nat := 700

def firstBias : Nat := 72

def firstCode : Nat := 0x80

/-- Numbers while decoding stay within 32 bits. -/
def limit : Nat := UInt32.size

/-- How often `delta` is divided until it is small. -/
def settle (delta steps : Nat) : Nat :=
  if delta > (base - leastThreshold) * mostThreshold / 2 then
    settle (delta / (base - leastThreshold)) (steps + base)
  else steps + (base - leastThreshold + 1) * delta / (delta + skew)
termination_by delta
decreasing_by simp only [base, leastThreshold, mostThreshold] at *; omega

/-- The bias after an insertion at distance `delta`, when the text has `length` characters. -/
def adapt (delta length : Nat) (first : Bool) : Nat :=
  let delta := if first then delta / damp else delta / 2
  settle (delta + delta / length) 0

/-- The least value of the digit in place `place` that is not the number's last. -/
def threshold (place bias : Nat) : Nat :=
  if place ≤ bias then leastThreshold
  else if bias + mostThreshold ≤ place then mostThreshold
  else place - bias

def digitOf (value : Nat) : Char :=
  Char.ofNat (if value < 26 then 'a'.toNat + value else '0'.toNat + (value - 26))

def valueOf (c : Char) : Option Nat :=
  if c.isDigit then some (c.toNat - '0'.toNat + 26)
  else if c.isLower then some (c.toNat - 'a'.toNat)
  else if c.isUpper then some (c.toNat - 'A'.toNat)
  else none

theorem threshold_pos (place bias : Nat) : 0 < threshold place bias := by
  unfold threshold leastThreshold mostThreshold
  split
  · omega
  · split <;> omega

/-- The digits of `value` from place `place` on. -/
def digits (value place bias : Nat) : List Char :=
  let least := threshold place bias
  if _ : value < least then [digitOf value]
  else
    digitOf (least + (value - least) % (base - least)) ::
      digits ((value - least) / (base - least)) (place + base) bias
termination_by value
decreasing_by
  have := threshold_pos place bias
  have := Nat.div_le_self (value - threshold place bias) (base - threshold place bias)
  omega

structure Encoder where
  written : List Char
  handled : Nat
  delta : Nat
  bias : Nat

/-- Passes one character of the text while the insertions of `code` are written. `basic` is the
number of ASCII characters. -/
def Encoder.pass (code basic : Nat) (e : Encoder) (c : Char) : Encoder :=
  if c.toNat < code then { e with delta := e.delta + 1 }
  else if c.toNat = code then
    { written := e.written ++ digits e.delta base e.bias
      handled := e.handled + 1
      delta := 0
      bias := adapt e.delta (e.handled + 1) (e.handled == basic) }
  else e

/-- Writes the insertions of each of `codes`, which ascend from above `last`. -/
def encodeCodes (text : List Char) (basic : Nat) (e : Encoder) (last : Nat) :
    List Nat → List Char
  | [] => e.written
  | code :: codes =>
    let e := { e with delta := e.delta + (code - last) * (e.handled + 1) }
    let e := text.foldl (Encoder.pass code basic) e
    encodeCodes text basic { e with delta := e.delta + 1 } (code + 1) codes

def isAscii (c : Char) : Bool := c.toNat < firstCode

def encode (text : List Char) : List Char :=
  let basic := text.filter isAscii
  let codes := ((text.filter (!isAscii ·)).map Char.toNat).mergeSort.eraseReps
  let start := if basic.isEmpty then [] else basic ++ ['-']
  encodeCodes text basic.length ⟨start, basic.length, 0, firstBias⟩ firstCode codes

structure Decoder where
  text : List Char
  /-- The last code point inserted. -/
  code : Nat
  /-- Where the next insertion would go if its distance were 0. -/
  position : Nat
  bias : Nat
  /-- What the digits of the number being read add up to so far. -/
  sum : Nat
  weight : Nat
  place : Nat

def validCode? (code : Nat) : Option Char :=
  if code < 0xd800 ∨ (0xdfff < code ∧ code < 0x110000) then some (Char.ofNat code) else none

/-- Takes one digit; the last digit of a number makes the insertion. -/
def Decoder.take (d : Decoder) (c : Char) : Option Decoder := do
  let value ← valueOf c
  let sum := d.sum + value * d.weight
  guard (sum < limit)
  let least := threshold d.place d.bias
  if value < least then
    let length := d.text.length + 1
    let index := d.position + sum
    guard (index < limit)
    let code := d.code + index / length
    let inserted ← validCode? code
    let at_ := index % length
    return { text := d.text.take at_ ++ inserted :: d.text.drop at_
             code
             position := at_ + 1
             bias := adapt sum length (d.position == 0)
             sum := 0
             weight := 1
             place := base }
  else
    let weight := d.weight * (base - least)
    guard (weight < limit)
    return { d with sum, weight, place := d.place + base }

/-- The characters before the last hyphen stand for themselves. A hyphen that has nothing before
it separates nothing, and no number contains one. -/
def decode (text : List Char) : Option (List Char) := do
  let (digits, basic) := text.reverse.span (· ≠ '-')
  guard (text.all isAscii && basic != ['-'])
  let start : Decoder := ⟨(basic.drop 1).reverse, firstCode, 0, firstBias, 0, 1, base⟩
  let done ← digits.reverse.foldlM Decoder.take start
  guard (done.place = base)
  return done.text

end AddressRecords.Idna.Punycode
