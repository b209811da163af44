/-!
UTF-8: characters as bytes, and bytes as characters where they are well formed.
-/

namespace AddressRecords.Text.Utf8

def encode (text : List Char) : List UInt8 := text.flatMap String.utf8EncodeChar

/-- A character whose first bytes have been read: their value so far, how many bytes are still to
come, and the bounds of the next one. -/
structure Pending where
  value : Nat
  missing : Nat
  low : Nat
  high : Nat

/-- What a byte that starts a character leads to. Bounds rule out overlong forms, surrogates and
numbers that are no code points. -/
def start (b : Nat) : Option Char ⊕ Pending :=
  if b < 0x80 then .inl (some (Char.ofNat b))
  else if b < 0xc2 then .inl none
  else if b < 0xe0 then .inr ⟨b - 0xc0, 1, 0x80, 0xbf⟩
  else if b < 0xf0 then
    .inr ⟨b - 0xe0, 2, if b = 0xe0 then 0xa0 else 0x80, if b = 0xed then 0x9f else 0xbf⟩
  else if b < 0xf5 then
    .inr ⟨b - 0xf0, 3, if b = 0xf0 then 0x90 else 0x80, if b = 0xf4 then 0x8f else 0xbf⟩
  else .inl none

/-- Decodes bytes behind a character that has begun. Bytes that make no character give `none`. -/
def decodeFrom (pending : Option Pending) : List UInt8 → List (Option Char)
  | [] => if pending.isSome then [none] else []
  | byte :: rest =>
    let b := byte.toNat
    let fresh := match start b with
      | .inl c => c :: decodeFrom none rest
      | .inr next => decodeFrom (some next) rest
    match pending with
    | none => fresh
    | some p =>
      if p.low ≤ b ∧ b ≤ p.high then
        let value := p.value * 64 + (b - 0x80)
        if p.missing = 1 then some (Char.ofNat value) :: decodeFrom none rest
        else decodeFrom (some ⟨value, p.missing - 1, 0x80, 0xbf⟩) rest
      else none :: fresh

def decode (bytes : List UInt8) : List (Option Char) := decodeFrom none bytes

/-- The text of well-formed bytes. -/
def decode? (bytes : List UInt8) : Option (List Char) := (decode bytes).mapM id

/-- The text of any bytes, with a replacement character for what is malformed. -/
def decodeLossy (bytes : List UInt8) : List Char :=
  (decode bytes).map (·.getD (Char.ofNat 0xfffd))

end AddressRecords.Text.Utf8
