import AddressRecords.Text.Utf8

/-!
Characters are read back from their bytes: the first byte tells how many follow, the bounds of the
second one leave out only what is no character, and each byte adds six bits.
-/

namespace AddressRecords.Text.Utf8

/-! Bytes. -/

section

variable {pending : Pending} {lead bits : Nat} (rest : List UInt8)

theorem toNat_ofNat {n : Nat} (small : n < 256) : (UInt8.ofNat n).toNat = n :=
  UInt8.toNat_ofNat_of_lt' small

theorem decodeFrom_of_start {n : Nat} (small : n < 256) (begins : start n = .inr pending) :
    decodeFrom none (UInt8.ofNat n :: rest) = decodeFrom (some pending) rest := by
  simp only [decodeFrom, toNat_ofNat small, begins]

/-- The first of two bytes. -/
theorem decodeFrom_two (low : 2 ≤ lead) (high : lead < 32) :
    decodeFrom none (UInt8.ofNat (lead + 192) :: rest) =
      decodeFrom (some ⟨lead, 1, 0x80, 0xbf⟩) rest := by
  refine decodeFrom_of_start rest (by omega) ?_
  rw [start, if_neg (by omega), if_neg (by omega), if_pos (by omega), Nat.add_sub_cancel]

/-- The first of three bytes. -/
theorem decodeFrom_three (high : lead < 16) :
    decodeFrom none (UInt8.ofNat (lead + 224) :: rest) =
      decodeFrom (some ⟨lead, 2, if lead = 0 then 0xa0 else 0x80,
        if lead = 13 then 0x9f else 0xbf⟩) rest := by
  refine decodeFrom_of_start rest (by omega) ?_
  rw [start, if_neg (by omega), if_neg (by omega), if_neg (by omega), if_pos (by omega)]
  simp

/-- The first of four bytes. -/
theorem decodeFrom_four (high : lead < 5) :
    decodeFrom none (UInt8.ofNat (lead + 240) :: rest) =
      decodeFrom (some ⟨lead, 3, if lead = 0 then 0x90 else 0x80,
        if lead = 4 then 0x8f else 0xbf⟩) rest := by
  refine decodeFrom_of_start rest (by omega) ?_
  rw [start, if_neg (by omega), if_neg (by omega), if_neg (by omega), if_neg (by omega),
    if_pos (by omega)]
  simp

section

variable {value low high : Nat} (six : bits < 64) (above : low ≤ bits + 128)
  (below : bits + 128 ≤ high)

include six above below

/-- A byte with others behind it. -/
theorem decodeFrom_more (missing : Nat) :
    decodeFrom (some ⟨value, missing + 2, low, high⟩) (UInt8.ofNat (bits + 128) :: rest) =
      decodeFrom (some ⟨value * 64 + bits, missing + 1, 0x80, 0xbf⟩) rest := by
  have more : missing + 2 ≠ 1 := by omega
  rw [decodeFrom]
  dsimp only
  rw [toNat_ofNat (by omega), if_pos ⟨above, below⟩, if_neg more, Nat.add_sub_cancel]
  rfl

theorem decodeFrom_last :
    decodeFrom (some ⟨value, 1, low, high⟩) (UInt8.ofNat (bits + 128) :: rest) =
      some (Char.ofNat (value * 64 + bits)) :: decodeFrom none rest := by
  rw [decodeFrom]
  dsimp only
  rw [toNat_ofNat (by omega), if_pos ⟨above, below⟩, if_pos rfl, Nat.add_sub_cancel]

end

end

/-! Characters. -/

theorem decodeFrom_utf8EncodeChar (c : Char) (rest : List UInt8) :
    decodeFrom none (String.utf8EncodeChar c ++ rest) = some c :: decodeFrom none rest := by
  have valid : c.toNat < 0xd800 ∨ 0xdfff < c.toNat ∧ c.toNat < 0x110000 := c.valid
  -- The bits of all bytes are those of the character.
  have whole {n : Nat} (same : n = c.toNat) :
      some (Char.ofNat n) :: decodeFrom none rest = some c :: decodeFrom none rest := by
    rw [same, Char.ofNat_toNat]
  change decodeFrom none ((if c.toNat ≤ 127 then _ else if c.toNat ≤ 2047 then _ else
    if c.toNat ≤ 65535 then _ else _) ++ rest) = _
  split
  case isTrue one =>
    have first : start c.toNat = .inl (some (Char.ofNat c.toNat)) := if_pos (by omega)
    change decodeFrom none (UInt8.ofNat c.toNat :: rest) = _
    simp only [decodeFrom, toNat_ofNat (show c.toNat < 256 by omega), first]
    exact whole rfl
  split
  case isTrue two =>
    change decodeFrom none (UInt8.ofNat (c.toNat / 64 % 32 + 192) ::
      UInt8.ofNat (c.toNat % 64 + 128) :: rest) = _
    rw [decodeFrom_two _ (by omega) (by omega),
      decodeFrom_last _ (by omega) (by omega) (by omega)]
    exact whole (by omega)
  split
  case isTrue three =>
    change decodeFrom none (UInt8.ofNat (c.toNat / 4096 % 16 + 224) ::
      UInt8.ofNat (c.toNat / 64 % 64 + 128) :: UInt8.ofNat (c.toNat % 64 + 128) :: rest) = _
    rw [decodeFrom_three _ (by omega),
      decodeFrom_more _ (by omega) (by split <;> omega) (by split <;> omega) 0,
      decodeFrom_last _ (by omega) (by omega) (by omega)]
    exact whole (by omega)
  case isFalse four =>
    change decodeFrom none (UInt8.ofNat (c.toNat / 262144 % 8 + 240) ::
      UInt8.ofNat (c.toNat / 4096 % 64 + 128) :: UInt8.ofNat (c.toNat / 64 % 64 + 128) ::
        UInt8.ofNat (c.toNat % 64 + 128) :: rest) = _
    rw [decodeFrom_four _ (by omega),
      decodeFrom_more _ (by omega) (by split <;> omega) (by split <;> omega) 1,
      decodeFrom_more _ (by omega) (by omega) (by omega) 0,
      decodeFrom_last _ (by omega) (by omega) (by omega)]
    exact whole (by omega)

theorem decode_encode (text : List Char) : decode (encode text) = text.map some := by
  induction text with
  | nil => rfl
  | cons c rest ih =>
    rw [encode, List.flatMap_cons, decode, decodeFrom_utf8EncodeChar]
    exact congrArg (some c :: ·) ih

/-- What is decoded of the bytes of a text is the text. -/
theorem decodeLossy_encode (text : List Char) : decodeLossy (encode text) = text := by
  rw [decodeLossy, decode_encode, List.map_map]
  exact List.map_id text

end AddressRecords.Text.Utf8
