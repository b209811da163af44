import AddressRecords.Api.Script
import AddressRecords.Proofs.Calls.Apart
import AddressRecords.Proofs.Text.Utf8

/-!
The query of a request is read back as the pairs that were asked for, whatever characters are in
them. Nothing stands before them if the base URL has no query.
-/

namespace AddressRecords

open Api (Call)

namespace Url

/-! Percent encoding. -/

namespace Percent

theorem digitValue?_upperDigit :
    ∀ value < 16, Text.digitValue? (upperDigit value) = some value := by
  decide

theorem decode_encodeByte (byte : UInt8) (rest : List Char) :
    decode (encodeByte byte ++ rest) = byte :: decode rest := by
  have small := byte.toNat_lt
  have high := digitValue?_upperDigit (byte.toNat / 16) (by omega)
  have low := digitValue?_upperDigit (byte.toNat % 16) (by omega)
  have whole : UInt8.ofNat (16 * (byte.toNat / 16) + byte.toNat % 16) = byte := by
    rw [Nat.div_add_mod, UInt8.ofNat_toNat]
  rw [encodeByte, List.cons_append, List.cons_append, List.singleton_append, decode, high, low]
  dsimp only
  rw [whole]

theorem decode_flatMap_encodeByte (bytes : List UInt8) (rest : List Char) :
    decode (bytes.flatMap encodeByte ++ rest) = bytes ++ decode rest := by
  induction bytes with
  | nil => rfl
  | cons byte more ih =>
    rw [List.flatMap_cons, List.append_assoc, decode_encodeByte, ih, List.cons_append]

theorem decode_cons {c : Char} (other : c ≠ '%') (rest : List Char) :
    decode (c :: rest) = String.utf8EncodeChar c ++ decode rest := by
  rw [decode]
  rintro _ _ _ rfl
  exact absurd rfl other

end Percent

/-! Pairs. -/

namespace Form

/-- What a letter of a query stands for before percent signs are read. -/
def ofPlus (c : Char) : Char := if c = '+' then ' ' else c

theorem map_ofPlus_encodeByte (byte : UInt8) :
    (Percent.encodeByte byte).map ofPlus = Percent.encodeByte byte := by
  have digits : ∀ value < 16, ofPlus (Percent.upperDigit value) = Percent.upperDigit value := by
    decide
  have small := byte.toNat_lt
  rw [Percent.encodeByte, List.map_cons, List.map_cons, List.map_singleton,
    digits _ (by omega), digits _ (by omega)]
  rfl

theorem decode_encodeChar (c : Char) (rest : List Char) :
    Percent.decode ((encodeChar c).map ofPlus ++ rest) =
      String.utf8EncodeChar c ++ Percent.decode rest := by
  unfold encodeChar
  split
  · rename_i kept
    have plus : c ≠ '+' := by
      rintro rfl
      exact absurd kept (by decide)
    have percent : c ≠ '%' := by
      rintro rfl
      exact absurd kept (by decide)
    rw [List.map_singleton, ofPlus, if_neg plus, List.singleton_append, Percent.decode_cons percent]
  · split
    · rename_i blank
      rw [blank]
      exact Percent.decode_cons (by decide) rest
    · have unchanged : ((String.utf8EncodeChar c).flatMap Percent.encodeByte).map ofPlus =
          (String.utf8EncodeChar c).flatMap Percent.encodeByte := by
        simp only [List.map_flatMap, map_ofPlus_encodeByte]
      rw [unchanged, Percent.decode_flatMap_encodeByte]

theorem decodeText_encodeText (text : String) : decodeText (encodeText text) = text := by
  have bytes : ∀ chars : List Char, Percent.decode ((chars.flatMap encodeChar).map ofPlus) =
      Text.Utf8.encode chars := by
    intro chars
    induction chars with
    | nil => rfl
    | cons c rest ih =>
      rw [List.flatMap_cons, List.map_append, decode_encodeChar, ih]
      rfl
  change String.ofList (Text.Utf8.decodeLossy (Percent.decode
    ((text.toList.flatMap encodeChar).map ofPlus))) = text
  rw [bytes, Text.Utf8.decodeLossy_encode, String.ofList_toList]

theorem decodePair_encodePair (pair : String × String) : decodePair (encodePair pair) = pair := by
  have named : (encodePair pair).span (· ≠ '=') =
      (encodeText pair.1, '=' :: encodeText pair.2) := by
    refine Text.span_append (fun c mem => ?_) (by simp)
    have other : c ≠ '=' := fun own => not_mem_encodeText (by decide) pair.1 (own ▸ mem)
    simpa using other
  rw [decodePair, named]
  dsimp only
  rw [List.drop_one, List.tail_cons, decodeText_encodeText, decodeText_encodeText]

theorem ampersand_not_mem_encodePair (pair : String × String) : '&' ∉ encodePair pair := by
  have plain (text : String) : '&' ∉ encodeText text := not_mem_encodeText (by decide) text
  simp [encodePair, plain]

/-- Pairs are read back from the query they are written in. -/
theorem decode_encode (pairs : List (String × String)) : decode (encode pairs) = pairs := by
  by_cases none : pairs = []
  · rw [none]
    rfl
  · have written : (encode pairs).splitOn '&' = pairs.map encodePair := by
      refine List.splitOn_intercalate '&' ?_ (by simpa using none)
      intro text mem
      obtain ⟨pair, -, rfl⟩ := List.mem_map.mp mem
      exact ampersand_not_mem_encodePair pair
    have kept : (pairs.map encodePair).filter (!·.isEmpty) = pairs.map encodePair := by
      refine List.filter_eq_self.mpr fun text mem => ?_
      obtain ⟨pair, -, rfl⟩ := List.mem_map.mp mem
      simp [encodePair]
    rw [decode, written, kept, List.map_map]
    conv_rhs => rw [← List.map_id pairs]
    exact List.map_congr_left fun pair _ => decodePair_encodePair pair

end Form

/-! URLs without a query. -/

theorem mem_of_mem_clean {text : List Char} {c : Char} (mem : c ∈ clean text) : c ∈ text := by
  have trimmed := (List.mem_filter.mp mem).1
  rw [Unicode.trimBoth, List.mem_reverse] at trimmed
  have dropped := (List.dropWhile_sublist _).subset trimmed
  exact (List.dropWhile_sublist _).subset (List.mem_reverse.mp dropped)

theorem mem_of_mem_cut {sign : Char} {text : List Char} {c : Char} (mem : c ∈ (cut sign text).1) :
    c ∈ text := by
  rw [cut, List.span_eq_takeWhile_dropWhile] at mem
  exact (List.takeWhile_sublist _).subset mem

/-- Without a question mark there is no query. -/
theorem query_of_ofText? {text : String} (unasked : '?' ∉ text.toList) {url : Url}
    (read : ofText? text = some url) : url.query = none := by
  have before : cut '?' (cut '#' (clean text.toList)).1 =
      ((cut '#' (clean text.toList)).1, none) := by
    refine cut_of_forall fun c mem => ?_
    rintro rfl
    exact unasked (mem_of_mem_clean (mem_of_mem_cut mem))
  rw [ofText?] at read
  dsimp only at read
  rw [before] at read
  simp only [Option.bind_eq_bind, Option.bind_eq_some_iff] at read
  obtain ⟨_, _, _, _, same⟩ := read
  cases same
  rfl

end Url

/-- Behind a URL without a query, a request asks for nothing but the pairs of its call. -/
theorem Api.Client.pairs_of_request {client : Client} {call : Call} {request : Api.Request}
    (written : client.request call = .ok request) (unasked : '?' ∉ client.baseUrl.toList)
    (plain : '?' ∉ call.path.toList) : request.pairs = call.query := by
  obtain ⟨url, read, -, asks⟩ := exists_url_of_request written
  have none : url.query = none := by
    refine Url.query_of_ofText? ?_ read
    rw [String.toList_append, List.mem_append, not_or]
    exact ⟨unasked, plain⟩
  rw [Request.pairs, asks, Url.appendPairs]
  split
  · rename_i empty
    rw [none, List.isEmpty_iff.mp empty]
    rfl
  · rw [none]
    exact Url.Form.decode_encode call.query

end AddressRecords
