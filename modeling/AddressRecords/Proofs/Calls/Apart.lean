import AddressRecords.Proofs.Calls.Pages
import AddressRecords.Proofs.Domain.Suffixes
import AddressRecords.Proofs.Remote.Request

/-!
Calls that become different requests, whatever the base URL: by their methods, by their queries
behind the same path, or by how their queries end.
-/

namespace AddressRecords

open Api (Call Client)

/-! Queries. -/

namespace Url.Form

theorem some_encodeChar (c : Char) : encodeChar c ≠ [] := by
  rcases encodeChar_cases c with ⟨-, itself⟩ | ⟨mark, -, begins⟩
  · simp [itself]
  · intro empty
    rw [empty] at begins
    cases begins

/-- Texts are written with the letters that are kept and with two marks for all others. -/
theorem keeps_of_mem_encodeText {text : String} {c : Char} (mem : c ∈ encodeText text) :
    keeps c ∨ c = '+' ∨ c = '%' := by
  have digits : ∀ value < 16, keeps (Percent.upperDigit value) := by decide
  obtain ⟨letter, -, within⟩ := List.mem_flatMap.mp mem
  unfold encodeChar at within
  split at within
  · rename_i kept
    rw [List.mem_singleton.mp within]
    exact .inl kept
  · split at within
    · exact .inr (.inl (List.mem_singleton.mp within))
    · obtain ⟨byte, -, written⟩ := List.mem_flatMap.mp within
      have small := byte.toNat_lt
      simp only [Percent.encodeByte, List.mem_cons, List.not_mem_nil, or_false] at written
      rcases written with rfl | rfl | rfl
      · exact .inr (.inr rfl)
      · exact .inl (digits _ (by omega))
      · exact .inl (digits _ (by omega))

theorem not_mem_encodeText {sign : Char} (apart : ¬ (keeps sign ∨ sign = '+' ∨ sign = '%'))
    (text : String) : sign ∉ encodeText text :=
  fun mem => apart (keeps_of_mem_encodeText mem)

/-- An ampersand ends a value. -/
theorem encodeText_eq_of_append {text other : String} {after rest : List Char}
    (same : encodeText text ++ '&' :: after = encodeText other ++ '&' :: rest) :
    encodeText text = encodeText other ∧ after = rest := by
  have spans (text : String) (after : List Char) :
      (encodeText text ++ '&' :: after).span (· ≠ '&') = (encodeText text, '&' :: after) := by
    refine Text.span_append (fun c mem => ?_) (by simp)
    have plain : c ≠ '&' := fun own => not_mem_encodeText (by decide) text (own ▸ mem)
    simpa using plain
  have split := (spans text after).symm.trans (same ▸ spans other rest)
  obtain ⟨values, behind⟩ := Prod.mk.inj split
  exact ⟨values, (List.cons.inj behind).2⟩

theorem encode_cons_cons (pair next : String × String) (more : List (String × String)) :
    encode (pair :: next :: more) = encodePair pair ++ '&' :: encode (next :: more) := by
  simp [encode, List.intercalate_cons_cons]

theorem encode_singleton (pair : String × String) : encode [pair] = encodePair pair := by
  simp [encode]

/-- A query ends as the value of its last pair. -/
theorem getLast?_encode (before : List (String × String)) (name value : String) {last : Char}
    (ends : (encodeText value).getLast? = some last) :
    (encode (before ++ [(name, value)])).getLast? = some last := by
  induction before with
  | nil =>
    rw [List.nil_append, encode_singleton, encodePair, List.getLast?_append, List.getLast?_cons,
      ends]
    rfl
  | cons pair rest ih =>
    obtain ⟨next, more, shape⟩ := List.exists_cons_of_ne_nil
      (List.append_ne_nil_of_right_ne_nil rest (List.cons_ne_nil (name, value) []))
    rw [List.cons_append, shape, encode_cons_cons, ← shape, List.getLast?_append,
      List.getLast?_cons, ih]
    rfl

end Url.Form

/-! Calls. -/

/-- What makes two calls different requests. -/
inductive Api.Call.Apart (call other : Call) : Prop
  | method (different : call.method ≠ other.method) : Apart call other
  | query (samePath : call.path = other.path) (some_query : call.query ≠ [])
      (some_other : other.query ≠ [])
      (different : Url.Form.encode call.query ≠ Url.Form.encode other.query) : Apart call other
  | ending {last final : Char} (ends : (Url.Form.encode call.query).getLast? = some last)
      (otherEnds : (Url.Form.encode other.query).getLast? = some final) (different : last ≠ final) :
      Apart call other

/-- A request is at the URL of its path, with its query behind. -/
theorem Api.Client.exists_url_of_request {client : Client} {call : Call} {request : Api.Request}
    (written : client.request call = .ok request) :
    ∃ url, Url.ofText? (client.baseUrl ++ call.path) = some url ∧
      request.method = call.method ∧ request.url = url.appendPairs call.query := by
  unfold Client.request at written
  split at written
  · cases written
  · rename_i url read
    dsimp only at written
    repeat' split at written
    all_goals cases written
    exact ⟨url, read, rfl, rfl⟩

/-- A query stands behind what the URL had of one. -/
theorem Url.exists_query_appendPairs (url : Url) : ∃ held, ∀ pairs, pairs ≠ [] →
    (url.appendPairs pairs).query = some (held ++ Form.encode pairs) := by
  refine ⟨?held, fun pairs some_pairs => ?asked⟩
  -- What is held before the pairs does not depend on them: it is read off the definition.
  case asked =>
    have asks : pairs.isEmpty = false := by simpa using some_pairs
    rw [appendPairs, asks]
    rfl

namespace Api.Call.Apart

variable {call other : Call}

theorem ne (h : Apart call other) : call ≠ other := by
  rintro rfl
  cases h with
  | method different | query _ _ _ different => exact different rfl
  | ending ends otherEnds different =>
    rw [ends] at otherEnds
    exact different (Option.some.inj otherEnds)

theorem request_ne (h : Apart call other) {client : Client} {request : Api.Request}
    (written : client.request call = .ok request) : client.request other ≠ .ok request := by
  intro same
  obtain ⟨url, read, method, asked⟩ := Client.exists_url_of_request written
  obtain ⟨place, found, way, asks⟩ := Client.exists_url_of_request same
  cases h with
  | method different => exact different (method.symm.trans way)
  | query samePath some_query some_other different =>
    rw [samePath, found] at read
    cases read
    obtain ⟨held, behind⟩ := Url.exists_query_appendPairs url
    have queries := congrArg Url.query (asked.symm.trans asks)
    rw [behind _ some_query, behind _ some_other] at queries
    exact different (List.append_cancel_left (Option.some.inj queries))
  | ending ends otherEnds different =>
    have ending_of (url : Url) {pairs : List (String × String)} {last : Char}
        (ends : (Url.Form.encode pairs).getLast? = some last) :
        (url.appendPairs pairs).query.bind List.getLast? = some last := by
      have some_pairs : pairs ≠ [] := by
        rintro rfl
        cases ends
      obtain ⟨held, behind⟩ := Url.exists_query_appendPairs url
      rw [behind _ some_pairs, Option.bind_some, List.getLast?_append, ends]
      rfl
    have one := ending_of url ends
    rw [← asked, asks, ending_of place otherEnds] at one
    exact different (Option.some.inj one).symm

end Api.Call.Apart

/-! Pages. -/

section

variable {page next : UInt32}

theorem isDigit_of_mem_page (page : UInt32) : ∀ c ∈ Nat.toDigits 10 page.toNat, c.isDigit :=
  fun _ mem => Nat.isDigit_of_mem_toDigits (by decide) (by decide) mem

/-- Page numbers are written as their digits. -/
theorem encodeText_page (page : UInt32) :
    Url.Form.encodeText (toString page) = Nat.toDigits 10 page.toNat := by
  have written : (toString page).toList = Nat.toDigits 10 page.toNat := Nat.toList_repr
  rw [Url.Form.encodeText_of_kept, written]
  rw [written, List.all_eq_true]
  intro c mem
  simp [Url.Form.keeps, Char.isAlphanum, isDigit_of_mem_page page c mem]

theorem page_injective (same : Url.Form.encodeText (toString page) =
    Url.Form.encodeText (toString next)) : page = next := by
  rw [encodeText_page, encodeText_page] at same
  have numbers := congrArg (Text.numberOf 10) same
  rw [Text.numberOf_toDigits (by decide) (by decide), Text.numberOf_toDigits (by decide) (by decide)]
    at numbers
  exact UInt32.toNat_inj.mp numbers

end

namespace Command

variable (client : Client)

/-- Requests for zones end with a digit. -/
theorem zones_ends (name : String) (page : UInt32) : ∃ last : Char, last.isDigit ∧
    (Url.Form.encode ((zones name page).call client).query).getLast? = some last := by
  rw [call, Client.zoneQuery]
  split
  · have some_digits : Nat.toDigits 10 page.toNat ≠ [] := Nat.toDigits_ne_nil
    refine ⟨_, isDigit_of_mem_page page _ (List.getLast_mem some_digits), ?_⟩
    refine Url.Form.getLast?_encode _ _ _ ?_
    rw [encodeText_page, List.getLast?_eq_some_getLast some_digits]
  · rw [List.append_nil, List.append_cons]
    exact ⟨'0', by decide, Url.Form.getLast?_encode _ _ _ (by decide)⟩

/-- Requests for records end with a letter. -/
theorem records_ends (zone name : String) (family : Family) (page : UInt32) :
    (Url.Form.encode ((records zone name family.recordType page).call client).query).getLast? =
      some 'A' := by
  refine Url.Form.getLast?_encode [("name", name), ("page", toString page)] "type"
    family.recordType ?_
  cases family <;> decide

/-- The query of a request for zones tells the name and the page, but for the first one. -/
theorem eq_of_zones_query {name other : String} {page next : UInt32}
    (same : Url.Form.encode ((zones name page).call client).query =
      Url.Form.encode ((zones other next).call client).query) :
    Url.Form.encodeText name = Url.Form.encodeText other ∧
      (page = next ∨ ¬ 1 < page ∧ ¬ 1 < next) := by
  have named : Url.Form.encode (("name", name) :: ("per_page", toString Client.zonesPerPage) ::
        if 1 < page then [("page", toString page)] else []) =
      Url.Form.encode (("name", other) :: ("per_page", toString Client.zonesPerPage) ::
        if 1 < next then [("page", toString next)] else []) := by
    rw [call, call, Client.zoneQuery, Client.zoneQuery] at same
    cases known : client.accountId with
    | none =>
      rw [known] at same
      exact same
    | some account =>
      rw [known] at same
      simp only [Option.map_some, Option.toList_some, List.cons_append, List.nil_append,
        Url.Form.encode_cons_cons _ ("name", _)] at same
      exact (List.cons.inj (List.append_cancel_left same)).2
  have first (name : String) (others : List (String × String)) :
      Url.Form.encode (("name", name) :: ("per_page", toString Client.zonesPerPage) :: others) =
        Url.Form.encodeText "name" ++ '=' :: (Url.Form.encodeText name ++
          '&' :: Url.Form.encode (("per_page", toString Client.zonesPerPage) :: others)) := by
    rw [Url.Form.encode_cons_cons, Url.Form.encodePair, List.append_assoc, List.cons_append]
  rw [first, first] at named
  obtain ⟨names, behind⟩ := Url.Form.encodeText_eq_of_append
    (List.cons.inj (List.append_cancel_left named)).2
  refine ⟨names, ?_⟩
  by_cases numbered : 1 < page <;> by_cases counted : 1 < next
  · simp only [if_pos numbered, if_pos counted, Url.Form.encode_cons_cons,
      Url.Form.encode_singleton, Url.Form.encodePair] at behind
    have digits := (List.cons.inj (List.append_cancel_left
      (List.cons.inj (List.append_cancel_left behind)).2)).2
    exact .inl (page_injective digits)
  · simp [numbered, counted, Url.Form.encode_cons_cons, Url.Form.encode_singleton] at behind
  · simp [numbered, counted, Url.Form.encode_cons_cons, Url.Form.encode_singleton] at behind
  · exact .inr ⟨numbered, counted⟩

/-- The calls of the commands become different requests. -/
def Apart (command other : Command) : Prop := (command.call client).Apart (other.call client)

theorem zones_apart_of_name {name other : String} (page next : UInt32)
    (names : Url.Form.encodeText name ≠ Url.Form.encodeText other) :
    (zones name page).Apart client (zones other next) := by
  refine .query rfl (by simp [call, Client.zoneQuery]) (by simp [call, Client.zoneQuery]) ?_
  intro same
  exact names (eq_of_zones_query client same).1

theorem zones_apart_of_page (name : String) {page next : UInt32} (numbered : 1 ≤ page)
    (later : page < next) : (zones name page).Apart client (zones name next) := by
  refine .query rfl (by simp [call, Client.zoneQuery]) (by simp [call, Client.zoneQuery]) ?_
  intro same
  rcases (eq_of_zones_query client same).2 with rfl | ⟨-, unnumbered⟩
  · exact UInt32.lt_irrefl page later
  · exact unnumbered (UInt32.lt_of_le_of_lt numbered later)

theorem records_apart_of_page (zone name recordType : String) {page next : UInt32}
    (later : page < next) :
    (records zone name recordType page).Apart client (records zone name recordType next) := by
  refine .query rfl (List.cons_ne_nil _ _) (List.cons_ne_nil _ _) ?_
  intro same
  have digits : Url.Form.encodeText (toString page) = Url.Form.encodeText (toString next) := by
    rw [call, call, Client.recordQuery, Client.recordQuery, Url.Form.encode_cons_cons,
      Url.Form.encode_cons_cons] at same
    have behind := (List.cons.inj (List.append_cancel_left same)).2
    simp only [Url.Form.encodePair, List.append_assoc, List.cons_append] at behind
    exact (Url.Form.encodeText_eq_of_append (List.cons.inj (List.append_cancel_left behind)).2).1
  obtain rfl := page_injective digits
  exact UInt32.lt_irrefl page later

/-- Requests for zones end in a digit, those for records in a letter. -/
theorem zones_apart_records (name place wireName : String) (family : Family)
    (page next : UInt32) :
    (zones name page).Apart client (records place wireName family.recordType next) := by
  obtain ⟨last, digit, ends⟩ := zones_ends client name page
  refine .ending ends (records_ends client place wireName family next) ?_
  rintro rfl
  exact absurd digit (by decide)

/-- Pages that are told apart by their numbers are told apart in a list of them. -/
theorem pairwise_pages {apart : Command → Command → Prop} {command : UInt32 → Command}
    (h : ∀ page next, 1 ≤ page → page < next → apart (command page) (command next)) {count : Nat}
    (bounded : count < UInt32.size) : (pages command count).Pairwise apart := by
  refine List.pairwise_map.mpr (List.Pairwise.imp_of_mem ?_ List.pairwise_lt_range')
  intro page next mem later before
  have inside (n : Nat) (mem : n ∈ List.range' 1 count) :
      1 ≤ n ∧ (UInt32.ofNat n).toNat = n := by
    have within := List.mem_range'_1.mp mem
    exact ⟨within.1, UInt32.toNat_ofNat_of_lt' (by omega)⟩
  refine h _ _ ?_ ?_
  · rw [UInt32.le_iff_toNat_le, (inside page mem).2]
    exact (inside page mem).1
  · rw [UInt32.lt_iff_toNat_lt, (inside page mem).2, (inside next later).2]
    exact before

end Command

/-- The names a domain's zone may have are written differently in queries. -/
theorem Domain.pairwise_zoneCandidates (domain : Domain) :
    domain.zoneCandidates.Pairwise fun name other =>
      Url.Form.encodeText name ≠ Url.Form.encodeText other := by
  rw [zoneCandidates_eq]
  refine (namesOfTails_extend domain.name.labels).imp fun ⟨front, some_front, longer⟩ same => ?_
  obtain ⟨c, rest, rfl⟩ := List.exists_cons_of_ne_nil some_front
  rw [Url.Form.encodeText, longer, List.flatMap_append, List.flatMap_cons] at same
  have empty := List.append_left_eq_self.mp same
  exact Url.Form.some_encodeChar c (List.append_eq_nil_iff.mp empty).1

end AddressRecords
