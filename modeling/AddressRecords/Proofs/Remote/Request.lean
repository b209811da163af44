import AddressRecords.Proofs.Remote.Faithful
import AddressRecords.Proofs.Url.Plain

/-!
The requests that commands become. Identifiers stand in their paths as they are, and a text that
needs no escapes is written like no other one.
-/

namespace AddressRecords

open Api (Call Client NewRecord RecordPatch Request)

/-! Escapes. -/

section

variable {escape : Char → List Char} {marks : List Char} {stop : Char}

/-- Where every letter stands for itself or is escaped behind a mark, a text without marks is told
apart from all others by the letter that ends it. -/
theorem eq_of_flatMap_append
    (either : ∀ d, (escape d = [d] ∧ d ≠ stop) ∨ ∃ mark ∈ marks, (escape d).head? = some mark)
    (ends : stop ∉ marks) {plain : List Char} (plainly : ∀ c ∈ plain, c ≠ stop ∧ c ∉ marks)
    {text after rest : List Char}
    (same : text.flatMap escape ++ stop :: after = plain ++ stop :: rest) :
    text = plain ∧ after = rest := by
  induction text generalizing plain with
  | nil =>
    cases plain with
    | nil => exact ⟨rfl, (List.cons.inj same).2⟩
    | cons c more => exact absurd (List.cons.inj same).1.symm (plainly c List.mem_cons_self).1
  | cons d others ih =>
    rw [List.flatMap_cons, List.append_assoc] at same
    rcases either d with ⟨itself, goesOn⟩ | ⟨mark, isMark, begins⟩
    · rw [itself, List.singleton_append] at same
      cases plain with
      | nil => exact absurd (List.cons.inj same).1 goesOn
      | cons c more =>
        obtain ⟨rfl, behind⟩ := List.cons.inj same
        obtain ⟨rfl, rfl⟩ := ih (fun c mem => plainly c (List.mem_cons_of_mem d mem)) behind
        exact ⟨rfl, rfl⟩
    · obtain ⟨tail, split⟩ := List.head?_eq_some_iff.mp begins
      rw [split, List.cons_append] at same
      cases plain with
      | nil => exact absurd ((List.cons.inj same).1 ▸ isMark) ends
      | cons c more =>
        exact absurd ((List.cons.inj same).1 ▸ isMark) (plainly c List.mem_cons_self).2

end

namespace Url.Form

theorem encodeChar_cases (d : Char) :
    (keeps d ∧ encodeChar d = [d]) ∨ ∃ mark ∈ ['+', '%'], (encodeChar d).head? = some mark := by
  rw [encodeChar]
  split
  · exact .inl ⟨‹_›, rfl⟩
  · split
    · exact .inr ⟨'+', by decide, rfl⟩
    · have long : 0 < (String.utf8EncodeChar d).length := by
        rw [String.length_utf8EncodeChar]
        exact d.utf8Size_pos
      obtain ⟨byte, rest, bytes⟩ := List.exists_cons_of_length_pos long
      rw [bytes]
      exact .inr ⟨'%', by decide, rfl⟩

theorem encodeText_of_kept {text : String} (kept : text.toList.all keeps) :
    encodeText text = text.toList := by
  have singles : text.toList.flatMap encodeChar = text.toList.flatMap ([·]) := by
    rw [List.flatMap_def, List.flatMap_def]
    congr 1
    refine List.map_congr_left fun c mem => ?_
    rw [encodeChar, if_pos (List.all_eq_true.mp kept c mem)]
  rw [encodeText, singles, List.flatMap_singleton']

/-- Behind a value stands the sign that ends it. -/
theorem eq_of_encodeText_append {text plain : String} (kept : plain.toList.all keeps)
    {after rest : List Char}
    (same : encodeText text ++ '&' :: after = encodeText plain ++ '&' :: rest) :
    text = plain ∧ after = rest := by
  rw [encodeText_of_kept kept] at same
  have either : ∀ d, (encodeChar d = [d] ∧ d ≠ '&') ∨
      ∃ mark ∈ ['+', '%'], (encodeChar d).head? = some mark := by
    intro d
    rcases encodeChar_cases d with ⟨keep, itself⟩ | marked
    · refine .inl ⟨itself, ?_⟩
      rintro rfl
      exact absurd keep (by decide)
    · exact .inr marked
  have plainly : ∀ c ∈ plain.toList, c ≠ '&' ∧ c ∉ ['+', '%'] := by
    intro c mem
    have keep : keeps c := List.all_eq_true.mp kept c mem
    refine ⟨?_, fun marked => ?_⟩
    · rintro rfl
      exact absurd keep (by decide)
    · have unkept : ['+', '%'].all (!keeps ·) := by decide
      have lost := List.all_eq_true.mp unkept c marked
      rw [keep] at lost
      cases lost
  obtain ⟨chars, behind⟩ := eq_of_flatMap_append either (by decide) plainly same
  exact ⟨String.toList_injective chars, behind⟩

/-- Of two queries that start with the same name, the values are told apart. -/
theorem eq_of_encode_cons {name text plain : String} (kept : plain.toList.all keeps)
    {more others : List (String × String)} (some_more : more ≠ []) (some_others : others ≠ [])
    (same : encode ((name, text) :: more) = encode ((name, plain) :: others)) :
    text = plain ∧ encode more = encode others := by
  obtain ⟨next, rest, rfl⟩ := List.exists_cons_of_ne_nil some_more
  obtain ⟨other, tail, rfl⟩ := List.exists_cons_of_ne_nil some_others
  simp only [encode, List.map_cons, List.intercalate_cons_cons, encodePair, List.append_assoc,
    List.cons_append, List.nil_append] at same
  have values := (List.cons.inj (List.append_cancel_left same)).2
  exact eq_of_encodeText_append kept values

theorem eq_of_encode_singleton {name text plain : String} (kept : plain.toList.all keeps)
    (same : encode [(name, text)] = encode [(name, plain)]) : text = plain := by
  simp only [encode, List.map_cons, List.map_nil, List.intercalate_singleton, encodePair] at same
  have values := (List.cons.inj (List.append_cancel_left same)).2
  exact (eq_of_encodeText_append kept (congrArg (· ++ ['&']) values)).1

end Url.Form

namespace Json

theorem escape_cases (d : Char) :
    (escape d = [d] ∧ d ≠ '"') ∨ ∃ mark ∈ ['\\'], (escape d).head? = some mark := by
  unfold escape
  split
  · exact .inr ⟨'\\', by decide, rfl⟩
  · rename_i other
    repeat' split
    all_goals first
      | exact .inr ⟨'\\', by decide, rfl⟩
      | exact .inl ⟨rfl, other⟩

/-- Whether a text stands between quotes as it is. -/
def isUnescaped (text : String) : Bool := text.toList.all fun c => escape c = [c]

theorem eq_of_stringChars_append {text plain : String} (unescaped : isUnescaped plain)
    {after rest : List Char} (same : stringChars text ++ after = stringChars plain ++ rest) :
    text = plain ∧ after = rest := by
  have itself : ∀ c ∈ plain.toList, escape c = [c] := by
    intro c mem
    exact of_decide_eq_true (List.all_eq_true.mp unescaped c mem)
  have singles : plain.toList.flatMap escape = plain.toList.flatMap ([·]) := by
    rw [List.flatMap_def, List.flatMap_def, List.map_congr_left itself]
  have plainly : ∀ c ∈ plain.toList, c ≠ '"' ∧ c ∉ ['\\'] := by
    intro c mem
    constructor
    · rintro rfl
      exact absurd (itself _ mem) (by decide)
    · intro mark
      rw [List.mem_singleton.mp mark] at mem
      exact absurd (itself _ mem) (by decide)
  rw [stringChars, stringChars, singles, List.flatMap_singleton', List.cons_append,
    List.cons_append, List.cons_append, List.cons_append, List.append_assoc, List.append_assoc]
    at same
  obtain ⟨chars, behind⟩ :=
    eq_of_flatMap_append escape_cases (by decide) plainly (List.cons.inj same).2
  exact ⟨String.toList_injective chars, behind⟩

theorem eq_of_memberChars {key : String} {text plain : String} (unescaped : isUnescaped plain)
    {more others : List (String × Value)} (some_more : more ≠ []) (some_others : others ≠ [])
    {after rest : List Char}
    (same : memberChars ((key, .string text) :: more) ++ after =
      memberChars ((key, .string plain) :: others) ++ rest) :
    text = plain ∧ memberChars more ++ after = memberChars others ++ rest := by
  rw [memberChars, memberChars, Value.chars, Value.chars] at same
  · simp only [List.append_assoc, List.cons_append] at same
    have behind := List.append_cancel_left same
    obtain ⟨rfl, following⟩ := eq_of_stringChars_append unescaped (List.cons.inj behind).2
    exact ⟨rfl, (List.cons.inj following).2⟩
  · exact some_others
  · exact some_more

end Json

theorem memberChars_of_object {members others : List (String × Json.Value)}
    (same : toString (Json.Value.object members) = toString (Json.Value.object others)) :
    Json.memberChars members ++ [Char.ofNat 0x7d] =
      Json.memberChars others ++ [Char.ofNat 0x7d] := by
  have chars := String.ofList_injective same
  rw [Json.Value.chars, Json.Value.chars] at chars
  exact (List.cons.inj chars).2

theorem Api.NewRecord.eq_of_toJson {record plain : NewRecord} (name : Json.isUnescaped plain.name)
    (recordType : Json.isUnescaped plain.recordType) (content : Json.isUnescaped plain.content)
    (same : toString record.toJson = toString plain.toJson) :
    record.name = plain.name ∧ record.recordType = plain.recordType ∧
      record.content = plain.content := by
  have chars := memberChars_of_object same
  obtain ⟨names, behind⟩ := Json.eq_of_memberChars name (by simp) (by simp) chars
  obtain ⟨types, behind⟩ := Json.eq_of_memberChars recordType (by simp) (by simp) behind
  obtain ⟨contents, _⟩ := Json.eq_of_memberChars content (by simp) (by simp) behind
  exact ⟨names, types, contents⟩

theorem Api.RecordPatch.eq_of_toJson {patch plain : RecordPatch}
    (name : Json.isUnescaped plain.name) (recordType : Json.isUnescaped plain.recordType)
    (content : Json.isUnescaped plain.content)
    (same : toString patch.toJson = toString plain.toJson) : patch = plain := by
  have chars := memberChars_of_object same
  obtain ⟨names, behind⟩ := Json.eq_of_memberChars name (by simp) (by simp) chars
  obtain ⟨types, behind⟩ := Json.eq_of_memberChars recordType (by simp) (by simp) behind
  rw [Json.memberChars, Json.memberChars, List.append_assoc, List.append_assoc] at behind
  obtain ⟨contents, _⟩ := Json.eq_of_stringChars_append content
    (List.cons.inj (List.append_cancel_left behind)).2
  cases patch
  cases plain
  cases names
  cases types
  cases contents
  rfl

/-! Addresses. -/

/-- A client of an API at the root of a host, under a name that stands for itself. -/
structure Api.Client.AtHost (client : Client) (host : List Char) : Prop where
  baseUrl : client.baseUrl = String.ofList ("https://".toList ++ host)
  plain : ∀ c ∈ host, Url.isPlainInHost c
  some_host : host ≠ []
  read : Url.Host.ofSpecial host = some (.name host)
  sendable : (Url.Host.name host).isSendable
  header : Client.isHeaderValue client.authorization

namespace Command

/-- Where the records of a zone are. -/
def recordsPath (zone : String) : List (List Char) :=
  ["zones".toList, zone.toList, "dns_records".toList]

def recordPath (zone id : String) : List (List Char) := recordsPath zone ++ [id.toList]

/-- The segments of the path. -/
def segments : Command → List (List Char)
  | zones _ _ => ["zones".toList]
  | records zone _ _ _ | create zone _ => recordsPath zone
  | update zone id _ | delete zone id => recordPath zone id

/-- Whether the path is made of identifiers. -/
def IsAddressed : Command → Prop
  | zones _ _ => True
  | records zone _ _ _ | create zone _ => IsId zone
  | update zone id _ | delete zone id => IsId zone ∧ IsId id

/-- The request that the command becomes at a host. -/
def request (client : Client) (host : List Char) (command : Command) : Request :=
  let call := command.call client
  let url : Url := ⟨"https".toList, some (.name host), none, .segments command.segments, none, none⟩
  ⟨call.method, url.appendPairs call.query, client.authorization, call.body⟩

theorem path_call (client : Client) (command : Command) :
    (command.call client).path = String.ofList (command.segments.flatMap ('/' :: ·)) := by
  apply String.toList_injective
  cases command <;> simp [call, segments, recordPath, recordsPath, toString]

theorem some_segments (command : Command) : command.segments ≠ [] := by
  cases command <;> simp [segments, recordPath, recordsPath]

/-! Identifiers are read as they are written. -/

section

variable {zone place id other : String}

theorem plain_of_isId (valid : IsId id) : ∀ c ∈ id.toList, Url.isPlainInPath c := by
  intro c mem
  exact Url.isPlainInPath_of_isAlphanum (List.all_eq_true.mp valid.2 c mem)

theorem plain_recordsPath (valid : IsId zone) :
    ∀ segment ∈ recordsPath zone, ∀ c ∈ segment, Url.isPlainInPath c := by
  have zones := List.all_eq_true.mp (show "zones".toList.all Url.isPlainInPath by decide)
  have records := List.all_eq_true.mp (show "dns_records".toList.all Url.isPlainInPath by decide)
  exact List.forall_mem_cons.mpr ⟨zones, List.forall_mem_cons.mpr
    ⟨plain_of_isId valid, List.forall_mem_singleton.mpr records⟩⟩

theorem plain_recordPath (valid : IsId zone) (named : IsId id) :
    ∀ segment ∈ recordPath zone id, ∀ c ∈ segment, Url.isPlainInPath c := by
  intro segment mem
  rcases List.mem_append.mp mem with inside | last
  · exact plain_recordsPath valid segment inside
  · rw [List.mem_singleton.mp last]
    exact plain_of_isId named

theorem recordsPath_injective (same : recordsPath zone = recordsPath place) : zone = place :=
  String.toList_injective (List.cons.inj (List.cons.inj same).2).1

theorem recordPath_injective (same : recordPath zone id = recordPath place other) :
    zone = place ∧ id = other := by
  obtain ⟨zones, ids⟩ := List.append_inj' same rfl
  exact ⟨recordsPath_injective zones, String.toList_injective (List.cons.inj ids).1⟩

end

theorem plain_of_isAddressed {command : Command} (addressed : command.IsAddressed) :
    ∀ segment ∈ command.segments, ∀ c ∈ segment, Url.isPlainInPath c := by
  cases command with
  | zones name page =>
    have zones := List.all_eq_true.mp (show "zones".toList.all Url.isPlainInPath by decide)
    exact List.forall_mem_singleton.mpr zones
  | records zone name recordType page => exact plain_recordsPath addressed
  | create zone record => exact plain_recordsPath addressed
  | update zone id patch => exact plain_recordPath addressed.1 addressed.2
  | delete zone id => exact plain_recordPath addressed.1 addressed.2

/-! Commands are told apart. -/

variable {client : Client} {host : List Char}

theorem path_request (command : Command) :
    (command.request client host).url.path = .segments command.segments := by
  dsimp only [request]
  unfold Url.appendPairs
  split <;> rfl

theorem query_request {command : Command} {pairs : List (String × String)}
    (asked : (command.call client).query = pairs) (some_pairs : pairs ≠ []) :
    (command.request client host).url.query = some (Url.Form.encode pairs) := by
  have asks : pairs.isEmpty = false := by simpa using some_pairs
  dsimp only [request]
  rw [asked, Url.appendPairs, asks]
  rfl

theorem segments_eq {command other : Command}
    (same : (command.request client host).url = (other.request client host).url) :
    command.segments = other.segments := by
  have paths := congrArg Url.path same
  rw [path_request, path_request] at paths
  exact Url.Path.segments.inj paths

theorem query_eq {command other : Command} {pairs others : List (String × String)}
    (same : (command.request client host).url = (other.request client host).url)
    (asked : (command.call client).query = pairs) (some_pairs : pairs ≠ [])
    (asks : (other.call client).query = others) (some_others : others ≠ []) :
    Url.Form.encode pairs = Url.Form.encode others := by
  have queries := congrArg Url.query same
  rw [query_request asked some_pairs, query_request asks some_others] at queries
  exact Option.some.inj queries

theorem eq_of_zones_request (anyone : client.accountId = none) {name plain : String}
    (kept : plain.toList.all Url.Form.keeps) {page : UInt32}
    (same : ((zones name page).request client host).url =
      ((zones plain page).request client host).url) : name = plain := by
  have asks : ∀ name, ((zones name page).call client).query = ("name", name) ::
      ("per_page", toString Client.zonesPerPage) ::
        if 1 < page then [("page", toString page)] else [] := by
    intro name
    rw [call, Client.zoneQuery, anyone]
    rfl
  have queries := query_eq same (asks name) (by simp) (asks plain) (by simp)
  exact (Url.Form.eq_of_encode_cons kept (by simp) (by simp) queries).1

theorem eq_of_records_request {zone place name plain recordType kind : String} {page : UInt32}
    (numbered : (toString page).toList.all Url.Form.keeps) (kept : plain.toList.all Url.Form.keeps)
    (keeps : kind.toList.all Url.Form.keeps)
    (same : ((records zone name recordType page).request client host).url =
      ((records place plain kind page).request client host).url) :
    zone = place ∧ name = plain ∧ recordType = kind := by
  have asks : ∀ zone name recordType, ((records zone name recordType page).call client).query =
      [("name", name), ("page", toString page), ("type", recordType)] := fun _ _ _ => rfl
  have queries := query_eq same (asks ..) (by simp) (asks ..) (by simp)
  obtain ⟨names, behind⟩ := Url.Form.eq_of_encode_cons kept (by simp) (by simp) queries
  obtain ⟨_, behind⟩ := Url.Form.eq_of_encode_cons numbered (by simp) (by simp) behind
  exact ⟨recordsPath_injective (segments_eq same), names,
    Url.Form.eq_of_encode_singleton keeps behind⟩

theorem eq_of_create_request {zone place : String} {record plain : NewRecord}
    (same : (create zone record).request client host = (create place plain).request client host) :
    zone = place ∧ toString record.toJson = toString plain.toJson := by
  have zones := recordsPath_injective (segments_eq (congrArg Request.url same))
  exact ⟨zones, Option.some.inj (congrArg Request.body same)⟩

theorem eq_of_update_request {zone place id other : String} {patch plain : RecordPatch}
    (same : (update zone id patch).request client host =
      (update place other plain).request client host) :
    zone = place ∧ id = other ∧ toString patch.toJson = toString plain.toJson := by
  obtain ⟨zones, ids⟩ := recordPath_injective (segments_eq (congrArg Request.url same))
  exact ⟨zones, ids, Option.some.inj (congrArg Request.body same)⟩

theorem eq_of_delete_request {zone place id other : String}
    (same : (delete zone id).request client host = (delete place other).request client host) :
    zone = place ∧ id = other :=
  recordPath_injective (segments_eq (congrArg Request.url same))

end Command

theorem Api.Client.AtHost.request_call {client : Client} {host : List Char}
    (h : client.AtHost host) {command : Command} (addressed : command.IsAddressed) :
    client.request (command.call client) = .ok (command.request client host) := by
  have read := Url.ofText?_of_plain (Command.plain_of_isAddressed addressed) h.plain h.some_host
    h.read command.some_segments
  rw [String.ofList_append, ← h.baseUrl, ← command.path_call client] at read
  have hosted : Client.hasHost ⟨"https".toList, some (.name host), none,
      .segments command.segments, none, none⟩ := by
    simp [Client.hasHost, Url.Host.chars, h.some_host]
  have sendable : ∀ pairs, Client.isSendable (Url.appendPairs ⟨"https".toList, some (.name host),
      none, .segments command.segments, none, none⟩ pairs) := by
    intro pairs
    unfold Url.appendPairs
    split <;> exact h.sendable
  rw [Client.request, read]
  simp only [hosted, sendable, h.header, Command.request, Bool.not_true, Bool.false_eq_true,
    if_false]

end AddressRecords
