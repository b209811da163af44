import AddressRecords.Proofs.Calls.Parameters
import AddressRecords.Proofs.Url.Literal

/-!
Where the changes to a record are sent. The identifiers of the zone and of the record are put into
a path as they are, so that the request is for that record if both are read there as they are
written, and only then.
-/

namespace AddressRecords

open Api (Call Client Request Service)
open Url (EndsVisibly IsLiteral)

/-- The command changes this record of this zone. -/
inductive Command.Changes (zone id : String) : Command → Prop
  | update (patch : Api.RecordPatch) : Changes zone id (.update zone id patch)
  | delete : Changes zone id (.delete zone id)

namespace Api

/-- What the segments of the path to the records of a zone stand for. -/
def recordsParts (zone : String) : List (List Char) :=
  ["zones".toList, zone.toList, "dns_records".toList]

/-- What the segments of a record's path stand for. -/
def recordParts (zone id : String) : List (List Char) := recordsParts zone ++ [id.toList]

/-- The request is for this record and for nothing else: it has no query, and behind the base path
it has one segment for each part. -/
structure Request.IsFor (request : Request) (dir : List (List Char)) (zone id : String) : Prop where
  unasked : request.url.query = none
  located : ∃ segments, request.url.path = .segments (dir ++ segments) ∧
    segments.map Url.Percent.decode = (recordParts zone id).map Text.Utf8.encode

namespace Client

variable {client : Client} {zone id : String} {command : Command}

theorem recordPath_eq (zone id : String) : client.baseUrl ++ recordPath zone id =
    client.baseUrl ++ "/" ++ String.ofList (Url.joined (recordParts zone id)) := by
  rw [← String.toList_inj]
  simp [recordPath, recordParts, recordsParts, Url.joined, toString]

/-- The fixed parts are literal. -/
theorem isLiteral_recordParts_iff (zone id : String) :
    (∀ part ∈ recordParts zone id, IsLiteral part) ∧ EndsVisibly id.toList ↔
      IsLiteral zone.toList ∧ IsLiteral id.toList ∧ EndsVisibly id.toList := by
  have zones : IsLiteral "zones".toList := by decide
  have records : IsLiteral "dns_records".toList := by decide
  simp only [recordParts, recordsParts, List.cons_append, List.nil_append, List.forall_mem_cons,
    zones, records, true_and, and_assoc, List.not_mem_nil, false_implies, implies_true]

/-! What changes send. -/

/-- However the API answers, the action sends the request that the command becomes, or nothing if
it becomes none. -/
def Sends {α : Type} (client : Client) (act : ∀ {σ : Type}, Service σ → Act σ α)
    (command : Command) : Prop :=
  ∀ {σ : Type} (api : Service σ) (state : List Request × σ),
    (act api.recorded state).state.1 = state.1 ++ client.requests [command.call client]

theorem sends_update (client : Client) (zone id : String) (patch : RecordPatch) :
    client.Sends (fun api => client.updateRecord api zone id patch) (.update zone id patch) := by
  intro σ api state
  have asks : (client.updateRecord api.recorded zone id patch).Asks api.recorded client
      (fun _ => True) (·) := by
    refine .bind (.emit rfl) fun _ => .bind (asks_send _ trivial) fun answer => ?_
    cases answer <;> exact .pure _
  rw [← client.calls_updateRecord api.recorded zone id patch state]
  exact (asks state).journal_eq

theorem sends_delete (client : Client) (zone id : String) :
    client.Sends (fun api => client.deleteRecord api zone id) (.delete zone id) := by
  intro σ api state
  have asks : (client.deleteRecord api.recorded zone id).Asks api.recorded client
      (fun _ => True) (·) := by
    refine .bind (.emit rfl) fun _ => .bind (asks_send _ trivial) fun answer => ?_
    cases answer <;> exact .pure _
  rw [← client.calls_deleteRecord api.recorded zone id state]
  exact (asks state).journal_eq

/-! Where changes are sent. -/

/-- Where the changes to records are sent behind a base URL that ends with the segments `dir`. -/
structure AddressesRecords (client : Client) (base : Url) (dir : List (List Char)) : Prop where
  below : base.path = .segments (dir ++ [[]])
  update_sends : ∀ zone id patch,
    client.Sends (fun api => client.updateRecord api zone id patch) (.update zone id patch)
  delete_sends : ∀ zone id,
    client.Sends (fun api => client.deleteRecord api zone id) (.delete zone id)
  /-- The identifiers do not decide whether a request is sent. -/
  sent_iff : ∀ {command : Command} {zone id : String}, command.Changes zone id →
    ((∃ request, client.request (command.call client) = .ok request) ↔
      hasHost base ∧ isHeaderValue client.authorization ∧ isSendable base)
  isFor_iff : ∀ {command : Command} {zone id : String}, command.Changes zone id →
    ∀ request, client.request (command.call client) = .ok request →
      (request.IsFor dir zone id ↔
        IsLiteral zone.toList ∧ IsLiteral id.toList ∧ EndsVisibly id.toList)
  /-- Requests that are for their records have different targets. -/
  apart : ∀ {command other : Command} {zone id place name : String},
    command.Changes zone id → other.Changes place name → ∀ request also,
      client.request (command.call client) = .ok request →
      client.request (other.call client) = .ok also →
      request.IsFor dir zone id → also.IsFor dir place name →
      request.url.target = also.url.target → zone = place ∧ id = name

/-- The URL for a change to a record that is read behind a base URL. -/
structure ReadsBehind (base : Url) (dir : List (List Char)) (zone id : String) (url : Url) :
    Prop where
  host : url.host = base.host
  scheme : url.scheme = base.scheme
  path : url.path = .segments (Url.addSegments false dir
    ((Url.pathText (Url.joined (recordParts zone id))).splitOnP (Url.isSlash true)))
  query : Url.pathText (Url.joined (recordParts zone id)) = Url.joined (recordParts zone id) →
    url.query = none

variable {base url : Url} {dir : List (List Char)}

theorem exists_readsBehind (read : Url.ofText? (client.baseUrl ++ "/") = some base)
    (http : base.isHttp) (unasked : base.query = none) (unmarked : base.fragment = none) :
    ∃ dir, base.path = .segments (dir ++ [[]]) ∧ ∀ zone id, ∃ url,
      Url.ofText? (client.baseUrl ++ recordPath zone id) = some url ∧
      ReadsBehind base dir zone id url := by
  obtain ⟨dir, below, behind⟩ := Url.ofText?_slash read http unasked unmarked
  refine ⟨dir, below, ?_⟩
  intro zone id
  have found := behind (String.ofList (Url.joined (recordParts zone id)))
  rw [← recordPath_eq, String.toList_ofList] at found
  refine ⟨_, found, rfl, rfl, rfl, ?_⟩
  intro whole
  dsimp only
  rw [(Url.cuts_of_pathText whole).2]
  rfl

theorem path_of_changes (client : Client) (changes : command.Changes zone id) :
    (command.call client).path = recordPath zone id ∧ (command.call client).query = [] := by
  cases changes <;> exact ⟨rfl, rfl⟩

theorem url_of_changes (changes : command.Changes zone id)
    (read : Url.ofText? (client.baseUrl ++ recordPath zone id) = some url) {request : Request}
    (written : client.request (command.call client) = .ok request) : request.url = url := by
  obtain ⟨path, query⟩ := path_of_changes client changes
  obtain ⟨found, there, -, asks⟩ := exists_url_of_request written
  rw [path, read] at there
  cases there
  rw [asks, query]
  rfl

namespace ReadsBehind

variable (h : ReadsBehind base dir zone id url)

include h

theorem isFor_iff {request : Request} (asked : request.url = url) : request.IsFor dir zone id ↔
    IsLiteral zone.toList ∧ IsLiteral id.toList ∧ EndsVisibly id.toList := by
  have segments := Url.segments_iff_literal dir (recordsParts zone) id.toList
  rw [← recordParts] at segments
  rw [← isLiteral_recordParts_iff]
  constructor
  · rintro ⟨-, shown, located, same⟩
    rw [asked, h.path] at located
    exact segments.mp ⟨shown, Url.Path.segments.inj located, same⟩
  · intro literal
    obtain ⟨shown, located, same⟩ := segments.mpr literal
    have unmarked : ∀ part ∈ recordParts zone id, ∀ c ∈ part, c ∉ Url.segmentMarks := by
      intro part among
      exact (literal.1 part among).unmarked
    constructor
    case unasked => rw [asked, h.query (Url.pathText_joined unmarked literal.2)]
    case located =>
      rw [asked, h.path]
      exact ⟨shown, congrArg Url.Path.segments located, same⟩

/-- The target of a request for a record is its path, with the parts encoded. -/
theorem target_of_isFor {request : Request} (asked : request.url = url)
    (isFor : request.IsFor dir zone id) : request.url.target = dir.flatMap ('/' :: ·) ++ '/' ::
      Url.joined ((recordParts zone id).map (Url.Percent.encode Url.Percent.keepsPath)) := by
  obtain ⟨literal, visible⟩ :=
    (isLiteral_recordParts_iff zone id).mpr ((h.isFor_iff asked).mp isFor)
  have path : url.path = .segments (dir ++
      (recordParts zone id).map (Url.Percent.encode Url.Percent.keepsPath)) := by
    rw [h.path]
    exact congrArg Url.Path.segments (Url.addSegments_of_literal literal visible)
  have some_parts : (recordParts zone id).map (Url.Percent.encode Url.Percent.keepsPath) ≠ [] := by
    simp [recordParts]
  rw [Url.target, Url.queryChars, isFor.unasked, asked, path, List.append_nil, Url.Path.chars,
    List.flatMap_append, Url.flatMap_slash some_parts]

end ReadsBehind

/-- Encoded texts with slashes between them tell the texts. -/
theorem recordParts_injective {place name : String}
    (literal : ∀ part ∈ recordParts zone id, IsLiteral part)
    (plain : ∀ part ∈ recordParts place name, IsLiteral part)
    (same : Url.joined ((recordParts zone id).map (Url.Percent.encode Url.Percent.keepsPath)) =
      Url.joined ((recordParts place name).map (Url.Percent.encode Url.Percent.keepsPath))) :
    zone = place ∧ id = name := by
  have unslashed {zone id : String} (literal : ∀ part ∈ recordParts zone id, IsLiteral part) :
      ∀ part ∈ (recordParts zone id).map (Url.Percent.encode Url.Percent.keepsPath), ∀ c ∈ part,
        Url.isSlash true c = false := by
    intro encoded mem
    obtain ⟨part, among, rfl⟩ := List.mem_map.mp mem
    exact Url.not_isSlash_of_mem_encode (Url.not_isSlash_of_unmarked (literal part among).unmarked)
  have encoded := Url.joined_injective (unslashed literal) (unslashed plain) (by simp [recordParts])
    (by simp [recordParts]) same
  have decoded {zone id : String} (literal : ∀ part ∈ recordParts zone id, IsLiteral part) :
      ((recordParts zone id).map (Url.Percent.encode Url.Percent.keepsPath)).map
        Url.Percent.decode = (recordParts zone id).map Text.Utf8.encode := by
    rw [List.map_map]
    apply List.map_congr_left
    intro part among
    exact (literal part among).isWhole.decode_encode
  have bytes := congrArg (List.map Url.Percent.decode) encoded
  rw [decoded literal, decoded plain] at bytes
  have parts := (List.map_inj_right fun _ _ => Url.encode_injective).mp bytes
  simpa [recordParts, recordsParts, String.toList_inj] using parts

/-- Behind any base URL of the web without a query and a fragment, a change is sent to the record
that its identifiers name if they are literal, and only then. -/
theorem exists_addressesRecords (read : Url.ofText? (client.baseUrl ++ "/") = some base)
    (http : base.isHttp) (unasked : base.query = none) (unmarked : base.fragment = none) :
    ∃ dir, client.AddressesRecords base dir := by
  obtain ⟨dir, below, reads⟩ := exists_readsBehind read http unasked unmarked
  refine ⟨dir, ?_⟩
  constructor
  case below => exact below
  case update_sends => exact client.sends_update
  case delete_sends => exact client.sends_delete
  case sent_iff =>
    intro command zone id changes
    obtain ⟨url, found, behind⟩ := reads zone id
    rw [← (path_of_changes client changes).1] at found
    rw [exists_request_iff found]
    simp only [hasHost, isSendable, Url.isHttp, behind.host, behind.scheme]
  case isFor_iff =>
    intro command zone id changes request written
    obtain ⟨url, found, behind⟩ := reads zone id
    exact behind.isFor_iff (url_of_changes changes found written)
  case apart =>
    intro command other zone id place name changes alters request also written sent one two same
    obtain ⟨url, found, behind⟩ := reads zone id
    obtain ⟨away, there, elsewhere⟩ := reads place name
    have asked := url_of_changes changes found written
    have asks := url_of_changes alters there sent
    rw [behind.target_of_isFor asked one, elsewhere.target_of_isFor asks two] at same
    have literal := (isLiteral_recordParts_iff zone id).mpr ((behind.isFor_iff asked).mp one)
    have plain := (isLiteral_recordParts_iff place name).mpr ((elsewhere.isFor_iff asks).mp two)
    exact recordParts_injective literal.1 plain.1 (List.cons.inj (List.append_cancel_left same)).2

end Client

end Api

/-! Identifiers without and with a meaning of their own in a path. -/

namespace Spliced

private def client : Client := ⟨"http://mock/v4", "token", none⟩

private def base : Url :=
  ⟨"http".toList, some (.name "mock".toList), none, .segments ["v4".toList, []], none, none⟩

/-- A deletion that is sent to this path. -/
private def deletion (path : List String) : Request :=
  ⟨.delete, { base with path := .segments (path.map String.toList) }, "Bearer token", none⟩

/-- Signs that have a meaning in other parts of a URL only. -/
private def odd : String := "a b%é&=..:@"

theorem exists_addressesRecords_odd :
    Url.ofText? (client.baseUrl ++ "/") = some base ∧ base.isHttp ∧ base.query = none ∧
      base.fragment = none ∧
    ∃ request, client.request ((Command.delete "z" odd).call client) = .ok request ∧
      request = deletion ["v4", "zones", "z", "dns_records", "a%20b%%C3%A9&=..:@"] ∧
      request.IsFor ["v4".toList] "z" odd := by
  have read : Url.ofText? (client.baseUrl ++ "/") = some base := by decide +kernel
  have http : base.isHttp := by decide
  obtain ⟨dir, addresses⟩ := Api.Client.exists_addressesRecords read http rfl rfl
  have behind : dir ++ [[]] = ["v4".toList] ++ [[]] :=
    (Url.Path.segments.inj addresses.below).symm
  have here : dir = ["v4".toList] := List.append_cancel_right behind
  subst here
  have written : client.request ((Command.delete "z" odd).call client) =
      .ok (deletion ["v4", "zones", "z", "dns_records", "a%20b%%C3%A9&=..:@"]) := by decide +kernel
  have isFor := (addresses.isFor_iff .delete _ written).mpr (by decide)
  exact ⟨read, http, rfl, rfl, _, written, rfl, isFor⟩

/-- Dots lead to the zone itself, and to one record by two identifiers. -/
theorem not_isFor_climbing :
    (∃ request, client.request ((Command.delete "z" "../../z").call client) = .ok request ∧
      request = deletion ["v4", "zones", "z"] ∧
      ¬ request.IsFor ["v4".toList] "z" "../../z") ∧
    client.request ((Command.delete "z" "./r").call client) =
      client.request ((Command.delete "z" "r").call client) := by
  have written : client.request ((Command.delete "z" "../../z").call client) =
      .ok (deletion ["v4", "zones", "z"]) := by decide +kernel
  refine ⟨⟨_, written, rfl, ?_⟩, by decide +kernel⟩
  rintro ⟨-, segments, located, same⟩
  have behind : ["v4".toList, "zones".toList, "z".toList] = ["v4".toList] ++ segments :=
    Url.Path.segments.inj located
  have lengths := congrArg List.length behind
  have parts := congrArg List.length same
  simp only [List.length_append, List.length_cons, List.length_nil] at lengths
  rw [List.length_map, List.length_map] at parts
  have four : (Api.recordParts "z" "../../z").length = 4 := rfl
  omega

end Spliced

end AddressRecords
