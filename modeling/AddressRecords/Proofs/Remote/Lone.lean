import AddressRecords.Proofs.Remote.Coherence
import AddressRecords.Proofs.Remote.Request

/-!
A faithful remote with one zone and one record, which is created, pointed elsewhere and deleted,
in this order. Whatever else it is asked to change it refuses.
-/

namespace AddressRecords.Lone

open Api (Client Envelope NewRecord RawRecord RawZone RecordPatch Reply Request Service)

inductive Phase
  | fresh
  | created
  | moved
  | gone
  deriving DecidableEq

def client : Client := ⟨"https://api.test", "token", none⟩

def host : List Char := "api.test".toList

theorem atHost : client.AtHost host where
  baseUrl := by decide
  plain := List.all_eq_true.mp (show host.all Url.isPlainInHost by decide)
  some_host := by decide
  read := by decide +kernel
  sendable := by decide
  header := by decide

def zone : String := "z1"

def id : String := "r1"

theorem isId_zone : IsId zone := by
  unfold IsId
  decide

theorem isId_id : IsId id := by
  unfold IsId
  decide

def newRecord : NewRecord := ⟨"example.com", "A", "192.0.2.1", .auto, false⟩

def patch : RecordPatch := ⟨"example.com", "A", "192.0.2.2"⟩

/-! What it keeps. -/

def nothing : Holdings := ⟨fun _ _ => none, fun _ _ => False, nofun, nofun⟩

def holding (content : String) : Holdings :=
  nothing.put zone id ⟨"example.com", "A", content⟩ isId_id

def holdings : Phase → Holdings
  | .fresh => nothing
  | .created => holding newRecord.content
  | .moved => (holding newRecord.content).put zone id ⟨"example.com", "A", patch.content⟩ isId_id
  | .gone => ((holding newRecord.content).put zone id ⟨"example.com", "A", patch.content⟩
      isId_id).drop zone id

/-- What the record says, while there is one. -/
def content? : Phase → Option String
  | .created => some newRecord.content
  | .moved => some patch.content
  | .fresh | .gone => none

theorem find?_holdings (phase : Phase) (place identifier : String) :
    (holdings phase).find? place identifier =
      if place = zone ∧ identifier = id then (content? phase).map (⟨"example.com", "A", ·⟩)
      else none := by
  by_cases here : place = zone ∧ identifier = id
  · cases phase <;> simp [holdings, holding, nothing, Holdings.put, Holdings.drop, content?, here]
  · cases phase <;> simp [holdings, holding, nothing, Holdings.put, Holdings.drop, here]

/-- A list on one page that does not count itself. -/
def page {α : Type} (items : List α) : Paging α := ⟨[items], 0, rfl⟩

def zones (name : String) : List RawZone :=
  if name = "example.com" then [⟨zone, "active"⟩] else []

def records (phase : Phase) (place name recordType : String) : List RawRecord :=
  if place = zone ∧ name = "example.com" ∧ recordType = "A" then
    (content? phase).toList.map (⟨id, ·⟩)
  else []

theorem items_page {α : Type} (items : List α) : (page items).items = items :=
  List.append_nil items

theorem mem_records_iff (phase : Phase) (place name recordType : String) (record : RawRecord) :
    record ∈ records phase place name recordType ↔
      (holdings phase).find? place record.id = some ⟨name, recordType, record.content⟩ := by
  obtain ⟨identifier, content⟩ := record
  rw [find?_holdings, records]
  cases content? phase with
  | none => simp
  | some held =>
    constructor
    · intro mem
      split at mem
      · rename_i asked
        obtain ⟨rfl, rfl, rfl⟩ := asked
        cases List.mem_singleton.mp mem
        simp
      · cases mem
    · intro found
      split at found
      · rename_i here
        obtain ⟨rfl, rfl⟩ := here
        cases found
        simp
      · cases found

def remote : Remote Phase where
  zones
  holdings
  zonePages _ name := page (zones name)
  recordPages phase place name recordType := page (records phase place name recordType)
  isId_of_mem_zones := by
    intro name entry mem
    unfold zones at mem
    split at mem
    · rw [List.mem_singleton.mp mem]
      exact isId_zone
    · cases mem
  perm_zonePages _ name := by rw [items_page]
  mem_recordPages_iff phase place name recordType record := by
    rw [items_page]
    exact mem_records_iff phase place name recordType record

/-! How it answers. -/

def zonesText : String :=
  "\x7b\"success\":true,\"result\":[\x7b\"id\":\"z1\",\"status\":\"active\"\x7d]\x7d"

def listText : Phase → String
  | .created => "\x7b\"success\":true,\"result\":[\x7b\"id\":\"r1\",\"content\":\"192.0.2.1\"\x7d]\x7d"
  | .moved => "\x7b\"success\":true,\"result\":[\x7b\"id\":\"r1\",\"content\":\"192.0.2.2\"\x7d]\x7d"
  | .fresh | .gone => "\x7b\"success\":true,\"result\":[]\x7d"

def recordText : String :=
  "\x7b\"success\":true,\"result\":\x7b\"id\":\"r1\",\"content\":\"192.0.2.1\"\x7d\x7d"

/-- The one change that is made next, and the text that confirms it. -/
def change? : Phase → Option (Command × String × Phase)
  | .fresh => some (.create zone newRecord, recordText, .created)
  | .created => some (.update zone id patch, recordText, .moved)
  | .moved => some (.delete zone id, recordText, .gone)
  | .gone => none

def asked (command : Command) : Request := command.request client host

/-- What is read at a URL. -/
def listing (url : Url) (phase : Phase) : String :=
  if url = (asked (.zones "example.com" 1)).url then zonesText
  else if url = (asked (.records zone "example.com" "A" 1)).url then listText phase
  else listText .fresh

def refusal : Reply := ⟨⟨404⟩, ""⟩

def service : Service Phase where
  answer request phase :=
    if request.method = .get then (.ok ⟨⟨200⟩, listing request.url phase⟩, phase)
    else
      match change? phase with
      | none => (.ok refusal, phase)
      | some (command, text, after) =>
        if request = asked command then (.ok ⟨⟨200⟩, text⟩, after) else (.ok refusal, phase)

def handle : Handle Phase := ⟨service, client⟩

theorem answer_of_get (request : Request) (get : request.method = .get) (phase : Phase) :
    service.answer request phase = (.ok ⟨⟨200⟩, listing request.url phase⟩, phase) := if_pos get

theorem answer_of_change (request : Request) (changes : request.method ≠ .get) (phase : Phase) :
    service.answer request phase = (.ok refusal, phase) ∨
    ∃ command text after, change? phase = some (command, text, after) ∧ request = asked command ∧
      service.answer request phase = (.ok ⟨⟨200⟩, text⟩, after) := by
  simp only [service, if_neg changes]
  cases change? phase with
  | none => exact .inl rfl
  | some due =>
    obtain ⟨command, text, after⟩ := due
    by_cases same : request = asked command
    · exact .inr ⟨command, text, after, rfl, same, if_pos same⟩
    · exact .inl (if_neg same)

/-! What its texts say. -/

section

variable {α : Type} {reader : Json.Reader α}

theorem not_confirms_refusal (envelope : Envelope α) :
    ¬ Confirms reader (.ok refusal) envelope := by
  rintro ⟨_, ⟨⟩, accepted, _⟩
  cases accepted

theorem confirms_of_reads (reader : Json.Reader α) (text : String) (tells : Envelope α → Bool)
    (reads : (Json.readText (Envelope.reader reader) (Reply.text ⟨⟨200⟩, text⟩)).toOption.any
      fun envelope => envelope.success && tells envelope) :
    ∃ envelope, Confirms reader (.ok ⟨⟨200⟩, text⟩) envelope ∧ tells envelope := by
  cases read : Json.readText (Envelope.reader reader) (Reply.text ⟨⟨200⟩, text⟩) with
  | error fault =>
    rw [read] at reads
    cases reads
  | ok envelope =>
    rw [read] at reads
    obtain ⟨success, told⟩ := Bool.and_eq_true_iff.mp reads
    exact ⟨envelope, ⟨_, rfl, rfl, read, success⟩, told⟩

end

/-- Whether an envelope holds these items on a page that does not count itself. -/
def shows {α : Type} [DecidableEq α] (items : List α) (envelope : Envelope (List α)) : Bool :=
  envelope.result = some items ∧ envelope.resultInfo = none

theorem zonesText_confirms : ∃ envelope,
    Confirms RawZone.reader.list (.ok ⟨⟨200⟩, zonesText⟩) envelope ∧
      shows (zones "example.com") envelope :=
  confirms_of_reads _ _ _ (by decide +kernel)

theorem emptyText_confirms : ∃ envelope,
    Confirms RawZone.reader.list (.ok ⟨⟨200⟩, listText .fresh⟩) envelope ∧ shows [] envelope :=
  confirms_of_reads _ _ _ (by decide +kernel)

theorem listText_confirms (phase : Phase) : ∃ envelope,
    Confirms RawRecord.reader.list (.ok ⟨⟨200⟩, listText phase⟩) envelope ∧
      shows (records phase zone "example.com" "A") envelope := by
  refine confirms_of_reads _ _ _ ?_
  cases phase <;> decide +kernel

theorem recordText_confirms : ∃ envelope,
    Confirms RawRecord.reader (.ok ⟨⟨200⟩, recordText⟩) envelope ∧
      envelope.result = some ⟨id, newRecord.content⟩ := by
  obtain ⟨envelope, confirms, told⟩ := confirms_of_reads RawRecord.reader recordText
    (fun envelope => envelope.result = some ⟨id, newRecord.content⟩) (by decide +kernel)
  exact ⟨envelope, confirms, of_decide_eq_true told⟩

theorem recordText_confirms_change : ∃ envelope,
    Confirms Json.Reader.value (.ok ⟨⟨200⟩, recordText⟩) envelope := by
  obtain ⟨envelope, confirms, _⟩ := confirms_of_reads Json.Reader.value recordText
    (fun _ => true) (by decide +kernel)
  exact ⟨envelope, confirms⟩

theorem showsPage {α : Type} [DecidableEq α] {reader : Json.Reader α} {text : String}
    {items : List α} {number : UInt32}
    (first : number = 1 → ∃ envelope, Confirms reader.list (.ok ⟨⟨200⟩, text⟩) envelope ∧
      shows items envelope) :
    ShowsPage reader number (.ok ⟨⟨200⟩, text⟩) (page items) (page items) := by
  refine ⟨fun _ => rfl, fun envelope confirms shown at_page => ?_⟩
  have positive : number ≠ 0 := by
    rintro rfl
    cases at_page
  rw [Paging.page?, if_neg positive] at at_page
  obtain ⟨within, same⟩ := List.getElem?_eq_some_iff.mp at_page
  have one : number = 1 := by
    have short : number.toNat - 1 < 1 := within
    have some_number : number.toNat ≠ 0 := fun zero => positive (UInt32.toNat_inj.mp zero)
    exact UInt32.toNat_inj.mp (show number.toNat = 1 by omega)
  obtain ⟨given, confirmed, told⟩ := first one
  obtain rfl := confirms.unique confirmed
  obtain ⟨result, info⟩ := of_decide_eq_true told
  subst one
  cases same
  rw [result, info]
  exact ⟨rfl, rfl⟩

/-! That it is faithful. -/

theorem eq_asked (command : Command) {request : Request} (addressed : command.IsAddressed)
    (written : handle.client.request (command.call handle.client) = .ok request) :
    request = asked command :=
  (Except.ok.inj ((atHost.request_call addressed).symm.trans written)).symm

theorem listing_zones (name : String) (phase : Phase) : ∃ envelope,
    Confirms RawZone.reader.list (.ok ⟨⟨200⟩, listing (asked (.zones name 1)).url phase⟩) envelope ∧
      shows (zones name) envelope := by
  by_cases own : name = "example.com"
  · subst own
    rw [listing, if_pos rfl]
    exact zonesText_confirms
  · have foreign : (asked (.zones name 1)).url ≠ (asked (.zones "example.com" 1)).url :=
      fun same => own (Command.eq_of_zones_request rfl (by decide) same)
    have unlike : (asked (.zones name 1)).url ≠ (asked (.records zone "example.com" "A" 1)).url :=
      fun same => nomatch Command.segments_eq same
    rw [listing, if_neg foreign, if_neg unlike, zones, if_neg own]
    exact emptyText_confirms

theorem listing_records (place name recordType : String) (phase : Phase) : ∃ envelope,
    Confirms RawRecord.reader.list
      (.ok ⟨⟨200⟩, listing (asked (.records place name recordType 1)).url phase⟩) envelope ∧
      shows (records phase place name recordType) envelope := by
  have unlike : (asked (.records place name recordType 1)).url ≠
      (asked (.zones "example.com" 1)).url := fun same => nomatch Command.segments_eq same
  rw [listing, if_neg unlike]
  by_cases own : place = zone ∧ name = "example.com" ∧ recordType = "A"
  · obtain ⟨rfl, rfl, rfl⟩ := own
    rw [if_pos rfl]
    exact listText_confirms phase
  · have foreign : (asked (.records place name recordType 1)).url ≠
        (asked (.records zone "example.com" "A" 1)).url :=
      fun same => own (Command.eq_of_records_request (by decide) (by decide) (by decide) same)
    rw [if_neg foreign, records, if_neg own]
    exact listText_confirms .fresh

theorem settles_create (place : String) (record : NewRecord) (phase : Phase) :
    let exchange := service.answer (asked (.create place record)) phase
    Settles RawRecord.reader exchange.1 (holdings exchange.2 = holdings phase) fun envelope =>
      ∃ created, ∃ valid : IsId created.id, envelope.result = some created ∧
        ¬ (holdings phase).IsUsed place created.id ∧
        holdings exchange.2 = (holdings phase).put place created.id
          ⟨record.name, record.recordType, record.content⟩ valid := by
  rcases answer_of_change (asked (.create place record)) nofun phase with
    refused | ⟨command, text, after, due, same, made⟩
  · rw [refused]
    exact .inl ⟨not_confirms_refusal, rfl⟩
  · rw [made]
    cases phase with
    | gone => cases due
    | fresh =>
      cases due
      obtain ⟨rfl, bodies⟩ := Command.eq_of_create_request same
      obtain ⟨names, types, contents⟩ :=
        NewRecord.eq_of_toJson (by decide) (by decide) (by decide) bodies
      obtain ⟨envelope, confirms, result⟩ := recordText_confirms
      refine .inr ⟨envelope, confirms, ⟨id, newRecord.content⟩, isId_id, result,
        fun used => used, ?_⟩
      rw [names, types, contents]
      rfl
    | created =>
      cases due
      cases congrArg Request.method same
    | moved =>
      cases due
      cases congrArg Request.method same

theorem settles_update (place identifier : String) (change : RecordPatch) (valid : IsId identifier)
    (phase : Phase) :
    let exchange := service.answer (asked (.update place identifier change)) phase
    Settles Json.Reader.value exchange.1 (holdings exchange.2 = holdings phase) fun _ =>
      (holdings phase).find? place identifier ≠ none ∧
      holdings exchange.2 = (holdings phase).put place identifier
        ⟨change.name, change.recordType, change.content⟩ valid := by
  rcases answer_of_change (asked (.update place identifier change)) nofun phase with
    refused | ⟨command, text, after, due, same, made⟩
  · rw [refused]
    exact .inl ⟨not_confirms_refusal, rfl⟩
  · rw [made]
    cases phase with
    | gone => cases due
    | fresh =>
      cases due
      cases congrArg Request.method same
    | created =>
      cases due
      obtain ⟨rfl, rfl, bodies⟩ := Command.eq_of_update_request same
      obtain rfl := RecordPatch.eq_of_toJson (by decide) (by decide) (by decide) bodies
      obtain ⟨envelope, confirms⟩ := recordText_confirms_change
      exact .inr ⟨envelope, confirms, by simp [find?_holdings, content?], rfl⟩
    | moved =>
      cases due
      cases congrArg Request.method same

theorem settles_delete (place identifier : String) (phase : Phase) :
    let exchange := service.answer (asked (.delete place identifier)) phase
    Settles Json.Reader.value exchange.1 (holdings exchange.2 = holdings phase) fun _ =>
      (holdings phase).find? place identifier ≠ none ∧
      holdings exchange.2 = (holdings phase).drop place identifier := by
  rcases answer_of_change (asked (.delete place identifier)) nofun phase with
    refused | ⟨command, text, after, due, same, made⟩
  · rw [refused]
    exact .inl ⟨not_confirms_refusal, rfl⟩
  · rw [made]
    cases phase with
    | gone => cases due
    | fresh =>
      cases due
      cases congrArg Request.method same
    | created =>
      cases due
      cases congrArg Request.method same
    | moved =>
      cases due
      obtain ⟨rfl, rfl⟩ := Command.eq_of_delete_request same
      obtain ⟨envelope, confirms⟩ := recordText_confirms_change
      exact .inr ⟨envelope, confirms, by simp [find?_holdings, content?], rfl⟩

theorem faithful : Faithful handle remote where
  zones name number request phase written := by
    obtain rfl := eq_asked (.zones name number) trivial written
    dsimp only [handle]
    rw [answer_of_get _ rfl]
    refine ⟨rfl, showsPage ?_⟩
    rintro rfl
    exact listing_zones name phase
  records place name recordType number request phase valid written := by
    obtain rfl := eq_asked (.records place name recordType number) valid written
    dsimp only [handle]
    rw [answer_of_get _ rfl]
    refine ⟨rfl, showsPage ?_⟩
    rintro rfl
    exact listing_records place name recordType phase
  create place record request phase valid written := by
    obtain rfl := eq_asked (.create place record) valid written
    exact settles_create place record phase
  update place identifier change request phase valid named written := by
    obtain rfl := eq_asked (.update place identifier change) ⟨valid, named⟩ written
    exact settles_update place identifier change named phase
  delete place identifier request phase valid named written := by
    obtain rfl := eq_asked (.delete place identifier) ⟨valid, named⟩ written
    exact settles_delete place identifier phase

/-! A run of a handle on it. -/

def key : RecordKey := ⟨.literal ⟨"example.com", by decide⟩, .v4⟩

def first : Address := .v4 ⟨192, 0, 2, 1⟩

def second : Address := .v4 ⟨192, 0, 2, 2⟩

def opening : Operation := .create key first .auto false

def life : List Operation := [opening, .list key, .update key id second]

theorem opening_gives : History.Gives key id
    (opening, (handle.perform opening (.initial .fresh)).value) := by
  have created : (handle.create key first .auto false (.initial .fresh)).value.toOption =
      some id := by decide +kernel
  have value : (handle.perform opening (.initial .fresh)).value =
      (handle.create key first .auto false (.initial .fresh)).value.map .id := rfl
  rw [value]
  generalize (handle.create key first .auto false (.initial .fresh)).value = answer at created
  cases answer with
  | error failure => cases created
  | ok given => exact ⟨rfl, Option.some.inj created⟩

theorem namesGiven : handle.NamesGiven (life ++ [.delete key id]) .fresh := by
  intro before operation after split other identifier target
  cases before with
  | nil =>
    obtain ⟨rfl, _⟩ := List.cons.inj split
    cases target
  | cons start rest =>
    obtain ⟨rfl, behind⟩ := List.cons.inj split
    have later : operation ∈ [.list key, .update key id second, .delete key id] := by
      have inside : operation ∈ rest ++ operation :: after := by simp
      rw [← List.append_eq, ← behind] at inside
      exact inside
    have named : other = key ∧ identifier = id := by
      simp only [List.mem_cons, List.not_mem_nil, or_false] at later
      rcases later with rfl | rfl | rfl
      · cases target
      · exact Prod.mk.inj (Option.some.inj target.symm)
      · exact Prod.mk.inj (Option.some.inj target.symm)
    obtain ⟨rfl, rfl⟩ := named
    rw [Handle.history_cons]
    exact ⟨_, List.mem_cons_self, opening_gives⟩

end AddressRecords.Lone
