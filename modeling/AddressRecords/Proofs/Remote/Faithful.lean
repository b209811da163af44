import AddressRecords.Handle

/-!
Faithful remotes. Such an API keeps records in zones, lists them page by page, and of every change
it is asked for either makes it and says so or does neither. How it words its answers, how it cuts
its lists into pages and when it fails are its own affair.
-/

namespace AddressRecords

open Api (Call Client Envelope Interruption NewRecord RawRecord RawZone RecordPatch Reply)

/-- Identifiers stand for themselves wherever they are written. -/
def IsId (id : String) : Prop := id ≠ "" ∧ id.toList.all Char.isAlphanum

/-! What a remote keeps. -/

structure Entry where
  name : String
  recordType : String
  content : String
  deriving DecidableEq

/-- The records of all zones. An identifier is used for good, whether its record still exists or
not. -/
structure Holdings where
  find? : String → String → Option Entry
  IsUsed : String → String → Prop
  used_of_find : ∀ {zone id entry}, find? zone id = some entry → IsUsed zone id
  isId_of_used : ∀ {zone id}, IsUsed zone id → IsId id

namespace Holdings

/-- The holdings with a record in place of what was there. -/
def put (holdings : Holdings) (zone id : String) (entry : Entry) (valid : IsId id) : Holdings where
  find? z i := if z = zone ∧ i = id then some entry else holdings.find? z i
  IsUsed z i := holdings.IsUsed z i ∨ (z = zone ∧ i = id)
  used_of_find h := by
    split at h
    · exact .inr ‹_›
    · exact .inl (holdings.used_of_find h)
  isId_of_used h := by
    rcases h with used | ⟨_, rfl⟩
    · exact holdings.isId_of_used used
    · exact valid

/-- The holdings without a record. -/
def drop (holdings : Holdings) (zone id : String) : Holdings where
  find? z i := if z = zone ∧ i = id then none else holdings.find? z i
  IsUsed := holdings.IsUsed
  used_of_find h := by
    split at h
    · cases h
    · exact holdings.used_of_find h
  isId_of_used := holdings.isId_of_used

end Holdings

/-- A list in pages, counted from one. There is always a first page, and an empty list may count
none. -/
structure Paging (α : Type) where
  pages : List (List α)
  total : UInt32
  length_pages : pages.length = max 1 total.toNat

namespace Paging

variable {α : Type} (paging : Paging α)

def items : List α := paging.pages.flatten

def page? (number : UInt32) : Option (List α) :=
  if number = 0 then none else paging.pages[number.toNat - 1]?

end Paging

/-- What the states of an API hold. The zones never change. -/
structure Remote (σ : Type) where
  zones : String → List RawZone
  holdings : σ → Holdings
  zonePages : σ → String → Paging RawZone
  recordPages : σ → String → String → String → Paging RawRecord
  isId_of_mem_zones : ∀ {name zone}, zone ∈ zones name → IsId zone.id
  /-- The zones of a name are listed in any order. -/
  perm_zonePages : ∀ state name, (zonePages state name).items.Perm (zones name)
  /-- The records of a name and type are listed in any order. -/
  mem_recordPages_iff : ∀ state zone name recordType record,
    record ∈ (recordPages state zone name recordType).items ↔
      (holdings state).find? zone record.id = some ⟨name, recordType, record.content⟩

/-! Asking. -/

/-- What a remote is asked for. -/
inductive Command
  | zones (name : String) (page : UInt32)
  | records (zone name recordType : String) (page : UInt32)
  | create (zone : String) (record : NewRecord)
  | update (zone id : String) (patch : RecordPatch)
  | delete (zone id : String)

/-- The call that asks for it. -/
def Command.call (client : Client) : Command → Call
  | zones name page => ⟨.get, "/zones", client.zoneQuery name page, none⟩
  | records zone name recordType page =>
    ⟨.get, s!"/zones/{zone}/dns_records", Client.recordQuery name recordType page, none⟩
  | create zone record => ⟨.post, s!"/zones/{zone}/dns_records", [], some (toString record.toJson)⟩
  | update zone id patch =>
    ⟨.patch, s!"/zones/{zone}/dns_records/{id}", [], some (toString patch.toJson)⟩
  | delete zone id => ⟨.delete, s!"/zones/{zone}/dns_records/{id}", [], none⟩

variable {α σ : Type}

/-- The exchange was not cut short, and its reply tells of success in every way. -/
def Confirms (reader : Json.Reader α) (answer : Except Interruption Reply)
    (envelope : Envelope α) : Prop :=
  ∃ reply, answer = .ok reply ∧ reply.status.isSuccess ∧
    Json.readText (Envelope.reader reader) reply.text = .ok envelope ∧ envelope.success

/-- A page may be refused. The first one may be of a new paging, the others are of that one. -/
def ShowsPage (reader : Json.Reader α) (page : UInt32) (answer : Except Interruption Reply)
    (before after : Paging α) : Prop :=
  (page ≠ 1 → after = before) ∧
  ∀ envelope, Confirms reader.list answer envelope → ∀ items, after.page? page = some items →
    envelope.result = some items ∧
    (envelope.resultInfo.map (·.totalPages)).getD 0 = after.total

/-- A change is refused and not made, or made and confirmed. -/
def Settles (reader : Json.Reader α) (answer : Except Interruption Reply) (unchanged : Prop)
    (made : Envelope α → Prop) : Prop :=
  ((∀ envelope, ¬ Confirms reader answer envelope) ∧ unchanged) ∨
  ∃ envelope, Confirms reader answer envelope ∧ made envelope

/-- Whatever the API is asked through the handle, it either does and confirms, or refuses and
changes nothing. -/
structure Faithful (handle : Handle σ) (remote : Remote σ) : Prop where
  zones : ∀ name page request state,
    handle.client.request ((Command.zones name page).call handle.client) = .ok request →
    let exchange := handle.api.answer request state
    remote.holdings exchange.2 = remote.holdings state ∧
    ShowsPage RawZone.reader page exchange.1 (remote.zonePages state name)
      (remote.zonePages exchange.2 name)
  records : ∀ zone name recordType page request state, IsId zone →
    handle.client.request ((Command.records zone name recordType page).call handle.client) = .ok request →
    let exchange := handle.api.answer request state
    remote.holdings exchange.2 = remote.holdings state ∧
    ShowsPage RawRecord.reader page exchange.1 (remote.recordPages state zone name recordType)
      (remote.recordPages exchange.2 zone name recordType)
  /-- A record is created under an identifier that was never used. -/
  create : ∀ zone record request state, IsId zone →
    handle.client.request ((Command.create zone record).call handle.client) = .ok request →
    let exchange := handle.api.answer request state
    Settles RawRecord.reader exchange.1 (remote.holdings exchange.2 = remote.holdings state)
      fun envelope => ∃ created, ∃ valid : IsId created.id, envelope.result = some created ∧
        ¬ (remote.holdings state).IsUsed zone created.id ∧
        remote.holdings exchange.2 = (remote.holdings state).put zone created.id
          ⟨record.name, record.recordType, record.content⟩ valid
  /-- Only records that exist are changed. -/
  update : ∀ zone id patch request state, IsId zone → (valid : IsId id) →
    handle.client.request ((Command.update zone id patch).call handle.client) = .ok request →
    let exchange := handle.api.answer request state
    Settles Json.Reader.value exchange.1 (remote.holdings exchange.2 = remote.holdings state)
      fun _ => (remote.holdings state).find? zone id ≠ none ∧
        remote.holdings exchange.2 = (remote.holdings state).put zone id
          ⟨patch.name, patch.recordType, patch.content⟩ valid
  delete : ∀ zone id request state, IsId zone → IsId id →
    handle.client.request ((Command.delete zone id).call handle.client) = .ok request →
    let exchange := handle.api.answer request state
    Settles Json.Reader.value exchange.1 (remote.holdings exchange.2 = remote.holdings state)
      fun _ => (remote.holdings state).find? zone id ≠ none ∧
        remote.holdings exchange.2 = (remote.holdings state).drop zone id

end AddressRecords
