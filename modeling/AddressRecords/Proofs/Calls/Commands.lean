import AddressRecords.Handle.Operation
import AddressRecords.Proofs.Calls.Apart

/-!
The commands of an operation: those by which it looks for a zone, and those of its own work there.
No two of them become the same request, and a change has nothing after it.
-/

namespace AddressRecords

open Api (Client Envelope RawRecord)

variable {σ α : Type}

/-! Commands. -/

namespace Operation

/-- Whether the operation can do without the API. -/
def IsIdle (store : RecordStore) : Operation → Prop
  | list key => store.isWarm key
  | create key address .. | update key _ address => ¬ key.family.owns address
  | flush => True
  | delete .. | resolve _ => False

def IsChange : Operation → Prop
  | create .. | update .. | delete .. => True
  | list _ | resolve _ | flush => False

/-- The work of an operation in a zone. A list takes any number of pages, but for none. -/
inductive Work : Operation → String → List Command → Prop
  | list (key : RecordKey) (zone : String) {count : Nat} (some_pages : 0 < count)
      (bounded : count < UInt32.size) :
      Work (.list key) zone
        (Command.pages (.records zone key.domain.wireName key.family.recordType) count)
  | create (key : RecordKey) (address : Address) (ttl : Ttl) (proxied : Bool) (zone : String) :
      Work (.create key address ttl proxied) zone
        [.create zone (Handle.newRecord key address ttl proxied)]
  | update (key : RecordKey) (id : String) (address : Address) (zone : String) :
      Work (.update key id address) zone [.update zone id (Handle.recordPatch key address)]
  | delete (key : RecordKey) (id : String) (zone : String) :
      Work (.delete key id) zone [.delete zone id]
  | resolve (domain : Domain) (zone : String) : Work (.resolve domain) zone []

end Operation

namespace Command

/-- Pages of the zones with the first few of these names, one name after the other. -/
inductive AskZones : List String → List Command → Prop
  | stop (names : List String) : AskZones names []
  | ask {name : String} {names : List String} {count : Nat} {later : List Command}
      (some_pages : 0 < count) (bounded : count < UInt32.size) (rest : AskZones names later) :
      AskZones (name :: names) (pages (.zones name) count ++ later)

/-- The API confirms the change, and by its reply the operation has this answer. -/
inductive Confirmed (handle : Handle σ) (remote : σ) : Command → Answer → Prop
  | create {zone : String} {record : Api.NewRecord} {request : Api.Request}
      {envelope : Envelope RawRecord} {created : RawRecord}
      (written : handle.client.request ((create zone record).call handle.client) = .ok request)
      (confirms : Confirms RawRecord.reader (handle.api.answer request remote).1 envelope)
      (result : envelope.result = some created) (named : created.id ≠ "") :
      Confirmed handle remote (.create zone record) (.id created.id)
  | update {zone id : String} {patch : Api.RecordPatch} {request : Api.Request}
      {envelope : Envelope Json.Value}
      (written : handle.client.request ((update zone id patch).call handle.client) = .ok request)
      (confirms : Confirms Json.Reader.value (handle.api.answer request remote).1 envelope) :
      Confirmed handle remote (.update zone id patch) .done
  | delete {zone id : String} {request : Api.Request} {envelope : Envelope Json.Value}
      (written : handle.client.request ((delete zone id).call handle.client) = .ok request)
      (confirms : Confirms Json.Reader.value (handle.api.answer request remote).1 envelope) :
      Confirmed handle remote (.delete zone id) .done

theorem exists_page_of_mem_pages {command : UInt32 → Command} {count : Nat} {asked : Command}
    (mem : asked ∈ pages command count) : ∃ page, asked = command page := by
  obtain ⟨page, -, rfl⟩ := List.mem_map.mp mem
  exact ⟨_, rfl⟩

namespace AskZones

variable {names : List String} {asked : List Command}

theorem exists_zones (h : AskZones names asked) :
    ∀ command ∈ asked, ∃ name ∈ names, ∃ page, command = .zones name page := by
  induction h with
  | stop names => exact fun _ mem => nomatch mem
  | @ask name names count later some_pages bounded rest ih =>
    intro command mem
    rcases List.mem_append.mp mem with first | later
    · obtain ⟨page, rfl⟩ := exists_page_of_mem_pages first
      exact ⟨name, List.mem_cons_self, page, rfl⟩
    · obtain ⟨other, listed, page, rfl⟩ := ih command later
      exact ⟨other, List.mem_cons_of_mem name listed, page, rfl⟩

theorem pairwise_apart (client : Client) (h : AskZones names asked)
    (distinct : names.Pairwise fun name other =>
      Url.Form.encodeText name ≠ Url.Form.encodeText other) :
    asked.Pairwise (Apart client) := by
  induction h with
  | stop names => exact .nil
  | @ask name names count later some_pages bounded rest ih =>
    obtain ⟨first, others⟩ := List.pairwise_cons.mp distinct
    refine List.pairwise_append.mpr ⟨?_, ih others, ?_⟩
    · exact pairwise_pages (fun page next numbered => zones_apart_of_page client name numbered)
        bounded
    · intro command mem other listed
      obtain ⟨page, rfl⟩ := exists_page_of_mem_pages mem
      obtain ⟨title, among, next, rfl⟩ := rest.exists_zones other listed
      exact zones_apart_of_name client page next (first title among)

end AskZones

end Command

namespace Operation.Work

variable {operation : Operation} {zone : String} {work : List Command}

theorem pairwise_apart (client : Client) (h : Work operation zone work) :
    work.Pairwise (Command.Apart client) := by
  cases h with
  | list key zone some_pages bounded =>
    exact Command.pairwise_pages
      (fun page next _ => Command.records_apart_of_page client zone _ _) bounded
  | create | update | delete => exact List.pairwise_singleton ..
  | resolve => exact .nil

/-- No request for zones is like one of the work. -/
theorem zones_apart (client : Client) (h : Work operation zone work) (name : String)
    (page : UInt32) : ∀ command ∈ work, (Command.zones name page).Apart client command := by
  intro command mem
  cases h with
  | list key =>
    obtain ⟨next, rfl⟩ := Command.exists_page_of_mem_pages mem
    exact Command.zones_apart_records client name zone key.domain.wireName key.family page next
  | create | update | delete =>
    rw [List.mem_singleton.mp mem]
    exact .method (fun same => nomatch same)
  | resolve => cases mem

/-- A change comes last. -/
theorem get_of_mem_dropLast (client : Client) (h : Work operation zone work) :
    ∀ command ∈ work.dropLast, (command.call client).method = .get := by
  intro command mem
  cases h with
  | list key =>
    obtain ⟨page, rfl⟩ := Command.exists_page_of_mem_pages (List.dropLast_subset _ mem)
    rfl
  | create | update | delete | resolve => cases mem

/-- A change is one command. -/
theorem eq_of_isChange (changes : operation.IsChange) {other : List Command}
    (h : Work operation zone work) (same : Work operation zone other) : work = other := by
  cases h with
  | list | resolve => cases changes
  | create | update | delete =>
    cases same
    rfl

end Operation.Work

namespace Command.AskZones

variable {names : List String} {asked work : List Command} {operation : Operation}
  (client : Client) (asks : AskZones names asked)
  (working : work = [] ∨ ∃ zone, operation.Work zone work)

include asks working

theorem pairwise_append (distinct : names.Pairwise fun name other =>
      Url.Form.encodeText name ≠ Url.Form.encodeText other) :
    (asked ++ work).Pairwise (Command.Apart client) := by
  have first := asks.pairwise_apart client distinct
  rcases working with rfl | ⟨zone, works⟩
  · rw [List.append_nil]
    exact first
  · refine List.pairwise_append.mpr ⟨first, works.pairwise_apart client, ?_⟩
    intro command mem
    obtain ⟨name, -, page, rfl⟩ := asks.exists_zones command mem
    exact works.zones_apart client name page

theorem get_of_mem_dropLast :
    ∀ command ∈ (asked ++ work).dropLast, (command.call client).method = .get := by
  have first : ∀ command ∈ asked, (command.call client).method = .get := by
    intro command mem
    obtain ⟨name, -, page, rfl⟩ := asks.exists_zones command mem
    rfl
  intro command mem
  by_cases none : work = []
  · rw [none, List.append_nil] at mem
    exact first command (List.dropLast_subset _ mem)
  · rw [List.dropLast_append_of_ne_nil none] at mem
    obtain ⟨zone, works⟩ := working.resolve_left none
    rcases List.mem_append.mp mem with before | inside
    · exact first command before
    · exact works.get_of_mem_dropLast client command inside

end Command.AskZones

end AddressRecords
