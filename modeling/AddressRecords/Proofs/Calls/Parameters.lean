import AddressRecords.Proofs.Calls.Query
import AddressRecords.Proofs.Calls.Sent

/-!
What an API is asked for when it lists zones or records. Each request for a page has the parameters
of that page, in their order, and none besides, whatever characters are in the names that were
looked for.
-/

namespace AddressRecords

open Api (Call Client RawRecord RawZone Reply Request Service)

variable {σ : Type}

namespace Api.Client

/-! Parameters. -/

/-- Of the zones with a name: the first page is asked for without its number. -/
def zoneParameters (account? : Option String) (name : String) (page : Nat) :
    List (String × String) :=
  let shown := ("name", name) :: ("per_page", "50") ::
    if 1 < page then [("page", toString page)] else []
  match account? with
  | some account => ("account.id", account) :: shown
  | none => shown

/-- Of the records with a name and a type. -/
def recordParameters (name recordType : String) (page : Nat) : List (String × String) :=
  [("name", name), ("page", toString page), ("type", recordType)]

/-- What is sent for the pages of a list at a path: nothing if no request can be, or else one
request for each of the first pages. -/
inductive Asks (client : Client) (path : String) (parameters : Nat → List (String × String)) :
    List Request → Prop
  | unsent (unusable : ∀ call : Call, call.path = path →
      ∀ request, client.request call ≠ .ok request) : Asks client path parameters []
  | pages {sent : List Request} {count : Nat} {url : Url} (some_pages : 0 < count)
      (bounded : count < UInt32.size) (read : Url.ofText? (client.baseUrl ++ path) = some url)
      (located : ∀ request ∈ sent, { request.url with query := none } = url)
      (asked : sent.map Request.pairs = (List.range' 1 count).map parameters) :
      Asks client path parameters sent

section

variable {number : Nat} (small : number < UInt32.size)

include small

theorem toString_page : toString (UInt32.ofNat number) = toString number := by
  have same : (UInt32.ofNat number).toNat = number := UInt32.toNat_ofNat_of_lt' small
  exact congrArg toString same

theorem zoneQuery_eq (client : Client) (name : String) :
    client.zoneQuery name (UInt32.ofNat number) = zoneParameters client.accountId name number := by
  have later : 1 < UInt32.ofNat number ↔ 1 < number := by
    rw [UInt32.lt_iff_toNat_lt, UInt32.toNat_ofNat_of_lt' small]
    rfl
  unfold zoneQuery zoneParameters
  rw [toString_page small]
  simp only [later]
  cases client.accountId <;> rfl

theorem recordQuery_eq (name recordType : String) :
    recordQuery name recordType (UInt32.ofNat number) =
      recordParameters name recordType number := by
  rw [recordQuery, toString_page small, recordParameters]

end

/-! Requests. -/

variable {client : Client}

theorem isSendable_appendPairs (url : Url) (pairs : List (String × String)) :
    isSendable (url.appendPairs pairs) = isSendable url := by
  unfold Url.appendPairs
  split <;> rfl

/-- Whether a call becomes a request is up to its path, and not to its query. -/
theorem exists_request_iff {call : Call} {url : Url}
    (read : Url.ofText? (client.baseUrl ++ call.path) = some url) :
    (∃ sent, client.request call = .ok sent) ↔
      hasHost url ∧ isHeaderValue client.authorization ∧ isSendable url := by
  unfold Client.request
  rw [read]
  dsimp only
  rw [isSendable_appendPairs]
  by_cases hosted : hasHost url = true
  · by_cases signed : isHeaderValue client.authorization = true
    · by_cases sendable : isSendable url = true
      · simp [hosted, signed, sendable]
      · simp [hosted, signed, sendable]
    · simp [hosted, signed]
  · simp [hosted]

theorem exists_request_of_path {call other : Call} (same : call.path = other.path)
    {sent : Request} (written : client.request call = .ok sent) :
    ∃ also, client.request other = .ok also := by
  obtain ⟨url, read, -, -⟩ := exists_url_of_request written
  have conditions := (exists_request_iff read).mp ⟨sent, written⟩
  rw [same] at read
  exact (exists_request_iff read).mpr conditions

/-- Calls that all become requests send what they ask for. -/
theorem map_pairs_requests {calls : List Call}
    (sendable : ∀ call ∈ calls, ∃ request, client.request call = .ok request ∧
      request.pairs = call.query) :
    (client.requests calls).map Request.pairs = calls.map (·.query) := by
  induction calls with
  | nil => rfl
  | cons call rest ih =>
    obtain ⟨⟨request, written, pairs⟩, later⟩ := List.forall_mem_cons.mp sendable
    have first : client.requests (call :: rest) = request :: client.requests rest := by
      simp only [requests, List.filterMap_cons, written, Except.toOption]
    rw [first, List.map_cons, List.map_cons, pairs, ih later]

theorem requests_of_unusable {calls : List Call}
    (unusable : ∀ call ∈ calls, ∀ request, client.request call ≠ .ok request) :
    client.requests calls = [] := by
  apply List.eq_nil_iff_forall_not_mem.mpr
  intro request mem
  obtain ⟨call, among, written⟩ := exists_call_of_mem_requests mem
  exact unusable call among request written

/-! Lists. -/

/-- What is sent for the first pages of a list at a path without a question mark. -/
theorem asks_requests (unasked : '?' ∉ client.baseUrl.toList) {path : String}
    (plain : '?' ∉ path.toList) {parameters : Nat → List (String × String)}
    (command : UInt32 → Command) (located : ∀ page, ((command page).call client).path = path)
    (query : ∀ number < UInt32.size,
      ((command (UInt32.ofNat number)).call client).query = parameters number)
    {count : Nat} (some_pages : 0 < count) (bounded : count < UInt32.size) :
    Asks client path parameters
      (client.requests ((Command.pages command count).map (·.call client))) := by
  have paths : ∀ call ∈ (Command.pages command count).map (·.call client), call.path = path := by
    intro call mem
    obtain ⟨asked, among, rfl⟩ := List.mem_map.mp mem
    obtain ⟨page, rfl⟩ := Command.exists_page_of_mem_pages among
    exact located page
  by_cases usable : ∃ call : Call, call.path = path ∧ ∃ request, client.request call = .ok request
  · obtain ⟨call, there, request, written⟩ := usable
    obtain ⟨url, read, -, -⟩ := exists_url_of_request written
    rw [there] at read
    have bare : url.query = none := by
      apply Url.query_of_ofText? _ read
      rw [String.toList_append, List.mem_append, not_or]
      exact ⟨unasked, plain⟩
    refine .pages some_pages bounded read ?_ ?_
    · intro sent mem
      obtain ⟨other, among, also⟩ := exists_call_of_mem_requests mem
      obtain ⟨place, found, -, asks⟩ := exists_url_of_request also
      rw [paths other among, read] at found
      cases found
      have elsewhere : { url with query := none } = url := bare ▸ rfl
      rw [asks, Url.appendPairs]
      split <;> exact elsewhere
    · rw [map_pairs_requests, Command.pages, List.map_map, List.map_map]
      · apply List.map_congr_left
        intro number mem
        have inside := List.mem_range'_1.mp mem
        exact query number (by omega)
      · intro other among
        have same := paths other among
        obtain ⟨also, sent⟩ := exists_request_of_path (there.trans same.symm) written
        exact ⟨also, sent, pairs_of_request sent unasked (same ▸ plain)⟩
  · have unusable : ∀ call : Call, call.path = path →
        ∀ request, client.request call ≠ .ok request := by
      intro call there request written
      exact usable ⟨call, there, request, written⟩
    rw [requests_of_unusable fun call mem => unusable call (paths call mem)]
    exact .unsent unusable

variable (api : Service σ)

/-- The API gets the requests that fetching a list sends. -/
theorem journal_fetchAll {α : Type} (reader : Json.Reader α) (path : String)
    (query : UInt32 → List (String × String)) (state : List Request × σ) :
    let done := fetchAll api.recorded client reader path query state
    done.state.1 = state.1 ++ client.requests done.calls := by
  have anything : ∀ call : Call, call.method = .get → True := fun _ _ => trivial
  exact (asks_fetchAll anything reader path query state).journal_eq

/-- However the API answers, it is asked for pages with just these parameters, which are read out
of the queries as they are. A base URL without a question mark has no query. -/
theorem lists_ask_exactly (unasked : '?' ∉ client.baseUrl.toList) :
    (∀ name state, ∃ sent, (client.listZones api.recorded name state).state.1 = state.1 ++ sent ∧
      Asks client "/zones" (zoneParameters client.accountId name) sent) ∧
    (∀ zone name recordType state, '?' ∉ zone.toList → ∃ sent,
      (client.listRecords api.recorded zone name recordType state).state.1 = state.1 ++ sent ∧
      Asks client (recordsPath zone) (recordParameters name recordType) sent) := by
  constructor
  · intro name state
    obtain ⟨count, some_pages, bounded, calls⟩ := client.calls_listZones api.recorded name state
    refine ⟨_, journal_fetchAll api _ _ _ state, ?_⟩
    rw [show (fetchAll api.recorded client RawZone.reader "/zones" (client.zoneQuery name)
      state).calls = _ from calls]
    apply asks_requests unasked (by decide) (.zones name) (fun _ => rfl) _ some_pages bounded
    intro number small
    exact zoneQuery_eq small client name
  · intro zone name recordType state plain
    obtain ⟨count, some_pages, bounded, calls⟩ :=
      client.calls_listRecords api.recorded zone name recordType state
    refine ⟨_, journal_fetchAll api _ _ _ state, ?_⟩
    have quiet : '?' ∉ (recordsPath zone).toList := by
      simp [recordsPath, toString, plain]
    rw [show (fetchAll api.recorded client RawRecord.reader (recordsPath zone)
      (recordQuery name recordType) state).calls = _ from calls]
    apply asks_requests unasked quiet (.records zone name recordType) (fun _ => rfl) _ some_pages
      bounded
    intro number small
    exact recordQuery_eq small name recordType

end Api.Client

/-! An account and a name with every sign that has a meaning in a query. -/

namespace Hostile

private def client : Client := ⟨"http://mock/v4", "token", some "a&name=b"⟩

private def name : String := "x&account.id=c#d+e%46 ü?"

/-- Two pages without zones. -/
private def replies : List Reply :=
  List.replicate 2 ⟨⟨200⟩, "\x7b\"success\":true,\"result\":[]," ++
    "\"result_info\":\x7b\"total_pages\":2\x7d\x7d"⟩

theorem lists_ask_exactly_hostile :
    let asked := (client.listZones Service.rehearsed.recorded name ([], replies)).state.1
    '?' ∉ client.baseUrl.toList ∧
      asked.map Request.pairs =
        [[("account.id", "a&name=b"), ("name", name), ("per_page", "50")],
          [("account.id", "a&name=b"), ("name", name), ("per_page", "50"), ("page", "2")]] ∧
      client.Asks "/zones" (Client.zoneParameters client.accountId name) asked := by
  intro asked
  have unasked : '?' ∉ client.baseUrl.toList := by decide
  obtain ⟨sent, journal, asks⟩ :=
    (Client.lists_ask_exactly Service.rehearsed unasked).1 name ([], replies)
  have all : asked = sent := journal
  rw [← all] at asks
  exact ⟨unasked, by decide +kernel, asks⟩

end Hostile

end AddressRecords
