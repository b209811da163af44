import AddressRecords.Proofs.Calls.Listing

/-!
A list in pages, told from the answers to its requests alone: the pages come in their order, each
asked for once, up to the first that fails or is the last by its own account. The list is all that
these pages hold, or the failure of the last one.
-/

namespace AddressRecords

open Api (Envelope Listing RawRecord RawZone Reply Service TransportFault)
open Api.Client (Page)

variable {σ α : Type}

namespace Api.Listing

theorem asked_of_whole {listing : Listing α} (whole : listing.failure? = none) :
    listing.asked = listing.pages.length := by
  rw [asked, whole]
  rfl

theorem asked_of_failed {listing : Listing α} {failure : Failure}
    (failed : listing.failure? = some failure) : listing.asked = listing.pages.length + 1 := by
  rw [asked, failed]
  rfl

theorem asked_le (listing : Listing α) : listing.asked ≤ listing.pages.length + 1 :=
  Nat.add_le_add_left Option.length_toList_le _

end Api.Listing

namespace Api.Client

/-! One page. -/

/-- What the answer to the request for a page comes to: one of the ways to fail, or a page with the
number of pages that it reports. -/
inductive Shows (reader : Json.Reader α) :
    Except TransportFault Reply → Except Failure (Page α) → Prop
  | cut (fault : TransportFault) : Shows reader (.error fault) (.error (.transport fault))
  | refused {reply : Reply} (status : ¬ reply.status.isSuccess) :
      Shows reader (.ok reply) (.error (.ofReply reply.status reply.text))
  | unreadable {reply : Reply} {fault : Json.Fault} (status : reply.status.isSuccess)
      (read : Json.readText (Envelope.reader reader.list) reply.text = .error fault) :
      Shows reader (.ok reply) (.error (.decode fault))
  | unsuccessful {reply : Reply} {envelope : Envelope (List α)} (status : reply.status.isSuccess)
      (read : Json.readText (Envelope.reader reader.list) reply.text = .ok envelope)
      (failed : ¬ envelope.success) :
      Shows reader (.ok reply) (.error (.unsuccessful (summarize envelope.errors)
        (reportsMissingRecord envelope.errors)))
  | incomplete {reply : Reply} {envelope : Envelope (List α)} (status : reply.status.isSuccess)
      (read : Json.readText (Envelope.reader reader.list) reply.text = .ok envelope)
      (success : envelope.success) (missing : envelope.result = none) :
      Shows reader (.ok reply) (.error (.incomplete "result list"))
  | counted {reply : Reply} {envelope : Envelope (List α)} {items : List α} {info : ResultInfo}
      (status : reply.status.isSuccess)
      (read : Json.readText (Envelope.reader reader.list) reply.text = .ok envelope)
      (success : envelope.success) (result : envelope.result = some items)
      (reported : envelope.resultInfo = some info) :
      Shows reader (.ok reply) (.ok ⟨items, info.totalPages⟩)
  | uncounted {reply : Reply} {envelope : Envelope (List α)} {items : List α}
      (status : reply.status.isSuccess)
      (read : Json.readText (Envelope.reader reader.list) reply.text = .ok envelope)
      (success : envelope.success) (result : envelope.result = some items)
      (unreported : envelope.resultInfo = none) : Shows reader (.ok reply) (.ok ⟨items, 0⟩)

variable {reader : Json.Reader α} {answer : Except TransportFault Reply}

theorem shows_judge (reader : Json.Reader α) (answer : Except TransportFault Reply) :
    Shows reader answer ((judge reader.list answer).bind Page.ofEnvelope) := by
  cases answer with
  | error fault => exact .cut fault
  | ok reply =>
    unfold judge
    dsimp only
    by_cases status : reply.status.isSuccess
    · rw [status, Bool.not_true, if_neg (by decide)]
      cases read : Json.readText (Envelope.reader reader.list) reply.text with
      | error fault => exact .unreadable status read
      | ok envelope =>
        dsimp only
        by_cases success : envelope.success
        · rw [if_pos success]
          change Shows reader _ (Page.ofEnvelope envelope)
          unfold Page.ofEnvelope
          cases result : envelope.result with
          | none => exact .incomplete status read success result
          | some items =>
            cases reported : envelope.resultInfo with
            | none => exact .uncounted status read success result reported
            | some info => exact .counted status read success result reported
        · rw [if_neg success]
          exact .unsuccessful status read success
    · rw [Bool.not_eq_true] at status
      rw [status, Bool.not_false, if_pos rfl]
      exact .refused (by simp [status])

/-- An answer tells for itself what it comes to. -/
theorem Shows.eq_judge {shown : Except Failure (Page α)} (h : Shows reader answer shown) :
    shown = (judge reader.list answer).bind Page.ofEnvelope := by
  cases h with
  | cut fault => rfl
  | refused status => simp [judge, status, Except.bind]
  | unreadable status read => simp [judge, status, read, Except.bind]
  | unsuccessful status read failed => simp [judge, status, read, failed, Except.bind]
  | incomplete status read success missing =>
    simp [judge, status, read, success, Page.ofEnvelope, missing, Except.bind]
  | counted status read success result reported =>
    simp [judge, status, read, success, Page.ofEnvelope, result, reported, Except.bind]
  | uncounted status read success result unreported =>
    simp [judge, status, read, success, Page.ofEnvelope, result, unreported, Except.bind]

theorem Shows.unique {one other : Except Failure (Page α)} (h : Shows reader answer one)
    (also : Shows reader answer other) : one = other :=
  h.eq_judge.trans also.eq_judge.symm

/-! Pages in their order. -/

section

variable (api : Service σ) (client : Client) (command : UInt32 → Command) (state : σ)

/-- The state of the API once the first pages of a list have been asked for. -/
def afterPages : Nat → σ
  | 0 => state
  | count + 1 =>
    (attempt api client ((command (UInt32.ofNat (count + 1))).call client) (afterPages count)).state

/-- The answer to the request for a page, once those before it have been asked for. -/
def pageAnswer (number : Nat) : Except TransportFault Reply :=
  (attempt api client ((command (UInt32.ofNat number)).call client)
    (afterPages api client command state (number - 1))).value

/-- The pages that came of a list asked for from its first page on, and what became of it. -/
structure Paginates (reader : Json.Reader α) (done : Outcome σ (Except Failure (List α)))
    (listing : Listing α) : Prop where
  /-- Each page up to the last one is asked for once, in their order, and nothing else is. -/
  calls : done.calls = (Command.pages command listing.asked).map (·.call client)
  reached : done.state = afterPages api client command state listing.asked
  some_page : 0 < listing.asked
  bounded : listing.asked < UInt32.size
  /-- All the items or one failure. -/
  value : done.value = listing.list
  shown : ∀ index page, listing.pages[index]? = some page →
    Shows reader (pageAnswer api client command state (index + 1)) (.ok page)
  goes_on : ∀ index page, listing.pages[index]? = some page → index + 1 < listing.asked →
    index + 1 < page.total.toNat
  fails : ∀ failure, listing.failure? = some failure →
    Shows reader (pageAnswer api client command state listing.asked) (.error failure)
  ends : listing.failure? = none → ∃ page, listing.pages.getLast? = some page ∧
    page.total.toNat ≤ listing.asked
  /-- Where all pages report one number of pages, that many are fetched. -/
  uniform : ∀ total : UInt32, 0 < total →
    (∀ number, 0 < number → number ≤ total.toNat → ∃ page,
      Shows reader (pageAnswer api client command state number) (.ok page) ∧ page.total = total) →
    listing.failure? = none ∧ listing.asked = total.toNat

/-- The same of pages from the one numbered `number` on. -/
structure FollowsFrom (reader : Json.Reader α) (number : Nat) (listing : Listing α) (after : σ) :
    Prop where
  reached : after = afterPages api client command state (number - 1 + listing.asked)
  shown : ∀ index page, listing.pages[index]? = some page →
    Shows reader (pageAnswer api client command state (number + index)) (.ok page)
  goes_on : ∀ index page, listing.pages[index]? = some page → index + 1 < listing.asked →
    number + index < page.total.toNat
  fails : ∀ failure, listing.failure? = some failure →
    Shows reader (pageAnswer api client command state (number + listing.pages.length))
      (.error failure)
  ends : listing.failure? = none → ∃ page, listing.pages.getLast? = some page ∧
    page.total.toNat < number + listing.pages.length

end

variable {api : Service σ} {client : Client} {command : UInt32 → Command} {state : σ}

namespace FollowsFrom

variable {number : Nat} {after : σ}

theorem of_failure {failure : Failure}
    (shows : Shows reader (pageAnswer api client command state number) (.error failure))
    (reached : after = afterPages api client command state (number - 1 + 1)) :
    FollowsFrom api client command state reader number ⟨[], some failure⟩ after := by
  constructor
  case reached => exact reached
  case shown => simp
  case goes_on => simp
  case fails =>
    rintro _ ⟨⟩
    exact shows
  case ends => simp

theorem of_last {page : Page α}
    (shows : Shows reader (pageAnswer api client command state number) (.ok page))
    (last : page.total.toNat ≤ number)
    (reached : after = afterPages api client command state (number - 1 + 1)) :
    FollowsFrom api client command state reader number ⟨[page], none⟩ after := by
  constructor
  case reached => exact reached
  case shown =>
    intro index other first
    obtain ⟨rfl, rfl⟩ : index = 0 ∧ page = other := by
      simpa [List.getElem?_singleton] using first
    exact shows
  case goes_on =>
    intro index other _ further
    simp [Listing.asked] at further
  case fails => simp
  case ends => exact fun _ => ⟨page, rfl, Nat.lt_succ_of_le last⟩

theorem behind {page : Page α} {later : Listing α}
    (shows : Shows reader (pageAnswer api client command state number) (.ok page))
    (below : number < page.total.toNat) (numbered : 0 < number)
    (h : FollowsFrom api client command state reader (number + 1) later after) :
    FollowsFrom api client command state reader number (later.behind page) after := by
  constructor
  case reached =>
    rw [h.reached, Listing.asked_behind]
    congr 1
    omega
  case shown =>
    intro index other there
    cases index with
    | zero =>
      obtain rfl : page = other := Option.some.inj there
      exact shows
    | succ index =>
      have among := h.shown index other there
      rwa [Nat.add_right_comm] at among
  case goes_on =>
    intro index other there further
    rw [Listing.asked_behind] at further
    cases index with
    | zero =>
      obtain rfl : page = other := Option.some.inj there
      exact below
    | succ index =>
      have among := h.goes_on index other there (by omega)
      omega
  case fails =>
    intro failure failed
    have among := h.fails failure failed
    rwa [Nat.add_right_comm] at among
  case ends =>
    intro whole
    obtain ⟨last, final, within⟩ := h.ends whole
    refine ⟨last, ?_, ?_⟩
    · rw [Listing.behind, List.getLast?_cons, final]
      rfl
    · rw [Listing.behind, List.length_cons]
      omega

end FollowsFrom

section

variable {path : String} {query : UInt32 → List (String × String)}
  (asks : ∀ page, (command page).call client = ⟨.get, path, query page, none⟩)

include asks

theorem fetchPage_apply (page : UInt32) (before : σ) :
    let exchange := attempt api client ((command page).call client) before
    (fetchPage api client reader path query page before).value =
      (judge reader.list exchange.value).bind Page.ofEnvelope ∧
    (fetchPage api client reader path query page before).state = exchange.state := by
  rw [asks]
  simp [fetchPage, send]

/-- Pages that are gathered come one after the other. -/
theorem Gathers.followsFrom {page : UInt32} {before after : σ} {listing : Listing α}
    (h : Gathers (fetchPage api client reader path query) page before listing after)
    (numbered : 0 < page.toNat)
    (here : before = afterPages api client command state (page.toNat - 1)) :
    FollowsFrom api client command state reader page.toNat listing after := by
  have shown (page : UInt32) : Shows reader
      (pageAnswer api client command state page.toNat)
      (fetchPage api client reader path query page
        (afterPages api client command state (page.toNat - 1))).value := by
    rw [(fetchPage_apply asks page _).1, pageAnswer, UInt32.ofNat_toNat]
    exact shows_judge _ _
  have following (page : UInt32) (numbered : 0 < page.toNat) :
      (fetchPage api client reader path query page
        (afterPages api client command state (page.toNat - 1))).state =
      afterPages api client command state (page.toNat - 1 + 1) := by
    have same : UInt32.ofNat (page.toNat - 1 + 1) = page := by
      rw [Nat.sub_add_cancel numbered, UInt32.ofNat_toNat]
    rw [(fetchPage_apply asks page _).2, afterPages, same]
  induction h with
  | @fails page before failure given =>
    subst here
    exact .of_failure (given ▸ shown page) (following page numbered)
  | @ends page before fetched given last =>
    subst here
    have covered := UInt32.le_iff_toNat_le.mp last
    exact .of_last (given ▸ shown page) covered (following page numbered)
  | @goes_on page before after fetched later given below rest ih =>
    subst here
    have next : (page + 1).toNat = page.toNat + 1 := toNat_succ_of_lt below
    have follows := ih (by omega) (by
      rw [following page numbered, next]
      congr 1
      omega)
    rw [next] at follows
    exact follows.behind (given ▸ shown page) (UInt32.lt_iff_toNat_lt.mp below) numbered

end

/-- Where all pages report one number of pages, that many are fetched. -/
theorem FollowsFrom.uniform {listing : Listing α} {after : σ}
    (h : FollowsFrom api client command state reader 1 listing after) {total : UInt32}
    (positive : 0 < total)
    (reports : ∀ number, 0 < number → number ≤ total.toNat → ∃ page,
      Shows reader (pageAnswer api client command state number) (.ok page) ∧ page.total = total) :
    listing.failure? = none ∧ listing.asked = total.toNat := by
  have some_total : 0 < total.toNat := UInt32.lt_iff_toNat_lt.mp positive
  have reported {index : Nat} {page : Page α} (there : listing.pages[index]? = some page)
      (within : index < total.toNat) : page.total = total := by
    obtain ⟨other, shows, same⟩ := reports (1 + index) (by omega) (by omega)
    cases (h.shown index page there).unique shows
    exact same
  have asked_le : listing.asked ≤ total.toNat := by
    refine Nat.le_of_not_lt fun beyond => ?_
    have short := listing.asked_le
    have there : total.toNat - 1 < listing.pages.length := by omega
    have found := List.getElem?_eq_getElem there
    have more := h.goes_on _ _ found (by omega)
    rw [reported found (by omega)] at more
    omega
  cases failed : listing.failure? with
  | some failure =>
    have asked := Listing.asked_of_failed failed
    obtain ⟨page, shows, -⟩ := reports (1 + listing.pages.length) (by omega) (by omega)
    cases (h.fails failure failed).unique shows
  | none =>
    have asked := Listing.asked_of_whole failed
    obtain ⟨last, final, within⟩ := h.ends failed
    rw [List.getLast?_eq_getElem?] at final
    have some_page : listing.pages ≠ [] := by
      rintro none
      rw [none] at final
      cases final
    have positive := List.length_pos_iff.mpr some_page
    have same := reported final (by omega)
    rw [same] at within
    exact ⟨rfl, by omega⟩

theorem fetchAll_paginates {path : String} {query : UInt32 → List (String × String)}
    (asks : ∀ page, (command page).call client = ⟨.get, path, query page, none⟩) (state : σ) :
    ∃ listing, Paginates api client command state reader
      (fetchAll api client reader path query state) listing := by
  obtain ⟨listing, gathers, value, calls⟩ := fetchAll_gathers api client reader path query asks state
  have follows : FollowsFrom api client command state reader 1 listing
      (fetchAll api client reader path query state).state :=
    gathers.followsFrom asks (by decide) rfl
  have some_page : 0 < listing.asked := by
    cases failed : listing.failure? with
    | some failure => exact Listing.asked_of_failed failed ▸ Nat.succ_pos _
    | none =>
      obtain ⟨last, final, -⟩ := follows.ends failed
      exact Listing.asked_of_whole failed ▸ List.length_pos_of_mem (List.mem_of_getLast? final)
  refine ⟨listing, ?_⟩
  constructor
  case calls => exact calls
  case reached => rw [follows.reached, Nat.sub_self, Nat.zero_add]
  case some_page => exact some_page
  case bounded =>
    -- The page before the last one reports more pages than its own number.
    by_cases one : listing.asked = 1
    · rw [one]
      decide
    · have short := listing.asked_le
      have there : listing.asked - 2 < listing.pages.length := by omega
      have more := follows.goes_on _ _ (List.getElem?_eq_getElem there) (by omega)
      have := (listing.pages[listing.asked - 2]).total.toNat_lt_size
      omega
  case value => exact value
  case shown =>
    intro index page there
    rw [Nat.add_comm]
    exact follows.shown index page there
  case goes_on =>
    intro index page there further
    rw [Nat.add_comm]
    exact follows.goes_on index page there further
  case fails =>
    intro failure failed
    rw [Listing.asked_of_failed failed, Nat.add_comm]
    exact follows.fails failure failed
  case ends =>
    intro whole
    obtain ⟨last, final, within⟩ := follows.ends whole
    have asked := Listing.asked_of_whole whole
    exact ⟨last, final, by omega⟩
  case uniform => exact fun total => follows.uniform

/-- Every list, of zones or of records, is fetched page by page, whatever the API answers. -/
theorem paginates_lists (api : Service σ) (client : Client) (state : σ) :
    (∀ name, ∃ listing, Paginates api client (.zones name) state RawZone.reader
      (client.listZones api name state) listing) ∧
    ∀ zone name recordType, ∃ listing, Paginates api client (.records zone name recordType) state
      RawRecord.reader (client.listRecords api zone name recordType state) listing :=
  ⟨fun _ => fetchAll_paginates (fun _ => rfl) state,
    fun _ _ _ => fetchAll_paginates (fun _ => rfl) state⟩

end Api.Client

end AddressRecords
