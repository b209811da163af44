import AddressRecords.Proofs.Remote.Faithful

/-!
What the client makes of a faithful remote: a list that it gets is whole, a change that succeeds
was made, and one that fails was not.
-/

namespace AddressRecords

open Api (Call Client Envelope NewRecord RawRecord RawZone RecordPatch Service)
open Api.Client (Page)

variable {σ α : Type}

/-! One call. -/

/-- How a call can end. -/
inductive Sent (api : Service σ) (client : Client) (reader : Json.Reader α) (call : Call)
    (state : σ) : Except Api.Failure (Envelope α) → σ → Prop
  | unsendable {fault : Api.TransportFault} (unwritten : client.request call = .error fault) :
      Sent api client reader call state (.error (.transport fault)) state
  | confirmed {request : Api.Request} {envelope : Envelope α}
      (written : client.request call = .ok request)
      (confirms : Confirms reader (api.answer request state).1 envelope) :
      Sent api client reader call state (.ok envelope) (api.answer request state).2
  | refused {request : Api.Request} {failure : Api.Failure}
      (written : client.request call = .ok request)
      (refuses : ∀ envelope, ¬ Confirms reader (api.answer request state).1 envelope) :
      Sent api client reader call state (.error failure) (api.answer request state).2

/-- A reply is judged a success just when it confirms one. -/
theorem judge_eq_ok_iff (reader : Json.Reader α) (reply : Api.Reply) (envelope : Envelope α) :
    Client.judge reader (.ok reply) = .ok envelope ↔ Confirms reader (.ok reply) envelope := by
  constructor
  · intro judged
    unfold Client.judge at judged
    dsimp only at judged
    split at judged
    · cases judged
    · rename_i accepted
      split at judged
      · cases judged
      · split at judged
        · cases judged
          exact ⟨reply, rfl, by simpa using accepted, ‹_›, ‹_›⟩
        · cases judged
  · rintro ⟨_, ⟨⟩, accepted, read, success⟩
    simp [Client.judge, accepted, read, success]

theorem sent (api : Service σ) (client : Client) (reader : Json.Reader α) (call : Call)
    (state : σ) :
    Sent api client reader call state (Client.send api client reader call state).value
      (Client.send api client reader call state).state := by
  cases written : client.request call with
  | error fault =>
    rw [Client.send, Act.value_map, Act.state_map, Client.attempt, written]
    exact .unsendable written
  | ok request =>
    have confirmed := @Sent.confirmed σ α api client reader call state request
    have refused := @Sent.refused σ α api client reader call state request
    rw [Client.send, Act.value_map, Act.state_map, Client.attempt, written]
    dsimp only
    generalize api.answer request state = exchange at confirmed refused
    obtain ⟨answer, after⟩ := exchange
    cases answer with
    | error interruption =>
      have cut : ∀ envelope, ¬ Confirms reader (.error interruption) envelope := by
        rintro envelope ⟨reply, impossible, _⟩
        cases impossible
      cases interruption <;> exact refused written cut
    | ok reply =>
      dsimp only
      cases judged : Client.judge reader (.ok reply) with
      | ok envelope => exact confirmed written ((judge_eq_ok_iff reader reply envelope).mp judged)
      | error failure =>
        refine refused written fun envelope confirms => ?_
        rw [(judge_eq_ok_iff reader reply envelope).mpr confirms] at judged
        cases judged

theorem Confirms.unique {reader : Json.Reader α} {answer : Except Api.Interruption Api.Reply}
    {first second : Envelope α} (one : Confirms reader answer first)
    (two : Confirms reader answer second) : first = second := by
  obtain ⟨reply, rfl, _, read, _⟩ := one
  obtain ⟨_, ⟨⟩, _, same, _⟩ := two
  rw [read] at same
  exact Except.ok.inj same

/-- What is settled by a remote, the client knows of. -/
theorem send_of_settles {api : Service σ} {client : Client} {reader : Json.Reader α}
    {call : Call} {state : σ} (unchanged : σ → Prop) (made : Envelope α → σ → Prop)
    (still : unchanged state)
    (settles : ∀ request, client.request call = .ok request →
      let exchange := api.answer request state
      Settles reader exchange.1 (unchanged exchange.2) fun envelope => made envelope exchange.2) :
    let done := Client.send api client reader call state
    ((∃ failure, done.value = .error failure) ∧ unchanged done.state) ∨
    ∃ envelope, done.value = .ok envelope ∧ made envelope done.state := by
  have ended := sent api client reader call state
  dsimp only
  generalize (Client.send api client reader call state).value = answer at ended
  generalize (Client.send api client reader call state).state = after at ended
  cases ended with
  | unsendable unwritten => exact .inl ⟨⟨_, rfl⟩, still⟩
  | refused written refuses =>
    rcases settles _ written with ⟨_, same⟩ | ⟨envelope, confirms, _⟩
    · exact .inl ⟨⟨_, rfl⟩, same⟩
    · exact absurd confirms (refuses envelope)
  | confirmed written confirms =>
    rcases settles _ written with ⟨refuses, _⟩ | ⟨envelope, same, done⟩
    · exact absurd confirms (refuses _)
    · exact .inr ⟨envelope, congrArg Except.ok (confirms.unique same), done⟩

/-! Lists. -/

/-- How a page of some list is fetched, when nothing that is `kept` changes on the way. -/
structure Fetches {κ : Type} (fetch : UInt32 → Act σ (Except Api.Failure (Page α)))
    (paging : σ → Paging α) (kept : σ → κ) : Prop where
  keeps : ∀ page state, kept (fetch page state).state = kept state
  follows : ∀ page state, page ≠ 1 → paging (fetch page state).state = paging state
  shows : ∀ page state fetched items, (fetch page state).value = .ok fetched →
    (paging (fetch page state).state).page? page = some items →
    fetched = ⟨items, (paging (fetch page state).state).total⟩

/-- The items are those of all pages before `page`, which is there. -/
def Paging.Collected (paging : Paging α) (page : UInt32) (items : List α) : Prop :=
  0 < page.toNat ∧ page.toNat ≤ paging.pages.length ∧
    items = (paging.pages.take (page.toNat - 1)).flatten

namespace Paging

theorem collected_one (paging : Paging α) : paging.Collected 1 [] := by
  have one : (1 : UInt32).toNat = 1 := rfl
  refine ⟨by decide, ?_, rfl⟩
  rw [one, paging.length_pages]
  exact Nat.le_max_left ..

variable {paging : Paging α} {page : UInt32} {items shown : List α}

/-- Where only the first page was due, any other paging will do. -/
theorem Collected.follow (h : paging.Collected page items) {next : Paging α}
    (follows : page ≠ 1 → next = paging) : next.Collected page items := by
  by_cases first : page = 1
  · subst first
    have none : items = [] := h.2.2
    exact none ▸ next.collected_one
  · exact follows first ▸ h

theorem Collected.exists_page (h : paging.Collected page items) :
    ∃ shown, paging.page? page = some shown := by
  obtain ⟨positive, within, _⟩ := h
  have numbered : page ≠ 0 := by
    rintro rfl
    cases positive
  rw [page?, if_neg numbered]
  exact ⟨_, List.getElem?_eq_getElem (by omega)⟩

theorem Collected.append (h : paging.Collected page items)
    (at_page : paging.page? page = some shown) :
    items ++ shown = (paging.pages.take page.toNat).flatten := by
  obtain ⟨positive, within, rfl⟩ := h
  have numbered : page ≠ 0 := by
    rintro rfl
    cases positive
  rw [page?, if_neg numbered] at at_page
  have step : page.toNat = (page.toNat - 1) + 1 := by omega
  rw [step, List.take_add_one]
  simp [at_page]

/-- A page that is not the last one by its account is followed by another. -/
theorem Collected.next (h : paging.Collected page items)
    (at_page : paging.page? page = some shown) (below : page < paging.total) :
    paging.Collected (page + 1) (items ++ shown) := by
  have number := Client.toNat_succ_of_lt below
  have bound := UInt32.lt_iff_toNat_lt.mp below
  have length := paging.length_pages
  refine ⟨by omega, by omega, ?_⟩
  rw [h.append at_page, number, Nat.add_sub_cancel]

theorem Collected.last (h : paging.Collected page items)
    (at_page : paging.page? page = some shown) (ends : ¬ page < paging.total) :
    items ++ shown = paging.items := by
  have bound : paging.total.toNat ≤ page.toNat := UInt32.not_lt.mp ends
  have length := paging.length_pages
  have positive := h.1
  have within := h.2.1
  rw [h.append at_page, Paging.items, List.take_of_length_le (by omega)]

end Paging

/-- A list that is collected is whole. -/
theorem collectFrom_whole {κ : Type} {fetch : UInt32 → Act σ (Except Api.Failure (Page α))}
    {paging : σ → Paging α} {kept : σ → κ} (h : Fetches fetch paging kept) (page : UInt32)
    (items : List α) (state : σ) (collected : (paging state).Collected page items) :
    kept (Client.collectFrom fetch page items state).state = kept state ∧
    ∀ all, (Client.collectFrom fetch page items state).value = .ok all →
      all = (paging (Client.collectFrom fetch page items state).state).items := by
  induction left : Client.pagesAfter page using Nat.strongRecOn generalizing page items state with
  | ind left ih =>
    have keeps := h.keeps page state
    have here := collected.follow (h.follows page state)
    obtain ⟨shown, at_page⟩ := here.exists_page
    rw [Client.collectFrom, Act.state_bind, Act.value_bind]
    cases given : (fetch page state).value with
    | error failure => exact ⟨keeps, fun _ impossible => nomatch impossible⟩
    | ok fetched =>
      obtain rfl := h.shows page state fetched shown given at_page
      dsimp only
      split
      · rename_i below
        have rest := ih _ (left ▸ Client.pagesAfter_succ_lt below) (page + 1) (items ++ shown)
          (fetch page state).state (here.next at_page below) rfl
        exact ⟨rest.1.trans keeps, rest.2⟩
      · rename_i ends
        refine ⟨keeps, ?_⟩
        rintro _ ⟨⟩
        exact here.last at_page ends

/-- A list whose pages a remote shows is fetched from it page by page. -/
theorem fetches_of_shows {κ : Type} (api : Service σ) (client : Client) (reader : Json.Reader α)
    (path : String) (query : UInt32 → List (String × String)) (paging : σ → Paging α)
    (kept : σ → κ)
    (shows : ∀ page request state, client.request ⟨.get, path, query page, none⟩ = .ok request →
      let exchange := api.answer request state
      kept exchange.2 = kept state ∧
      ShowsPage reader page exchange.1 (paging state) (paging exchange.2)) :
    Fetches (Client.fetchPage api client reader path query) paging kept := by
  have page_by_page (page : UInt32) (state : σ) :
      let done := Client.fetchPage api client reader path query page state
      kept done.state = kept state ∧ (page ≠ 1 → paging done.state = paging state) ∧
      ∀ fetched items, done.value = .ok fetched → (paging done.state).page? page = some items →
        fetched = ⟨items, (paging done.state).total⟩ := by
    have ended := sent api client reader.list ⟨.get, path, query page, none⟩ state
    simp only [Client.fetchPage, Act.value_bind, Act.state_bind, Act.debug_apply, Act.pure_apply]
    generalize (Client.send api client reader.list ⟨.get, path, query page, none⟩ state).value =
      answer at ended
    generalize (Client.send api client reader.list ⟨.get, path, query page, none⟩ state).state =
      after at ended
    cases ended with
    | unsendable unwritten => exact ⟨rfl, fun _ => rfl, fun _ _ impossible => nomatch impossible⟩
    | refused written refuses =>
      obtain ⟨keeps, follows, _⟩ := shows page _ state written
      exact ⟨keeps, follows, fun _ _ impossible => nomatch impossible⟩
    | @confirmed request envelope written confirms =>
      obtain ⟨keeps, follows, shown⟩ := shows page request state written
      refine ⟨keeps, follows, ?_⟩
      intro fetched items given at_page
      obtain ⟨result, total⟩ := shown envelope confirms items at_page
      have given : Page.ofEnvelope envelope = .ok fetched := given
      rw [Page.ofEnvelope, result, total] at given
      exact (Except.ok.inj given).symm
  constructor
  case keeps => exact fun page state => (page_by_page page state).1
  case follows => exact fun page state => (page_by_page page state).2.1
  case shows => exact fun page state => (page_by_page page state).2.2

variable {handle : Handle σ} {remote : Remote σ}

/-- The zones that a remote is found to have are those it has. -/
theorem Faithful.listZones (faithful : Faithful handle remote) (name : String) (state : σ) :
    let done := handle.client.listZones handle.api name state
    remote.holdings done.state = remote.holdings state ∧
    ∀ zones, done.value = .ok zones → zones.Perm (remote.zones name) := by
  have fetches := fetches_of_shows handle.api handle.client RawZone.reader "/zones"
    (handle.client.zoneQuery name) (remote.zonePages · name) remote.holdings
    (fun page request state => faithful.zones name page request state)
  obtain ⟨keeps, whole⟩ := collectFrom_whole fetches 1 [] state (Paging.collected_one _)
  refine ⟨keeps, fun zones given => ?_⟩
  rw [whole zones given]
  exact remote.perm_zonePages _ name

/-- The records that a remote is found to have are those it has. -/
theorem Faithful.listRecords (faithful : Faithful handle remote) {zone : String}
    (valid : IsId zone) (name recordType : String) (state : σ) :
    let done := handle.client.listRecords handle.api zone name recordType state
    remote.holdings done.state = remote.holdings state ∧
    ∀ records, done.value = .ok records → ∀ record, record ∈ records ↔
      (remote.holdings state).find? zone record.id = some ⟨name, recordType, record.content⟩ := by
  have fetches := fetches_of_shows handle.api handle.client RawRecord.reader (Client.recordsPath zone)
    (Client.recordQuery name recordType) (remote.recordPages · zone name recordType)
    remote.holdings
    (fun page request state => faithful.records zone name recordType page request state valid)
  obtain ⟨keeps, whole⟩ := collectFrom_whole fetches 1 [] state (Paging.collected_one _)
  refine ⟨keeps, fun records given record => ?_⟩
  rw [whole records given, remote.mem_recordPages_iff, keeps]

/-! Changes. -/

/-- A record is created or not, and the client is told which. -/
theorem Faithful.createRecord (faithful : Faithful handle remote) {zone : String}
    (valid : IsId zone) (record : NewRecord) (state : σ) :
    let done := handle.client.createRecord handle.api zone record state
    ((∃ failure, done.value = .error failure) ∧
      remote.holdings done.state = remote.holdings state) ∨
    ∃ created, ∃ validId : IsId created.id, done.value = .ok created ∧
      ¬ (remote.holdings state).IsUsed zone created.id ∧
      remote.holdings done.state = (remote.holdings state).put zone created.id
        ⟨record.name, record.recordType, record.content⟩ validId := by
  have settled := send_of_settles
    (fun after => remote.holdings after = remote.holdings state)
    (fun envelope after => ∃ created : RawRecord, ∃ valid : IsId created.id,
      envelope.result = some created ∧ ¬ (remote.holdings state).IsUsed zone created.id ∧
      remote.holdings after = (remote.holdings state).put zone created.id
        ⟨record.name, record.recordType, record.content⟩ valid) rfl
    (fun request written => faithful.create zone record request state valid written)
  simp only [Client.createRecord, Act.value_bind, Act.state_bind, Act.debug_apply]
  rcases settled with ⟨⟨failure, refused⟩, same⟩ | ⟨envelope, confirmed, created, validId, result,
    unused, made⟩
  · left
    simp only [Command.call] at refused same
    simp [Client.recordsPath, refused, same]
  · right
    simp only [Command.call] at confirmed made
    refine ⟨created, validId, ?_, unused, ?_⟩
    · simp [Client.recordsPath, confirmed, result, validId.1]
    · simp [Client.recordsPath, confirmed, result, validId.1, made]

theorem Faithful.updateRecord (faithful : Faithful handle remote) {zone id : String}
    (valid : IsId zone) (validId : IsId id) (patch : RecordPatch) (state : σ) :
    let done := handle.client.updateRecord handle.api zone id patch state
    ((∃ failure, done.value = .error failure) ∧
      remote.holdings done.state = remote.holdings state) ∨
    (done.value = .ok () ∧ (remote.holdings state).find? zone id ≠ none ∧
      remote.holdings done.state = (remote.holdings state).put zone id
        ⟨patch.name, patch.recordType, patch.content⟩ validId) := by
  have settled := send_of_settles
    (fun after => remote.holdings after = remote.holdings state)
    (fun _ after => (remote.holdings state).find? zone id ≠ none ∧
      remote.holdings after = (remote.holdings state).put zone id
        ⟨patch.name, patch.recordType, patch.content⟩ validId) rfl
    (fun request written => faithful.update zone id patch request state valid validId written)
  simp only [Client.updateRecord, Act.value_bind, Act.state_bind, Act.debug_apply]
  rcases settled with ⟨⟨failure, refused⟩, same⟩ | ⟨envelope, confirmed, existing, made⟩
  · left
    simp only [Command.call] at refused same
    simp [Client.recordPath, refused, same]
  · right
    simp only [Command.call] at confirmed made
    simp [Client.recordPath, confirmed, existing, made]

theorem Faithful.deleteRecord (faithful : Faithful handle remote) {zone id : String}
    (valid : IsId zone) (validId : IsId id) (state : σ) :
    let done := handle.client.deleteRecord handle.api zone id state
    ((∃ failure, done.value = .error failure) ∧
      remote.holdings done.state = remote.holdings state) ∨
    (done.value = .ok () ∧ (remote.holdings state).find? zone id ≠ none ∧
      remote.holdings done.state = (remote.holdings state).drop zone id) := by
  have settled := send_of_settles
    (fun after => remote.holdings after = remote.holdings state)
    (fun _ after => (remote.holdings state).find? zone id ≠ none ∧
      remote.holdings after = (remote.holdings state).drop zone id) rfl
    (fun request written => faithful.delete zone id request state valid validId written)
  simp only [Client.deleteRecord, Act.value_bind, Act.state_bind, Act.debug_apply]
  rcases settled with ⟨⟨failure, refused⟩, same⟩ | ⟨envelope, confirmed, existing, made⟩
  · left
    simp only [Command.call] at refused same
    simp [Client.recordPath, refused, same]
  · right
    simp only [Command.call] at confirmed made
    simp [Client.recordPath, confirmed, existing, made]

end AddressRecords
