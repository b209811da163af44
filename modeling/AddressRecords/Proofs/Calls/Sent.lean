import AddressRecords.Credentials
import AddressRecords.Proofs.Calls.Protocol
import AddressRecords.Proofs.Isolation.Oblivious

/-!
What reaches an API. Nothing does but the calls that are seen: an action takes the API from one
state to another by making them, in their order, and the requests that the API gets are those that
the calls become.
-/

namespace AddressRecords

open Api (Call Client Reply Request Service)
open Api.Client (Page)

variable {σ τ ρ α β : Type}

namespace Api

/-- An API that gives the replies it was told to give, one after the other. -/
def Service.rehearsed : Service (List Reply) where
  answer _ replies :=
    match replies with
    | [] => (.error .beforeReply, [])
    | reply :: rest => (.ok reply, rest)

/-- A reply that reports success, with this result. -/
def Reply.succeeding (result : String) : Reply :=
  ⟨⟨200⟩, "\x7b\"success\":true,\"result\":" ++ result ++ "\x7d"⟩

/-- The API with a journal of the requests that it gets. -/
def Service.recorded (api : Service σ) : Service (List Request × σ) where
  answer request state :=
    let exchange := api.answer request state.2
    (exchange.1, (state.1 ++ [request], exchange.2))

/-- The requests that calls become, those that cannot be sent left out. -/
def Client.requests (client : Client) (calls : List Call) : List Request :=
  calls.filterMap fun call => (client.request call).toOption

theorem Client.exists_call_of_mem_requests {client : Client} {calls : List Call} {request : Request}
    (mem : request ∈ client.requests calls) :
    ∃ call ∈ calls, client.request call = .ok request := by
  obtain ⟨call, among, written⟩ := List.mem_filterMap.mp mem
  exact ⟨call, among, Handle.ok_of_toOption written⟩

theorem Client.state_attempt_recorded (api : Service σ) (client : Client) (call : Call)
    (state : List Request × σ) :
    (attempt api.recorded client call state).state.1 = state.1 ++ client.requests [call] := by
  cases written : client.request call with
  | error fault => simp [attempt, requests, written, Except.toOption]
  | ok request =>
    have exchanged : (api.recorded.answer request state).2.1 = state.1 ++ [request] := rfl
    simp only [attempt, requests, written, List.filterMap_cons, Except.toOption, List.filterMap_nil]
    generalize api.recorded.answer request state = exchange at exchanged ⊢
    obtain ⟨answer, after⟩ := exchange
    cases answer with
    | ok reply => exact exchanged
    | error interruption => cases interruption <;> exact exchanged

end Api

/-! Events and what they do to the API. -/

/-- The calls among these events, all of some kind, take the API from one state to the other. -/
inductive Reaches (api : Service σ) (client : Client) (kind : Call → Prop) :
    σ → List Event → σ → Prop
  | done (state : σ) : Reaches api client kind state [] state
  | seen {event : Event} {events : List Event} {state after : σ} (quiet : event.call? = none)
      (later : Reaches api client kind state events after) :
      Reaches api client kind state (event :: events) after
  | made {call : Call} {events : List Event} {state after : σ} (allowed : kind call)
      (later : Reaches api client kind (Client.attempt api client call state).state events after) :
      Reaches api client kind state (.call call :: events) after

namespace Reaches

variable {api : Service σ} {client : Client} {kind : Call → Prop} {events : List Event}

theorem trans {first second third : σ} {more : List Event}
    (h : Reaches api client kind first events second)
    (later : Reaches api client kind second more third) :
    Reaches api client kind first (events ++ more) third := by
  induction h with
  | done state => exact later
  | seen quiet _ ih => exact .seen quiet (ih later)
  | made allowed _ ih => exact .made allowed (ih later)

theorem calls_of_kind {before after : σ} (h : Reaches api client kind before events after) :
    ∀ call ∈ events.filterMap Event.call?, kind call := by
  induction h with
  | done state => exact fun _ mem => nomatch mem
  | @seen event events _ _ quiet _ ih =>
    intro call mem
    rw [List.filterMap_cons_none quiet] at mem
    exact ih call mem
  | @made first events _ _ allowed _ ih =>
    intro call mem
    rw [List.filterMap_cons_some (show (Event.call first).call? = some first from rfl)] at mem
    rcases List.mem_cons.mp mem with rfl | later
    · exact allowed
    · exact ih call later

theorem of_quiet {events : List Event} (quiet : ∀ event ∈ events, event.call? = none) (state : σ) :
    Reaches api client kind state events state := by
  induction events with
  | nil => exact .done state
  | cons event rest ih =>
    obtain ⟨first, later⟩ := List.forall_mem_cons.mp quiet
    exact .seen first (ih later)

/-- The API gets the requests that the calls become, and no others. -/
theorem journal_eq {before after : List Request × σ}
    (h : Reaches api.recorded client kind before events after) :
    after.1 = before.1 ++ client.requests (events.filterMap Event.call?) := by
  induction h with
  | done state => exact (List.append_nil _).symm
  | seen quiet _ ih => rw [ih, List.filterMap_cons_none quiet]
  | @made call events state _ _ _ ih =>
    have head : (Event.call call).call? = some call := rfl
    rw [ih, Client.state_attempt_recorded, List.filterMap_cons_some head, List.append_assoc]
    simp only [Client.requests, ← List.filterMap_append, List.singleton_append]

end Reaches

namespace Act

/-- What the action does to the API, a part of its state, is done by calls of some kind. -/
def Asks (api : Service σ) (client : Client) (kind : Call → Prop) (part : τ → σ)
    (act : Act τ α) : Prop :=
  ∀ state, Reaches api client kind (part state) (act state).events (part (act state).state)

namespace Asks

variable {api : Service σ} {client : Client} {kind : Call → Prop} {part : τ → σ}

theorem pure (value : α) : (Pure.pure value : Act τ α).Asks api client kind part :=
  fun _ => .done _

theorem emit {event : Event} (quiet : event.call? = none) :
    (Act.emit event).Asks api client kind part :=
  fun _ => .seen quiet (.done _)

theorem get : (Act.get : Act τ τ).Asks api client kind part := fun _ => .done _

theorem modify {change : τ → τ} (keeps : ∀ state, part (change state) = part state) :
    (Act.modify change).Asks api client kind part := by
  intro state
  rw [modify_apply, keeps]
  exact .done _

/-- An action without calls has to leave the API alone. -/
theorem of_quiet {act : Act τ α} (quiet : act.IsQuiet)
    (keeps : ∀ state, part (act state).state = part state) : act.Asks api client kind part := by
  intro state
  rw [keeps]
  exact .of_quiet (quiet state) _

/-- What comes next may depend on what came out before. -/
theorem bind_of_value {act : Act τ α} {next : α → Act τ β} (h : act.Asks api client kind part)
    (rest : ∀ value, (∃ state, (act state).value = value) →
      (next value).Asks api client kind part) :
    (act >>= next).Asks api client kind part := by
  intro state
  rw [events_bind, state_bind]
  exact (h state).trans (rest _ ⟨state, rfl⟩ _)

theorem bind {act : Act τ α} {next : α → Act τ β} (h : act.Asks api client kind part)
    (rest : ∀ value, (next value).Asks api client kind part) :
    (act >>= next).Asks api client kind part :=
  h.bind_of_value fun value _ => rest value

theorem map {act : Act τ α} (h : act.Asks api client kind part) (f : α → β) :
    (f <$> act).Asks api client kind part := by
  intro state
  rw [events_map, state_map]
  exact h state

theorem onSecond {act : Act τ α} (h : act.Asks api client kind part) :
    (act.onSecond : Act (ρ × τ) α).Asks api client kind fun state => part state.2 :=
  fun state => h state.2

end Asks

end Act

/-! Reading. -/

section

variable {api : Service σ} {client : Client} {kind : Call → Prop}

namespace Api.Client

theorem asks_attempt {call : Call} (allowed : kind call) :
    (attempt api client call).Asks api client kind id := by
  intro state
  rw [events_attempt]
  exact .made allowed (.done _)

theorem asks_send (reader : Json.Reader α) {call : Call} (allowed : kind call) :
    (send api client reader call).Asks api client kind id :=
  (asks_attempt allowed).map _

variable (reads : ∀ call : Call, call.method = .get → kind call)

include reads

theorem asks_fetchAll (reader : Json.Reader α) (path : String)
    (query : UInt32 → List (String × String)) :
    (fetchAll api client reader path query).Asks api client kind id := by
  refine collectFrom_induction (fun answer => .pure answer) ?_ 1 []
  intro page next rest
  refine .bind (.bind (.emit rfl) fun _ => .bind ?_ fun _ => .pure _) rest
  exact asks_send _ (reads _ rfl)

theorem asks_verifyToken : (client.verifyToken api).Asks api client kind id := by
  refine .bind (.emit rfl) fun _ => .bind (asks_send _ (reads _ rfl)) fun answer => ?_
  cases answer with
  | error failure => exact .pure _
  | ok envelope =>
    dsimp only
    split <;> exact .pure _

end Api.Client

variable (reads : ∀ call : Call, call.method = .get → kind call)

include reads

theorem ZoneCache.asks_lookup (name : String) :
    (lookup (client.zoneSource api) name).Asks api client kind Prod.snd := by
  unfold lookup
  split
  · exact .pure _
  · refine .bind .get fun state => ?_
    split
    · exact .bind (.emit rfl) fun _ => .pure _
    · have asked : (client.zoneSource api name).Asks api client kind id :=
        .bind (Client.asks_fetchAll reads _ _ _) fun _ => .pure _
      exact .bind (.emit rfl) fun _ => .bind asked.onSecond fun _ =>
        .bind (.modify fun _ => rfl) fun _ => .pure _

theorem Resolver.asks_resolveAmong (domain : Domain) (candidates : List String) :
    (resolveAmong (client.zoneSource api) domain candidates).Asks api client kind Prod.snd := by
  induction candidates with
  | nil => exact .bind (.emit rfl) fun _ => .pure _
  | cons candidate rest ih =>
    refine .bind (ZoneCache.asks_lookup reads candidate) fun answer => ?_
    cases answer with
    | error failure => exact .bind (.emit rfl) fun _ => .pure _
    | ok zones =>
      have skipped : (tellSkipped candidate zones : Act (ZoneCache × σ) Unit).Asks api client kind
          Prod.snd :=
        .of_quiet (isQuiet_tellSkipped candidate zones) fun _ => by rw [tellSkipped_state]
      refine .bind skipped fun _ => ?_
      split
      · exact ih
      · rename_i zone _
        have told : (tellStatus candidate zone.status : Act (ZoneCache × σ) Unit).Asks api client
            kind Prod.snd :=
          .of_quiet (isQuiet_tellStatus candidate _) fun _ => by rw [tellStatus_state]
        exact .bind told fun _ => .bind (.emit rfl) fun _ => .pure _
      · exact .bind (.emit rfl) fun _ => .pure _

end

namespace Handle

variable {handle : Handle σ} {kind : Call → Prop}

/-- The state of the API behind a handle. -/
def remote (state : HandleState σ) : σ := state.2.2

theorem asks_onRemote {act : Act σ α} (h : act.Asks handle.api handle.client kind id) :
    (onRemote act).Asks handle.api handle.client kind remote :=
  h.onSecond.onSecond

variable (reads : ∀ call : Call, call.method = .get → kind call)

include reads

theorem asks_resolve (domain : Domain) :
    (handle.resolve domain).Asks handle.api handle.client kind remote :=
  (Resolver.asks_resolveAmong reads domain _).onSecond

theorem asks_relist (key : RecordKey) (zone : String) :
    (handle.relist key zone).Asks handle.api handle.client kind remote := by
  have fetched : (handle.fetch key zone).Asks handle.api handle.client kind remote := by
    refine .bind (asks_onRemote (Client.asks_fetchAll reads _ _ _)) fun answer => ?_
    cases answer with
    | error failure => exact .bind (.emit rfl) fun _ => .pure _
    | ok listed =>
      dsimp only
      split
      · exact .bind (.emit rfl) fun _ => .pure _
      · exact .pure _
  refine .bind fetched fun answer => ?_
  cases answer with
  | error failure => exact .pure _
  | ok records => exact .bind (.emit rfl) fun _ => .bind (.modify fun _ => rfl) fun _ => .pure _

theorem asks_list (key : RecordKey) :
    (handle.list key).Asks handle.api handle.client kind remote := by
  refine .bind .get fun state => ?_
  split
  · exact .bind (.emit rfl) fun _ => .pure _
  · refine .bind (asks_resolve reads key.domain) fun answer => ?_
    cases answer with
    | error failure => exact .pure _
    | ok zone => exact asks_relist reads key zone

end Handle

/-- The credentials in settings. -/
def ProviderConfig.credentials (config : ProviderConfig) : Credentials :=
  ⟨config.apiToken, config.accountId, config.baseUrl.getD Credentials.publicApi⟩

namespace Credentials

variable {api : Service σ} {kind : Call → Prop}

/-- The client that connects with the credentials. -/
def client (credentials : Credentials) : Client :=
  .connectingTo credentials.baseUrl credentials.token credentials.accountId

/-- The credentials of settings, if these can be used at all. -/
theorem eq_of_ofConfig {config : ProviderConfig} {credentials : Credentials}
    (h : ofConfig config = .ok credentials) : credentials = config.credentials := by
  rw [ofConfig] at h
  cases checked : config.validate with
  | error error =>
    rw [checked] at h
    cases h
  | ok _ =>
    rw [checked] at h
    exact (Except.ok.inj h).symm

theorem asks_connect (credentials : Credentials)
    (reads : ∀ call : Call, call.method = .get → kind call) :
    (credentials.connect api).Asks api credentials.client kind id := by
  unfold connect connectBy
  split
  · exact .bind (.emit rfl) fun _ => .pure _
  · refine .bind (Client.asks_verifyToken reads) fun answer => ?_
    cases Verdict.ofAnswer answer with
    | active => exact .bind (.emit rfl) fun _ => .pure _
    | refused reason => exact .bind (.emit rfl) fun _ => .bind (.emit rfl) fun _ => .pure _
    | unknown reason => exact .bind (.emit rfl) fun _ => .pure _

/-- A handle talks to the API that its token was shown to, with that token. -/
theorem eq_of_connect {credentials : Credentials} {remote : σ} {handle : Handle σ}
    (h : (credentials.connect api remote).value = .ok handle) :
    handle = ⟨api, credentials.client⟩ := by
  by_cases blank : isBlank credentials.token
  · simp [connect, connectBy, blank] at h
  · simp only [connect, connectBy, blank, Bool.false_eq_true, if_false, Act.value_bind] at h
    generalize Verdict.ofAnswer _ = verdict at h
    cases verdict with
    | active => exact (Except.ok.inj h).symm
    | refused reason => cases h
    | unknown reason => cases h

end Credentials

end AddressRecords
