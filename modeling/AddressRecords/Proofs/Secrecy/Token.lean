import AddressRecords.Proofs.Calls.Sent
import AddressRecords.Proofs.Secrecy.Twin
import Mathlib.Data.List.Forall2

/-!
Where the token goes: into the authorization of requests, and nowhere else. An API that does not
look there cannot tell two tokens apart, and then nobody can by what a session gives, says or sends.
-/

namespace AddressRecords

open Api (Call Client Interruption Reply Request Service Twins)
open Act (Agree Along)

variable {σ τ α : Type}

/-! APIs that do not look at the authorization. -/

namespace Api

/-- The same but for the authorization. -/
structure Request.Alike (first second : Request) : Prop where
  method : first.method = second.method
  url : first.url = second.url
  body : first.body = second.body

/-- The same request, signed with the one token and with the other. -/
structure Request.SignedAlike (first second : String) (sent again : Request) : Prop
    extends sent.Alike again where
  mine : sent.authorization = "Bearer " ++ first
  yours : again.authorization = "Bearer " ++ second

/-- The answers to requests that come one after the other. -/
def Service.answers (api : Service σ) : List Request → σ → List (Except Interruption Reply)
  | [], _ => []
  | request :: rest, state =>
    let exchange := api.answer request state
    exchange.1 :: api.answers rest exchange.2

/-- From these two states on, only the authorization of requests could make a difference, and it
makes none. -/
def Service.Indistinct (api : Service σ) (first second : σ) : Prop :=
  ∀ requests others, List.Forall₂ Request.Alike requests others →
    api.answers requests first = api.answers others second

/-- The answers do not depend on the authorization, now and later. -/
def Service.IgnoresAuthorization (api : Service σ) (state : σ) : Prop := api.Indistinct state state

theorem Service.Indistinct.answer {api : Service σ} {first second : σ}
    (h : api.Indistinct first second) {request other : Request} (alike : request.Alike other) :
    (api.answer request first).1 = (api.answer other second).1 ∧
      api.Indistinct (api.answer request first).2 (api.answer other second).2 := by
  constructor
  · exact (List.cons.inj (h [request] [other] (.cons alike .nil))).1
  · intro requests others later
    exact (List.cons.inj (h (request :: requests) (other :: others) (.cons alike later))).2

end Api

/-! Clients that differ in their tokens. -/

namespace Api.Client

/-- A header takes what stands before the token. -/
theorem isHeaderValue_bearer {token : String} (h : isHeaderValue token) :
    isHeaderValue ("Bearer " ++ token) := by
  rw [isHeaderValue, String.toList_append, List.all_append, Bool.and_eq_true]
  exact ⟨by decide, h⟩

variable {client : Client} {token : String}

/-- With another token the request has another authorization, and that is all. -/
theorem request_withToken (header : isHeaderValue client.token) (other : isHeaderValue token)
    (call : Call) :
    { client with token }.request call =
      (client.request call).map ({ · with authorization := "Bearer " ++ token }) := by
  have mine : isHeaderValue client.authorization := isHeaderValue_bearer header
  have yours : isHeaderValue { client with token }.authorization := isHeaderValue_bearer other
  unfold request
  dsimp only
  rw [mine, yours]
  split
  · rfl
  · split
    · rfl
    · simp only [Bool.not_true, Bool.false_eq_true, if_false]
      split <;> rfl

theorem authorization_of_request {call : Call} {request : Request}
    (written : client.request call = .ok request) :
    request.authorization = "Bearer " ++ client.token := by
  unfold Client.request at written
  split at written
  · cases written
  · dsimp only at written
    repeat' split at written
    all_goals cases written
    rfl

/-- Clients whose requests are answered alike are twins. -/
theorem twins_withToken {api : Service σ} {other : Service τ} {related : σ → τ → Prop}
    (header : isHeaderValue client.token) (alsoHeader : isHeaderValue token)
    (answered : ∀ request again : Request, request.SignedAlike client.token token again →
      ∀ first second, related first second →
      (api.answer request first).1 = (other.answer again second).1 ∧
        related (api.answer request first).2 (other.answer again second).2) :
    Twins api client other { client with token } related where
  account := rfl
  attempt call := by
    intro first second same
    have rewritten := request_withToken header alsoHeader call
    cases written : client.request call with
    | error fault =>
      rw [written] at rewritten
      simp only [Client.attempt, written, rewritten]
      exact ⟨rfl, rfl, same⟩
    | ok request =>
      let again : Request := { request with authorization := "Bearer " ++ token }
      have rewritten : { client with token }.request call = .ok again := by
        rw [rewritten, written]
        rfl
      have signed : request.SignedAlike client.token token again :=
        ⟨⟨rfl, rfl, rfl⟩, authorization_of_request written, rfl⟩
      obtain ⟨answer, later⟩ := answered request again signed first second same
      -- Where the exchange broke off, the fault names the URL, which is the same.
      simp only [Client.attempt, written, rewritten]
      generalize api.answer request first = one at answer later ⊢
      generalize other.answer again second = two at answer later ⊢
      obtain ⟨reply, after⟩ := one
      obtain ⟨_, afterwards⟩ := two
      obtain rfl : reply = _ := answer
      cases reply with
      | ok reply => exact ⟨rfl, rfl, later⟩
      | error interruption => cases interruption <;> exact ⟨rfl, rfl, later⟩

variable (api : Service σ) (header : isHeaderValue client.token) (other : isHeaderValue token)

include header other

theorem twins_indistinct : Twins api client api { client with token } api.Indistinct := by
  refine twins_withToken header other ?_
  intro request again signed first second same
  exact same.answer signed.toAlike

/-- The journals stay alike, entry by entry. -/
theorem twins_journaled : Twins api.recorded client api.recorded { client with token }
    fun one two => List.Forall₂ (Request.SignedAlike client.token token) one.1 two.1 ∧
      api.Indistinct one.2 two.2 := by
  refine twins_withToken header other ?_
  intro request again signed one two same
  obtain ⟨answer, later⟩ := same.2.answer signed.toAlike
  have journals := List.rel_append same.1 (List.Forall₂.cons signed .nil)
  exact ⟨answer, journals, later⟩

end Api.Client

/-! Sessions. -/

/-- What is done with a handle that remembers nothing yet. -/
def Handle.afresh (act : Act (HandleState σ) α) : Act σ α := fun remote =>
  let done := act (.initial remote)
  ⟨done.value, Handle.remote done.state, done.events⟩

theorem Handle.agree_afresh {related : σ → τ → Prop} {one : Act (HandleState σ) α}
    {two : Act (HandleState τ) α} (h : Agree (Remember related) one two) :
    Agree related (afresh one) (afresh two) := by
  intro first second same
  obtain ⟨value, events, later⟩ := h (.initial first) (.initial second) ⟨rfl, rfl, same⟩
  exact ⟨value, events, later.2.2⟩

namespace Credentials

def withToken (credentials : Credentials) (token : String) : Credentials :=
  { credentials with token }

/-- Connects and then performs operations one after the other. -/
def session (api : Service σ) (credentials : Credentials) (operations : List Operation) :
    Act σ (Except Failure (List (Except Failure Answer))) := do
  match ← credentials.connect api with
  | .error failure => return .error failure
  | .ok handle => return .ok (← Handle.afresh (handle.performAll operations))

theorem agree_session {api : Service σ} {other : Service τ} {related : σ → τ → Prop}
    {first second : Credentials} (blank : isBlank first.token = isBlank second.token)
    (same : Twins api first.client other second.client related) (operations : List Operation) :
    Agree related (first.session api operations) (second.session other operations) := by
  unfold session connect connectBy
  rw [blank]
  split
  · simp only [bind_assoc, pure_bind]
    exact .bind (.emit _) fun _ => .pure _
  · simp only [bind_assoc]
    refine .bind same.verifyToken fun answer => ?_
    cases Verdict.ofAnswer answer with
    | active =>
      simp only [bind_assoc, pure_bind]
      have performed : Agree (Handle.Remember related)
          (Handle.performAll ⟨api, first.client⟩ operations)
          (Handle.performAll ⟨other, second.client⟩ operations) :=
        Handle.agree_performAll same operations
      exact .bind (.emit _) fun _ => .bind (Handle.agree_afresh performed) fun _ => .pure _
    | refused reason =>
      simp only [bind_assoc, pure_bind]
      exact .bind (.emit _) fun _ => .bind (.emit _) fun _ => .pure _
    | unknown reason =>
      simp only [bind_assoc, pure_bind]
      exact .bind (.emit _) fun _ => .pure _

end Credentials

/-- A journal changes nothing for a client. -/
theorem Api.twins_recorded (api : Service σ) (client : Client) :
    Twins api.recorded client api client fun journaled plain => journaled.2 = plain where
  account := rfl
  attempt call := by
    rintro ⟨journal, state⟩ _ rfl
    cases written : client.request call with
    | error fault => simp only [Client.attempt, written, and_self]
    | ok request =>
      have same : api.recorded.answer request (journal, state) =
          ((api.answer request state).1, (journal ++ [request], (api.answer request state).2)) := rfl
      simp only [Client.attempt, written, same]
      generalize api.answer request state = exchange
      obtain ⟨answer, after⟩ := exchange
      cases answer with
      | ok reply => exact ⟨rfl, rfl, rfl⟩
      | error interruption => cases interruption <;> exact ⟨rfl, rfl, rfl⟩

/-- Keeping a journal of the requests of a session makes no difference to the session. -/
structure Credentials.Journaled (credentials : Credentials) (api : Service σ) (remote : σ)
    (operations : List Operation) : Prop where
  value : (credentials.session api.recorded operations ([], remote)).value =
    (credentials.session api operations remote).value
  events : (credentials.session api.recorded operations ([], remote)).events =
    (credentials.session api operations remote).events
  state : (credentials.session api.recorded operations ([], remote)).state.2 =
    (credentials.session api operations remote).state

theorem Credentials.session_recorded (credentials : Credentials) (api : Service σ) (remote : σ)
    (operations : List Operation) : credentials.Journaled api remote operations := by
  have twins := Api.twins_recorded api credentials.client
  obtain ⟨value, events, state⟩ := agree_session rfl twins operations ([], remote) remote rfl
  exact ⟨value, events, state⟩

/-! Two tokens. -/

namespace HandleConfig

def withToken (config : HandleConfig) (token : String) : HandleConfig :=
  { config with provider := { config.provider with apiToken := token } }

/-- What anyone can see of sessions with these settings and with those, and it is the same. -/
structure SeenAlike (first second : HandleConfig) (api : Service σ) (remote : σ)
    (operations : List Operation) : Prop where
  valid : first.validate = second.validate
  opened : (Credentials.ofConfig first.provider).map (·.withToken second.provider.apiToken) =
    Credentials.ofConfig second.provider
  /-- Results, and failures with all their texts. -/
  results : (first.provider.credentials.session api operations remote).value =
    (second.provider.credentials.session api operations remote).value
  /-- Messages, lines of the log, and calls. -/
  events : (first.provider.credentials.session api operations remote).events =
    (second.provider.credentials.session api operations remote).events
  requests : List.Forall₂
    (Api.Request.SignedAlike first.provider.apiToken second.provider.apiToken)
    (first.provider.credentials.session api.recorded operations ([], remote)).state.1
    (second.provider.credentials.session api.recorded operations ([], remote)).state.1
  /-- These are the requests of the very sessions that results and events are seen of. -/
  journaled : first.provider.credentials.Journaled api remote operations ∧
    second.provider.credentials.Journaled api remote operations
  described : first.describe = second.describe ∧
    first.provider.describe = second.provider.describe ∧
    first.provider.credentials.describe = second.provider.credentials.describe ∧
    first.provider.credentials.client.describe = second.provider.credentials.client.describe

/-- Whatever is done in a session, no one but the API learns which of two tokens it has, and the API
only from the authorization. -/
theorem seenAlike_withToken (first : HandleConfig) (token : String) {api : Service σ} {remote : σ}
    (ignores : api.IgnoresAuthorization remote) (operations : List Operation)
    (named : isBlank first.provider.apiToken = false) (alsoNamed : isBlank token = false)
    (header : Api.Client.isHeaderValue first.provider.apiToken)
    (alsoHeader : Api.Client.isHeaderValue token) :
    first.SeenAlike (first.withToken token) api remote operations := by
  let second := first.withToken token
  have alsoNamed : isBlank second.provider.apiToken = false := alsoNamed
  have valid : first.provider.validate = second.provider.validate := by
    rw [ProviderConfig.validate, ProviderConfig.validate, named, alsoNamed]
    rfl
  have blank : isBlank first.provider.credentials.token =
      isBlank second.provider.credentials.token := named.trans alsoNamed.symm
  have twins : Twins api first.provider.credentials.client api second.provider.credentials.client
      api.Indistinct := Api.Client.twins_indistinct api header alsoHeader
  have journaled : Twins api.recorded first.provider.credentials.client api.recorded
      second.provider.credentials.client fun one two =>
        List.Forall₂ (Api.Request.SignedAlike first.provider.apiToken second.provider.apiToken)
          one.1 two.1 ∧ api.Indistinct one.2 two.2 :=
    Api.Client.twins_journaled api header alsoHeader
  obtain ⟨results, events, -⟩ :=
    Credentials.agree_session blank twins operations remote remote ignores
  obtain ⟨-, -, requests, -⟩ := Credentials.agree_session blank journaled operations
    ([], remote) ([], remote) ⟨.nil, ignores⟩
  constructor
  case valid =>
    rw [validate, validate, valid]
    rfl
  case opened =>
    rw [Credentials.ofConfig, Credentials.ofConfig, valid]
    cases second.provider.validate <;> rfl
  case results => exact results
  case events => exact events
  case requests => exact requests
  case journaled =>
    exact ⟨first.provider.credentials.session_recorded api remote operations,
      second.provider.credentials.session_recorded api remote operations⟩
  case described => exact ⟨rfl, rfl, rfl, rfl⟩

end HandleConfig

/-! A session with replies that were told beforehand: one operation succeeds and one fails. -/

theorem Api.Service.rehearsed_ignoresAuthorization (replies : List Reply) :
    Service.rehearsed.IgnoresAuthorization replies := by
  intro requests others alike
  induction alike generalizing replies with
  | nil => rfl
  | cons _ _ ih =>
    cases replies with
    | nil => exact congrArg _ (ih [])
    | cons reply rest => exact congrArg _ (ih rest)

namespace TwoTokens

def config : HandleConfig := ⟨⟨"first-token", none, some "https://api.test/v4/"⟩, 30⟩

def domain : Domain := .wildcard ⟨"office.example", by decide⟩

def replies : List Reply :=
  [.succeeding "\x7b\"id\":\"t\",\"status\":\"active\"\x7d",
    .succeeding "[\x7b\"id\":\"z\",\"status\":\"active\"\x7d]",
    ⟨⟨503⟩, ""⟩]

def operations : List Operation := [.resolve domain, .delete ⟨domain, .v4⟩ "r"]

theorem seenAlike_second_token :
    let credentials := config.provider.credentials
    (credentials.session .rehearsed operations replies).value =
        .ok [.ok (.id "z"), .error (.recordMutationFailed .delete "*.office.example"
          "Cloudflare server error (HTTP 503 Service Unavailable): empty response body")] ∧
      (credentials.session Service.rehearsed.recorded operations ([], replies)).state.1.map
        (·.authorization) = List.replicate 3 "Bearer first-token" ∧
      config.SeenAlike (config.withToken "second-token") .rehearsed replies operations := by
  refine ⟨?_, ?_, ?_⟩
  · decide +kernel
  · decide +kernel
  · exact config.seenAlike_withToken "second-token"
      (Service.rehearsed_ignoresAuthorization replies) operations (by decide) (by decide)
      (by decide) (by decide)

end TwoTokens

end AddressRecords
