import AddressRecords.Proofs.Answers.Meaning
import AddressRecords.Proofs.Calls.Messages
import AddressRecords.Proofs.Secrecy.Token

/-!
What becomes of connecting. A token is asked about once. It is active by the answer, or refused, or
the answer leaves that open, which is then no fault of the token: every way that the exchange can
end is on one of these sides.
-/

namespace AddressRecords

open Api (Call Client Envelope Ends Reply Service Status TokenStatus TransportFault)
open Diagnostics (Message)
open Unicode (Trims)

variable {σ : Type}

/-! Texts. -/

theorem isBlank_iff {text : String} : isBlank text ↔ Trims text "" := by
  constructor
  · intro blank
    refine ⟨⟨text, "", by simp, ?_, by simp⟩, by simp, by simp⟩
    simpa [isBlank] using blank
  · rintro ⟨⟨before, after, rfl, first, last⟩, -, -⟩
    simp only [isBlank, String.toList_append, List.all_append, Bool.and_eq_true, List.all_eq_true]
    exact ⟨⟨first, by simp⟩, last⟩

/-! Answers. -/

/-- The call that asks about a token. -/
def verification : Call := ⟨.get, "/user/tokens/verify", [], none⟩

namespace Credentials

/-- What the end of the exchange tells of the token. -/
inductive Tells : Except TransportFault Reply → Verdict → Prop
  | active {reply : Reply} {envelope : Envelope TokenStatus}
      (accepted : 200 ≤ reply.status.code ∧ reply.status.code < 300)
      (read : Json.readText (Envelope.reader TokenStatus.reader) reply.text = .ok envelope)
      (success : envelope.success = true) (result : envelope.result = some ⟨"active"⟩) :
      Tells (.ok reply) .active
  | inactive {reply : Reply} {envelope : Envelope TokenStatus} {status : String}
      (accepted : 200 ≤ reply.status.code ∧ reply.status.code < 300)
      (read : Json.readText (Envelope.reader TokenStatus.reader) reply.text = .ok envelope)
      (success : envelope.success = true) (result : envelope.result = some ⟨status⟩)
      (other : status ≠ "active") :
      Tells (.ok reply) (.refused ("the token is " ++ Text.quote status))
  | unsuccessful {reply : Reply} {envelope : Envelope TokenStatus}
      (accepted : 200 ≤ reply.status.code ∧ reply.status.code < 300)
      (read : Json.readText (Envelope.reader TokenStatus.reader) reply.text = .ok envelope)
      (failed : envelope.success = false) :
      Tells (.ok reply) (.refused ("API reported failure: " ++ Api.summarize envelope.errors))
  | denied {reply : Reply} (refused : ¬ (200 ≤ reply.status.code ∧ reply.status.code < 300))
      (many : reply.status.code ≠ 429)
      (broken : ¬ (500 ≤ reply.status.code ∧ reply.status.code ≤ 599)) :
      Tells (.ok reply) (.refused (Api.Failure.ofReply reply.status reply.text).message)
  | rateLimited {reply : Reply} (many : reply.status.code = 429) :
      Tells (.ok reply) (.unknown (Api.Failure.ofReply reply.status reply.text).message)
  | server {reply : Reply} (broken : 500 ≤ reply.status.code ∧ reply.status.code ≤ 599) :
      Tells (.ok reply) (.unknown (Api.Failure.ofReply reply.status reply.text).message)
  | unreadable {reply : Reply} {fault : Json.Fault}
      (accepted : 200 ≤ reply.status.code ∧ reply.status.code < 300)
      (read : Json.readText (Envelope.reader TokenStatus.reader) reply.text = .error fault) :
      Tells (.ok reply) (.unknown ("failed to parse response: " ++ fault.message))
  | missing {reply : Reply} {envelope : Envelope TokenStatus}
      (accepted : 200 ≤ reply.status.code ∧ reply.status.code < 300)
      (read : Json.readText (Envelope.reader TokenStatus.reader) reply.text = .ok envelope)
      (success : envelope.success = true) (result : envelope.result = none) :
      Tells (.ok reply) (.unknown "response is missing the token status")
  | unreached (fault : TransportFault) :
      Tells (.error fault) (.unknown ("HTTP request failed: " ++ fault.message))

/-- The status of the token, or why the answer has none. -/
def statusOf (answer : Except TransportFault Reply) : Except Api.Failure TokenStatus :=
  (Client.judge TokenStatus.reader answer).bind fun envelope =>
    envelope.result.elim (.error (.incomplete "token status")) .ok

section

variable {reply : Reply}

theorem statusOf_of_refused (refused : ¬ (200 ≤ reply.status.code ∧ reply.status.code < 300)) :
    statusOf (.ok reply) = .error (.ofReply reply.status reply.text) := by
  rw [statusOf, Client.judge_of_refused _ refused]
  rfl

theorem statusOf_of_unreadable {fault : Json.Fault}
    (accepted : 200 ≤ reply.status.code ∧ reply.status.code < 300)
    (read : Json.readText (Envelope.reader TokenStatus.reader) reply.text = .error fault) :
    statusOf (.ok reply) = .error (.decode fault) := by
  have judged : Client.judge TokenStatus.reader (.ok reply) = .error (.decode fault) := by
    simp [Client.judge, Status.isSuccess_iff.mpr accepted, read]
  rw [statusOf, judged]
  rfl

theorem statusOf_of_read {envelope : Envelope TokenStatus}
    (accepted : 200 ≤ reply.status.code ∧ reply.status.code < 300)
    (read : Json.readText (Envelope.reader TokenStatus.reader) reply.text = .ok envelope) :
    statusOf (.ok reply) =
      if envelope.success then envelope.result.elim (.error (.incomplete "token status")) .ok
      else .error (.unsuccessful (Api.summarize envelope.errors)
        (Api.reportsMissingRecord envelope.errors)) := by
  have judged : Client.judge TokenStatus.reader (.ok reply) =
      if envelope.success then .ok envelope
      else .error (.unsuccessful (Api.summarize envelope.errors)
        (Api.reportsMissingRecord envelope.errors)) := by
    simp [Client.judge, Status.isSuccess_iff.mpr accepted, read]
  rw [statusOf, judged]
  split <;> rfl

end

theorem ofAnswer_ofReply (status : Status) (text : String) :
    Verdict.ofAnswer (.error (.ofReply status text)) =
      if status.code = 429 ∨ (500 ≤ status.code ∧ status.code ≤ 599) then
        .unknown (Api.Failure.ofReply status text).message
      else .refused (Api.Failure.ofReply status text).message := by
  rw [Api.Failure.ofReply_eq]
  by_cases denied : status.code = 401 ∨ status.code = 403
  · rw [if_pos denied, if_neg (by omega)]
    rfl
  by_cases absent : status.code = 404
  · rw [if_neg denied, if_pos absent, if_neg (by omega)]
    rfl
  by_cases many : status.code = 429
  · rw [if_neg denied, if_neg absent, if_pos many, if_pos (.inl many)]
    rfl
  by_cases broken : 500 ≤ status.code ∧ status.code ≤ 599
  · rw [if_neg denied, if_neg absent, if_neg many, if_pos broken, if_pos (.inr broken)]
    rfl
  · rw [if_neg denied, if_neg absent, if_neg many, if_neg broken,
      if_neg (not_or.mpr ⟨many, broken⟩)]
    rfl

theorem ofAnswer_ok (token : TokenStatus) : Verdict.ofAnswer (.ok token) =
    if token.status = "active" then .active
    else .refused ("the token is " ++ Text.quote token.status) := rfl

/-- Every end of the exchange tells something. -/
theorem tells_ofAnswer (answer : Except TransportFault Reply) :
    Tells answer (Verdict.ofAnswer (statusOf answer)) := by
  cases answer with
  | error fault => exact .unreached fault
  | ok reply =>
    by_cases accepted : 200 ≤ reply.status.code ∧ reply.status.code < 300
    · cases read : Json.readText (Envelope.reader TokenStatus.reader) reply.text with
      | error fault =>
        rw [statusOf_of_unreadable accepted read]
        exact .unreadable accepted read
      | ok envelope =>
        rw [statusOf_of_read accepted read]
        split
        · rename_i success
          cases result : envelope.result with
          | none => exact .missing accepted read success result
          | some token =>
            rw [Option.elim_some, ofAnswer_ok]
            split
            · rename_i active
              exact .active accepted read success (result.trans (active ▸ rfl))
            · rename_i other
              exact .inactive accepted read success result other
        · rename_i failed
          exact .unsuccessful accepted read (Bool.eq_false_iff.mpr failed)
    · rw [statusOf_of_refused accepted, ofAnswer_ofReply]
      split
      · rename_i either
        rcases either with many | broken
        · exact .rateLimited many
        · exact .server broken
      · rename_i neither
        obtain ⟨many, broken⟩ := not_or.mp neither
        exact .denied accepted many broken

/-- It tells one thing. -/
theorem Tells.eq_ofAnswer {answer : Except TransportFault Reply} {verdict : Verdict}
    (told : Tells answer verdict) : verdict = Verdict.ofAnswer (statusOf answer) := by
  cases told with
  | active accepted read success result =>
    rw [statusOf_of_read accepted read, success, result]
    rfl
  | inactive accepted read success result other =>
    rw [statusOf_of_read accepted read, success, result, if_pos rfl, Option.elim_some, ofAnswer_ok,
      if_neg other]
  | unsuccessful accepted read failed =>
    rw [statusOf_of_read accepted read, failed]
    rfl
  | @denied reply refused many broken =>
    rw [statusOf_of_refused refused, ofAnswer_ofReply, if_neg (not_or.mpr ⟨many, broken⟩)]
  | @rateLimited reply many =>
    have refused : ¬ (200 ≤ reply.status.code ∧ reply.status.code < 300) := by omega
    rw [statusOf_of_refused refused, ofAnswer_ofReply, if_pos (.inl many)]
  | @server reply broken =>
    have refused : ¬ (200 ≤ reply.status.code ∧ reply.status.code < 300) := by omega
    rw [statusOf_of_refused refused, ofAnswer_ofReply, if_pos (.inr broken)]
  | unreadable accepted read =>
    rw [statusOf_of_unreadable accepted read]
    rfl
  | missing accepted read success result =>
    rw [statusOf_of_read accepted read, success, result]
    rfl
  | unreached fault => rfl

theorem verifyToken_eq (api : Service σ) (client : Client) : client.verifyToken api =
    Act.debug "GET /user/tokens/verify" >>= fun _ =>
      statusOf <$> Client.attempt api client verification := by
  unfold Client.verifyToken Client.send
  refine bind_congr fun _ => ?_
  rw [bind_map_left, map_eq_pure_bind]
  refine bind_congr fun answer => ?_
  rw [statusOf]
  cases Client.judge TokenStatus.reader answer with
  | error failure => rfl
  | ok envelope =>
    cases result : envelope.result with
    | none => simp [Except.bind, result]
    | some token => simp [Except.bind, result]

theorem verifyToken_apply (api : Service σ) (client : Client) (remote : σ) :
    let exchange := Client.attempt api client verification remote
    let done := client.verifyToken api remote
    done.value = statusOf exchange.value ∧ done.state = exchange.state ∧
      done.calls = [verification] ∧ done.messages = [] := by
  dsimp only
  rw [verifyToken_eq]
  refine ⟨?_, ?_, ?_, ?_⟩
  · rw [Act.value_bind, Act.value_map, Act.debug_apply]
  · rw [Act.state_bind, Act.state_map, Act.debug_apply]
  · rw [(Act.isQuiet_debug _).calls_bind, Act.calls_map, Outcome.calls, Client.events_attempt]
    rfl
  · have silent : (Act.debug "GET /user/tokens/verify" : Act σ Unit).IsSilent := .emit rfl
    rw [silent.messages_bind, Outcome.messages, Act.events_map, Client.events_attempt]
    rfl

/-! Connecting. -/

/-- Of a token that is refused; the user is to look at it. -/
def refusedMessages (reason : String) : List Message :=
  [⟨.error, .userError, "The Cloudflare API token could not be verified: " ++ reason⟩,
    ⟨.error, .userError, "Please double-check CF_API_TOKEN or CF_API_TOKEN_FILE"⟩]

/-- Of a token that nothing is known of, which is not the user's fault. -/
def unknownMessage (reason : String) : Message :=
  ⟨.error, .error, "Failed to reach Cloudflare to verify the API token: " ++ reason⟩

/-- What connecting gives for a verdict, and what it tells the user. -/
inductive Concludes (api : Service σ) (client : Client) :
    Verdict → Except Failure (Handle σ) → List Message → Prop
  | active : Concludes api client .active (.ok ⟨api, client⟩) []
  | refused (reason : String) :
      Concludes api client (.refused reason) (.error (.authInvalid reason))
        (refusedMessages reason)
  | unknown (reason : String) :
      Concludes api client (.unknown reason) (.error (.http reason)) [unknownMessage reason]

theorem connectBy_of_filled (api : Service σ) {credentials : Credentials} (remote : σ)
    (filled : ¬ isBlank credentials.token) :
    let exchange := Client.attempt api credentials.client verification remote
    let done := credentials.connectBy (.ok ()) api remote
    Concludes api credentials.client (.ofAnswer (statusOf exchange.value)) done.value
      done.messages ∧ done.calls = [verification] ∧ done.state = exchange.state := by
  obtain ⟨value, state, calls, messages⟩ := verifyToken_apply api credentials.client remote
  rw [client] at value state calls messages
  simp only [connectBy, if_neg filled, Act.value_bind, Act.messages_bind, Act.calls_bind,
    Act.state_bind, messages, calls, state, value, client]
  generalize Verdict.ofAnswer _ = verdict
  generalize Client.attempt api _ verification remote = exchange
  cases verdict with
  | active => exact ⟨.active, rfl, rfl⟩
  | refused reason =>
    refine ⟨?_, rfl, rfl⟩
    simp only [Outcome.messages, Act.events_bind, Act.tell_apply]
    exact .refused reason
  | unknown reason =>
    refine ⟨?_, rfl, rfl⟩
    simp only [Outcome.messages, Act.events_bind, Act.tell_apply]
    exact .unknown reason

namespace Concludes

variable {api : Service σ} {client : Client} {verdict : Verdict}
  {value : Except Failure (Handle σ)} {messages : List Message}

theorem value_iff (h : Concludes api client verdict value messages) :
    (∀ handle, value = .ok handle ↔ verdict = .active ∧ handle = ⟨api, client⟩) ∧
      (∀ reason, value = .error (.authInvalid reason) ↔ verdict = .refused reason) ∧
      ∀ reason, value = .error (.http reason) ↔ verdict = .unknown reason := by
  cases h <;> simp [eq_comm]

theorem one_of (h : Concludes api client verdict value messages) :
    (∃ handle, value = .ok handle) ∨ (∃ reason, value = .error (.authInvalid reason)) ∨
      ∃ reason, value = .error (.http reason) := by
  cases h with
  | active => exact .inl ⟨_, rfl⟩
  | refused reason => exact .inr (.inl ⟨reason, rfl⟩)
  | unknown reason => exact .inr (.inr ⟨reason, rfl⟩)

theorem silent (h : Concludes api client verdict value messages) {handle : Handle σ}
    (given : value = .ok handle) : messages = [] := by
  subst given
  cases h
  rfl

theorem blames (h : Concludes api client verdict value messages) {reason : String}
    (given : value = .error (.authInvalid reason)) : messages = refusedMessages reason := by
  subst given
  cases h
  rfl

theorem reports (h : Concludes api client verdict value messages) {reason : String}
    (given : value = .error (.http reason)) : messages = [unknownMessage reason] := by
  subst given
  cases h
  rfl

end Concludes

/-- What connecting comes to once the exchange about the token has ended so. -/
structure Settles (api : Service σ) (client : Client) (remote : σ)
    (answer : Except TransportFault Reply) (done : Outcome σ (Except Failure (Handle σ))) :
    Prop where
  calls : done.calls = [verification]
  reached : done.state = (Client.attempt api client verification remote).state
  accepts : ∀ handle, done.value = .ok handle ↔ Tells answer .active ∧ handle = ⟨api, client⟩
  refuses : ∀ reason,
    done.value = .error (.authInvalid reason) ↔ Tells answer (.refused reason)
  despairs : ∀ reason, done.value = .error (.http reason) ↔ Tells answer (.unknown reason)
  /-- There is no other way to end. -/
  one_of : (∃ handle, done.value = .ok handle) ∨
    (∃ reason, done.value = .error (.authInvalid reason)) ∨
    ∃ reason, done.value = .error (.http reason)
  silent : ∀ handle, done.value = .ok handle → done.messages = []
  blames : ∀ reason, done.value = .error (.authInvalid reason) →
    done.messages = refusedMessages reason
  reports : ∀ reason, done.value = .error (.http reason) → done.messages = [unknownMessage reason]

theorem settles_connectBy (api : Service σ) {credentials : Credentials} (remote : σ)
    (filled : ¬ isBlank credentials.token) :
    Settles api credentials.client remote
      (Client.attempt api credentials.client verification remote).value
      (credentials.connectBy (.ok ()) api remote) := by
  obtain ⟨concludes, calls, state⟩ := connectBy_of_filled api remote filled
  obtain ⟨accepts, refuses, despairs⟩ := concludes.value_iff
  have tells_iff (verdict : Verdict) : Verdict.ofAnswer (statusOf
        (Client.attempt api credentials.client verification remote).value) = verdict ↔
      Tells (Client.attempt api credentials.client verification remote).value verdict :=
    ⟨fun same => same ▸ tells_ofAnswer _, fun told => told.eq_ofAnswer.symm⟩
  constructor
  case calls => exact calls
  case reached => exact state
  case accepts => exact fun handle => (accepts handle).trans (and_congr_left' (tells_iff _))
  case refuses => exact fun reason => (refuses reason).trans (tells_iff _)
  case despairs => exact fun reason => (despairs reason).trans (tells_iff _)
  case one_of => exact concludes.one_of
  case silent => exact fun handle => concludes.silent
  case blames => exact fun reason => concludes.blames
  case reports => exact fun reason => concludes.reports

/-- Nothing is remembered in this state. -/
structure Forgets (state : HandleState σ) : Prop where
  records : ∀ key, state.1.get key = none
  zones : state.2.1.size = 0

theorem forgets_initial (remote : σ) : Forgets (HandleState.initial remote) where
  records _ := rfl
  zones := rfl

/-- What becomes of connecting, whether or not an HTTP client can be set up for it. -/
structure Connects (setup : Except TransportFault Unit) (api : Service σ)
    (credentials : Credentials) (remote : σ) (done : Outcome σ (Except Failure (Handle σ))) :
    Prop where
  /-- Without a token nothing is asked. -/
  blank : Trims credentials.token "" →
    done.value = .error (.authInvalid "Cloudflare API token is empty") ∧
    done.messages = [⟨.error, .userError,
      "Failed to prepare the Cloudflare authentication: the API token is empty"⟩] ∧
    done.calls = [] ∧ done.state = remote
  unprepared : ¬ Trims credentials.token "" → ∀ fault, setup = .error fault →
    done.value = .error (.http ("HTTP request failed: " ++ fault.message)) ∧
    done.messages = [⟨.error, .error,
      "Failed to prepare the Cloudflare authentication: " ++
        ("HTTP request failed: " ++ fault.message)⟩] ∧
    done.calls = [] ∧ done.state = remote
  asked : ¬ Trims credentials.token "" → setup = .ok () → ∃ answer,
    Ends api credentials.client verification remote answer ∧
    Settles api credentials.client remote answer done
  once : done.calls = [] ∨ done.calls = [verification]
  /-- A handle starts with nothing remembered, whatever is done with it in a session. -/
  fresh : ∀ handle, done.value = .ok handle → done.messages = [] ∧
    Forgets (HandleState.initial done.state) ∧
    ∀ operations, (credentials.session api operations remote).value =
      .ok (handle.performAll operations (.initial done.state)).value

theorem connectBy_of_blank (setup : Except TransportFault Unit) (api : Service σ)
    {credentials : Credentials} (remote : σ) (blank : isBlank credentials.token) :
    let done := credentials.connectBy setup api remote
    done.value = .error (.authInvalid "Cloudflare API token is empty") ∧
    done.messages = [⟨.error, .userError,
      "Failed to prepare the Cloudflare authentication: the API token is empty"⟩] ∧
    done.calls = [] ∧ done.state = remote := by
  dsimp only
  unfold connectBy
  rw [if_pos blank]
  exact ⟨rfl, rfl, rfl, rfl⟩

theorem connectBy_of_unprepared (api : Service σ) {credentials : Credentials} (remote : σ)
    (filled : ¬ isBlank credentials.token) (fault : TransportFault) :
    let done := credentials.connectBy (.error fault) api remote
    done.value = .error (.http ("HTTP request failed: " ++ fault.message)) ∧
    done.messages = [⟨.error, .error, "Failed to prepare the Cloudflare authentication: " ++
      ("HTTP request failed: " ++ fault.message)⟩] ∧
    done.calls = [] ∧ done.state = remote := by
  dsimp only
  unfold connectBy
  rw [if_neg filled]
  exact ⟨rfl, rfl, rfl, rfl⟩

/-- A session goes on with a handle that remembers nothing. -/
theorem value_session {api : Service σ} {credentials : Credentials} {remote : σ}
    {handle : Handle σ} (given : (credentials.connect api remote).value = .ok handle)
    (operations : List Operation) :
    (credentials.session api operations remote).value =
      .ok (handle.performAll operations
        (.initial (credentials.connect api remote).state)).value := by
  rw [session, Act.value_bind, given]
  rfl

theorem connects_connectBy (setup : Except TransportFault Unit) (api : Service σ)
    (credentials : Credentials) (remote : σ) :
    Connects setup api credentials remote (credentials.connectBy setup api remote) := by
  constructor
  case blank =>
    intro blank
    exact connectBy_of_blank setup api remote (isBlank_iff.mpr blank)
  case unprepared =>
    rintro filled fault rfl
    exact connectBy_of_unprepared api remote (mt isBlank_iff.mp filled) fault
  case asked =>
    rintro filled rfl
    exact ⟨_, Client.ends_attempt api credentials.client verification remote,
      settles_connectBy api remote (mt isBlank_iff.mp filled)⟩
  case once =>
    by_cases blank : isBlank credentials.token
    · exact .inl (connectBy_of_blank setup api remote blank).2.2.1
    · cases setup with
      | error fault => exact .inl (connectBy_of_unprepared api remote blank fault).2.2.1
      | ok _ => exact .inr (settles_connectBy api remote blank).calls
  case fresh =>
    intro handle given
    by_cases blank : isBlank credentials.token
    · rw [(connectBy_of_blank setup api remote blank).1] at given
      cases given
    · cases setup with
      | error fault =>
        rw [(connectBy_of_unprepared api remote blank fault).1] at given
        cases given
      | ok _ =>
        exact ⟨(settles_connectBy api remote blank).silent handle given, forgets_initial _,
          value_session given⟩

end Credentials

end AddressRecords
