import AddressRecords.Api.Client
import AddressRecords.Proofs.Domain.Rereading
import Mathlib.Data.List.TakeWhile

/-!
What a call comes to, told by its exchange alone. Whatever the status and the text of an answer,
there is one meaning: the transport comes first, then the status, the envelope, and last whether it
reports success.
-/

namespace AddressRecords

open Unicode (isWhiteSpace trim trimBoth)

/-! White space around a text. -/

/-- `bare` is the text without the white space around it. -/
structure Unicode.Trims (text bare : String) : Prop where
  around : ∃ before after, text = before ++ bare ++ after ∧
    (∀ c ∈ before.toList, isWhiteSpace c) ∧ ∀ c ∈ after.toList, isWhiteSpace c
  starts : ∀ c, bare.toList.head? = some c → ¬ isWhiteSpace c
  ends : ∀ c, bare.toList.getLast? = some c → ¬ isWhiteSpace c

namespace Unicode

variable {p : Char → Bool}

/-- What is dropped from a text at its start, and at its end. -/
theorem exists_around_trimBoth (p : Char → Bool) (text : List Char) :
    ∃ before after, text = before ++ trimBoth p text ++ after ∧ (∀ c ∈ before, p c) ∧
      ∀ c ∈ after, p c := by
  refine ⟨text.takeWhile p, ((text.dropWhile p).reverse.takeWhile p).reverse, ?_, ?_, ?_⟩
  · rw [trimBoth, List.append_assoc, ← List.reverse_append, List.takeWhile_append_dropWhile,
      List.reverse_reverse, List.takeWhile_append_dropWhile]
  · exact fun c => List.mem_takeWhile_imp
  · exact fun c among => List.mem_takeWhile_imp (List.mem_reverse.mp among)

theorem dropWhile_append_of_all {before rest : List Char} (blank : ∀ c ∈ before, p c)
    (starts : ∀ c, rest.head? = some c → p c = false) : (before ++ rest).dropWhile p = rest := by
  rw [List.dropWhile_append_of_pos blank, dropWhile_eq_self starts]

theorem trimBoth_of_around {before bare after : List Char} (first : ∀ c ∈ before, p c)
    (last : ∀ c ∈ after, p c) (starts : ∀ c, bare.head? = some c → p c = false)
    (ends : ∀ c, bare.getLast? = some c → p c = false) :
    trimBoth p (before ++ bare ++ after) = bare := by
  have back : ∀ c ∈ after.reverse, p c := fun c among => last c (List.mem_reverse.mp among)
  cases bare with
  | nil =>
    -- Where all is dropped, the first pass drops what is behind as well.
    have dropped : (before ++ [] ++ after).dropWhile p = [] := by
      rw [List.append_nil, List.dropWhile_eq_nil_iff]
      exact fun c among => (List.mem_append.mp among).elim (first c) (last c)
    rw [trimBoth, dropped]
    rfl
  | cons c rest =>
    rw [trimBoth, List.append_assoc, dropWhile_append_of_all first, List.reverse_append,
      dropWhile_append_of_all back, List.reverse_reverse]
    · rwa [List.head?_reverse]
    · exact starts

theorem trims_iff {text bare : String} : Trims text bare ↔ trim text = bare := by
  constructor
  · rintro ⟨⟨before, after, rfl, first, last⟩, starts, ends⟩
    rw [trim, ← String.toList_inj, String.toList_ofList, String.toList_append,
      String.toList_append]
    exact trimBoth_of_around first last (by simpa using starts) (by simpa using ends)
  · rintro rfl
    obtain ⟨before, after, whole, first, last⟩ := exists_around_trimBoth isWhiteSpace text.toList
    constructor
    case around =>
      refine ⟨.ofList before, .ofList after, ?_, by simpa using first, by simpa using last⟩
      rw [← String.toList_inj]
      simpa [trim] using whole
    case starts =>
      intro c head
      rw [trim, String.toList_ofList] at head
      simp [of_head?_trimBoth head]
    case ends =>
      intro c last
      rw [trim, String.toList_ofList] at last
      simp [of_getLast?_trimBoth last]

end Unicode

namespace Api

open Unicode (Trims)

/-! What a refusal tells. -/

/-- No error is found in the text. -/
def Silent (text : String) : Prop :=
  ∀ errors, Json.readText ErrorBody.reader text = .ok errors → errors = []

/-- Among the errors in the text is that of a missing record. -/
def ReportsMissing (text : String) : Prop :=
  ∃ errors, Json.readText ErrorBody.reader text = .ok errors ∧ ∃ e ∈ errors, e.code = 81044

/-- The detail that is told of a refusal with this text: all its errors, or else the text itself,
cut behind whole characters if it is long. -/
inductive Detail (text : String) : String → Prop
  | reported {errors : List ResponseInfo} (read : Json.readText ErrorBody.reader text = .ok errors)
      (some_error : errors ≠ []) :
      Detail text ("; ".intercalate (errors.map fun e => s!"{e.message} (code {e.code})"))
  | empty (silent : Silent text) (trims : Trims text "") : Detail text "empty response body"
  | whole {bare : String} (silent : Silent text) (trims : Trims text bare) (some_text : bare ≠ "")
      (short : bare.length ≤ 200) : Detail text bare
  | cut {kept rest : String} (silent : Silent text) (trims : Trims text (kept ++ rest))
      (full : kept.length = 200) (more : rest ≠ "") : Detail text (kept ++ "...")

namespace Failure

/-- What a refusal tells. -/
def detailOf (text : String) : String :=
  if (reportedErrors text).isEmpty then excerpt text else summarize (reportedErrors text)

theorem reportedErrors_of_read {text : String} {errors : List ResponseInfo}
    (read : Json.readText ErrorBody.reader text = .ok errors) : reportedErrors text = errors := by
  rw [reportedErrors, read]
  rfl

theorem read_of_reportedErrors {text : String} (some_error : reportedErrors text ≠ []) :
    Json.readText ErrorBody.reader text = .ok (reportedErrors text) := by
  cases read : Json.readText ErrorBody.reader text with
  | error fault =>
    rw [reportedErrors, read] at some_error
    contradiction
  | ok errors => rw [reportedErrors_of_read read]

theorem silent_iff {text : String} : Silent text ↔ reportedErrors text = [] := by
  constructor
  · intro silent
    by_contra some_error
    exact some_error (silent _ (read_of_reportedErrors some_error))
  · intro none errors read
    rwa [reportedErrors_of_read read] at none

theorem reportsMissing_iff {text : String} :
    ReportsMissing text ↔ reportsMissingRecord (reportedErrors text) = true := by
  rw [reportsMissingRecord, List.any_eq_true]
  constructor
  · rintro ⟨errors, read, e, among, code⟩
    exact ⟨e, reportedErrors_of_read read ▸ among, beq_iff_eq.mpr code⟩
  · rintro ⟨e, among, code⟩
    exact ⟨_, read_of_reportedErrors (List.ne_nil_of_mem among), e, among, beq_iff_eq.mp code⟩

theorem summarize_of_ne_nil {errors : List ResponseInfo} (some_error : errors ≠ []) :
    summarize errors =
      "; ".intercalate (errors.map fun e => s!"{e.message} (code {e.code})") := by
  rw [summarize, if_neg (by simpa using some_error)]

theorem detailOf_of_silent {text : String} (silent : Silent text) :
    detailOf text = excerpt text := by
  rw [detailOf, silent_iff.mp silent]
  rfl

theorem excerpt_of_trims_empty {text : String} (trims : Trims text "") :
    excerpt text = "empty response body" := by
  rw [excerpt, Unicode.trims_iff.mp trims]
  rfl

theorem excerpt_of_trims_short {text bare : String} (trims : Trims text bare)
    (some_text : bare ≠ "") (short : bare.length ≤ 200) : excerpt text = bare := by
  have some_char : ¬ bare.toList.isEmpty := by simpa using some_text
  have within : bare.toList.length ≤ excerptLength := by
    rwa [String.length_toList, excerptLength]
  rw [excerpt, Unicode.trims_iff.mp trims, if_neg some_char, if_pos within, String.ofList_toList]

theorem excerpt_of_trims_long {text kept rest : String} (trims : Trims text (kept ++ rest))
    (full : kept.length = 200) (more : rest ≠ "") : excerpt text = kept ++ "..." := by
  have length : kept.toList.length = excerptLength := by
    rw [String.length_toList, full, excerptLength]
  have some_more : 0 < rest.toList.length := by
    rw [List.length_pos_iff]
    simpa using more
  have long : ¬ (kept.toList ++ rest.toList).length ≤ excerptLength := by
    rw [List.length_append]
    omega
  rw [excerpt, Unicode.trims_iff.mp trims, String.toList_append, if_neg (by simp [more]),
    if_neg long, ← length, List.take_left, String.ofList_toList]

/-- A long text falls into what is kept and what is left out. -/
theorem exists_kept {text : String} (long : ¬ text.length ≤ 200) :
    ∃ kept rest, text = kept ++ rest ∧ kept.length = 200 ∧ rest ≠ "" := by
  let kept := String.ofList (text.toList.take 200)
  let rest := String.ofList (text.toList.drop 200)
  have parts : text = kept ++ rest := by
    rw [← String.toList_inj]
    simp [kept, rest]
  have full : kept.length = 200 := by
    rw [← String.length_toList] at long
    simp only [kept, String.length_ofList, List.length_take]
    omega
  refine ⟨kept, rest, parts, full, ?_⟩
  intro none
  rw [parts, none, String.append_empty, full] at long
  exact long (Nat.le_refl _)

theorem detail_detailOf (text : String) : Detail text (detailOf text) := by
  by_cases none : reportedErrors text = []
  · have silent := silent_iff.mpr none
    have trims := Unicode.trims_iff.mpr (rfl : trim text = trim text)
    rw [detailOf_of_silent silent]
    by_cases blank : trim text = ""
    · rw [blank] at trims
      rw [excerpt_of_trims_empty trims]
      exact .empty silent trims
    by_cases short : (trim text).length ≤ 200
    · rw [excerpt_of_trims_short trims blank short]
      exact .whole silent trims blank short
    · obtain ⟨kept, rest, parts, full, more⟩ := exists_kept short
      rw [parts] at trims
      rw [excerpt_of_trims_long trims full more]
      exact .cut silent trims full more
  · rw [detailOf, if_neg (by simpa using none), summarize_of_ne_nil none]
    exact .reported (read_of_reportedErrors none) none

end Failure

/-- A refusal tells one detail. -/
theorem Detail.eq_detailOf {text detail : String} (told : Detail text detail) :
    detail = Failure.detailOf text := by
  cases told with
  | reported read some_error =>
    rw [Failure.detailOf, Failure.reportedErrors_of_read read, if_neg (by simpa using some_error),
      Failure.summarize_of_ne_nil some_error]
  | empty silent trims =>
    rw [Failure.detailOf_of_silent silent, Failure.excerpt_of_trims_empty trims]
  | whole silent trims some_text short =>
    rw [Failure.detailOf_of_silent silent, Failure.excerpt_of_trims_short trims some_text short]
  | cut silent trims full more =>
    rw [Failure.detailOf_of_silent silent, Failure.excerpt_of_trims_long trims full more]

/-! What a status tells. -/

namespace Status

theorem isSuccess_iff {status : Status} :
    status.isSuccess = true ↔ 200 ≤ status.code ∧ status.code < 300 := by
  simp [isSuccess]

/-- A status of its own kind of failure, which no error in the text makes another one. -/
def IsVerdict (status : Status) : Prop :=
  (status.code = 401 ∨ status.code = 403) ∨ status.code = 429 ∨
    (500 ≤ status.code ∧ status.code ≤ 599)

instance : DecidablePred IsVerdict := fun _ => inferInstanceAs (Decidable (_ ∨ _))

end Status

/-! What an exchange means. -/

variable {σ α : Type}

/-- How the exchange for a call ends. -/
inductive Ends (api : Service σ) (client : Client) (call : Call) (state : σ) :
    Except TransportFault Reply → Prop
  | unwritten {fault : TransportFault} (none : client.request call = .error fault) :
      Ends api client call state (.error fault)
  | unsent {request : Request} (written : client.request call = .ok request)
      (given : (api.answer request state).1 = .error .beforeReply) :
      Ends api client call state (.error (.notSent (toString request.url)))
  | cut {request : Request} (written : client.request call = .ok request)
      (given : (api.answer request state).1 = .error .withinBody) :
      Ends api client call state (.error .bodyCut)
  | replied {request : Request} {reply : Reply} (written : client.request call = .ok request)
      (given : (api.answer request state).1 = .ok reply) :
      Ends api client call state (.ok reply)

/-- What the end of an exchange means for its caller. -/
inductive Means (reader : Json.Reader α) :
    Except TransportFault Reply → Except Failure (Envelope α) → Prop
  | broken (fault : TransportFault) : Means reader (.error fault) (.error (.transport fault))
  | unauthorized {reply : Reply} {detail : String}
      (status : reply.status.code = 401 ∨ reply.status.code = 403)
      (told : Detail reply.text detail) :
      Means reader (.ok reply) (.error (.unauthorized reply.status detail))
  | notFound {reply : Reply} {detail : String} (status : reply.status.code = 404)
      (told : Detail reply.text detail) : Means reader (.ok reply) (.error (.notFound detail))
  | rateLimited {reply : Reply} {detail : String} (status : reply.status.code = 429)
      (told : Detail reply.text detail) : Means reader (.ok reply) (.error (.rateLimited detail))
  | server {reply : Reply} {detail : String}
      (status : 500 ≤ reply.status.code ∧ reply.status.code ≤ 599)
      (told : Detail reply.text detail) :
      Means reader (.ok reply) (.error (.server reply.status detail))
  | rejected {reply : Reply} {detail : String} {missing : Bool}
      (refused : ¬ (200 ≤ reply.status.code ∧ reply.status.code < 300))
      (found : reply.status.code ≠ 404) (other : ¬ reply.status.IsVerdict)
      (told : Detail reply.text detail) (flag : missing = true ↔ ReportsMissing reply.text) :
      Means reader (.ok reply) (.error (.rejected reply.status detail missing))
  | unreadable {reply : Reply} {fault : Json.Fault}
      (accepted : 200 ≤ reply.status.code ∧ reply.status.code < 300)
      (read : Json.readText (Envelope.reader reader) reply.text = .error fault) :
      Means reader (.ok reply) (.error (.decode fault))
  | unsuccessful {reply : Reply} {envelope : Envelope α} {missing : Bool}
      (accepted : 200 ≤ reply.status.code ∧ reply.status.code < 300)
      (read : Json.readText (Envelope.reader reader) reply.text = .ok envelope)
      (failed : envelope.success = false)
      (flag : missing = true ↔ ∃ e ∈ envelope.errors, e.code = 81044) :
      Means reader (.ok reply) (.error (.unsuccessful (summarize envelope.errors) missing))
  | success {reply : Reply} {envelope : Envelope α}
      (accepted : 200 ≤ reply.status.code ∧ reply.status.code < 300)
      (read : Json.readText (Envelope.reader reader) reply.text = .ok envelope)
      (success : envelope.success = true) : Means reader (.ok reply) (.ok envelope)

namespace Failure

/-- The failure for a refusal goes by its status alone, but for what is told. -/
theorem ofReply_eq (status : Status) (text : String) : ofReply status text =
    if status.code = 401 ∨ status.code = 403 then unauthorized status (detailOf text)
    else if status.code = 404 then notFound (detailOf text)
    else if status.code = 429 then rateLimited (detailOf text)
    else if 500 ≤ status.code ∧ status.code ≤ 599 then server status (detailOf text)
    else rejected status (detailOf text) (reportsMissingRecord (reportedErrors text)) := rfl

theorem ofReply_of_rejected {status : Status} (text : String) (found : status.code ≠ 404)
    (other : ¬ status.IsVerdict) : ofReply status text =
      rejected status (detailOf text) (reportsMissingRecord (reportedErrors text)) := by
  simp only [Status.IsVerdict, not_or] at other
  rw [ofReply_eq, if_neg (by tauto), if_neg found, if_neg other.2.1, if_neg other.2.2]

theorem means_ofReply (reader : Json.Reader α) {reply : Reply}
    (refused : ¬ (200 ≤ reply.status.code ∧ reply.status.code < 300)) :
    Means reader (.ok reply) (.error (ofReply reply.status reply.text)) := by
  have told := detail_detailOf reply.text
  by_cases found : reply.status.code = 404
  · rw [ofReply_eq, if_neg (by omega), if_pos found]
    exact .notFound found told
  by_cases verdict : reply.status.IsVerdict
  · rw [ofReply_eq]
    rcases verdict with denied | many | broken
    · rw [if_pos denied]
      exact .unauthorized denied told
    · rw [if_neg (by omega), if_neg found, if_pos many]
      exact .rateLimited many told
    · rw [if_neg (by omega), if_neg found, if_neg (by omega), if_pos broken]
      exact .server broken told
  · rw [ofReply_of_rejected _ found verdict]
    exact .rejected refused found verdict told reportsMissing_iff.symm

end Failure

namespace Client

theorem judge_of_refused (reader : Json.Reader α) {reply : Reply}
    (refused : ¬ (200 ≤ reply.status.code ∧ reply.status.code < 300)) :
    judge reader (.ok reply) = .error (.ofReply reply.status reply.text) := by
  rw [← Status.isSuccess_iff] at refused
  simp [judge, refused]

theorem means_judge (reader : Json.Reader α) (answer : Except TransportFault Reply) :
    Means reader answer (judge reader answer) := by
  cases answer with
  | error fault => exact .broken fault
  | ok reply =>
    by_cases accepted : 200 ≤ reply.status.code ∧ reply.status.code < 300
    · have status := Status.isSuccess_iff.mpr accepted
      cases read : Json.readText (Envelope.reader reader) reply.text with
      | error fault =>
        have judged : judge reader (.ok reply) = .error (.decode fault) := by
          simp [judge, status, read]
        exact judged ▸ .unreadable accepted read
      | ok envelope =>
        cases told : envelope.success with
        | false =>
          have judged : judge reader (.ok reply) = .error (.unsuccessful
              (summarize envelope.errors) (reportsMissingRecord envelope.errors)) := by
            simp [judge, status, read, told]
          have flag : reportsMissingRecord envelope.errors = true ↔
              ∃ e ∈ envelope.errors, e.code = 81044 := by
            simp [reportsMissingRecord, recordMissingCode]
          exact judged ▸ .unsuccessful accepted read told flag
        | true =>
          have judged : judge reader (.ok reply) = .ok envelope := by
            simp [judge, status, read, told]
          exact judged ▸ .success accepted read told
    · rw [judge_of_refused reader accepted]
      exact Failure.means_ofReply reader accepted

end Client

/-- An exchange means one thing. -/
theorem Means.eq_judge {reader : Json.Reader α} {answer : Except TransportFault Reply}
    {result : Except Failure (Envelope α)} (h : Means reader answer result) :
    result = Client.judge reader answer := by
  cases h with
  | broken fault => rfl
  | unauthorized status told =>
    rw [Client.judge_of_refused _ (by omega), Failure.ofReply_eq, if_pos status, told.eq_detailOf]
  | notFound status told =>
    rw [Client.judge_of_refused _ (by omega), Failure.ofReply_eq, if_neg (by omega),
      if_pos status, told.eq_detailOf]
  | rateLimited status told =>
    rw [Client.judge_of_refused _ (by omega), Failure.ofReply_eq, if_neg (by omega),
      if_neg (by omega), if_pos status, told.eq_detailOf]
  | server status told =>
    rw [Client.judge_of_refused _ (by omega), Failure.ofReply_eq, if_neg (by omega),
      if_neg (by omega), if_neg (by omega), if_pos status, told.eq_detailOf]
  | rejected refused found other told flag =>
    rw [Client.judge_of_refused _ refused, Failure.ofReply_of_rejected _ found other,
      told.eq_detailOf, Bool.eq_iff_iff.mpr (flag.trans Failure.reportsMissing_iff)]
  | unreadable accepted read =>
    simp [Client.judge, Status.isSuccess_iff.mpr accepted, read]
  | @unsuccessful reply envelope missing accepted read failed flag =>
    have same : missing = reportsMissingRecord envelope.errors := by
      rw [Bool.eq_iff_iff, flag]
      simp [reportsMissingRecord, recordMissingCode]
    simp [Client.judge, Status.isSuccess_iff.mpr accepted, read, failed, same]
  | success accepted read told =>
    simp [Client.judge, Status.isSuccess_iff.mpr accepted, read, told]

namespace Client

theorem ends_attempt (api : Service σ) (client : Client) (call : Call) (state : σ) :
    Ends api client call state (attempt api client call state).value := by
  cases written : client.request call with
  | error fault =>
    rw [attempt, written]
    exact .unwritten written
  | ok request =>
    have replied := @Ends.replied σ api client call state request
    have unsent := @Ends.unsent σ api client call state request
    have cut := @Ends.cut σ api client call state request
    rw [attempt, written]
    dsimp only
    generalize api.answer request state = exchange at replied unsent cut
    obtain ⟨answer, after⟩ := exchange
    cases answer with
    | ok reply => exact replied written rfl
    | error interruption =>
      cases interruption with
      | beforeReply => exact unsent written rfl
      | withinBody => exact cut written rfl

end Client

theorem Ends.eq_attempt {api : Service σ} {client : Client} {call : Call} {state : σ}
    {answer : Except TransportFault Reply} (h : Ends api client call state answer) :
    answer = (Client.attempt api client call state).value := by
  cases h with
  | unwritten none => rw [Client.attempt, none]
  | @unsent request written given | @cut request written given | @replied request _ written given =>
    rw [Client.attempt, written]
    dsimp only
    generalize api.answer request state = exchange at given
    obtain ⟨answer, after⟩ := exchange
    cases given
    rfl

/-- A call gives what the end of its exchange means: always one result, and no other. -/
theorem Client.value_send_iff (api : Service σ) (client : Client) (reader : Json.Reader α)
    (call : Call) (state : σ) (result : Except Failure (Envelope α)) :
    (send api client reader call state).value = result ↔
      ∃ answer, Ends api client call state answer ∧ Means reader answer result := by
  rw [send, Act.value_map]
  constructor
  · rintro rfl
    exact ⟨_, ends_attempt api client call state, means_judge reader _⟩
  · rintro ⟨answer, ends, means⟩
    rw [means.eq_judge, ends.eq_attempt]

end Api

end AddressRecords
