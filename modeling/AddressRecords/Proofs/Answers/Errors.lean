import AddressRecords.Proofs.Answers.Meaning
import AddressRecords.Proofs.Json.Passing

/-!
The errors that an answer reports, read in two ways: with the rest of the envelope where the status
is one of success, and alone where it is not. An object that is read as an envelope holds the same
errors for both.
-/

namespace AddressRecords.Api

open Json (Document Fault Members Node Reader)

variable {α : Type} {reader : Reader α}

theorem ResultInfo.reader_passes : ResultInfo.reader.Passes := by
  apply Reader.Passes.record
  case inItems =>
    intro depth items value rest read later
    obtain ⟨⟨totalPages, behind⟩, first, last⟩ := exists_of_bind_eq_ok read
    cases last
    exact Json.Items.skip_of_next (Reader.word32_passes depth) first later
  case inMembers =>
    intro depth members value read
    obtain ⟨fields, folded, -⟩ := exists_of_bind_eq_ok read
    refine Members.skip_of_fold ?_ folded
    intro slot key node after step
    split at step
    · exact Reader.word32_passes.of_fill step
    · obtain ⟨_, passed, -⟩ := exists_of_bind_eq_ok step
      exact passed

/-- The errors of an envelope are those that are found by passing over all else. -/
theorem ErrorBody.ofMembers_of_envelope (passes : reader.Passes) {depth : Nat} {members : Members}
    {envelope : Envelope α} (read : Envelope.ofMembers reader depth members = .ok envelope) :
    ErrorBody.ofMembers depth members = .ok envelope.errors := by
  obtain ⟨fields, folded, read⟩ := exists_of_bind_eq_ok read
  obtain ⟨success, -, whole⟩ := exists_of_bind_eq_ok read
  cases whole
  let start : Envelope.Fields α := ⟨none, none, none, none⟩
  change (members.fold _ start.errors >>= _) = _
  rw [Members.fold_of_part Envelope.Fields.errors ?_ folded]
  · rfl
  intro state key node after step
  -- Whatever the member is read for, the other reader passes over it, but for the errors.
  have passing (passed : node.skip = .ok ()) (same : after.errors = state.errors) :
      (do node.skip; return state.errors) = Except.ok (ε := Fault) after.errors := by
    rw [passed, same]
    rfl
  split at step
  all_goals
    obtain ⟨found, one, same⟩ := exists_of_bind_eq_ok step
    cases same
  case h_1 => exact passing (Reader.boolean_passes.of_fill one) rfl
  case h_2 => exact one
  case h_3 => exact passing (passes.option.of_fill one) rfl
  case h_4 => exact passing (ResultInfo.reader_passes.option.of_fill one) rfl
  case h_5 =>
    split
    · contradiction
    · exact passing one rfl

/-- A text is read as an envelope and as what it holds besides. -/
theorem ErrorBody.readText_of_envelope (passes : reader.Passes) {text : String}
    {envelope : Envelope α} (opens : Json.OpensObject text)
    (read : Json.readText (Envelope.reader reader) text = .ok envelope) :
    Json.readText ErrorBody.reader text = .ok envelope.errors := by
  obtain ⟨members, root⟩ := Document.exists_root_of_opensObject opens
  obtain ⟨found, inside, whole⟩ := exists_of_bind_eq_ok read
  -- A brace opens both readings, and the depth is the same in both.
  rw [root] at inside
  have same : ErrorBody.reader Json.depthLimit (.object members) = .ok found.errors :=
    ErrorBody.ofMembers_of_envelope passes inside
  rw [Json.readText, root]
  change (ErrorBody.reader Json.depthLimit (.object members) >>= _) = _
  rw [same]
  change (if (Document.ofText text).trailing then _ else _) = _
  split at whole
  · cases whole
  · cases whole
    rw [if_neg ‹_›]

/-- The detail that a failure tells, if it is one that the API told itself. -/
def Failure.detail? : Failure → Option String
  | unauthorized _ detail | notFound detail | rateLimited detail | server _ detail
  | rejected _ detail _ | unsuccessful detail _ => some detail
  | transport _ | decode _ | incomplete _ => none

theorem Failure.detail?_ofReply (status : Status) (text : String) :
    (ofReply status text).detail? = some (detailOf text) := by
  rw [ofReply_eq]
  split_ifs <;> rfl

/-- What a text that is read as an envelope tells of its errors, whatever status it comes with. -/
structure TellsAlike (reader : Json.Reader α) (text : String) (envelope : Envelope α) : Prop where
  alone : Json.readText ErrorBody.reader text = .ok envelope.errors
  /-- Where the status is one of success and the envelope is not. -/
  unsuccessful : envelope.success = false → ∀ reply, reply.text = text →
    200 ≤ reply.status.code ∧ reply.status.code < 300 → Client.judge reader (.ok reply) =
      .error (.unsuccessful (summarize envelope.errors) (reportsMissingRecord envelope.errors))
  /-- The same record is missing where the status leaves that open. -/
  flag : ∀ reply, reply.text = text →
    ¬ (200 ≤ reply.status.code ∧ reply.status.code < 300) → reply.status.code ≠ 404 →
    ¬ reply.status.IsVerdict → ∃ detail, Client.judge reader (.ok reply) =
      .error (.rejected reply.status detail (reportsMissingRecord envelope.errors))
  /-- The same is told of the errors, if there are any. -/
  detail : envelope.errors ≠ [] → ∀ reply, reply.text = text →
    ¬ (200 ≤ reply.status.code ∧ reply.status.code < 300) →
    ∃ failure, Client.judge reader (.ok reply) = .error failure ∧
      failure.detail? = some (summarize envelope.errors)

theorem tellsAlike_of_passes (passes : reader.Passes) {text : String} {envelope : Envelope α}
    (opens : Json.OpensObject text)
    (read : Json.readText (Envelope.reader reader) text = .ok envelope) :
    TellsAlike reader text envelope := by
  have alone := ErrorBody.readText_of_envelope passes opens read
  have reported := Failure.reportedErrors_of_read alone
  constructor
  case alone => exact alone
  case unsuccessful =>
    rintro failed reply rfl accepted
    simp [Client.judge, Status.isSuccess_iff.mpr accepted, read, failed]
  case flag =>
    rintro reply rfl refused found other
    rw [Client.judge_of_refused reader refused, Failure.ofReply_of_rejected _ found other, reported]
    exact ⟨_, rfl⟩
  case detail =>
    rintro some_error reply rfl refused
    refine ⟨_, Client.judge_of_refused reader refused, ?_⟩
    rw [Failure.detail?_ofReply, Failure.detailOf, reported, if_neg (by simpa using some_error)]

/-- Whatever else an object holds and in whichever order, its errors are the same to both ways of
reading it. -/
theorem errors_told_alike (text : String) (envelope : Envelope Json.Value)
    (opens : Json.OpensObject text)
    (read : Json.readText (Envelope.reader Json.Reader.value) text = .ok envelope) :
    TellsAlike Json.Reader.value text envelope :=
  tellsAlike_of_passes Reader.value_passes opens read

/-- An envelope with its members in disorder, some of them unknown. -/
def disordered : String :=
  " \x7b\"more\":[\x7b\"a\":1e9\x7d],\"errors\":" ++
    "[\x7b\"message\":\"gone\",\"x\":0,\"code\":81044\x7d,\x7b\x7d]," ++
    "\"result\":[null],\"success\":false\x7d"

theorem errors_told_alike_disordered :
    ∃ envelope, Json.OpensObject disordered ∧
      Json.readText (Envelope.reader Json.Reader.value) disordered = .ok envelope ∧
      envelope.errors = [⟨81044, "gone"⟩, ⟨0, ""⟩] ∧ envelope.success = false ∧
      TellsAlike Json.Reader.value disordered envelope := by
  have opens : Json.OpensObject disordered := by decide +kernel
  have told : (Json.readText (Envelope.reader Json.Reader.value) disordered).toOption.map
      (fun envelope => (envelope.errors, envelope.success)) =
        some ([⟨81044, "gone"⟩, ⟨0, ""⟩], false) := by
    decide +kernel
  cases read : Json.readText (Envelope.reader Json.Reader.value) disordered with
  | error fault =>
    rw [read] at told
    cases told
  | ok envelope =>
    rw [read] at told
    obtain ⟨errors, failed⟩ := Prod.ext_iff.mp (Option.some.inj told)
    exact ⟨envelope, opens, rfl, errors, failed, errors_told_alike disordered envelope opens read⟩

end AddressRecords.Api
