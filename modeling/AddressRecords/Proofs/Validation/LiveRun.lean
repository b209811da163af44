import AddressRecords.Proofs.Atomicity.Input
import AddressRecords.Proofs.Validation.Exit
import AddressRecords.Proofs.Zone.Settled

/-!
What a live run may change. What it expects of the records it has created and deleted is always so,
and after it has looked at a domain it makes at most three calls: one that creates a record in the
zone of the domain, and two that update and delete that same record there.
-/

namespace AddressRecords

open Api (Client Reply Service)

variable {σ : Type}

/-! Changes in a known zone. -/

namespace Handle

variable {handle : Handle σ} {domain : Domain} {zone : String} {state : HandleState σ}
  {key : RecordKey} {address : Address}

/-- The zone of a key is known, and its records are. -/
structure Ready (key : RecordKey) (zone : String) (state : HandleState σ) : Prop where
  settled : Settled key.domain zone state
  warm : ∃ records, state.1.get key = some records

theorem Ready.perform (handle : Handle σ) (ready : Ready key zone state) (operation : Operation)
    (located : operation.domain? = some key.domain) :
    Ready key zone (handle.perform operation state).state where
  settled := ready.settled.perform handle operation located
  warm := by
    obtain ⟨records, warm⟩ := ready.warm
    exact ⟨_, handle.get_perform_of_warm warm operation⟩

theorem calls_list_of_ready (handle : Handle σ) (ready : Ready key zone state) :
    (handle.perform (.list key) state).calls = [] := by
  obtain ⟨records, warm⟩ := ready.warm
  exact handle.isQuiet_of_isIdle (Option.isSome_iff_exists.mpr ⟨records, warm⟩)

theorem calls_create_of_ready (handle : Handle σ) (ready : Ready key zone state)
    (own : key.family.owns address) (ttl : Ttl) (proxied : Bool) :
    (handle.perform (.create key address ttl proxied) state).calls =
      [(Command.create zone (newRecord key address ttl proxied)).call handle.client] := by
  refine (Act.calls_bind_of_quiet (.pure _)).trans ?_
  rw [handle.create_of_own own, (handle.inZone_of_settled ready.settled _).2.2,
    handle.calls_createIn]

theorem calls_update_of_ready (handle : Handle σ) (ready : Ready key zone state)
    (own : key.family.owns address) (id : String) :
    (handle.perform (.update key id address) state).calls =
      [(Command.update zone id (recordPatch key address)).call handle.client] := by
  refine (Act.calls_bind_of_quiet (.pure _)).trans ?_
  rw [handle.update_of_own own, (handle.inZone_of_settled ready.settled _).2.2,
    handle.calls_updateIn]

theorem calls_delete_of_ready (handle : Handle σ) (ready : Ready key zone state) (id : String) :
    (handle.perform (.delete key id) state).calls =
      [(Command.delete zone id).call handle.client] := by
  refine (Act.calls_bind_of_quiet (.pure _)).trans ?_
  rw [delete, (handle.inZone_of_settled ready.settled _).2.2, handle.calls_deleteIn]

/-- A create that succeeds was confirmed where the handle is now. -/
theorem confirmed_of_ready (ready : Ready key zone state) {ttl : Ttl} {proxied : Bool} {id : String}
    (created : (handle.perform (.create key address ttl proxied) state).value = .ok (.id id)) :
    Command.Confirmed handle state.2.2 (.create zone (newRecord key address ttl proxied))
      (.id id) := by
  obtain ⟨given, made, same⟩ := ok_of_map created
  cases same
  have inside := (ok_of_withOwn made).2
  rw [(handle.inZone_of_settled ready.settled _).1] at inside
  exact confirmed_of_createIn inside

/-- Only changes do more than read. -/
theorem get_of_mem_calls (handle : Handle σ) {operation : Operation} (still : ¬ operation.IsChange)
    (state : HandleState σ) : ∀ call ∈ (handle.perform operation state).calls, call.method = .get := by
  have reads : ∀ call : Api.Call, call.method = .get → call.method = .get := fun _ => id
  cases operation with
  | list key =>
    have calls : (handle.perform (.list key) state).calls = (handle.list key state).calls :=
      Act.calls_bind_of_quiet (.pure _)
    rw [calls]
    exact (asks_list reads key state).calls_of_kind
  | resolve domain =>
    have calls : (handle.perform (.resolve domain) state).calls =
        (handle.resolve domain state).calls := Act.calls_bind_of_quiet (.pure _)
    rw [calls]
    exact (asks_resolve reads domain state).calls_of_kind
  | create | update | delete => exact absurd trivial still
  | flush => exact fun _ mem => nomatch mem

theorem get_of_mem_calls_performAll (handle : Handle σ) {operations : List Operation}
    (still : ∀ operation ∈ operations, ¬ operation.IsChange) (state : HandleState σ) :
    ∀ call ∈ (handle.performAll operations state).calls, call.method = .get := by
  induction operations generalizing state with
  | nil => exact fun _ mem => nomatch mem
  | cons operation rest ih =>
    obtain ⟨first, later⟩ := List.forall_mem_cons.mp still
    rw [calls_performAll_cons]
    exact List.forall_mem_append.mpr ⟨handle.get_of_mem_calls first state, ih later _⟩

/-- Who does less makes fewer calls. -/
theorem calls_performAll_prefix (handle : Handle σ) {before operations : List Operation}
    (h : before <+: operations) (state : HandleState σ) :
    (handle.performAll before state).calls <+: (handle.performAll operations state).calls := by
  obtain ⟨after, rfl⟩ := h
  rw [calls_performAll_append]
  exact List.prefix_append _ _

end Handle

/-- What follows a plan in two parts either ends in the first part or goes through all of it. -/
theorem History.Follows.cut {plan more : List Operation} {history : History}
    (h : Follows (plan ++ more) history) :
    (Follows plan history ∧ ¬ history.Succeeds) ∨ ∃ before after, history = before ++ after ∧
      Follows plan before ∧ before.Succeeds ∧ Follows more after := by
  induction plan generalizing history with
  | nil => exact .inr ⟨[], history, rfl, .done, succeeds_nil, h⟩
  | cons operation rest ih =>
    cases h with
    | failed _ _ failure =>
      exact .inl ⟨.failed operation rest failure, not_succeeds_of_mem List.mem_cons_self⟩
    | went_on _ answer later =>
      rcases ih later with ⟨follows, fails⟩ | ⟨before, after, rfl, follows, succeeds, last⟩
      · refine .inl ⟨.went_on operation answer follows, fun all => fails ?_⟩
        exact (List.forall_mem_cons.mp all).2
      · refine .inr ⟨(operation, .ok answer) :: before, after, rfl,
          .went_on operation answer follows, ?_, last⟩
        exact List.forall_mem_cons.mpr ⟨⟨answer, rfl⟩, succeeds⟩

namespace Validation

/-- The changes of a run, as calls. -/
def commands (key : RecordKey) (address : Address) (zone id : String) : List Command :=
  [.create zone (Handle.newRecord key address .auto false),
    .update zone id (Handle.recordPatch key address), .delete zone id]

theorem calls_changes (handle : Handle σ) {domain : Domain} {address : Address} {zone : String}
    {state : HandleState σ} (ready : Handle.Ready ⟨domain, address.family⟩ zone state)
    (id : String) :
    (handle.performAll (changes domain address id) state).calls =
      (commands ⟨domain, address.family⟩ address zone id).map (·.call handle.client) := by
  let key : RecordKey := ⟨domain, address.family⟩
  have own : key.family.owns address := beq_self_eq_true _
  have created := ready.perform handle (.create key address .auto false) rfl
  have listed := created.perform handle (.list key) rfl
  have updated := listed.perform handle (.update key id address) rfl
  have deleted := updated.perform handle (.delete key id) rfl
  simp only [changes, Handle.calls_performAll_cons, Handle.performAll_nil,
    handle.calls_create_of_ready ready own, handle.calls_list_of_ready created,
    handle.calls_update_of_ready listed own, handle.calls_delete_of_ready updated,
    handle.calls_list_of_ready deleted, key]
  rfl

/-- What a visit calls after the domain was looked at: `changed`, in the zone `zone`. -/
structure Confined (handle : Handle σ) (address : Address) (state : HandleState σ)
    (visited : Domain × History) (zone : String) (changed : List Command) : Prop where
  calls : (handle.performAll visited.2.operations state).calls =
    (handle.performAll (History.operations (visited.2.take 3)) state).calls ++
      changed.map (·.call handle.client)
  reads : ∀ call ∈ (handle.performAll (History.operations (visited.2.take 3)) state).calls,
    call.method = .get
  order : changed <+: commands ⟨visited.1, address.family⟩ address zone visited.2.created
  resolved : changed ≠ [] → (.resolve visited.1, .ok (.id zone)) ∈ visited.2
  /-- What is updated and deleted was created by the call before. -/
  own : 1 < changed.length → Command.Confirmed handle
    (handle.performAll (History.operations (visited.2.take 3)) state).state.2.2
    (.create zone (Handle.newRecord ⟨visited.1, address.family⟩ address .auto false))
    (.id visited.2.created)

theorem still_of_mem_looks {domain : Domain} : ∀ operation ∈ looks domain, ¬ operation.IsChange := by
  simp [looks, Operation.IsChange]

/-- After a look at a domain, its zone and its records are known. -/
theorem exists_ready (handle : Handle σ) {domain : Domain} (family : Family) {state : HandleState σ}
    (looked : History.Succeeds (handle.history (looks domain) state)) :
    ∃ zone, (.resolve domain, .ok (.id zone)) ∈ handle.history (looks domain) state ∧
      Handle.Ready ⟨domain, family⟩ zone (handle.performAll (looks domain) state).state := by
  have warm := warm_of_looks family looked
  have first := looked
  rw [looks, Handle.history_cons] at first
  obtain ⟨answer, resolved⟩ := (List.forall_mem_cons.mp first).1
  obtain ⟨zone, found, rfl⟩ := Handle.ok_of_map resolved
  refine ⟨zone, ?_, ?_, warm⟩
  · rw [looks, Handle.history_cons]
    exact List.mem_cons.mpr (.inl (Prod.ext rfl resolved.symm))
  · have settled := Handle.settled_of_resolve found
    have listed := settled.perform handle (.list ⟨domain, .v4⟩) rfl
    exact listed.perform handle (.list ⟨domain, .v6⟩) rfl

/-- What goes on after a create has its confirmation. -/
theorem confirmed_of_changes {handle : Handle σ} {domain : Domain} {address : Address}
    {zone id : String} {state : HandleState σ}
    (ready : Handle.Ready ⟨domain, address.family⟩ zone state) {changed : History}
    (changing : History.Follows (changes domain address id) changed)
    (performed : handle.history changed.operations state = changed)
    (several : 1 < (handle.performAll changed.operations state).calls.length) :
    Command.Confirmed handle state.2.2
      (.create zone (Handle.newRecord ⟨domain, address.family⟩ address .auto false))
      (.id changed.created) := by
  have own : address.family.owns address := beq_self_eq_true _
  cases changing with
  | failed create _ failure =>
    rw [History.operations, List.map_singleton, Handle.calls_performAll_cons,
      handle.calls_create_of_ready ready own] at several
    exact absurd several (Nat.lt_irrefl 1)
  | went_on create answer later =>
    rw [History.operations, List.map_cons, Handle.history_cons] at performed
    obtain ⟨-, created⟩ := Prod.mk.inj (List.cons.inj performed).1
    obtain ⟨made, -, rfl⟩ := Handle.ok_of_map created
    exact Handle.confirmed_of_ready ready created

/-- A visit that does not get past looking at its domain changes nothing. -/
theorem confined_of_looking (handle : Handle σ) {domain : Domain} {history : History}
    (looking : History.Follows (looks domain) history) (address : Address)
    (state : HandleState σ) (zone : String) :
    Confined handle address state (domain, history) zone [] := by
  have all : history.take 3 = history := by
    have short := looking.prefix_plan.length_le
    rw [History.operations, List.length_map] at short
    exact List.take_of_length_le short
  constructor
  case calls =>
    dsimp only
    rw [all]
    exact (List.append_nil _).symm
  case reads =>
    dsimp only
    rw [all]
    apply handle.get_of_mem_calls_performAll
    intro operation mem
    exact still_of_mem_looks operation (looking.prefix_plan.subset mem)
  case order => exact List.nil_prefix
  case resolved => exact fun impossible => absurd rfl impossible
  case own => exact fun impossible => absurd impossible (by decide)

/-- One that does goes on in the zone that it has found. -/
theorem exists_confined_of_changing {handle : Handle σ} {domain : Domain} {address : Address}
    {looked changed : History} {state : HandleState σ}
    (looking : History.Follows (looks domain) looked) (succeeds : looked.Succeeds)
    (changing : History.Follows (changes domain address (History.created (looked ++ changed)))
      changed)
    (performed : handle.history (History.operations (looked ++ changed)) state =
      looked ++ changed) :
    ∃ zone made, Confined handle address state (domain, looked ++ changed) zone made := by
  have planned := looking.eq_plan succeeds
  have length : looked.length = 3 := by
    have same := congrArg List.length planned
    rwa [History.operations, List.length_map] at same
  have front : (looked ++ changed).take 3 = looked := List.take_left' length
  obtain ⟨began, went_on⟩ := (handle.performed_append state).mp performed
  rw [planned] at began went_on
  obtain ⟨zone, resolved, ready⟩ := exists_ready handle address.family (began ▸ succeeds)
  rw [began] at resolved
  let start := (handle.performAll (looks domain) state).state
  let made := (commands ⟨domain, address.family⟩ address zone
    (History.created (looked ++ changed))).take
      (handle.performAll changed.operations start).calls.length
  have named : History.created (looked ++ changed) = changed.created :=
    created_of_looks looking changed
  have within := handle.calls_performAll_prefix changing.prefix_plan start
  rw [calls_changes handle ready, List.prefix_iff_eq_take, ← List.map_take] at within
  refine ⟨zone, made, ?_⟩
  constructor
  case calls =>
    have parts : History.operations (looked ++ changed) = looks domain ++ changed.operations := by
      rw [← planned]
      exact List.map_append
    dsimp only
    rw [front, planned, parts, handle.calls_performAll_append]
    exact congrArg _ within
  case reads =>
    dsimp only
    rw [front, planned]
    exact handle.get_of_mem_calls_performAll still_of_mem_looks state
  case order => exact List.take_prefix _ _
  case resolved => exact fun _ => List.mem_append_left _ resolved
  case own =>
    intro several
    dsimp only
    rw [front, planned, named]
    apply confirmed_of_changes ready changing went_on
    rwa [within, List.length_map]

theorem exists_confined (handle : Handle σ) {address : Address} {visited : Domain × History}
    {state : HandleState σ}
    (follows : History.Follows (visit (some address) visited.1 visited.2.created) visited.2)
    (performed : handle.history visited.2.operations state = visited.2) :
    ∃ zone changed, Confined handle address state visited zone changed := by
  obtain ⟨domain, history⟩ := visited
  have cut : History.Follows (looks domain ++ changes domain address history.created) history :=
    follows
  rcases cut.cut with ⟨looking, -⟩ | ⟨looked, changed, rfl, looking, succeeds, changing⟩
  · exact ⟨"", [], confined_of_looking handle looking address state ""⟩
  · exact exists_confined_of_changing looking succeeds changing performed

/-! The run. -/

theorem not_isForeign_of_mem_visit {address : Address} {domain : Domain} {id : String} :
    ∀ operation ∈ visit (some address) domain id, ¬ operation.IsForeign := by
  have own : address.family.owns address := beq_self_eq_true _
  simp [visit, looks, changes, Operation.IsForeign, own]

theorem accepts_connect (api : Service σ) (credentials : Credentials) :
    (credentials.connect api).Accepts := by
  unfold Credentials.connect Credentials.connectBy
  split
  · exact .bind fun _ => .error (by simp)
  · apply Act.Accepts.bind
    intro answer
    cases Credentials.Verdict.ofAnswer answer with
    | active => exact .bind fun _ => .ok _
    | refused reason => exact .bind fun _ => .bind fun _ => .error (by simp)
    | unknown reason => exact .bind fun _ => .error (by simp)

/-- Visits that change a record at the address, each no more than its own. -/
structure Careful (handle : Handle σ) (address : Address) (domains : List Domain)
    (start : HandleState σ) (visits : List (Domain × History)) : Prop where
  course : Course handle (some address) domains start visits
  /-- No operation complains about its input. -/
  accepted : ∀ entry ∈ entries visits, ∀ reason, entry.2 ≠ .error (.invalidInput reason)
  confined : ∀ before visited after, visits = before ++ visited :: after →
    ∃ zone changed, Confined handle address
      (handle.performAll (entries before).operations start).state visited zone changed

theorem careful_of_course {handle : Handle σ} {address : Address} {domains : List Domain}
    {start : HandleState σ} {visits : List (Domain × History)}
    (course : Course handle (some address) domains start visits) :
    Careful handle address domains start visits := by
  constructor
  case course => exact course
  case accepted =>
    have own : ∀ operation ∈ (entries visits).operations, ¬ operation.IsForeign := by
      intro operation mem
      obtain ⟨entry, among, rfl⟩ := List.mem_map.mp mem
      obtain ⟨visited, there, inside⟩ := List.mem_flatMap.mp among
      have planned := (course.follows visited there).prefix_plan.subset (List.mem_map_of_mem inside)
      exact not_isForeign_of_mem_visit _ planned
    have accepted := handle.ne_invalidInput_of_history own start
    rwa [course.performed] at accepted
  case confined =>
    intro before visited after split
    have mem : visited ∈ visits := split ▸ List.mem_append_right _ List.mem_cons_self
    exact exists_confined handle (course.follows visited mem) (course.performed_visit split)

/-- A live run that writes the address. -/
structure LiveRun (api : Service σ) (env : Environment) (settings : Settings) (address : Address)
    (remote : σ) : Prop where
  /-- What is expected of the records after a create or a delete is so. -/
  expected : ∀ id, ((run api settings).run remote).value ≠ .error (.notListed id) ∧
    ((run api settings).run remote).value ≠ .error (.stillListed id)
  accepted : ∀ reason,
    ((run api settings).run remote).value ≠ .error (.operation (.invalidInput reason))
  /-- Connecting only reads. -/
  reads : ∀ call ∈ (settings.handle.provider.credentials.connect api remote).calls,
    call.method = .get
  unconnected : ∀ failure,
    (settings.handle.provider.credentials.connect api remote).value = .error failure →
    (program api env remote).calls = (settings.handle.provider.credentials.connect api remote).calls
  connected : ∀ handle,
    (settings.handle.provider.credentials.connect api remote).value = .ok handle →
    let start := .initial (settings.handle.provider.credentials.connect api remote).state
    ∃ visits, Careful handle address settings.domains start visits ∧
      (program api env remote).calls =
        (settings.handle.provider.credentials.connect api remote).calls ++
          (handle.performAll (entries visits).operations start).calls

/-- A live run that ends early ends with the failure of an operation, which is not about input. -/
theorem exists_failure_of_run {settings : Settings} {credentials : Credentials} {address : Address}
    (given : Credentials.ofConfig settings.handle.provider = .ok credentials)
    (written : settings.writtenAddress = some address) {api : Service σ} {remote : σ}
    {error : RunError} (failed : ((run api settings).run remote).value = .error error) :
    ∃ failure, error = .operation failure ∧ ∀ reason, failure ≠ .invalidInput reason := by
  cases answer : (credentials.connect api remote).value with
  | error failure =>
    rw [(run_of_refused given answer).value] at failed
    cases failed
    refine ⟨failure, rfl, ?_⟩
    rintro reason rfl
    exact accepts_connect api credentials remote reason answer
  | ok handle =>
    rw [(run_of_connected given answer).value] at failed
    obtain ⟨visits, course, does⟩ := exists_course handle settings.writtenAddress settings.domains
      (.initial (credentials.connect api remote).state)
    obtain ⟨operation, failure, mem, rfl⟩ := does.fails error failed
    rw [written] at course
    refine ⟨failure, rfl, ?_⟩
    rintro reason rfl
    exact (careful_of_course course).accepted _ mem reason rfl

/-- Whatever the API answers, a live run is not mistaken about its records, and changes none but
those that it has created. -/
theorem changes_only_created {env : Environment} {settings : Settings}
    (h : Settings.ofEnvironment env = .ok settings) (live : env.SelectsLive) (api : Service σ)
    (remote : σ) :
    ∃ address, settings.testAddress = some address ∧ LiveRun api env settings address remote := by
  obtain ⟨read, valid⟩ := Settings.read_of_ofEnvironment h
  have lively : settings.live = true :=
    (Settings.eq_of_read read).1.trans (Settings.isLive_iff.mpr live)
  obtain ⟨address, tested, written⟩ := exists_writtenAddress valid lively
  obtain ⟨credentials, given, -⟩ := exists_credentials valid
  obtain rfl := Credentials.eq_of_ofConfig given
  have finished := finishes h given api remote
  refine ⟨address, tested, ?_⟩
  constructor
  case expected =>
    intro id
    constructor <;>
    · intro failed
      obtain ⟨failure, impossible, -⟩ := exists_failure_of_run given written failed
      cases impossible
  case accepted =>
    intro reason failed
    obtain ⟨failure, same, sound⟩ := exists_failure_of_run given written failed
    cases same
    exact sound reason rfl
  case reads =>
    have reads : ∀ call : Api.Call, call.method = .get → call.method = .get := fun _ => id
    exact (Credentials.asks_connect _ reads remote).calls_of_kind
  case unconnected => exact fun failure refused => (finished.unconnected failure refused).2.1
  case connected =>
    intro handle connected
    obtain ⟨visits, concluded⟩ := finished.connected handle connected
    have course := concluded.course
    rw [written] at course
    exact ⟨visits, careful_of_course course, concluded.calls⟩

/-! A live run to its end, which creates, updates and deletes the record `r`. -/

namespace Rehearsal

def live : Environment := environment
  [("CF_API_TOKEN", "token"), ("DDNS_DOMAINS", "home.example"), ("DDNS_TEST_IP", "192.0.2.1"),
    ("DDNS_MODE", "Live")]

def liveReplies : List Reply :=
  replies ++ [.succeeding "\x7b\"id\":\"r\",\"content\":\"192.0.2.1\"\x7d", .succeeding "\x7b\x7d",
    .succeeding "\x7b\"id\":\"r\"\x7d"]

theorem changes_only_created_home :
    (program .rehearsed live liveReplies).value.ending = .passed ∧
      (program .rehearsed live liveReplies).calls.map (fun call => (call.method, call.path)) =
        [(.get, "/user/tokens/verify"), (.get, "/zones"), (.get, "/zones/z/dns_records"),
          (.get, "/zones/z/dns_records"), (.post, "/zones/z/dns_records"),
          (.patch, "/zones/z/dns_records/r"), (.delete, "/zones/z/dns_records/r")] ∧
      ∃ settings address, Settings.ofEnvironment live = .ok settings ∧ live.SelectsLive ∧
        settings.testAddress = some address ∧
        LiveRun .rehearsed live settings address liveReplies := by
  have run : (program .rehearsed live liveReplies).value.ending = .passed ∧
      (program .rehearsed live liveReplies).calls.map (fun call => (call.method, call.path)) =
        [(.get, "/user/tokens/verify"), (.get, "/zones"), (.get, "/zones/z/dns_records"),
          (.get, "/zones/z/dns_records"), (.post, "/zones/z/dns_records"),
          (.patch, "/zones/z/dns_records/r"), (.delete, "/zones/z/dns_records/r")] := by
    decide +kernel
  have mode : live.SelectsLive := by
    rw [← Settings.isLive_iff]
    decide +kernel
  cases h : Settings.ofEnvironment live with
  | error error =>
    -- The run would not have passed.
    have ending : (program .rehearsed live liveReplies).value.ending = .badSettings := by
      simp only [program, h]
    rw [ending] at run
    cases run.1
  | ok settings =>
    obtain ⟨address, tested, careful⟩ := changes_only_created h mode .rehearsed liveReplies
    exact ⟨run.1, run.2, settings, address, rfl, mode, tested, careful⟩

end Rehearsal

end Validation

end AddressRecords
