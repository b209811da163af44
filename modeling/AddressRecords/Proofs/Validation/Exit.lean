import AddressRecords.Proofs.Validation.Course

/-!
How the validation program exits, and where it stops. Settings are checked when they are read and
again for the credentials and for the handle; what passes the first time passes throughout. From
there on the exit code tells whether every operation succeeded, and the first that did not is the
last thing that is done.
-/

namespace AddressRecords

variable {σ α β : Type}

namespace Validation

/-! Settings. -/

/-- The environment gives no settings, or none that can be used. -/
def Environment.IsRejected (env : Environment) : Prop :=
  (∃ error, Settings.read env = .error error) ∨
    ∃ settings error, Settings.read env = .ok settings ∧ settings.validate = .error error

theorem ofEnvironment_of_valid {env : Environment} {settings : Settings}
    (read : Settings.read env = .ok settings) (valid : settings.validate = .ok ()) :
    Settings.ofEnvironment env = .ok settings := by
  rw [Settings.ofEnvironment, read]
  change settings.validate >>= _ = _
  rw [valid]
  rfl

theorem isRejected_iff {env : Environment} :
    env.IsRejected ↔ ∃ error, Settings.ofEnvironment env = .error error := by
  rw [Environment.IsRejected, Settings.ofEnvironment]
  cases Settings.read env with
  | error error => exact ⟨fun _ => ⟨error, rfl⟩, fun _ => .inl ⟨error, rfl⟩⟩
  | ok settings =>
    change _ ↔ ∃ error, (settings.validate >>= fun _ => pure settings) = .error error
    cases valid : settings.validate with
    | error error => exact ⟨fun _ => ⟨error, rfl⟩, fun _ => .inr ⟨settings, error, rfl, valid⟩⟩
    | ok _ =>
      constructor
      · rintro (⟨error, impossible⟩ | ⟨_, error, ⟨⟩, failed⟩)
        · cases impossible
        · rw [valid] at failed
          cases failed
      · rintro ⟨error, impossible⟩
        cases impossible

/-- Live settings that can be used have an address to write. -/
theorem exists_writtenAddress {settings : Settings} (valid : settings.validate = .ok ())
    (live : settings.live = true) :
    ∃ address, settings.testAddress = some address ∧ settings.writtenAddress = some address := by
  cases tested : settings.testAddress with
  | some address =>
    refine ⟨address, rfl, ?_⟩
    rw [Settings.writtenAddress, if_pos live, tested]
  | none =>
    obtain ⟨_, -, valid⟩ := exists_of_bind_eq_ok valid
    rw [live, tested] at valid
    cases empty : settings.domains.isEmpty <;> rw [empty] at valid <;> cases valid

theorem isSome_writtenAddress_iff {env : Environment} {settings : Settings}
    (read : Settings.read env = .ok settings) (valid : settings.validate = .ok ()) :
    settings.writtenAddress.isSome ↔ env.SelectsLive := by
  rw [← Settings.isLive_iff, ← (Settings.eq_of_read read).1]
  constructor
  · intro some
    by_contra dry
    rw [Settings.writtenAddress, if_neg dry] at some
    cases some
  · intro live
    obtain ⟨address, -, written⟩ := exists_writtenAddress valid live
    rw [written]
    rfl

/-- Settings that can be used have credentials, with a token. -/
theorem exists_credentials {settings : Settings} (valid : settings.validate = .ok ()) :
    ∃ credentials, Credentials.ofConfig settings.handle.provider = .ok credentials ∧
      isBlank credentials.token = false := by
  obtain ⟨_, handled, -⟩ := exists_of_bind_eq_ok valid
  have checked : settings.handle.validate = .ok () := ok_of_mapError handled
  rw [HandleConfig.validate] at checked
  split at checked
  · cases checked
  · refine ⟨settings.handle.provider.credentials, ?_, ?_⟩
    · rw [Credentials.ofConfig, checked]
      rfl
    · rw [ProviderConfig.validate] at checked
      split at checked
      · cases checked
      · exact Bool.eq_false_iff.mpr ‹_›

/-! A run. -/

/-- Outcomes that differ in nothing but what was logged. -/
structure Like (one other : Outcome σ α) : Prop where
  value : one.value = other.value
  calls : one.calls = other.calls
  state : one.state = other.state

theorem Like.trans {one other third : Outcome σ α} (h : Like one other) (also : Like other third) :
    Like one third where
  value := h.value.trans also.value
  calls := h.calls.trans also.calls
  state := h.state.trans also.state

theorem like_of_quiet {first : Steps σ α} {next : α → Steps σ β} {state : σ} {value : α}
    (ok : (first.run state).value = .ok value) (same : (first.run state).state = state)
    (quiet : (first.run state).calls = []) :
    Like ((first >>= next).run state) ((next value).run state) := by
  rw [Steps.bind_of_ok ok, same]
  constructor
  case value => rfl
  case calls =>
    rw [Outcome.calls, List.filterMap_append]
    exact congrArg (· ++ _) quiet
  case state => rfl

/-- What a run does with its handle. -/
def rounds (settings : Settings) (handle : Handle σ) : Steps (HandleState σ) Unit :=
  settings.domains.forM (checkDomain handle settings.writtenAddress)

theorem like_closing (settings : Settings) (handle : Handle σ) (remote : σ) :
    let done := (rounds settings handle).run (.initial remote)
    Like ((do
      note "Handle ready (API token not shown)"
      freshly (rounds settings handle)
      note "=== Validation complete ===" : Steps σ Unit).run remote)
      ⟨done.value, done.state.2.2, done.events⟩ := by
  intro done
  apply Like.trans (like_of_quiet rfl rfl rfl)
  have fresh : (freshly (rounds settings handle)).run remote =
      ⟨done.value, done.state.2.2, done.events⟩ := rfl
  cases ended : done.value with
  | error error =>
    have failed : ((freshly (rounds settings handle)).run remote).value = .error error := ended
    rw [Steps.bind_of_error failed, fresh]
    exact ⟨rfl, rfl, rfl⟩
  | ok value =>
    have ok : ((freshly (rounds settings handle)).run remote).value = .ok value := ended
    rw [Steps.bind_of_ok ok, fresh]
    constructor
    case value => rfl
    case calls =>
      refine List.filterMap_append.trans ?_
      exact List.append_nil _
    case state => rfl

section

variable {api : Api.Service σ} {settings : Settings} {credentials : Credentials} {remote : σ}
  (given : Credentials.ofConfig settings.handle.provider = .ok credentials)

include given

/-- A run connects, and then goes from domain to domain. -/
theorem like_run (api : Api.Service σ) (remote : σ) :
    Like ((run api settings).run remote) ((do
      let handle ← orEnd (credentials.connect api)
      note "Handle ready (API token not shown)"
      freshly (rounds settings handle)
      note "=== Validation complete ===" : Steps σ Unit).run remote) := by
  have found : ((orEnd (pure ((Credentials.ofConfig settings.handle.provider).mapError
      ConfigError.toFailure)) : Steps σ Credentials).run remote).value = .ok credentials := by
    rw [given]
    rfl
  unfold run
  apply Like.trans (like_of_quiet rfl rfl rfl)
  apply Like.trans (like_of_quiet rfl rfl rfl)
  exact like_of_quiet found rfl rfl

theorem run_of_refused {failure : Failure}
    (refused : (credentials.connect api remote).value = .error failure) :
    Like ((run api settings).run remote) ⟨.error (.operation failure),
      (credentials.connect api remote).state, (credentials.connect api remote).events⟩ := by
  have failed : ((orEnd (credentials.connect api)).run remote).value =
      .error (.operation failure) := congrArg (Except.mapError RunError.operation) refused
  apply (like_run given api remote).trans
  rw [Steps.bind_of_error failed]
  constructor
  case value => rfl
  case calls => exact Act.calls_bind_of_quiet (.pure _)
  case state => rfl

theorem run_of_connected {handle : Handle σ}
    (connected : (credentials.connect api remote).value = .ok handle) :
    let start := credentials.connect api remote
    let done := (rounds settings handle).run (.initial start.state)
    Like ((run api settings).run remote)
      ⟨done.value, done.state.2.2, start.events ++ done.events⟩ := by
  have ok : ((orEnd (credentials.connect api)).run remote).value = .ok handle :=
    congrArg (Except.mapError RunError.operation) connected
  apply (like_run given api remote).trans
  rw [Steps.bind_of_ok ok]
  have closing := like_closing settings handle (credentials.connect api remote).state
  constructor
  case value => exact closing.value
  case calls =>
    have opening : ((orEnd (credentials.connect api)).run remote).calls =
        (credentials.connect api remote).calls := Act.calls_bind_of_quiet (.pure _)
    rw [Outcome.calls, Outcome.calls, List.filterMap_append, List.filterMap_append]
    exact congrArg₂ (· ++ ·) opening closing.calls
  case state => exact closing.state

end

/-! What the domains have to pass. -/

/-- The zone, both listings, and each change, with a record created as `id`. -/
def trials (address? : Option Address) (domain : Domain) (id : String) : List Operation :=
  looks domain ++ address?.elim [] fun address =>
    let key : RecordKey := ⟨domain, address.family⟩
    [.create key address .auto false, .update key id address, .delete key id]

/-- All that is tried in a visit has succeeded. -/
def Passed (address? : Option Address) (visited : Domain × History) : Prop :=
  ∀ operation ∈ trials address? visited.1 visited.2.created,
    ∃ answer, (operation, .ok answer) ∈ visited.2

section

variable {address? : Option Address} {domain : Domain} {id : String}

/-- The listings between changes are of a key that was listed before. -/
theorem mem_visit_iff {operation : Operation} :
    operation ∈ visit address? domain id ↔ operation ∈ trials address? domain id := by
  cases address? with
  | none => rfl
  | some address =>
    have listed : Operation.list ⟨domain, address.family⟩ ∈ looks domain := by
      cases address.family <;> simp [looks]
    simp only [visit, trials, changes, Option.elim_some, List.mem_append, List.mem_cons,
      List.not_mem_nil, or_false]
    constructor
    · rintro (look | change | rfl | change | change | rfl)
      · exact .inl look
      · exact .inr (.inl change)
      · exact .inl listed
      · exact .inr (.inr (.inl change))
      · exact .inr (.inr (.inr change))
      · exact .inl listed
    · rintro (look | change | change | change)
      · exact .inl look
      · exact .inr (.inl change)
      · exact .inr (.inr (.inr (.inl change)))
      · exact .inr (.inr (.inr (.inr (.inl change))))

/-- Nothing but a listing is planned twice. -/
theorem pairwise_visit : (visit address? domain id).Pairwise fun one other =>
    one = other → ∃ key, one = .list key := by
  cases address? <;> simp [visit, looks, changes]

end

section

variable {handle : Handle σ} {state : HandleState σ} {address? : Option Address}
  {visited : Domain × History}

theorem passed_iff (follows : History.Follows (visit address? visited.1 visited.2.created) visited.2)
    (performed : handle.history visited.2.operations state = visited.2) :
    visited.2.Succeeds ↔ Passed address? visited := by
  constructor
  · intro succeeds operation tried
    have planned := mem_visit_iff.mpr tried
    rw [← follows.eq_plan succeeds] at planned
    obtain ⟨⟨_, answer⟩, mem, rfl⟩ := List.mem_map.mp planned
    obtain ⟨answer, rfl⟩ := succeeds _ mem
    exact ⟨answer, mem⟩
  · intro passed
    by_contra fails
    obtain ⟨before, operation, failure, split, -⟩ := follows.exists_last fails
    have inside : operation ∈ visited.2.operations := by simp [split, History.operations]
    obtain ⟨answer, mem⟩ := passed operation (mem_visit_iff.mp (follows.prefix_plan.subset inside))
    rw [split] at mem performed
    have earlier : (operation, .ok answer) ∈ before := by simpa using mem
    -- What has succeeded before it fails is planned twice, and so is a listing.
    have ordered := pairwise_visit.sublist follows.prefix_plan.sublist
    rw [split, History.operations, List.map_append] at ordered
    obtain ⟨key, rfl⟩ := (List.pairwise_append.mp ordered).2.2 operation
      (List.mem_map_of_mem earlier) operation (List.mem_singleton_self _) rfl
    -- But what was listed is remembered, and a listing of it does not fail.
    obtain ⟨first, last⟩ := (handle.performed_append state).mp performed
    have warm := handle.get_performAll_ne_none before.operations (first ▸ earlier)
    obtain ⟨records, warm⟩ := Option.ne_none_iff_exists'.mp warm
    obtain ⟨value, -⟩ := handle.list_of_warm warm
    have listed : (handle.perform (.list key)
        (handle.performAll before.operations state).state).value = .ok (.records records) := by
      simp [Handle.perform, value, Except.map]
    rw [History.operations, List.map_singleton, Handle.history_cons, listed] at last
    cases (List.cons.inj last).1

end

/-! The program. -/

/-- How the program ends once it is connected by the calls `opening`. -/
structure Concludes (handle : Handle σ) (settings : Settings) (opening : List Api.Call)
    (start : HandleState σ) (visits : List (Domain × History)) (done : Outcome σ Report) :
    Prop where
  course : Course handle settings.writtenAddress settings.domains start visits
  /-- Nothing comes after an operation that fails. -/
  stops : History.Succeeds (entries visits).dropLast
  /-- Nothing is called but by these operations. -/
  calls : done.calls = opening ++ (handle.performAll (entries visits).operations start).calls
  reached : done.state = (handle.performAll (entries visits).operations start).state.2.2
  passed_iff : done.value.ending.exitCode = 0 ↔
    visits.map (·.1) = settings.domains ∧ ∀ visited ∈ visits, Passed settings.writtenAddress visited
  failed : done.value.ending.exitCode ≠ 0 → done.value.ending.exitCode = 2

/-- How the program ends with settings that can be used, after connecting or trying to. -/
structure Finishes (settings : Settings) (connecting : Outcome σ (Except Failure (Handle σ)))
    (done : Outcome σ Report) : Prop where
  unconnected : ∀ failure, connecting.value = .error failure →
    done.value.ending.exitCode = 2 ∧ done.calls = connecting.calls ∧ done.state = connecting.state
  connected : ∀ handle, connecting.value = .ok handle →
    ∃ visits, Concludes handle settings connecting.calls (.initial connecting.state) visits done

/-- How a run ends that gives this. -/
def Ending.ofResult : Except RunError Unit → Ending
  | .ok () => .passed
  | .error _ => .failed

theorem exitCode_ofResult_eq_zero_iff {result : Except RunError Unit} :
    (Ending.ofResult result).exitCode = 0 ↔ result = .ok () := by
  cases result with
  | ok _ => exact ⟨fun _ => rfl, fun _ => rfl⟩
  | error error =>
    constructor
    · intro zero
      cases zero
    · intro ok
      cases ok

theorem exitCode_ofResult (result : Except RunError Unit) :
    (Ending.ofResult result).exitCode = 0 ∨ (Ending.ofResult result).exitCode = 2 := by
  cases result with
  | ok _ => exact .inl rfl
  | error error => exact .inr rfl

theorem like_conclude (api : Api.Service σ) (settings : Settings) (remote : σ) :
    let done := (run api settings).run remote
    Like (conclude api settings remote) ⟨.ofResult done.value, done.state, done.events⟩ := by
  intro done
  rw [conclude, Act.bind_apply]
  cases ended : ((run api settings).run remote).value with
  | ok _ =>
    constructor
    case value => rfl
    case calls => exact congrArg (List.filterMap _) (List.append_nil _)
    case state => rfl
  | error error =>
    constructor
    case value => rfl
    case calls => exact List.filterMap_append.trans (List.append_nil _)
    case state => rfl

theorem program_of_ok {env : Environment} {settings : Settings}
    (h : Settings.ofEnvironment env = .ok settings) (api : Api.Service σ) (remote : σ) :
    let done := (run api settings).run remote
    let report := program api env remote
    report.value.ending = .ofResult done.value ∧ report.calls = done.calls ∧
      report.state = done.state := by
  have concluded := like_conclude api settings remote
  simp only [program, h]
  exact ⟨concluded.value, concluded.calls, concluded.state⟩

theorem finishes {env : Environment} {settings : Settings} {credentials : Credentials}
    (h : Settings.ofEnvironment env = .ok settings)
    (given : Credentials.ofConfig settings.handle.provider = .ok credentials)
    (api : Api.Service σ) (remote : σ) :
    Finishes settings (credentials.connect api remote) (program api env remote) := by
  obtain ⟨ending, calls, reached⟩ := program_of_ok h api remote
  constructor
  case unconnected =>
    intro failure refused
    have ran := run_of_refused given refused
    rw [ending, calls, reached, ran.value]
    exact ⟨rfl, ran.calls, ran.state⟩
  case connected =>
    intro handle connected
    have ran := run_of_connected given connected
    let start : HandleState σ := .initial (credentials.connect api remote).state
    obtain ⟨visits, course, does⟩ :=
      exists_course handle settings.writtenAddress settings.domains start
    have all_passed : (entries visits).Succeeds ↔
        ∀ visited ∈ visits, Passed settings.writtenAddress visited := by
      refine Course.succeeds_entries.trans (forall₂_congr fun visited mem => ?_)
      obtain ⟨before, after, split⟩ := List.append_of_mem mem
      exact passed_iff (course.follows visited mem) (course.performed_visit split)
    refine ⟨visits, ?_⟩
    constructor
    case course => exact course
    case stops => exact course.succeeds_dropLast
    case calls => rw [calls, ran.calls, ← does.calls]; exact List.filterMap_append
    case reached => rw [reached, ran.state, ← does.reached]; rfl
    case passed_iff =>
      rw [ending, ran.value, exitCode_ofResult_eq_zero_iff]
      refine does.ok_iff.trans ?_
      rw [← all_passed]
      exact ⟨fun all => ⟨course.complete (Course.succeeds_entries.mp all), all⟩, And.right⟩
    case failed =>
      rw [ending]
      exact (exitCode_ofResult _).resolve_left

/-- How the program exits, and where it stops. -/
structure Exits (api : Api.Service σ) (env : Environment) (remote : σ) : Prop where
  rejected_iff : (program api env remote).value.ending.exitCode = 1 ↔ env.IsRejected
  rejected : env.IsRejected →
    (program api env remote).calls = [] ∧ (program api env remote).state = remote
  /-- The checks that come later are passed, as the first was. -/
  accepted : ∀ settings, Settings.read env = .ok settings → settings.validate = .ok () →
    (settings.writtenAddress.isSome ↔ env.SelectsLive) ∧
    ∃ credentials, Credentials.ofConfig settings.handle.provider = .ok credentials ∧
      isBlank credentials.token = false ∧
      Finishes settings (credentials.connect api remote) (program api env remote)

theorem exits (api : Api.Service σ) (env : Environment) (remote : σ) : Exits api env remote := by
  constructor
  case rejected_iff =>
    rw [isRejected_iff]
    cases h : Settings.ofEnvironment env with
    | error error =>
      have ending : (program api env remote).value.ending = .badSettings := by simp only [program, h]
      rw [ending]
      exact ⟨fun _ => ⟨error, rfl⟩, fun _ => rfl⟩
    | ok settings =>
      rw [(program_of_ok h api remote).1]
      constructor
      · intro one
        rcases exitCode_ofResult ((run api settings).run remote).value with zero | two
        · exact absurd (one.symm.trans zero) (by decide)
        · exact absurd (one.symm.trans two) (by decide)
      · rintro ⟨error, impossible⟩
        cases impossible
  case rejected =>
    intro rejected
    obtain ⟨error, h⟩ := isRejected_iff.mp rejected
    obtain ⟨same, none⟩ := program_of_error api h remote
    exact ⟨congrArg (List.filterMap _) none, same⟩
  case accepted =>
    intro settings read valid
    obtain ⟨credentials, given, token⟩ := exists_credentials valid
    refine ⟨isSome_writtenAddress_iff read valid, credentials, given, token, ?_⟩
    exact finishes (ofEnvironment_of_valid read valid) given api remote

end Validation

end AddressRecords
