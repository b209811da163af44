import AddressRecords.Proofs.Calls.Sent
import AddressRecords.Proofs.Json.Passing
import AddressRecords.Validation.Program

/-!
What the validation program may ask of the API. Unless the mode is live, all its calls read; and a
live run without an address to write comes to nothing before the first call.
-/

namespace AddressRecords.Validation

open Api (Call Client Reply Service)

variable {σ τ α β : Type}

/-! Results. -/

theorem ok_of_mapError {ε δ : Type} {answer : Except ε α} {change : ε → δ} {value : α}
    (h : answer.mapError change = .ok value) : answer = .ok value := by
  cases answer with
  | error error => cases h
  | ok found => cases h; rfl

/-! Steps. -/

/-- What the steps do to the API, a part of their state, is done by calls of some kind. -/
def Steps.Asks (api : Service σ) (client : Client) (kind : Call → Prop) (part : τ → σ)
    (steps : Steps τ α) : Prop :=
  (ExceptT.run steps).Asks api client kind part

namespace Steps.Asks

variable {api : Service σ} {client : Client} {kind : Call → Prop} {part : τ → σ}

/-- What comes next may depend on what came out before; after an error nothing comes. -/
theorem bind_of_value {first : Steps τ α} {next : α → Steps τ β}
    (h : first.Asks api client kind part)
    (rest : ∀ value, (∃ state, (first.run state).value = .ok value) →
      (next value).Asks api client kind part) :
    Steps.Asks api client kind part (first >>= next) := by
  refine Act.Asks.bind_of_value h fun answer given => ?_
  cases answer with
  | error error => exact .pure _
  | ok value => exact rest value given

theorem bind {first : Steps τ α} {next : α → Steps τ β} (h : first.Asks api client kind part)
    (rest : ∀ value, (next value).Asks api client kind part) :
    Steps.Asks api client kind part (first >>= next) :=
  h.bind_of_value fun value _ => rest value

theorem orEnd {act : Act τ (Except Failure α)} (h : act.Asks api client kind part) :
    (Validation.orEnd act).Asks api client kind part :=
  Act.Asks.bind h fun _ => .pure _

theorem lift {act : Act τ α} (h : act.Asks api client kind part) :
    Steps.Asks api client kind part (ExceptT.lift act) :=
  h.map _

theorem note (text : String) : (Validation.note text : Steps τ Unit).Asks api client kind part :=
  lift (.emit rfl)

theorem forM {items : List α} {steps : α → Steps τ PUnit}
    (h : ∀ item, (steps item).Asks api client kind part) :
    Steps.Asks api client kind part (items.forM steps) := by
  induction items with
  | nil => exact Act.Asks.pure _
  | cons item rest ih => exact (h item).bind fun _ => ih

theorem freshly {steps : Steps (HandleState σ) α} (h : steps.Asks api client kind Handle.remote) :
    (Validation.freshly steps).Asks api client kind id :=
  fun state => h (.initial state)

end Steps.Asks

/-! A run. -/

section

variable {kind : Call → Prop} (reads : ∀ call : Call, call.method = .get → kind call)

include reads

theorem asks_inspect (handle : Handle σ) (key : RecordKey) :
    (inspect handle key).Asks handle.api handle.client kind Handle.remote :=
  .bind (.orEnd (Handle.asks_list reads key)) fun _ =>
    .bind (.note _) fun _ => .forM fun _ => .note _

theorem asks_checkDomain (handle : Handle σ) (domain : Domain) :
    (checkDomain handle none domain).Asks handle.api handle.client kind Handle.remote := by
  refine .bind (.note _) fun _ => .bind (.orEnd (Handle.asks_resolve reads domain)) fun _ => ?_
  refine .bind (.note _) fun _ => .bind ?_ fun _ => ?_
  · exact .forM fun family => asks_inspect reads handle ⟨domain, family⟩
  · exact Act.Asks.pure _

/-- A run that writes no address talks to the API with one client, and only reads. -/
theorem asks_run (api : Service σ) {settings : Settings}
    (dry : settings.writtenAddress = none) :
    ∃ client, (run api settings).Asks api client kind id := by
  let credentials := settings.handle.provider.credentials
  refine ⟨credentials.client, Steps.Asks.bind (.lift (.emit rfl)) fun _ => ?_⟩
  refine .bind (.note _) fun _ => ?_
  -- The run goes on only with the credentials of the settings, and then with a handle of theirs.
  refine .bind_of_value (.orEnd (.pure _)) fun given from_config => ?_
  obtain ⟨_, from_config⟩ := from_config
  obtain rfl : given = credentials :=
    Credentials.eq_of_ofConfig (ok_of_mapError (ok_of_mapError from_config))
  refine .bind_of_value (.orEnd (Credentials.asks_connect _ reads)) fun handle connected => ?_
  obtain ⟨_, connected⟩ := connected
  obtain rfl := Credentials.eq_of_connect (ok_of_mapError connected)
  refine .bind (.note _) fun _ => .bind (.freshly ?_) fun _ => .note _
  -- Without an address to write, a domain is only looked at.
  rw [dry]
  exact .forM fun domain => asks_checkDomain reads ⟨api, credentials.client⟩ domain

theorem asks_conclude (api : Service σ) {settings : Settings}
    (dry : settings.writtenAddress = none) :
    ∃ client, (conclude api settings).Asks api client kind id := by
  obtain ⟨client, asks⟩ := asks_run reads api dry
  refine ⟨client, Act.Asks.bind asks fun answer => ?_⟩
  cases answer with
  | ok _ => exact .pure _
  | error error => exact .bind (.emit rfl) fun _ => .pure _

end

/-! Settings. -/

/-- The mode asks for changes: it is "live", in letters of either case. -/
def Environment.SelectsLive (env : Environment) : Prop :=
  ∃ mode, env.value? "DDNS_MODE" = some mode ∧ mode.toLower = "live"

namespace Settings

variable {env : Environment} {settings : Settings}

theorem isLive_iff : isLive env = true ↔ env.SelectsLive := by
  simp only [isLive, Option.any_eq_true, beq_iff_eq]
  rfl

theorem eq_of_read (h : read env = .ok settings) :
    settings.live = isLive env ∧ readTestAddress env = .ok settings.testAddress := by
  obtain ⟨token, -, h⟩ := exists_of_bind_eq_ok h
  obtain ⟨domains, -, h⟩ := exists_of_bind_eq_ok h
  obtain ⟨address, tested, h⟩ := exists_of_bind_eq_ok h
  obtain ⟨seconds, -, h⟩ := exists_of_bind_eq_ok h
  cases h
  exact ⟨rfl, tested⟩

/-- Settings are used as they were read. -/
theorem read_of_ofEnvironment (h : ofEnvironment env = .ok settings) :
    read env = .ok settings ∧ settings.validate = .ok () := by
  obtain ⟨found, given, h⟩ := exists_of_bind_eq_ok h
  obtain ⟨_, valid, h⟩ := exists_of_bind_eq_ok h
  cases h
  exact ⟨given, valid⟩

theorem writtenAddress_of_dry (h : ofEnvironment env = .ok settings) (dry : ¬ env.SelectsLive) :
    settings.writtenAddress = none := by
  obtain ⟨live, -⟩ := eq_of_read (read_of_ofEnvironment h).1
  rw [writtenAddress, live, if_neg (mt isLive_iff.mp dry)]

/-- A live run has an address to write. -/
theorem ofEnvironment_of_addressless (live : env.SelectsLive)
    (unset : env.value? "DDNS_TEST_IP" = none) : ∃ error, ofEnvironment env = .error error := by
  cases h : ofEnvironment env with
  | error error => exact ⟨error, rfl⟩
  | ok settings =>
    obtain ⟨read, valid⟩ := read_of_ofEnvironment h
    obtain ⟨lively, tested⟩ := eq_of_read read
    rw [readTestAddress, unset] at tested
    have none : settings.testAddress = none := (Except.ok.inj tested).symm
    rw [isLive_iff.mpr live] at lively
    obtain ⟨_, -, valid⟩ := exists_of_bind_eq_ok valid
    rw [lively, none] at valid
    cases empty : settings.domains.isEmpty with
    | true =>
      rw [empty] at valid
      cases valid
    | false =>
      rw [empty] at valid
      cases valid

end Settings

/-! The program. -/

theorem program_of_error {env : Environment} {error : SettingsError} (api : Service σ)
    (h : Settings.ofEnvironment env = .error error) (remote : σ) :
    (program api env remote).state = remote ∧ (program api env remote).events = [] := by
  simp only [program, h, and_self]

theorem asks_program {kind : Call → Prop} (reads : ∀ call : Call, call.method = .get → kind call)
    (api : Service σ) {env : Environment} (dry : ¬ env.SelectsLive) :
    ∃ client, (program api env).Asks api client kind id := by
  cases h : Settings.ofEnvironment env with
  | error error =>
    refine ⟨⟨"", "", none⟩, fun remote => ?_⟩
    obtain ⟨same, none⟩ := program_of_error api h remote
    rw [same, none]
    exact .done _
  | ok settings =>
    obtain ⟨client, asks⟩ := asks_conclude reads api (Settings.writtenAddress_of_dry h dry)
    refine ⟨client, fun remote => ?_⟩
    have done := asks remote
    simp only [program, h]
    exact done

/-- Whatever the environment and the API, all that the API gets are reads unless the mode is live,
and nothing if the mode is live and there is no address to write. -/
theorem program_writes_only_live (api : Service σ) (env : Environment) (remote : σ) :
    (¬ env.SelectsLive →
      (∀ call ∈ (program api env remote).calls, call.method = .get) ∧
      ∀ request ∈ (program api.recorded env ([], remote)).state.1, request.method = .get) ∧
    (env.SelectsLive → env.value? "DDNS_TEST_IP" = none →
      (program api env remote).calls = [] ∧
      (program api.recorded env ([], remote)).state = ([], remote)) := by
  constructor
  · intro dry
    have reads : ∀ call : Call, call.method = .get → call.method = .get := fun _ => id
    constructor
    · obtain ⟨client, asks⟩ := asks_program reads api dry
      exact (asks remote).calls_of_kind
    · obtain ⟨client, asks⟩ := asks_program reads api.recorded dry
      have done := asks ([], remote)
      have journal := done.journal_eq
      intro request mem
      rw [id_eq, id_eq, List.nil_append] at journal
      rw [journal] at mem
      obtain ⟨call, among, written⟩ := Client.exists_call_of_mem_requests mem
      obtain ⟨_, -, method, -⟩ := Client.exists_url_of_request written
      rw [method]
      exact done.calls_of_kind call among
  · intro live unset
    obtain ⟨error, h⟩ := Settings.ofEnvironment_of_addressless live unset
    have plain := (program_of_error api h remote).2
    have recorded := (program_of_error api.recorded h ([], remote)).1
    exact ⟨by rw [Outcome.calls, plain]; rfl, recorded⟩

/-! A dry run to its end, though an address to write is set, and a live run without an address. -/

namespace Rehearsal

def environment (settings : List (String × String)) : Environment where
  value? name := settings.lookup name
  fileText _ := .error "no such file"

def dry : Environment := environment
  [("CF_API_TOKEN", "token"), ("DDNS_DOMAINS", "*.home.example"), ("DDNS_TEST_IP", "192.0.2.1"),
    ("DDNS_MODE", "alive")]

def addressless : Environment := environment
  [("CF_API_TOKEN", "token"), ("DDNS_DOMAINS", "home.example"), ("DDNS_MODE", "LIVE")]

def replies : List Reply :=
  [.succeeding "\x7b\"id\":\"t\",\"status\":\"active\"\x7d",
    .succeeding "[\x7b\"id\":\"z\",\"status\":\"active\"\x7d]",
    .succeeding "[\x7b\"id\":\"r\",\"content\":\"192.0.2.7\"\x7d]",
    .succeeding "[]"]

theorem program_writes_only_live_twice :
    (program .rehearsed dry replies).value.ending = .passed ∧
      (program .rehearsed dry replies).calls.map (·.path) =
        ["/user/tokens/verify", "/zones", "/zones/z/dns_records", "/zones/z/dns_records"] ∧
      (∀ request ∈ (program Service.rehearsed.recorded dry ([], replies)).state.1,
        request.method = .get) ∧
      (program .rehearsed addressless replies).calls = [] := by
  have mode : ¬ dry.SelectsLive := by
    rw [← Settings.isLive_iff]
    decide +kernel
  have live : addressless.SelectsLive := by
    rw [← Settings.isLive_iff]
    decide +kernel
  have run : (program .rehearsed dry replies).value.ending = .passed ∧
      (program .rehearsed dry replies).calls.map (·.path) =
        ["/user/tokens/verify", "/zones", "/zones/z/dns_records", "/zones/z/dns_records"] := by
    decide +kernel
  have reads := ((program_writes_only_live .rehearsed dry replies).1 mode).2
  have nothing := (program_writes_only_live .rehearsed addressless replies).2 live rfl
  exact ⟨run.1, run.2, reads, nothing.1⟩

end Rehearsal

end AddressRecords.Validation
