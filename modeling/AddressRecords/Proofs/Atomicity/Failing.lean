import AddressRecords.Proofs.Atomicity.Lists
import AddressRecords.Proofs.Calls.Sent
import AddressRecords.Proofs.Record.Remembered
import Mathlib.Data.List.Nodup

/-!
What an operation that fails leaves behind. The records that are remembered stay as they were, all
of them. Of zones, the operation has asked for lists on its way; those that came whole are kept, and
nothing else is.
-/

namespace AddressRecords

open Api (Client Listing RawZone Reply Service)

variable {σ τ κ α β : Type}

/-! Parts of a state that actions leave alone. -/

namespace Act

/-- The action leaves a part of the state as it is. -/
def Keeps (part : σ → κ) (act : Act σ α) : Prop := ∀ state, part (act state).state = part state

namespace Keeps

variable {part : σ → κ}

theorem pure (value : α) : (Pure.pure value : Act σ α).Keeps part := fun _ => rfl

theorem emit (event : Event) : (Act.emit event).Keeps part := fun _ => rfl

theorem get : (Act.get : Act σ σ).Keeps part := fun _ => rfl

theorem bind {act : Act σ α} {next : α → Act σ β} (h : act.Keeps part)
    (rest : ∀ value, (next value).Keeps part) : (act >>= next).Keeps part := by
  intro state
  rw [state_bind, rest, h]

end Keeps

end Act

namespace Operation

/-- The operation is about an address of the other family. -/
def IsForeign : Operation → Prop
  | create key address .. | update key _ address => ¬ key.family.owns address
  | list _ | delete .. | resolve _ | flush => False

end Operation

namespace Handle

variable (handle : Handle σ)

/-! In a zone. -/

/-- The lists of zones that a handle remembers. -/
def zones (state : HandleState σ) : ZoneCache := state.2.1

theorem keeps_onRemote (act : Act σ α) : (onRemote act).Keeps zones := fun _ => rfl

theorem keeps_remember (change : RecordStore → RecordStore) :
    (remember change : Act (HandleState σ) Unit).Keeps zones := fun _ => rfl

theorem keeps_relist (key : RecordKey) (zone : String) : (handle.relist key zone).Keeps zones := by
  have fetched : (handle.fetch key zone).Keeps zones := by
    refine .bind (keeps_onRemote _) fun answer => ?_
    cases answer with
    | error failure => exact .bind (.emit _) fun _ => .pure _
    | ok listed =>
      dsimp only
      split
      · exact .bind (.emit _) fun _ => .pure _
      · exact .pure _
  refine .bind fetched fun answer => ?_
  cases answer with
  | error failure => exact .pure _
  | ok records => exact .bind (.emit _) fun _ => .bind (keeps_remember _) fun _ => .pure _

theorem keeps_createIn (key : RecordKey) (address : Address) (ttl : Ttl) (proxied : Bool)
    (zone : String) : (handle.createIn key address ttl proxied zone).Keeps zones := by
  refine .bind (keeps_onRemote _) fun answer => ?_
  cases answer with
  | error failure => exact .bind (.emit _) fun _ => .pure _
  | ok created =>
    exact .bind .get fun _ => .bind (keeps_remember _) fun _ => .bind (.emit _) fun _ => .pure _

theorem keeps_reportUnchanged (mutation : Mutation) (key : RecordKey) (id : String)
    (failure : Api.Failure) (part : τ → κ) :
    (reportUnchanged mutation key id failure).Keeps part := by
  intro state
  rw [reportUnchanged_state]

theorem keeps_updateIn (key : RecordKey) (id : String) (address : Address) (zone : String) :
    (handle.updateIn key id address zone).Keeps zones := by
  refine .bind (keeps_onRemote _) fun answer => ?_
  cases answer with
  | error failure => exact .bind (keeps_reportUnchanged _ _ _ _ _) fun _ => .pure _
  | ok _ => exact .bind (keeps_remember _) fun _ => .bind (.emit _) fun _ => .pure _

theorem keeps_deleteIn (key : RecordKey) (id zone : String) :
    (handle.deleteIn key id zone).Keeps zones := by
  refine .bind (keeps_onRemote _) fun answer => ?_
  cases answer with
  | error failure => exact .bind (keeps_reportUnchanged _ _ _ _ _) fun _ => .pure _
  | ok _ => exact .bind (keeps_remember _) fun _ => .bind (.emit _) fun _ => .pure _

/-! Operations. -/

/-- What comes of an operation once the zone has been looked for: the lists of zones stay, and at
most the operation's own work is done. -/
def WorksOnly (operation : Operation) (domain : Domain) (state : HandleState σ)
    (done : Outcome (HandleState σ) α) : Prop :=
  zones done.state = zones (handle.resolve domain state).state ∧
  ∃ work, (work = [] ∨ ∃ zone, operation.Work zone work) ∧
    done.calls = (handle.resolve domain state).calls ++ work.map (·.call handle.client)

variable {handle} {operation : Operation} {state : HandleState σ}

theorem worksOnly_inZone {domain : Domain}
    {act : String → Act (HandleState σ) (Except Failure α)} (keeps : ∀ zone, (act zone).Keeps zones)
    (works : ∀ zone state, ∃ work, operation.Work zone work ∧
      (act zone state).calls = work.map (·.call handle.client)) :
    handle.WorksOnly operation domain state (handle.inZone domain act state) := by
  rw [WorksOnly, inZone, Act.calls_bind, Act.state_bind]
  cases found : (handle.resolve domain state).value with
  | error failure => exact ⟨rfl, [], .inl rfl, rfl⟩
  | ok zone =>
    obtain ⟨work, inside, calls⟩ := works zone (handle.resolve domain state).state
    exact ⟨keeps zone _, work, .inr ⟨zone, inside⟩, congrArg _ calls⟩

theorem WorksOnly.map {domain : Domain} {act : Act (HandleState σ) α} {f : α → β}
    (h : handle.WorksOnly operation domain state (act state)) :
    handle.WorksOnly operation domain state ((do return f (← act)) state) := by
  obtain ⟨same, work, working, calls⟩ := h
  refine ⟨same, work, working, ?_⟩
  rw [← calls]
  exact Act.calls_bind_of_quiet (.pure _)

/-- But for an operation that can do without the API. -/
theorem worksOnly_perform {domain : Domain} (located : operation.domain? = some domain)
    (busy : ¬ operation.IsIdle state.1) :
    handle.WorksOnly operation domain state (handle.perform operation state) := by
  cases operation with
  | list key =>
    obtain rfl := Option.some.inj located
    have cold : state.1.get key = none := Option.not_isSome_iff_eq_none.mp busy
    refine WorksOnly.map ?_
    rw [handle.list_eq_of_cold cold]
    exact worksOnly_inZone (handle.keeps_relist key) (handle.calls_relist key)
  | create key address ttl proxied =>
    obtain rfl := Option.some.inj located
    refine WorksOnly.map ?_
    rw [handle.create_of_own (Decidable.not_not.mp busy)]
    exact worksOnly_inZone (handle.keeps_createIn key address ttl proxied) fun zone state =>
      ⟨_, .create key address ttl proxied zone,
        handle.calls_createIn key address ttl proxied zone state⟩
  | update key id address =>
    obtain rfl := Option.some.inj located
    refine WorksOnly.map ?_
    rw [handle.update_of_own (Decidable.not_not.mp busy)]
    exact worksOnly_inZone (handle.keeps_updateIn key id address) fun zone state =>
      ⟨_, .update key id address zone, handle.calls_updateIn key id address zone state⟩
  | delete key id =>
    obtain rfl := Option.some.inj located
    refine WorksOnly.map ?_
    exact worksOnly_inZone (handle.keeps_deleteIn key id) fun zone state =>
      ⟨_, .delete key id zone, handle.calls_deleteIn key id zone state⟩
  | resolve other =>
    obtain rfl := Option.some.inj located
    refine WorksOnly.map ⟨rfl, [], .inl rfl, ?_⟩
    exact (List.append_nil _).symm
  | flush => cases located

/-- An operation about an address of the other family fails at once, and only says so. -/
theorem perform_of_isForeign (foreign : operation.IsForeign) (state : HandleState σ) :
    ∃ reason, handle.perform operation state =
      ⟨.error (.invalidInput reason), state, [.message ⟨.warning, .impossible, reason⟩]⟩ := by
  cases operation with
  | create key address ttl proxied =>
    refine ⟨s!"{address} is not an {key.family} address", ?_⟩
    rw [perform, create, withOwn, if_neg foreign]
    rfl
  | update key id address =>
    refine ⟨s!"{address} is not an {key.family} address", ?_⟩
    rw [perform, update, withOwn, if_neg foreign]
    rfl
  | list | delete | resolve | flush => cases foreign

/-- Of the operations that can do without the API, only these fail. -/
theorem isForeign_of_isIdle (idle : operation.IsIdle state.1) {failure : Failure}
    (failed : (handle.perform operation state).value = .error failure) : operation.IsForeign := by
  cases operation with
  | list key =>
    obtain ⟨records, warm⟩ := Option.isSome_iff_exists.mp idle
    have value : (handle.perform (.list key) state).value = .ok (.records records) := by
      simp [perform, (handle.list_of_warm warm).1, Except.map]
    rw [value] at failed
    cases failed
  | create | update => exact idle
  | delete | resolve => cases idle
  | flush => cases failed

variable (handle)

/-- A failed operation, of whose candidates for a zone these were looked up and these were asked
for. -/
structure FailsCleanly (operation : Operation) (state : HandleState σ) (looked : List String)
    (asked : List (String × Listing RawZone)) : Prop where
  /-- All that is remembered of records stays. -/
  records : (handle.perform operation state).state.1 = state.1
  order : ∃ domain, operation.domain? = some domain ∧ looked <+: domain.zoneCandidates
  /-- Only lists that are missing are asked for. -/
  names : asked.map (·.1) = looked.filter fun name => ((zones state).find? name).isNone
  once : (asked.map (·.1)).Nodup
  lists : ∃ located, handle.client.ListsZones handle.api state.2.2 asked located
  /-- There are no other requests for zones. -/
  calls : ∃ work, (work = [] ∨ ∃ zone, operation.Work zone work) ∧
    (handle.perform operation state).calls =
      (Command.zoneLists asked ++ work).map (·.call handle.client)
  /-- The lists that came whole are added, and what was there stays. -/
  kept : ∀ name found, (zones (handle.perform operation state).state).find? name = some found ↔
    (zones state).find? name = some found ∨ ∃ listing, (name, listing) ∈ asked ∧
      listing.zones? = some found
  /-- A list that broke off, at whatever page, leaves nothing. -/
  broken : ∀ name listing, (name, listing) ∈ asked → listing.failure? ≠ none →
    (zones (handle.perform operation state).state).find? name = none
  foreign : operation.IsForeign → ∃ reason, handle.perform operation state =
    ⟨.error (.invalidInput reason), state, [.message ⟨.warning, .impossible, reason⟩]⟩

variable {handle}

theorem zones?_of_broken {listing : Listing RawZone} (broken : listing.failure? ≠ none) :
    listing.zones? = none := by
  obtain ⟨failure, failed⟩ := Option.ne_none_iff_exists'.mp broken
  rw [Listing.zones?, Listing.list, failed]
  rfl

/-- A list that broke off is not among those that came whole. -/
theorem find?_of_broken {before after : ZoneCache} {looked : List String}
    {asked : List (String × Listing RawZone)}
    (names : asked.map (·.1) = looked.filter fun name => (before.find? name).isNone)
    (once : (asked.map (·.1)).Nodup)
    (kept : ∀ name found, after.find? name = some found ↔ before.find? name = some found ∨
      ∃ listing, (name, listing) ∈ asked ∧ listing.zones? = some found)
    {name : String} {listing : Listing RawZone} (mem : (name, listing) ∈ asked)
    (broken : listing.failure? ≠ none) : after.find? name = none := by
  have due : name ∈ asked.map (·.1) := List.mem_map_of_mem mem
  rw [names] at due
  have missing : before.find? name = none := Option.isNone_iff_eq_none.mp (List.mem_filter.mp due).2
  cases found : after.find? name with
  | none => rfl
  | some zones =>
    rcases (kept name zones).mp found with held | ⟨other, among, whole⟩
    · rw [missing] at held
      cases held
    -- Each name was asked for once, so the list that came whole would be the one that broke off.
    · have same : (name, other) = (name, listing) := List.inj_on_of_nodup_map once among mem rfl
      cases same
      rw [zones?_of_broken broken] at whole
      cases whole

theorem failsCleanly_of_isForeign (foreign : operation.IsForeign) (state : HandleState σ) :
    handle.FailsCleanly operation state [] [] := by
  obtain ⟨reason, done⟩ := handle.perform_of_isForeign foreign state
  have located : ∃ domain, operation.domain? = some domain := by
    cases operation with
    | create | update => exact ⟨_, rfl⟩
    | list | delete | resolve | flush => cases foreign
  obtain ⟨domain, located⟩ := located
  constructor
  case records => rw [done]
  case order => exact ⟨domain, located, List.nil_prefix⟩
  case names => rfl
  case once => exact .nil
  case lists => exact ⟨_, .nil _⟩
  case calls =>
    refine ⟨[], .inl rfl, ?_⟩
    rw [done]
    rfl
  case kept =>
    intro name found
    simp [done]
  case broken =>
    intro name listing impossible
    cases impossible
  case foreign => exact fun _ => ⟨reason, done⟩

/-- What is kept is what the look-up of the zone has left. -/
theorem exists_failsCleanly_of_busy (busy : ¬ operation.IsIdle state.1)
    (records : (handle.perform operation state).state.1 = state.1) :
    ∃ looked asked, handle.FailsCleanly operation state looked asked := by
  have located : ∃ domain, operation.domain? = some domain := by
    cases operation with
    | list | create | update | delete | resolve => exact ⟨_, rfl⟩
    | flush => exact absurd trivial busy
  obtain ⟨domain, located⟩ := located
  have works : handle.WorksOnly operation domain state (handle.perform operation state) :=
    worksOnly_perform located busy
  obtain ⟨same, work, working, calls⟩ := works
  obtain ⟨looked, asked, inOrder, files, asks⟩ :=
    Resolver.exists_files handle.api handle.client domain state.2
  have once : (asked.map (·.1)).Nodup := by
    rw [files.names]
    exact (inOrder.sublist.nodup domain.nodup_zoneCandidates).filter _
  have resolved : (handle.resolve domain state).calls =
      (Command.zoneLists asked).map (·.call handle.client) := asks
  have kept : ∀ name found,
      (zones (handle.perform operation state).state).find? name = some found ↔
        (zones state).find? name = some found ∨ ∃ listing, (name, listing) ∈ asked ∧
          listing.zones? = some found := by
    rw [same]
    exact files.zones
  refine ⟨looked, asked, ?_⟩
  constructor
  case records => exact records
  case order => exact ⟨domain, located, inOrder⟩
  case names => exact files.names
  case once => exact once
  case lists => exact ⟨_, files.lists⟩
  case calls =>
    refine ⟨work, working, ?_⟩
    rw [calls, resolved, List.map_append]
  case kept => exact kept
  case broken =>
    intro name listing mem broken
    exact find?_of_broken files.names once kept mem broken
  case foreign => exact fun foreign => handle.perform_of_isForeign foreign state

/-- Whatever the state and the API, an operation that fails leaves the records alone, and of zones
only adds lists that it got to the end. -/
theorem failsCleanly {failure : Failure}
    (failed : (handle.perform operation state).value = .error failure) :
    ∃ looked asked, handle.FailsCleanly operation state looked asked := by
  by_cases idle : operation.IsIdle state.1
  · have foreign := isForeign_of_isIdle idle failed
    exact ⟨[], [], failsCleanly_of_isForeign foreign state⟩
  · have records := (handle.perform_remembers operation state).2 failure failed
    exact exists_failsCleanly_of_busy idle records

end Handle

/-! An API that has two pages of zones for one name, and breaks off after the first for the next. -/

namespace Rehearsed

def handle : Handle (List Reply) := ⟨.rehearsed, ⟨"https://api.test", "token", none⟩⟩

def key : RecordKey := ⟨.literal ⟨"home.example", by decide⟩, .v4⟩

/-- The zone of the key, as the only one of its name. -/
def located : Reply := .succeeding "[\x7b\"id\":\"z\",\"status\":\"active\"\x7d]"

/-- One of two pages, with a zone on it. -/
def page (id status : String) : Reply :=
  ⟨⟨200⟩, "\x7b\"success\":true,\"result\":[\x7b\"id\":\"" ++ id ++ "\",\"status\":\"" ++ status ++
    "\"\x7d],\"result_info\":\x7b\"total_pages\":2\x7d\x7d"⟩

def replies : List Reply :=
  [page "z1" "deleted", page "z2" "deleted", page "z3" "active", ⟨⟨503⟩, ""⟩]

theorem failsCleanly_halfway :
    let done := handle.perform (.list key) (.initial replies)
    done.value = .error (.zoneLookupFailed "example"
      "Cloudflare server error (HTTP 503 Service Unavailable): empty response body") ∧
    (Handle.zones done.state).find? "home.example" = some [⟨"z1", .removed⟩, ⟨"z2", .removed⟩] ∧
    (Handle.zones done.state).find? "example" = none ∧
    ∃ looked asked, handle.FailsCleanly (.list key) (.initial replies) looked asked := by
  have run : let done := handle.perform (.list key) (.initial replies)
      done.value = .error (.zoneLookupFailed "example"
        "Cloudflare server error (HTTP 503 Service Unavailable): empty response body") ∧
      (Handle.zones done.state).find? "home.example" = some [⟨"z1", .removed⟩, ⟨"z2", .removed⟩] ∧
      (Handle.zones done.state).find? "example" = none := by
    decide +kernel
  exact ⟨run.1, run.2.1, run.2.2, Handle.failsCleanly run.1⟩

end Rehearsed

end AddressRecords
