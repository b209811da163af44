import AddressRecords.Proofs.Isolation.Oblivious
import AddressRecords.Proofs.Record.History
import AddressRecords.Proofs.Remote.Lone
import AddressRecords.Proofs.Zone.Lookup

/-!
Operations on one key against an API with one answer for each request: neither operations on other
keys nor flushes change what they give and what is shown of them. What is remembered of zones is
what would be found again, so it only saves requests.
-/

namespace AddressRecords

variable {σ α : Type}

/-! Zones. -/

namespace ZoneCache

variable {source : ZoneSource σ}

/-- Every list is the one that the source gives, whenever it is asked. -/
def IsTruthful (source : ZoneSource σ) (cache : ZoneCache) : Prop :=
  ∀ name zones, cache.find? name = some zones → ∀ remote, (source name remote).value = .ok zones

/-- Truthful caches may differ, and so may the states of the source. -/
def BothTruthful (source : ZoneSource σ) : ZoneCache × σ → ZoneCache × σ → Prop :=
  Act.Beside (fun first second => IsTruthful source first ∧ IsTruthful source second)
    fun _ _ => True

theorem IsTruthful.empty : IsTruthful source .empty := fun _ _ impossible => nomatch impossible

theorem IsTruthful.set {cache : ZoneCache} (h : IsTruthful source cache) {name : String}
    {content : Option (List Zone)}
    (given : ∀ zones, content = some zones → ∀ remote, (source name remote).value = .ok zones) :
    IsTruthful source (cache.set name content) := by
  intro other zones found
  by_cases own : other = name
  · subst own
    rw [find?_set_self] at found
    exact given zones found
  · rw [find?_set_of_ne own] at found
    exact h other zones found

variable (fixed : ∀ name, (source name).Oblivious fun _ _ => True)
  (hidden : ∀ name, (source name).IsHidden)

include fixed in
/-- A look-up gives the source's answer, remembered or not. -/
theorem IsTruthful.lookup {state : ZoneCache × σ} (h : IsTruthful source state.1) {name : String}
    (named : name ≠ "") (remote : σ) :
    (lookup source name state).value = (source name remote).value ∧
    IsTruthful source (lookup source name state).state.1 := by
  cases known : state.1.find? name with
  | some zones =>
    obtain ⟨value, same⟩ := lookup_hit source named known
    rw [value, same]
    exact ⟨(h name zones known remote).symm, h⟩
  | none =>
    obtain ⟨value, after⟩ := lookup_miss source named known
    have always (asked : σ) : (source name state.2).value = (source name asked).value :=
      (fixed name _ _ trivial).1
    rw [value, after]
    refine ⟨always remote, h.set fun zones given asked => ?_⟩
    rw [← always asked]
    cases answer : (source name state.2).value with
    | error failure =>
      rw [answer] at given
      cases given
    | ok listed =>
      rw [answer] at given
      cases given
      rfl

include hidden in
theorem isHidden_lookup (name : String) : (lookup source name).IsHidden := by
  unfold lookup
  split
  · exact .pure _
  · refine .bind .get fun state => ?_
    split
    · exact .bind (.emit rfl) fun _ => .pure _
    · exact .bind (.emit rfl) fun _ => .bind (.onSecond (hidden name)) fun _ =>
        .bind (.modify _) fun _ => .pure _

include fixed hidden

theorem oblivious_lookup (name : String) :
    (lookup source name).Oblivious (BothTruthful source) := by
  rintro first second ⟨⟨one, two⟩, -⟩
  have unseen := isHidden_lookup hidden name
  by_cases named : name = ""
  · subst named
    exact ⟨rfl, rfl, ⟨one, two⟩, trivial⟩
  · obtain ⟨value, after⟩ := one.lookup fixed named first.2
    obtain ⟨given, later⟩ := two.lookup fixed named first.2
    refine ⟨value.trans given.symm, ?_, ⟨after, later⟩, trivial⟩
    rw [unseen.shown, unseen.shown]

end ZoneCache

namespace Resolver

variable {source : ZoneSource σ} {related : σ → σ → Prop}

theorem oblivious_tellSkipped (name : String) (zones : List Zone) :
    (tellSkipped name zones : Act σ Unit).Oblivious related := by
  induction zones with
  | nil => exact .pure _
  | cons zone rest ih =>
    unfold tellSkipped
    split
    · exact .bind (.emit _) fun _ => ih
    · exact ih

theorem oblivious_tellStatus (name : String) (status : ZoneStatus) :
    (tellStatus name status : Act σ Unit).Oblivious related := by
  cases status with
  | active | removed => exact .pure _
  | degraded raw | undocumented raw => exact .bind (.emit _) fun _ => .emit _

theorem oblivious_resolveAmong (fixed : ∀ name, (source name).Oblivious fun _ _ => True)
    (hidden : ∀ name, (source name).IsHidden) (domain : Domain) (candidates : List String) :
    (resolveAmong source domain candidates).Oblivious (ZoneCache.BothTruthful source) := by
  induction candidates with
  | nil => exact .bind (.emit _) fun _ => .pure _
  | cons candidate rest ih =>
    refine .bind (ZoneCache.oblivious_lookup fixed hidden candidate) fun answer => ?_
    cases answer with
    | error failure => exact .bind (.emit _) fun _ => .pure _
    | ok zones =>
      refine .bind (oblivious_tellSkipped candidate zones) fun _ => ?_
      split
      · exact ih
      · exact .bind (oblivious_tellStatus candidate _) fun _ => .bind (.emit _) fun _ => .pure _
      · exact .bind (.emit _) fun _ => .pure _

end Resolver

/-! Operations. -/

namespace Handle

variable (handle : Handle σ)

/-- The states agree on a key, and what they remember of zones is true. -/
def AgreeOn (key : RecordKey) : HandleState σ → HandleState σ → Prop :=
  Act.Beside (fun first second => first.get key = second.get key)
    (ZoneCache.BothTruthful (handle.client.zoneSource handle.api))

variable {handle} {key : RecordKey}

theorem oblivious_onRemote {act : Act σ α} (h : act.Oblivious fun _ _ => True) :
    (onRemote act).Oblivious (handle.AgreeOn key) :=
  (h.onSecond _).onSecond _

theorem oblivious_remember {change : RecordStore → RecordStore}
    (own : ∀ first second : RecordStore, first.get key = second.get key →
      (change first).get key = (change second).get key) :
    (remember change).Oblivious (handle.AgreeOn key) :=
  fun first second same => ⟨rfl, rfl, own first.1 second.1 same.1, same.2⟩

variable (fixed : handle.api.IsFixed)

include fixed

theorem oblivious_resolve (domain : Domain) :
    (handle.resolve domain).Oblivious (handle.AgreeOn key) := by
  refine (Resolver.oblivious_resolveAmong (fun name => ?_) (fun name => ?_) domain _).onSecond _
  · exact (fixed.fetchAll handle.client _ _ _).bind fun answer => .pure _
  · exact .bind (handle.client.isHidden_listZones handle.api name) fun _ => .pure _

theorem oblivious_inZone (domain : Domain)
    {act : String → Act (HandleState σ) (Except Failure α)}
    (h : ∀ zone, (act zone).Oblivious (handle.AgreeOn key)) :
    (handle.inZone domain act).Oblivious (handle.AgreeOn key) := by
  refine .bind (oblivious_resolve fixed domain) fun answer => ?_
  cases answer with
  | error failure => exact .pure _
  | ok zone => exact h zone

theorem oblivious_relist (zone : String) :
    (handle.relist key zone).Oblivious (handle.AgreeOn key) := by
  have fetched : (handle.fetch key zone).Oblivious (handle.AgreeOn key) := by
    refine .bind (oblivious_onRemote (fixed.fetchAll handle.client _ _ _)) fun answer => ?_
    cases answer with
    | error failure => exact .bind (.emit _) fun _ => .pure _
    | ok listed =>
      dsimp only
      split
      · exact .bind (.emit _) fun _ => .pure _
      · exact .pure _
  refine .bind fetched fun answer => ?_
  cases answer with
  | error failure => exact .pure _
  | ok records =>
    refine .bind (.emit _) fun _ => .bind (oblivious_remember ?_) fun _ => .pure _
    intro first second _
    simp [RecordStore.replace, RecordStore.get_setEntry]

theorem oblivious_list : (handle.list key).Oblivious (handle.AgreeOn key) := by
  refine .read (fun state => ?_) fun first second same => by rw [same.1]
  split
  · exact .bind (.emit _) fun _ => .pure _
  · exact oblivious_inZone fixed key.domain (oblivious_relist fixed)

omit fixed in
theorem get_upsertIfWarm_congr {first second : RecordStore}
    (same : first.get key = second.get key) (id : String) (address : Address) :
    (first.upsertIfWarm key id address).get key = (second.upsertIfWarm key id address).get key := by
  simp [RecordStore.upsertIfWarm, RecordStore.get_setEntry, same]

omit fixed in
theorem oblivious_withOwn (family : Family) (address : Address)
    {act : Act (HandleState σ) (Except Failure α)} (h : act.Oblivious (handle.AgreeOn key)) :
    (withOwn family address act).Oblivious (handle.AgreeOn key) := by
  unfold withOwn
  split
  · exact h
  · exact .bind (.emit _) fun _ => .pure _

theorem oblivious_createIn (address : Address) (ttl : Ttl) (proxied : Bool) (zone : String) :
    (handle.createIn key address ttl proxied zone).Oblivious (handle.AgreeOn key) := by
  refine .bind (oblivious_onRemote (fixed.createRecord handle.client zone _)) fun answer => ?_
  cases answer with
  | error failure => exact .bind (.emit _) fun _ => .pure _
  | ok created =>
    refine .read (fun state => ?_) ?_
    · refine .bind (oblivious_remember ?_) fun _ => .bind (.emit _) fun _ => .pure _
      exact fun first second same => get_upsertIfWarm_congr same created.id address
    · intro first second same
      have warm : first.1.isWarm key = second.1.isWarm key := congrArg Option.isSome same.1
      rw [warm]

omit fixed in
theorem oblivious_reportUnchanged (mutation : Mutation) (key : RecordKey) (id : String)
    (failure : Api.Failure) {related : α → α → Prop} :
    (reportUnchanged mutation key id failure).Oblivious related := by
  unfold reportUnchanged
  dsimp only
  split <;> exact .bind (.emit _) fun _ => .pure _

theorem oblivious_updateIn (id : String) (address : Address) (zone : String) :
    (handle.updateIn key id address zone).Oblivious (handle.AgreeOn key) := by
  refine .bind (oblivious_onRemote (fixed.updateRecord handle.client zone id _)) fun answer => ?_
  cases answer with
  | error failure => exact .bind (oblivious_reportUnchanged _ _ _ _) fun _ => .pure _
  | ok _ =>
    refine .bind (oblivious_remember ?_) fun _ => .bind (.emit _) fun _ => .pure _
    exact fun first second same => get_upsertIfWarm_congr same id address

theorem oblivious_deleteIn (id : String) (zone : String) :
    (handle.deleteIn key id zone).Oblivious (handle.AgreeOn key) := by
  refine .bind (oblivious_onRemote (fixed.deleteRecord handle.client zone id)) fun answer => ?_
  cases answer with
  | error failure => exact .bind (oblivious_reportUnchanged _ _ _ _) fun _ => .pure _
  | ok _ =>
    refine .bind (oblivious_remember ?_) fun _ => .bind (.emit _) fun _ => .pure _
    intro first second same
    simp [RecordStore.removeIfWarm, RecordStore.get_setEntry, same]

omit fixed in
theorem oblivious_flush : (flush : Act (HandleState σ) Unit).Oblivious (handle.AgreeOn key) :=
  fun _ _ same => ⟨rfl, rfl, same.1, ⟨.empty, .empty⟩, trivial⟩

/-- An operation takes no notice of the records of keys that it is not about. -/
theorem oblivious_perform {operation : Operation} (about : operation.key?.all (· = key)) :
    (handle.perform operation).Oblivious (handle.AgreeOn key) := by
  cases operation with
  | list own =>
    obtain rfl : own = key := by simpa [Operation.key?] using about
    exact .bind (oblivious_list fixed) fun _ => .pure _
  | create own address ttl proxied =>
    obtain rfl : own = key := by simpa [Operation.key?] using about
    refine .bind (oblivious_withOwn own.family address ?_) fun _ => .pure _
    exact oblivious_inZone fixed own.domain (oblivious_createIn fixed address ttl proxied)
  | update own id address =>
    obtain rfl : own = key := by simpa [Operation.key?] using about
    refine .bind (oblivious_withOwn own.family address ?_) fun _ => .pure _
    exact oblivious_inZone fixed own.domain (oblivious_updateIn fixed id address)
  | delete own id =>
    obtain rfl : own = key := by simpa [Operation.key?] using about
    exact .bind (oblivious_inZone fixed own.domain (oblivious_deleteIn fixed id)) fun _ => .pure _
  | resolve domain => exact .bind (oblivious_resolve fixed domain) fun _ => .pure _
  | flush => exact .bind oblivious_flush fun _ => .pure _

/-! Runs. -/

end Handle

/-- What an operation gave, and what was shown of it. -/
structure Report where
  operation : Operation
  answer : Except Failure Answer
  shown : List Event

namespace Handle

variable (handle : Handle σ)

/-- Performs operations one after the other and reports on each. -/
def reports (handle : Handle σ) : List Operation → HandleState σ → List Report
  | [], _ => []
  | operation :: rest, state =>
    let done := handle.perform operation state
    ⟨operation, done.value, done.shown⟩ :: handle.reports rest done.state

/-- The reports tell what the operations of a run give, in their order. -/
theorem history_eq_reports (operations : List Operation) (state : HandleState σ) :
    handle.history operations state =
      (handle.reports operations state).map fun report => (report.operation, report.answer) := by
  induction operations generalizing state with
  | nil => rfl
  | cons operation rest ih => rw [history_cons, ih, reports, List.map_cons]

/-- The reports tell what is shown of a run, in its order. -/
theorem shown_eq_reports (operations : List Operation) (state : HandleState σ) :
    (handle.performAll operations state).shown =
      (handle.reports operations state).flatMap Report.shown := by
  induction operations generalizing state with
  | nil => rfl
  | cons operation rest ih =>
    have run : handle.performAll (operation :: rest) =
        handle.perform operation >>= fun first => handle.performAll rest >>= fun others =>
          pure (first :: others) := by
      simp [performAll]
    rw [run, Act.shown_bind, Act.shown_bind, ih, reports, List.flatMap_cons]
    exact congrArg _ (List.append_nil _)

variable {handle} {key : RecordKey}

/-- An operation on another key leaves the records of this one as they are. -/
theorem get_perform_of_foreign {operation : Operation} (foreign : operation.key? ≠ some key)
    (state : HandleState σ) :
    (handle.perform operation state).state.1.get key = state.1.get key := by
  cases known : state.1.get key with
  | some records =>
    rw [handle.get_perform_of_warm known]
    cases (handle.perform operation state).value with
    | error failure => rw [change_of_error]
    | ok answer =>
      cases operation with
      | list | resolve | flush => rfl
      | create other =>
        have apart : other ≠ key := fun own => foreign (congrArg some own)
        cases answer <;> simp [History.change, apart]
      | update other | delete other =>
        have apart : other ≠ key := fun own => foreign (congrArg some own)
        simp [History.change, apart]
  | none =>
    refine handle.get_perform_of_cold known ?_
    rintro answer own
    exact foreign (by rw [(Prod.mk.inj own).1, Operation.key?])

variable (fixed : handle.api.IsFixed)

include fixed

/-- An operation on another key keeps the agreement. -/
theorem AgreeOn.foreign {first second : HandleState σ} (h : handle.AgreeOn key first second)
    {operation : Operation} (foreign : operation.key? ≠ some key) :
    handle.AgreeOn key (handle.perform operation first).state second := by
  obtain ⟨same, ⟨one, two⟩, -⟩ := h
  have about : operation.key?.all (· = operation.key?.getD key) := by
    cases operation.key? <;> simp
  have alone : handle.AgreeOn (operation.key?.getD key) first first := ⟨rfl, ⟨one, one⟩, trivial⟩
  obtain ⟨-, -, -, ⟨after, -⟩, -⟩ := oblivious_perform fixed about first first alone
  exact ⟨(get_perform_of_foreign foreign first).trans same, ⟨after, two⟩, trivial⟩

theorem AgreeOn.reports {first second : HandleState σ} (h : handle.AgreeOn key first second)
    (operations : List Operation) :
    (handle.reports operations first).filter (·.operation.key? = some key) =
      handle.reports (operations.filter (·.key? = some key)) second := by
  induction operations generalizing first second with
  | nil => rfl
  | cons operation rest ih =>
    rw [Handle.reports]
    by_cases own : operation.key? = some key
    · have about : operation.key?.all (· = key) := by simp [own]
      obtain ⟨value, shown, later⟩ := oblivious_perform fixed about first second h
      rw [List.filter_cons_of_pos (by simpa using own), List.filter_cons_of_pos (by simpa using own),
        ih later, Handle.reports, value, shown]
    · rw [List.filter_cons_of_neg (by simpa using own), List.filter_cons_of_neg (by simpa using own)]
      exact ih (h.foreign fixed own)

/-- What the operations on a key give, and what is shown of them, is as if there had been no other
operations. -/
theorem reports_filter_key (operations : List Operation) (key : RecordKey) (remote other : σ) :
    (handle.reports operations (.initial remote)).filter (·.operation.key? = some key) =
      handle.reports (operations.filter (·.key? = some key)) (.initial other) := by
  have fresh : handle.AgreeOn key (.initial remote) (.initial other) :=
    ⟨rfl, ⟨.empty, .empty⟩, trivial⟩
  exact fresh.reports fixed operations

end Handle

/-- The lone remote as it is in one phase, for good. -/
def Lone.always (phase : Phase) : Handle Unit :=
  ⟨⟨fun request _ => ((service.answer request phase).1, ())⟩, client⟩

/-- Operations on the lone record's key. -/
def Lone.own : List Operation := [.list key, .update key id second, .list key]

/-- The same among operations on the other family. -/
def Lone.mixed : List Operation := [.list ⟨key.domain, .v6⟩, .list key, .resolve key.domain,
  .update key id second, .flush, .delete ⟨key.domain, .v6⟩ id, .list key]

theorem Lone.reports_mixed : (always .created).api.IsFixed ∧
    ((always .created).performAll own (.initial ())).value.all (·.toOption.isSome) ∧
    ((always .created).reports mixed (.initial ())).filter (·.operation.key? = some key) =
      (always .created).reports own (.initial ()) := by
  have fixed : (always .created).api.IsFixed := fun _ _ _ => rfl
  exact ⟨fixed, by decide +kernel, Handle.reports_filter_key fixed mixed key () ()⟩

end AddressRecords
