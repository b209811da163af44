import AddressRecords.Proofs.Record.History
import AddressRecords.Proofs.Record.Map
import AddressRecords.Proofs.Validation.DryRun

/-!
The course of a validation run. For each domain in turn a plan of operations is followed, until one
of them fails; that ends the run, and nothing else does, as what the run expects of the records it
changes is always so.
-/

namespace AddressRecords

variable {σ τ α β : Type}

/-! Histories. -/

namespace History

def operations (history : History) : List Operation := history.map (·.1)

def Succeeds (history : History) : Prop := ∀ entry ∈ history, ∃ answer, entry.2 = .ok answer

/-- The first record that was created. -/
def created (history : History) : String :=
  (history.findSome? fun
    | (.create .., .ok (.id id)) => some id
    | _ => none).getD ""

/-- The operations of a plan, one after the other, until one fails. -/
inductive Follows : List Operation → History → Prop
  | done : Follows [] []
  | failed (operation : Operation) (rest : List Operation) (failure : Failure) :
      Follows (operation :: rest) [(operation, .error failure)]
  | went_on {rest : List Operation} {history : History} (operation : Operation) (answer : Answer)
      (later : Follows rest history) :
      Follows (operation :: rest) ((operation, .ok answer) :: history)

theorem succeeds_nil : Succeeds [] := fun _ mem => nomatch mem

theorem succeeds_append {before after : History} :
    Succeeds (before ++ after) ↔ before.Succeeds ∧ after.Succeeds :=
  List.forall_mem_append

theorem not_succeeds_of_mem {history : History} {operation : Operation} {failure : Failure}
    (mem : (operation, .error failure) ∈ history) : ¬ history.Succeeds := by
  intro succeeds
  obtain ⟨answer, impossible⟩ := succeeds _ mem
  cases impossible

namespace Follows

variable {plan more : List Operation} {history later : History}

theorem append (h : Follows plan history) (succeeds : history.Succeeds) (next : Follows more later) :
    Follows (plan ++ more) (history ++ later) := by
  induction h with
  | done => exact next
  | failed operation rest failure => exact absurd succeeds (not_succeeds_of_mem List.mem_cons_self)
  | went_on operation answer _ ih =>
    exact .went_on operation answer (ih (List.forall_mem_cons.mp succeeds).2)

/-- What was planned for later does not matter after a failure. -/
theorem append_plan (h : Follows plan history) (fails : ¬ history.Succeeds)
    (more : List Operation) : Follows (plan ++ more) history := by
  induction h with
  | done => exact absurd succeeds_nil fails
  | failed operation rest failure => exact .failed operation (rest ++ more) failure
  | went_on operation answer _ ih =>
    refine .went_on operation answer (ih fun rest => fails ?_)
    exact List.forall_mem_cons.mpr ⟨⟨answer, rfl⟩, rest⟩

theorem prefix_plan (h : Follows plan history) : history.operations <+: plan := by
  induction h with
  | done => exact List.prefix_rfl
  | failed operation rest failure => exact List.cons_prefix_cons.mpr ⟨rfl, List.nil_prefix⟩
  | went_on operation answer _ ih => exact List.cons_prefix_cons.mpr ⟨rfl, ih⟩

theorem eq_plan (h : Follows plan history) (succeeds : history.Succeeds) :
    history.operations = plan := by
  induction h with
  | done => rfl
  | failed operation rest failure => exact absurd succeeds (not_succeeds_of_mem List.mem_cons_self)
  | went_on operation answer _ ih =>
    exact congrArg (operation :: ·) (ih (List.forall_mem_cons.mp succeeds).2)

/-- A failure is the end. -/
theorem exists_last (h : Follows plan history) (fails : ¬ history.Succeeds) :
    ∃ before operation failure,
      history = before ++ [(operation, .error failure)] ∧ Succeeds before := by
  induction h with
  | done => exact absurd succeeds_nil fails
  | failed operation rest failure => exact ⟨[], operation, failure, rfl, succeeds_nil⟩
  | went_on first answer _ ih =>
    have failsLater := fun rest => fails (List.forall_mem_cons.mpr ⟨⟨answer, rfl⟩, rest⟩)
    obtain ⟨before, operation, failure, rfl, succeeds⟩ := ih failsLater
    exact ⟨(first, .ok answer) :: before, operation, failure, rfl,
      List.forall_mem_cons.mpr ⟨⟨answer, rfl⟩, succeeds⟩⟩

theorem succeeds_dropLast (h : Follows plan history) : Succeeds history.dropLast := by
  by_cases all : history.Succeeds
  · exact fun entry mem => all entry (List.dropLast_subset _ mem)
  · obtain ⟨before, operation, failure, rfl, succeeds⟩ := h.exists_last all
    rw [List.dropLast_concat]
    exact succeeds

end Follows

end History

/-- Two histories, one after the other, are a history if each of them is. -/
theorem Handle.performed_append (handle : Handle σ) (state : HandleState σ)
    {first later : History} :
    handle.history (first ++ later : History).operations state = first ++ later ↔
      handle.history first.operations state = first ∧
      handle.history later.operations (handle.performAll first.operations state).state = later := by
  have split : (first ++ later : History).operations = first.operations ++ later.operations :=
    List.map_append
  have same : (handle.history first.operations state).length = first.length := by
    rw [length_history]
    exact List.length_map _
  rw [split, history_append]
  exact ⟨fun h => List.append_inj h same, fun ⟨one, other⟩ => one.symm ▸ other.symm ▸ rfl⟩

theorem Act.bind_apply (act : Act τ α) (next : α → Act τ β) (state : τ) :
    (act >>= next) state =
      let rest := next (act state).value (act state).state
      ⟨rest.value, rest.state, (act state).events ++ rest.events⟩ := rfl

namespace Validation

/-! Steps. -/

namespace Steps

variable {first : Steps τ α} {next : α → Steps τ β} {state : τ}

theorem bind_of_ok {value : α} (ok : (first.run state).value = .ok value) :
    (first >>= next).run state =
      let rest := (next value).run (first.run state).state
      ⟨rest.value, rest.state, (first.run state).events ++ rest.events⟩ := by
  rw [ExceptT.run_bind, Act.bind_apply, ok]

theorem bind_of_error {error : RunError} (failed : (first.run state).value = .error error) :
    (first >>= next).run state =
      ⟨.error error, (first.run state).state, (first.run state).events⟩ := by
  rw [ExceptT.run_bind, Act.bind_apply, failed]
  exact congrArg (Outcome.mk _ _) (List.append_nil _)

end Steps

/-! Steps and operations. -/

variable {handle : Handle σ} {state : HandleState σ}

/-- The steps come to these operations, which give this, from the state on. -/
structure Does (handle : Handle σ) (state : HandleState σ) (history : History)
    (done : Outcome (HandleState σ) (Except RunError α)) : Prop where
  performed : handle.history history.operations state = history
  reached : done.state = (handle.performAll history.operations state).state
  calls : done.calls = (handle.performAll history.operations state).calls
  succeeds : ∀ value, done.value = .ok value → history.Succeeds
  fails : ∀ error, done.value = .error error → ∃ operation failure,
    (operation, .error failure) ∈ history ∧ error = .operation failure

namespace Does

variable {history later : History}

theorem nil {done : Outcome (HandleState σ) (Except RunError α)} {value : α}
    (ok : done.value = .ok value) (same : done.state = state) (quiet : done.calls = []) :
    Does handle state [] done := by
  constructor
  case performed => rfl
  case reached => exact same
  case calls => exact quiet
  case succeeds => exact fun _ _ => History.succeeds_nil
  case fails =>
    intro error failed
    rw [ok] at failed
    cases failed

theorem pure (value : α) :
    Does handle state [] ((Pure.pure value : Steps (HandleState σ) α).run state) :=
  .nil rfl rfl rfl

theorem note (text : String) : Does handle state [] ((Validation.note text).run state) :=
  .nil rfl rfl rfl

/-- An operation of the handle, whatever its answer is turned into. -/
theorem orEnd {operation : Operation} {act : Act (HandleState σ) (Except Failure α)}
    {f : α → Answer} (performs : handle.perform operation = do return (← act).map f) :
    Does handle state [(operation, (act state).value.map f)]
      ((Validation.orEnd act).run state) := by
  have value : (handle.perform operation state).value = (act state).value.map f := by
    rw [performs]
    rfl
  have after : (handle.perform operation state).state = (act state).state := by
    rw [performs]
    rfl
  have calls : (handle.perform operation state).calls = (act state).calls := by
    rw [performs]
    exact Act.calls_bind_of_quiet (.pure _)
  constructor
  case performed => rw [History.operations, List.map_singleton, Handle.history_cons, value]; rfl
  case reached =>
    rw [History.operations, List.map_singleton, Handle.performAll_cons_state, after]
    rfl
  case calls =>
    rw [History.operations, List.map_singleton, Handle.calls_performAll_cons, calls]
    refine (Act.calls_bind_of_quiet (.pure _)).trans (List.append_nil _).symm
  case succeeds =>
    intro given ok
    cases answer : (act state).value with
    | ok value => exact List.forall_mem_singleton.mpr ⟨f value, rfl⟩
    | error failure =>
      change (act state).value.mapError _ = _ at ok
      rw [answer] at ok
      cases ok
  case fails =>
    intro error failed
    change (act state).value.mapError _ = _ at failed
    cases answer : (act state).value with
    | ok value =>
      rw [answer] at failed
      cases failed
    | error failure =>
      rw [answer] at failed
      cases failed
      exact ⟨operation, failure, List.mem_singleton_self _, rfl⟩

theorem ok_iff {done : Outcome (HandleState σ) (Except RunError Unit)}
    (h : Does handle state history done) : done.value = .ok () ↔ history.Succeeds := by
  constructor
  · exact h.succeeds ()
  · intro succeeds
    cases answer : done.value with
    | ok _ => rfl
    | error error =>
      obtain ⟨operation, failure, mem, -⟩ := h.fails error answer
      exact absurd succeeds (History.not_succeeds_of_mem mem)

variable {first : Steps (HandleState σ) α} {next : α → Steps (HandleState σ) β}

theorem bind_of_error (h : Does handle state history (first.run state)) {error : RunError}
    (failed : (first.run state).value = .error error) :
    Does handle state history ((first >>= next).run state) := by
  rw [Steps.bind_of_error failed]
  constructor
  case performed => exact h.performed
  case reached => exact h.reached
  case calls => exact h.calls
  case succeeds => exact fun _ impossible => nomatch impossible
  case fails =>
    rintro _ ⟨⟩
    exact h.fails error failed

theorem bind_of_ok (h : Does handle state history (first.run state)) {value : α}
    (ok : (first.run state).value = .ok value)
    (rest : Does handle (first.run state).state later ((next value).run (first.run state).state)) :
    Does handle state (history ++ later) ((first >>= next).run state) := by
  have operations : History.operations (history ++ later) =
      history.operations ++ later.operations := List.map_append
  rw [Steps.bind_of_ok ok]
  constructor
  case performed =>
    rw [Handle.performed_append, h.performed, ← h.reached, rest.performed]
    exact ⟨rfl, rfl⟩
  case reached =>
    rw [operations, Handle.state_performAll_append, ← h.reached]
    exact rest.reached
  case calls =>
    rw [operations, Handle.calls_performAll_append, ← h.reached, ← h.calls, ← rest.calls]
    exact List.filterMap_append
  case succeeds =>
    intro given also
    exact History.succeeds_append.mpr ⟨h.succeeds value ok, rest.succeeds given also⟩
  case fails =>
    intro error failed
    obtain ⟨operation, failure, mem, same⟩ := rest.fails error failed
    exact ⟨operation, failure, List.mem_append_right _ mem, same⟩

end Does

/-- The steps follow a plan of operations. -/
def Goes (handle : Handle σ) (plan : List Operation) (state : HandleState σ)
    (done : Outcome (HandleState σ) (Except RunError α)) : Prop :=
  ∃ history, History.Follows plan history ∧ Does handle state history done

namespace Goes

variable {plan more : List Operation} {first : Steps (HandleState σ) α}
  {next : α → Steps (HandleState σ) β}

theorem pure (value : α) :
    Goes handle [] state ((Pure.pure value : Steps (HandleState σ) α).run state) :=
  ⟨[], .done, .pure value⟩

theorem note (text : String) : Goes handle [] state ((Validation.note text).run state) :=
  ⟨[], .done, .note text⟩

theorem orEnd {operation : Operation} {act : Act (HandleState σ) (Except Failure α)}
    {f : α → Answer} (performs : handle.perform operation = do return (← act).map f) :
    Goes handle [operation] state ((Validation.orEnd act).run state) := by
  refine ⟨_, ?_, .orEnd performs⟩
  cases (act state).value with
  | error failure => exact .failed operation [] failure
  | ok value => exact .went_on operation (f value) .done

theorem bind (h : Goes handle plan state (first.run state))
    (rest : ∀ value, (first.run state).value = .ok value →
      Goes handle more (first.run state).state ((next value).run (first.run state).state)) :
    Goes handle (plan ++ more) state ((first >>= next).run state) := by
  obtain ⟨history, follows, does⟩ := h
  cases answer : (first.run state).value with
  | error error =>
    obtain ⟨operation, failure, mem, -⟩ := does.fails error answer
    exact ⟨history, follows.append_plan (History.not_succeeds_of_mem mem) more,
      does.bind_of_error answer⟩
  | ok value =>
    obtain ⟨later, followed, done⟩ := rest value answer
    exact ⟨history ++ later, follows.append (does.succeeds value answer) followed,
      does.bind_of_ok answer done⟩

theorem bind_note {text : String} {next : Unit → Steps (HandleState σ) β}
    (rest : Goes handle plan state ((next ()).run state)) :
    Goes handle plan state ((Validation.note text >>= next).run state) :=
  bind (.note text) fun _ _ => rest

theorem bind_orEnd {operation : Operation} {act : Act (HandleState σ) (Except Failure α)}
    {f : α → Answer} (performs : handle.perform operation = do return (← act).map f)
    (rest : ∀ value, (act state).value = .ok value →
      Goes handle more (act state).state ((next value).run (act state).state)) :
    Goes handle (operation :: more) state ((Validation.orEnd act >>= next).run state) := by
  apply bind (.orEnd performs)
  intro value given
  exact rest value (ok_of_mapError given)

/-- Nothing is planned for what comes last. -/
theorem bind_quiet (h : Goes handle plan state (first.run state))
    (rest : ∀ value, Goes handle [] (first.run state).state
      ((next value).run (first.run state).state)) :
    Goes handle plan state ((first >>= next).run state) := by
  have whole := h.bind fun value _ => rest value
  rwa [List.append_nil] at whole

theorem forM_notes (items : List β) (text : β → String) (state : HandleState σ) :
    Goes handle [] state ((items.forM fun item => Validation.note (text item)).run state) := by
  induction items with
  | nil => exact .pure ()
  | cons item rest ih => exact bind (.note (text item)) fun _ _ => ih

end Goes

/-! One domain. -/

/-- What is looked up about a domain. -/
def looks (domain : Domain) : List Operation :=
  [.resolve domain, .list ⟨domain, .v4⟩, .list ⟨domain, .v6⟩]

/-- What is changed about a domain, and looked at in between, with a record created as `id`. -/
def changes (domain : Domain) (address : Address) (id : String) : List Operation :=
  let key : RecordKey := ⟨domain, address.family⟩
  [.create key address .auto false, .list key, .update key id address, .delete key id, .list key]

/-- The operations on a domain. -/
def visit (address? : Option Address) (domain : Domain) (id : String) : List Operation :=
  looks domain ++ address?.elim [] fun address => changes domain address id

theorem goes_inspect (handle : Handle σ) (key : RecordKey) (state : HandleState σ) :
    Goes handle [.list key] state ((inspect handle key).run state) :=
  .bind_orEnd rfl fun _ _ => .bind_note (.forM_notes _ _ _)

section

variable {key : RecordKey} {records : RecordMap} {address : Address} {ttl : Ttl} {proxied : Bool}
  {id : String}

/-- A key that was listed before is listed again without fail. -/
theorem goes_recall {more : List Operation} {next : RecordMap → Steps (HandleState σ) β}
    (warm : state.1.get key = some records) (rest : Goes handle more state ((next records).run state)) :
    Goes handle (.list key :: more) state ((orEnd (handle.list key) >>= next).run state) := by
  obtain ⟨value, same, -⟩ := handle.list_of_warm warm
  apply Goes.bind_orEnd rfl
  intro given listed
  rw [value] at listed
  cases listed
  rw [same]
  exact rest

theorem get_of_created (warm : state.1.get key = some records)
    (created : (handle.create key address ttl proxied state).value = .ok id) :
    (handle.create key address ttl proxied state).state.1.get key =
      some (records.insert id address) := by
  have after : (handle.create key address ttl proxied state).state.1 =
      state.1.upsertIfWarm key id address :=
    (handle.create_remembers key address ttl proxied state).1 id created
  rw [after, RecordStore.upsertIfWarm, RecordStore.get_setEntry, if_pos rfl, warm, Option.map_some]

theorem get_of_updated (warm : state.1.get key = some records)
    (updated : (handle.update key id address state).value = .ok ()) :
    (handle.update key id address state).state.1.get key = some (records.insert id address) := by
  have after : (handle.update key id address state).state.1 =
      state.1.upsertIfWarm key id address :=
    (handle.update_remembers key id address state).1 () updated
  rw [after, RecordStore.upsertIfWarm, RecordStore.get_setEntry, if_pos rfl, warm, Option.map_some]

theorem get_of_deleted (warm : state.1.get key = some records)
    (deleted : (handle.delete key id state).value = .ok ()) :
    (handle.delete key id state).state.1.get key = some (records.erase id) := by
  have after : (handle.delete key id state).state.1 = state.1.removeIfWarm key id :=
    (handle.delete_remembers key id state).1 () deleted
  rw [after, RecordStore.removeIfWarm, RecordStore.get_setEntry, if_pos rfl, warm, Option.map_some]

end

section

variable {domain : Domain} {address : Address} {records : RecordMap}

/-- A record is created, and what follows depends on its identifier. -/
theorem exists_of_create {key : RecordKey} {ttl : Ttl} {proxied : Bool}
    {next : String → Steps (HandleState σ) β} (later : String → List Operation)
    (rest : ∀ id, (handle.create key address ttl proxied state).value = .ok id →
      Goes handle (later id) (handle.create key address ttl proxied state).state
        ((next id).run (handle.create key address ttl proxied state).state)) :
    ∃ history, History.Follows
        (.create key address ttl proxied :: later (History.created history)) history ∧
      Does handle state history
        ((orEnd (handle.create key address ttl proxied) >>= next).run state) := by
  let operation : Operation := .create key address ttl proxied
  have does : Does handle state
      [(operation, (handle.create key address ttl proxied state).value.map .id)]
      ((orEnd (handle.create key address ttl proxied)).run state) := .orEnd rfl
  cases created : (handle.create key address ttl proxied state).value with
  | error failure =>
    rw [created] at does
    have failed := congrArg (Except.mapError RunError.operation) created
    exact ⟨_, .failed operation _ failure, does.bind_of_error failed⟩
  | ok id =>
    rw [created] at does
    have made := congrArg (Except.mapError RunError.operation) created
    obtain ⟨history, follows, done⟩ := rest id created
    exact ⟨_, .went_on operation (.id id) follows, does.bind_of_ok made done⟩

theorem exists_of_note {which : History → Prop} {text : String}
    {next : Unit → Steps (HandleState σ) β}
    (rest : ∃ history, which history ∧ Does handle state history ((next ()).run state)) :
    ∃ history, which history ∧ Does handle state history ((note text >>= next).run state) := by
  obtain ⟨history, follows, does⟩ := rest
  exact ⟨history, follows, .bind_of_ok (.note text) rfl does⟩

/-- What the run expects of the records it changes is always so, if their entry is warm. -/
theorem exists_of_mutate (handle : Handle σ)
    (warm : state.1.get ⟨domain, address.family⟩ = some records) :
    ∃ history, History.Follows (changes domain address (History.created history)) history ∧
      Does handle state history ((mutate handle domain address).run state) := by
  let key : RecordKey := ⟨domain, address.family⟩
  let later (id : String) : List Operation :=
    [.list key, .update key id address, .delete key id, .list key]
  apply exists_of_note
  apply exists_of_create later
  intro id created
  have listed := get_of_created warm created
  apply goes_recall listed
  dsimp only
  rw [if_neg (not_not_intro (by rw [RecordMap.find?_insert, if_pos rfl]))]
  apply Goes.bind_note
  apply Goes.bind_orEnd rfl
  intro _ updated
  have moved := get_of_updated listed updated
  apply Goes.bind_note
  apply Goes.bind_orEnd rfl
  intro _ deleted
  apply goes_recall (get_of_deleted moved deleted)
  rw [if_neg (by simp [RecordMap.find?_erase])]
  exact .note _

end

/-- The first part of a domain's check, which changes nothing. -/
def look (handle : Handle σ) (domain : Domain) : Steps (HandleState σ) Unit := do
  note s!"--- Step 2: {domain} ---"
  let zone ← orEnd (handle.resolve domain)
  note s!"Zone ID: {zone}"
  Family.all.forM fun family => inspect handle ⟨domain, family⟩

theorem checkDomain_eq (handle : Handle σ) (address? : Option Address) (domain : Domain) :
    checkDomain handle address? domain =
      look handle domain >>= fun _ => address?.forM (mutate handle domain) := by
  simp only [checkDomain, look, bind_assoc]

theorem goes_inspections (handle : Handle σ) (domain : Domain) (state : HandleState σ) :
    Goes handle [.list ⟨domain, .v4⟩, .list ⟨domain, .v6⟩] state
      ((Family.all.forM fun family => inspect handle ⟨domain, family⟩).run state) := by
  change Goes handle _ state ((inspect handle ⟨domain, .v4⟩ >>= fun _ =>
    inspect handle ⟨domain, .v6⟩ >>= fun _ => pure ()).run state)
  apply Goes.bind (goes_inspect handle ⟨domain, .v4⟩ state)
  intro _ _
  apply Goes.bind_quiet (goes_inspect handle ⟨domain, .v6⟩ _)
  intro _
  exact .pure ()

theorem goes_look (handle : Handle σ) (domain : Domain) (state : HandleState σ) :
    Goes handle (looks domain) state ((look handle domain).run state) := by
  unfold look
  apply Goes.bind_note
  apply Goes.bind_orEnd rfl
  intro _ _
  apply Goes.bind_note
  exact goes_inspections handle domain _

theorem created_of_looks {domain : Domain} {looked : History}
    (follows : History.Follows (looks domain) looked) (later : History) :
    History.created (looked ++ later) = later.created := by
  have found : ∀ entry ∈ looked, entry.1 ∈ looks domain := fun entry mem =>
    follows.prefix_plan.subset (List.mem_map_of_mem mem)
  rw [History.created, List.findSome?_append, List.findSome?_eq_none_iff.mpr]
  · rfl
  · rintro ⟨operation, answer⟩ mem
    have kind := found _ mem
    simp only [looks, List.mem_cons, List.not_mem_nil, or_false] at kind
    rcases kind with rfl | rfl | rfl <;> rfl

/-- Records that were looked up are remembered. -/
theorem warm_of_looks {domain : Domain} (family : Family)
    (looked : History.Succeeds (handle.history (looks domain) state)) :
    ∃ records, (handle.performAll (looks domain) state).state.1.get ⟨domain, family⟩ =
      some records := by
  have planned : Operation.list ⟨domain, family⟩ ∈ looks domain := by
    cases family <;> simp [looks]
  rw [← handle.history_operations (looks domain) state] at planned
  obtain ⟨⟨_, answer⟩, mem, rfl⟩ := List.mem_map.mp planned
  obtain ⟨answer, rfl⟩ := looked _ mem
  exact Option.ne_none_iff_exists'.mp (handle.get_performAll_ne_none (looks domain) mem)

theorem exists_of_checkDomain (handle : Handle σ) (address? : Option Address) (domain : Domain)
    (state : HandleState σ) :
    ∃ history, History.Follows (visit address? domain (History.created history)) history ∧
      Does handle state history ((checkDomain handle address? domain).run state) := by
  obtain ⟨looked, follows, does⟩ := goes_look handle domain state
  rw [checkDomain_eq]
  cases answer : ((look handle domain).run state).value with
  | error error =>
    obtain ⟨operation, failure, mem, -⟩ := does.fails error answer
    exact ⟨looked, follows.append_plan (History.not_succeeds_of_mem mem) _,
      does.bind_of_error answer⟩
  | ok _ =>
    have succeeds := does.succeeds _ answer
    cases address? with
    | none => exact ⟨looked ++ [], follows.append succeeds .done,
        does.bind_of_ok answer (.pure ())⟩
    | some address =>
      have operations := follows.eq_plan succeeds
      have warm : ∃ records, ((look handle domain).run state).state.1.get
          ⟨domain, address.family⟩ = some records := by
        rw [does.reached, operations]
        refine warm_of_looks address.family ?_
        rw [← operations, does.performed]
        exact succeeds
      obtain ⟨records, warm⟩ := warm
      obtain ⟨changed, followed, done⟩ := exists_of_mutate handle warm
      refine ⟨looked ++ changed, ?_, does.bind_of_ok answer done⟩
      rw [created_of_looks follows]
      exact follows.append succeeds followed

/-! All domains. -/

/-- The entries of the visits, in their order. -/
def entries (visits : List (Domain × History)) : History := visits.flatMap (·.2)

/-- Visits to the first of these domains, in their order; only a failure keeps the others from being
visited. -/
structure Course (handle : Handle σ) (address? : Option Address) (domains : List Domain)
    (state : HandleState σ) (visits : List (Domain × History)) : Prop where
  /-- The operations are performed from the given state on, and give this. -/
  performed : handle.history (entries visits).operations state = entries visits
  order : visits.map (·.1) <+: domains
  follows : ∀ visited ∈ visits,
    History.Follows (visit address? visited.1 visited.2.created) visited.2
  /-- Only the last visit may have failed. -/
  stops : ∀ visited ∈ visits.dropLast, visited.2.Succeeds
  complete : (∀ visited ∈ visits, visited.2.Succeeds) → visits.map (·.1) = domains

theorem exists_course (handle : Handle σ) (address? : Option Address) (domains : List Domain)
    (state : HandleState σ) :
    ∃ visits, Course handle address? domains state visits ∧
      Does handle state (entries visits)
        ((domains.forM (checkDomain handle address?)).run state) := by
  induction domains generalizing state with
  | nil =>
    refine ⟨[], ?_, .pure ()⟩
    constructor
    case performed => rfl
    case order => exact List.prefix_rfl
    case follows => exact fun _ mem => nomatch mem
    case stops => exact fun _ mem => nomatch mem
    case complete => exact fun _ => rfl
  | cons domain rest ih =>
    obtain ⟨history, follows, does⟩ := exists_of_checkDomain handle address? domain state
    let first := (checkDomain handle address? domain).run state
    cases answer : first.value with
    | error error =>
      obtain ⟨operation, failure, mem, -⟩ := does.fails error answer
      have fails := History.not_succeeds_of_mem mem
      have only : entries [(domain, history)] = history := List.append_nil _
      have whole : Does handle state (entries [(domain, history)])
          (((domain :: rest).forM (checkDomain handle address?)).run state) := by
        rw [only]
        exact does.bind_of_error answer
      refine ⟨[(domain, history)], ?_, whole⟩
      constructor
      case performed => exact whole.performed
      case order => exact List.cons_prefix_cons.mpr ⟨rfl, List.nil_prefix⟩
      case follows => exact List.forall_mem_singleton.mpr follows
      case stops => exact fun _ mem => nomatch mem
      case complete => exact fun all => absurd (all _ (List.mem_singleton_self _)) fails
    | ok _ =>
      have succeeds := does.succeeds _ answer
      obtain ⟨visits, course, done⟩ := ih first.state
      have whole : Does handle state (history ++ entries visits)
          (((domain :: rest).forM (checkDomain handle address?)).run state) :=
        does.bind_of_ok answer done
      refine ⟨(domain, history) :: visits, ?_, whole⟩
      constructor
      case performed => exact whole.performed
      case order => exact List.cons_prefix_cons.mpr ⟨rfl, course.order⟩
      case follows => exact List.forall_mem_cons.mpr ⟨follows, course.follows⟩
      case stops =>
        cases visits with
        | nil => exact fun _ mem => nomatch mem
        | cons next later => exact List.forall_mem_cons.mpr ⟨succeeds, course.stops⟩
      case complete =>
        intro all
        exact congrArg (domain :: ·) (course.complete (List.forall_mem_cons.mp all).2)

namespace Course

variable {address? : Option Address} {domains : List Domain} {visits : List (Domain × History)}

theorem entries_append (before after : List (Domain × History)) :
    entries (before ++ after) = entries before ++ entries after :=
  List.flatMap_append

theorem succeeds_entries : (entries visits).Succeeds ↔ ∀ visited ∈ visits, visited.2.Succeeds := by
  constructor
  · intro succeeds visited mem entry inside
    exact succeeds entry (List.mem_flatMap_of_mem mem inside)
  · intro succeeds entry mem
    obtain ⟨visited, among, inside⟩ := List.mem_flatMap.mp mem
    exact succeeds visited among entry inside

/-- Each visit starts from where the visits before it have led. -/
theorem performed_visit (h : Course handle address? domains state visits)
    {before after : List (Domain × History)} {visited : Domain × History}
    (split : visits = before ++ visited :: after) :
    let reached := (handle.performAll (entries before).operations state).state
    handle.history visited.2.operations reached = visited.2 := by
  have parts : entries visits = entries before ++ (visited.2 ++ entries after) := by
    rw [split, entries_append]
    exact congrArg (entries before ++ ·) List.flatMap_cons
  have performed := h.performed
  rw [parts] at performed
  exact (handle.performed_append _).mp ((handle.performed_append _).mp performed).2 |>.1

/-- All operations but the last have succeeded. -/
theorem succeeds_dropLast (h : Course handle address? domains state visits) :
    History.Succeeds (entries visits).dropLast := by
  rcases List.eq_nil_or_concat visits with rfl | ⟨before, last, split⟩
  · exact History.succeeds_nil
  · rw [List.concat_eq_append] at split
    subst split
    have only : entries [last] = last.2 := List.append_nil _
    have earlier : History.Succeeds (entries before) := by
      rw [succeeds_entries]
      have stops := h.stops
      rwa [List.dropLast_concat] at stops
    have latest := (h.follows last (by simp)).succeeds_dropLast
    rw [entries_append, only, List.dropLast_append]
    split
    · exact fun entry mem => earlier entry (List.dropLast_subset _ mem)
    · exact History.succeeds_append.mpr ⟨earlier, latest⟩

end Course

end Validation

end AddressRecords
