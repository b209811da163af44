import AddressRecords.Handle.Concurrent
import AddressRecords.Proofs.Concurrent.Answers

/-!
What one stage of an operation can do on a faithful remote, while others are at work as well. An
answer tells what the remote shows when it is given, and is entered later as it is.
-/

namespace AddressRecords

variable {σ : Type}

/-! Asking. -/

namespace Stage

def answer? : Stage → Option Answer
  | .entering answer | .done (.ok answer) => some answer
  | _ => none

def isDone : Stage → Bool
  | .done _ => true
  | _ => false

def isEntering : Stage → Bool
  | .entering _ => true
  | _ => false

/-- An answer of the API is entered next, and a failure is the end. -/
def ofAnswer : Except Failure Answer → Stage
  | .ok answer => .entering answer
  | .error failure => .done (.error failure)

end Stage

namespace Handle

variable (handle : Handle σ) {key : RecordKey} {address : Address} {ttl : Ttl} {proxied : Bool}
  {id zone : String} {state : HandleState σ}

theorem advance_asking_apply (operation : Operation) (zone : String) (state : HandleState σ) :
    (handle.advance operation (.asking zone) state).value =
      Stage.ofAnswer (handle.ask operation zone state).value ∧
    (handle.advance operation (.asking zone) state).state =
      (handle.ask operation zone state).state := by
  simp only [advance, Act.value_bind, Act.state_bind]
  cases (handle.ask operation zone state).value with
  | error failure => exact ⟨rfl, rfl⟩
  | ok answer => exact ⟨rfl, rfl⟩

theorem ask_create_of_ok {created : Api.RawRecord}
    (h : (handle.client.createRecord handle.api zone (newRecord key address ttl proxied)
      state.2.2).value = .ok created) :
    (handle.ask (.create key address ttl proxied) zone state).value = .ok (.id created.id) ∧
    (handle.ask (.create key address ttl proxied) zone state).state = (state.1, (state.2.1,
      (handle.client.createRecord handle.api zone (newRecord key address ttl proxied)
        state.2.2).state)) := by
  simp [ask, onRemote, h]

theorem ask_create_of_error {failure : Api.Failure}
    (h : (handle.client.createRecord handle.api zone (newRecord key address ttl proxied)
      state.2.2).value = .error failure) :
    (∃ reason, (handle.ask (.create key address ttl proxied) zone state).value = .error reason) ∧
    (handle.ask (.create key address ttl proxied) zone state).state = (state.1, (state.2.1,
      (handle.client.createRecord handle.api zone (newRecord key address ttl proxied)
        state.2.2).state)) := by
  simp [ask, onRemote, h]

theorem ask_update_of_ok
    (h : (handle.client.updateRecord handle.api zone id (recordPatch key address)
      state.2.2).value = .ok ()) :
    (handle.ask (.update key id address) zone state).value = .ok .done ∧
    (handle.ask (.update key id address) zone state).state = (state.1, (state.2.1,
      (handle.client.updateRecord handle.api zone id (recordPatch key address)
        state.2.2).state)) := by
  simp [ask, onRemote, h]

theorem ask_update_of_error {failure : Api.Failure}
    (h : (handle.client.updateRecord handle.api zone id (recordPatch key address)
      state.2.2).value = .error failure) :
    (∃ reason, (handle.ask (.update key id address) zone state).value = .error reason) ∧
    (handle.ask (.update key id address) zone state).state = (state.1, (state.2.1,
      (handle.client.updateRecord handle.api zone id (recordPatch key address)
        state.2.2).state)) := by
  simp [ask, onRemote, h]

theorem ask_delete_of_ok (key : RecordKey)
    (h : (handle.client.deleteRecord handle.api zone id state.2.2).value = .ok ()) :
    (handle.ask (.delete key id) zone state).value = .ok .done ∧
    (handle.ask (.delete key id) zone state).state = (state.1, (state.2.1,
      (handle.client.deleteRecord handle.api zone id state.2.2).state)) := by
  simp [ask, onRemote, h]

theorem ask_delete_of_error (key : RecordKey) {failure : Api.Failure}
    (h : (handle.client.deleteRecord handle.api zone id state.2.2).value = .error failure) :
    (∃ reason, (handle.ask (.delete key id) zone state).value = .error reason) ∧
    (handle.ask (.delete key id) zone state).state = (state.1, (state.2.1,
      (handle.client.deleteRecord handle.api zone id state.2.2).state)) := by
  simp [ask, onRemote, h]

end Handle

/-! One stage. -/

/-- From one stage to the next, as far as records and their holdings go. -/
inductive Remote.Advances (remote : Remote σ) (operation : Operation) :
    Stage → HandleState σ → Stage → HandleState σ → Prop
  /-- There is no answer about records yet, or there will never be one. -/
  | waits {stage next : Stage} {before after : HandleState σ} (unanswered : stage.answer? = none)
      (silent : ∀ answer, next.answer? = some answer →
        operation.key? = none ∧ next = .done (.ok answer))
      (store : after.1 = before.1)
      (holdings : remote.holdings after.2.2 = remote.holdings before.2.2) :
      Advances remote operation stage before next after
  /-- A warm entry needs no answer. -/
  | reads {key : RecordKey} {records : RecordMap} {state : HandleState σ}
      (listing : operation = .list key) (warm : state.1.get key = some records) :
      Advances remote operation .ready state (.done (.ok (.records records))) state
  /-- An answer is true when it is given, and the rest is as before. -/
  | gives {zone : String} {answer : Answer} {before after : HandleState σ}
      (tells : ∀ key id address?, operation.tells? answer key id = some address? →
        remote.Shows (remote.holdings after.2.2) key id address?)
      (keeps : ∀ key id address?,
        (∀ change, operation.change? answer = some change →
          ¬ (change.key = key ∧ change.id = id)) →
        remote.Shows (remote.holdings before.2.2) key id address? →
        remote.Shows (remote.holdings after.2.2) key id address?)
      (store : after.1 = before.1) :
      Advances remote operation (.asking zone) before (.entering answer) after
  | enters {answer : Answer} {state : HandleState σ} :
      Advances remote operation (.entering answer) state (.done (.ok answer))
        (Handle.applied operation answer state.1, state.2)
  | rests {result : Except Failure Answer} {state : HandleState σ} :
      Advances remote operation (.done result) state (.done result) state

theorem Remote.Advances.answer? {remote : Remote σ} {operation : Operation} {stage next : Stage}
    {before after : HandleState σ} (h : remote.Advances operation stage before next after)
    {answer : Answer} (given : stage.answer? = some answer) : next.answer? = some answer := by
  cases h with
  | waits unanswered =>
    rw [unanswered] at given
    cases given
  | reads => cases given
  | gives => cases given
  | enters => exact given
  | rests => exact given

/-- A success is the end. -/
theorem Remote.Advances.eq_of_done {remote : Remote σ} {operation : Operation} {next : Stage}
    {before after : HandleState σ} {answer : Answer}
    (h : remote.Advances operation (.done (.ok answer)) before next after) :
    next = .done (.ok answer) := by
  cases h with
  | waits unanswered => cases unanswered
  | rests => rfl

/-- The answer of a listing was remembered before or is shown now. -/
theorem Remote.Advances.listed {remote : Remote σ} {key : RecordKey} {stage next : Stage}
    {before after : HandleState σ} {records : RecordMap}
    (h : remote.Advances (.list key) stage before next after) (unanswered : stage.answer? = none)
    (answered : next.answer? = some (.records records)) :
    before.1.get key = some records ∨
      ∀ id, remote.Shows (remote.holdings after.2.2) key id (records.find? id) := by
  cases h with
  | waits _ silent => cases (silent _ answered).1
  | reads listing warm =>
    cases listing
    cases answered
    exact .inl warm
  | gives tells =>
    cases answered
    exact .inr fun id => tells key id _ (Operation.tells?_list records)
  | enters => cases unanswered
  | rests =>
    rw [unanswered] at answered
    cases answered

/-- The answer that confirms a change comes from the remote. -/
theorem Remote.Advances.changed {remote : Remote σ} {operation : Operation} {stage next : Stage}
    {before after : HandleState σ} {answer : Answer} {change : Change}
    (h : remote.Advances operation stage before next after) (unanswered : stage.answer? = none)
    (answered : next.answer? = some answer) (made : operation.change? answer = some change) :
    (∃ zone, stage = .asking zone) ∧ next = .entering answer := by
  cases h with
  | waits _ silent =>
    rw [Operation.key?_of_change made] at silent
    cases (silent _ answered).1
  | reads listing =>
    subst listing
    cases answered
    cases made
  | @gives zone =>
    cases answered
    exact ⟨⟨zone, rfl⟩, rfl⟩
  | enters => cases unanswered
  | rests =>
    rw [unanswered] at answered
    cases answered

/-- An address is of the family that it is asked for. -/
def Operation.IsProper : Operation → Prop
  | .create key address .. | .update key _ address => key.family.owns address
  | _ => True

/-- What is known of an operation at a stage. -/
def Remote.Permits (remote : Remote σ) (operation : Operation) : Stage → Prop
  | .locating => operation.IsProper
  | .asking zone => operation.IsProper ∧
    ∀ domain, operation.domain? = some domain → remote.owner? domain = some zone
  | _ => True

/-- The zones that are remembered are those of the remote, and known identifiers are of their
keys. -/
structure Remote.Backs (remote : Remote σ) (known : RecordKey → String → Prop)
    (state : HandleState σ) : Prop where
  lists : remote.Lists state.2.1
  fits : Agrees remote.owner? known (remote.holdings state.2.2) .empty

/-- A stage ends as it must, and the remote backs what it did before. -/
structure Remote.Continues (remote : Remote σ) (known : RecordKey → String → Prop)
    (operation : Operation) (stage : Stage) (before : HandleState σ) (next : Stage)
    (after : HandleState σ) : Prop where
  advances : remote.Advances operation stage before next after
  permits : remote.Permits operation next
  backs : remote.Backs known after

section

variable {handle : Handle σ} {remote : Remote σ} {known : RecordKey → String → Prop}
  {operation : Operation} {stage next : Stage} {before after state : HandleState σ}

theorem Remote.Backs.still (h : remote.Backs known state) : remote.Still state state :=
  ⟨rfl, h.lists, rfl⟩

/-- Nothing happens to records. -/
theorem Remote.Still.continues (still : remote.Still before after)
    (backs : remote.Backs known before) (unanswered : stage.answer? = none)
    (silent : ∀ answer, next.answer? = some answer →
      operation.key? = none ∧ next = .done (.ok answer))
    (permits : remote.Permits operation next) :
    remote.Continues known operation stage before next after where
  advances := .waits unanswered silent still.store still.holdings
  permits := permits
  backs := ⟨still.lists, still.holdings ▸ backs.fits⟩

/-! Before the remote is asked. -/

/-- An address of the other family is the end. -/
theorem Remote.continues_own (backs : remote.Backs known state) {family : Family}
    {address : Address} (proper : family.owns address → operation.IsProper) :
    let done := (do
      match ← Handle.withOwn family address (return .ok ()) with
      | .error failure => return Stage.done (.error failure)
      | .ok () => return Stage.locating : Act (HandleState σ) Stage) state
    remote.Continues known operation .ready state done.value done.state := by
  by_cases own : family.owns address
  · simp only [Handle.withOwn, if_pos own, pure_bind, Act.pure_apply]
    refine backs.still.continues backs rfl ?_ (proper own)
    rintro _ ⟨⟩
  · simp only [Handle.withOwn, if_neg own, Act.value_bind, Act.state_bind, Act.tell_apply,
      Act.pure_apply]
    refine backs.still.continues backs rfl ?_ trivial
    rintro _ ⟨⟩

theorem Remote.continues_prepare (backs : remote.Backs known state) :
    remote.Continues known operation .ready state (Handle.prepare operation state).value
      (Handle.prepare operation state).state := by
  cases operation with
  | list key =>
    cases warm : state.1.get key with
    | none =>
      simp only [Handle.prepare, Act.value_bind, Act.state_bind, Act.get_apply, warm, Act.pure_apply]
      exact backs.still.continues backs rfl nofun trivial
    | some records =>
      simp only [Handle.prepare, Act.value_bind, Act.state_bind, Act.get_apply, warm,
        Act.debug_apply, Act.pure_apply]
      exact ⟨.reads rfl warm, trivial, backs⟩
  | create key address ttl proxied => exact Remote.continues_own backs fun own => own
  | update key id address => exact Remote.continues_own backs fun own => own
  | delete key id => exact backs.still.continues backs rfl nofun trivial
  | resolve domain => exact backs.still.continues backs rfl nofun trivial
  | flush =>
    have flushed : remote.Still state (Handle.flush state).state :=
      ⟨rfl, fun _ _ impossible => (nomatch impossible), rfl⟩
    refine flushed.continues backs rfl ?_ trivial
    rintro _ ⟨⟩
    exact ⟨rfl, rfl⟩

theorem Faithful.continues_locating (faithful : Faithful handle remote)
    (backs : remote.Backs known state) (proper : operation.IsProper) :
    remote.Continues known operation .locating state
      (handle.advance operation .locating state).value
      (handle.advance operation .locating state).state := by
  cases needs : operation.domain? with
  | none =>
    have keyless : operation.key? = none := by cases operation <;> first | rfl | cases needs
    simp only [Handle.advance, needs, Act.pure_apply]
    refine backs.still.continues backs rfl ?_ trivial
    rintro _ ⟨⟩
    exact ⟨keyless, rfl⟩
  | some domain =>
    obtain ⟨store, lists, keeps, owner⟩ := faithful.resolve domain backs.lists
    have still : remote.Still state (handle.resolve domain state).state := ⟨store, lists, keeps⟩
    simp only [Handle.advance, needs, Act.value_bind, Act.state_bind]
    cases found : (handle.resolve domain state).value with
    | error failure => exact still.continues backs rfl nofun trivial
    | ok zone =>
      refine still.continues backs rfl nofun ⟨proper, ?_⟩
      intro other same
      obtain rfl := Option.some.inj (needs.symm.trans same)
      exact owner zone found

/-! What the remote does when it is asked. -/

section

variable {key : RecordKey} {id zone : String} {address : Address} {answer : Answer} {asked : σ}

theorem Remote.continues_refused {failure : Failure} (backs : remote.Backs known state)
    (same : remote.holdings asked = remote.holdings state.2.2) :
    remote.Continues known operation (.asking zone) state (.done (.error failure))
      (state.1, (state.2.1, asked)) :=
  (Remote.Still.of_holdings backs.lists same).continues backs rfl nofun trivial

/-- An answer that is not about records. -/
theorem Remote.continues_untold (backs : remote.Backs known state)
    (silent : ∀ key id, operation.tells? answer key id = none) :
    remote.Continues known operation (.asking zone) state (.entering answer) state := by
  refine ⟨.gives ?_ (fun _ _ _ _ shown => shown) rfl, trivial, backs⟩
  intro key id address? told
  rw [silent] at told
  cases told

/-- A change of one record. What was known fits as well as what is known now. -/
theorem Remote.continues_change {change : Change} {more : RecordKey → String → Prop}
    {store : RecordStore} (backs : remote.Backs known state)
    (made : operation.change? answer = some change)
    (shown : remote.Shows (remote.holdings asked) change.key change.id change.address?)
    (others : ∀ key id address?, ¬ (change.key = key ∧ change.id = id) →
      remote.Shows (remote.holdings state.2.2) key id address? →
      remote.Shows (remote.holdings asked) key id address?)
    (agrees : Agrees remote.owner? more (remote.holdings asked) store)
    (fewer : ∀ key id, known key id → more key id) :
    remote.Continues known operation (.asking zone) state (.entering answer)
      (state.1, (state.2.1, asked)) := by
  refine ⟨.gives ?_ ?_ rfl, trivial, backs.lists, fun _ _ impossible => (nomatch impossible),
    fun key id given => agrees.fits key id (fewer key id given)⟩
  · intro key id address? told
    rw [Operation.tells?_of_change made] at told
    split at told
    · rename_i about
      obtain ⟨rfl, rfl⟩ := about
      cases told
      exact shown
    · cases told
  · intro key id address? unlike
    exact others key id address? (unlike change made)

theorem Remote.continues_put (backs : remote.Backs known state) {store : RecordStore}
    {more : RecordKey → String → Prop} (owned : remote.owner? key.domain = some zone)
    (own : key.family.owns address)
    (made : operation.change? answer = some ⟨key, id, some address⟩) (valid : IsId id)
    (fitting : (remote.holdings state.2.2).Fits zone key id)
    (put : remote.holdings asked = (remote.holdings state.2.2).put zone id
      ⟨key.domain.wireName, key.family.recordType, toString address⟩ valid)
    (agrees : Agrees remote.owner? more ((remote.holdings state.2.2).put zone id
      ⟨key.domain.wireName, key.family.recordType, toString address⟩ valid) store)
    (fewer : ∀ key id, known key id → more key id) :
    remote.Continues known operation (.asking zone) state (.entering answer)
      (state.1, (state.2.1, asked)) := by
  refine Remote.continues_change backs made ?_ ?_ (put ▸ agrees) fewer
  · rw [put]
    exact Remote.shows_put_self owned valid (Family.parseAddress_toString own)
  · intro other i address? apart shown
    rw [put]
    exact shown.put_other fitting valid apart

end

/-! One lemma for each operation on records. -/

section

variable {key : RecordKey} {id zone : String} {address : Address} {ttl : Ttl} {proxied : Bool}

theorem Faithful.continues_list (faithful : Faithful handle remote)
    (backs : remote.Backs known state) (owned : remote.owner? key.domain = some zone) :
    remote.Continues known (.list key) (.asking zone) state
      (Stage.ofAnswer (handle.ask (.list key) zone state).value)
      (handle.ask (.list key) zone state).state := by
  obtain ⟨still, mirrored⟩ := faithful.fetch backs.lists (remote.isId_of_owner? owned) key
  have asked : (handle.ask (.list key) zone state).state = (handle.fetch key zone state).state :=
    rfl
  have given : (handle.ask (.list key) zone state).value =
    (handle.fetch key zone state).value.map .records := rfl
  rw [asked, given]
  cases fetched : (handle.fetch key zone state).value with
  | error failure => exact still.continues backs rfl nofun trivial
  | ok records =>
    have mirrors := mirrored records fetched
    have shown := (Remote.exists_mirrors_iff records).mp ⟨zone, owned, mirrors⟩
    refine ⟨.gives ?_ ?_ still.store, trivial, still.lists, still.holdings ▸ backs.fits⟩
    · intro other id address? told
      obtain rfl : key = other := Option.some.inj (Operation.key?_of_tells told)
      rw [Operation.tells?_list] at told
      cases told
      exact shown id
    · intro other id address? _ before
      rw [still.holdings]
      exact before

theorem Faithful.continues_create (faithful : Faithful handle remote)
    (backs : remote.Backs known state) (own : key.family.owns address)
    (owned : remote.owner? key.domain = some zone) :
    remote.Continues known (.create key address ttl proxied) (.asking zone) state
      (Stage.ofAnswer (handle.ask (.create key address ttl proxied) zone state).value)
      (handle.ask (.create key address ttl proxied) zone state).state := by
  rcases faithful.createRecord (remote.isId_of_owner? owned)
    (Handle.newRecord key address ttl proxied) state.2.2 with
    ⟨⟨failure, refused⟩, same⟩ | ⟨created, valid, confirmed, unused, made⟩
  · obtain ⟨⟨reason, value⟩, after⟩ := handle.ask_create_of_error refused
    rw [value, after]
    exact Remote.continues_refused backs same
  · obtain ⟨value, after⟩ := handle.ask_create_of_ok confirmed
    rw [value, after]
    have agrees := backs.fits.created owned unused valid (Family.parseAddress_toString own)
    have fitting : (remote.holdings state.2.2).Fits zone key created.id :=
      fun _ found => absurd ((remote.holdings state.2.2).used_of_find found) unused
    exact Remote.continues_put backs owned own rfl valid fitting made agrees fun _ _ => Or.inl

theorem Faithful.continues_update (faithful : Faithful handle remote)
    (backs : remote.Backs known state) (given : known key id) (own : key.family.owns address)
    (owned : remote.owner? key.domain = some zone) :
    remote.Continues known (.update key id address) (.asking zone) state
      (Stage.ofAnswer (handle.ask (.update key id address) zone state).value)
      (handle.ask (.update key id address) zone state).state := by
  obtain ⟨place, placed, used, fitting⟩ := backs.fits.fits key id given
  obtain rfl := Option.some.inj (placed.symm.trans owned)
  have valid := (remote.holdings state.2.2).isId_of_used used
  rcases faithful.updateRecord (remote.isId_of_owner? owned) valid
    (Handle.recordPatch key address) state.2.2 with
    ⟨⟨failure, refused⟩, same⟩ | ⟨confirmed, existing, made⟩
  · obtain ⟨⟨reason, value⟩, after⟩ := handle.ask_update_of_error refused
    rw [value, after]
    exact Remote.continues_refused backs same
  · obtain ⟨value, after⟩ := handle.ask_update_of_ok confirmed
    rw [value, after]
    have agrees := backs.fits.updated owned given existing valid (Family.parseAddress_toString own)
    exact Remote.continues_put backs owned own rfl valid fitting made agrees
      fun _ _ before => before

theorem Faithful.continues_delete (faithful : Faithful handle remote)
    (backs : remote.Backs known state) (given : known key id)
    (owned : remote.owner? key.domain = some zone) :
    remote.Continues known (.delete key id) (.asking zone) state
      (Stage.ofAnswer (handle.ask (.delete key id) zone state).value)
      (handle.ask (.delete key id) zone state).state := by
  obtain ⟨place, placed, used, fitting⟩ := backs.fits.fits key id given
  obtain rfl := Option.some.inj (placed.symm.trans owned)
  rcases faithful.deleteRecord (remote.isId_of_owner? owned)
    ((remote.holdings state.2.2).isId_of_used used) state.2.2 with
    ⟨⟨failure, refused⟩, same⟩ | ⟨confirmed, _, dropped⟩
  · obtain ⟨⟨reason, value⟩, after⟩ := handle.ask_delete_of_error key refused
    rw [value, after]
    exact Remote.continues_refused backs same
  · obtain ⟨value, after⟩ := handle.ask_delete_of_ok key confirmed
    rw [value, after]
    have agrees := backs.fits.deleted owned given
    rw [← dropped] at agrees
    refine Remote.continues_change backs rfl ?_ ?_ agrees fun _ _ before => before
    · rw [dropped]
      exact Remote.shows_drop_self owned
    · intro other i address? apart shown
      rw [dropped]
      exact shown.drop_other fitting apart

end

theorem Faithful.continues_asking (faithful : Faithful handle remote) {zone : String}
    (backs : remote.Backs known state) (permits : remote.Permits operation (.asking zone))
    (names : ∀ key id, operation.target? = some (key, id) → known key id) :
    remote.Continues known operation (.asking zone) state
      (handle.advance operation (.asking zone) state).value
      (handle.advance operation (.asking zone) state).state := by
  obtain ⟨proper, owner⟩ := permits
  obtain ⟨value, after⟩ := handle.advance_asking_apply operation zone state
  rw [value, after]
  cases operation with
  | list key => exact faithful.continues_list backs (owner key.domain rfl)
  | create key => exact faithful.continues_create backs proper (owner key.domain rfl)
  | update key id =>
    exact faithful.continues_update backs (names key id rfl) proper (owner key.domain rfl)
  | delete key id => exact faithful.continues_delete backs (names key id rfl) (owner key.domain rfl)
  | resolve => exact Remote.continues_untold backs fun _ _ => rfl
  | flush => exact Remote.continues_untold backs fun _ _ => rfl

theorem Handle.enter_apply (operation : Operation) (answer : Answer) (state : HandleState σ) :
    (enter operation answer state).state = (applied operation answer state.1, state.2) := by
  cases operation <;> cases answer <;> rfl

/-- One stage of an operation that names only records whose identifiers are known. -/
theorem Faithful.continues (faithful : Faithful handle remote) (backs : remote.Backs known state)
    (permits : remote.Permits operation stage)
    (names : ∀ zone, stage = .asking zone → ∀ key id, operation.target? = some (key, id) →
      known key id) :
    remote.Continues known operation stage state (handle.advance operation stage state).value
      (handle.advance operation stage state).state := by
  cases stage with
  | ready => exact Remote.continues_prepare backs
  | locating => exact faithful.continues_locating backs permits
  | asking zone => exact faithful.continues_asking backs permits (names zone rfl)
  | entering answer =>
    simp only [Handle.advance, Act.value_bind, Act.state_bind, Act.pure_apply, Handle.enter_apply]
    exact ⟨.enters, trivial, backs.lists, backs.fits⟩
  | done result => exact ⟨.rests, trivial, backs⟩

end

end AddressRecords
