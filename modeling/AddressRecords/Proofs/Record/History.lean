import AddressRecords.Proofs.Record.Remembered

/-!
What a handle remembers of records after a run, told from the run's history alone: nothing about a
key that was never listed, and else its first listing with the changes that succeeded since.
-/

namespace AddressRecords

/-- Operations in their order, each with what it gave. -/
abbrev History := List (Operation × Except Failure Answer)

/-- What one operation of a history does to the records of a key. -/
def History.change (key : RecordKey) (records : RecordMap) :
    Operation × Except Failure Answer → RecordMap
  | (.create other address _ _, .ok (.id id)) =>
    if other = key then records.insert id address else records
  | (.update other id address, .ok _) =>
    if other = key then records.insert id address else records
  | (.delete other id, .ok _) => if other = key then records.erase id else records
  | _ => records

/-- The history of a run. -/
def Handle.history {σ : Type} (handle : Handle σ) (operations : List Operation)
    (state : HandleState σ) : History :=
  operations.zip (handle.performAll operations state).value

namespace Handle

variable {σ : Type} (handle : Handle σ)

@[simp] theorem performAll_nil (state : HandleState σ) :
    handle.performAll [] state = ⟨[], state, []⟩ := rfl

@[simp] theorem performAll_cons_value (operation : Operation) (rest : List Operation)
    (state : HandleState σ) :
    (handle.performAll (operation :: rest) state).value =
      (handle.perform operation state).value ::
        (handle.performAll rest (handle.perform operation state).state).value := by
  simp [performAll]

@[simp] theorem performAll_cons_state (operation : Operation) (rest : List Operation)
    (state : HandleState σ) :
    (handle.performAll (operation :: rest) state).state =
      (handle.performAll rest (handle.perform operation state).state).state := by
  simp [performAll]

@[simp] theorem history_nil (state : HandleState σ) : handle.history [] state = [] := rfl

@[simp] theorem history_cons (operation : Operation) (rest : List Operation)
    (state : HandleState σ) :
    handle.history (operation :: rest) state =
      (operation, (handle.perform operation state).value) ::
        handle.history rest (handle.perform operation state).state := by
  simp [history]

/-- Every operation is in the history. -/
theorem history_operations (operations : List Operation) (state : HandleState σ) :
    (handle.history operations state).map (·.1) = operations := by
  induction operations generalizing state with
  | nil => rfl
  | cons operation rest ih => simp [ih]

theorem length_history (operations : List Operation) (state : HandleState σ) :
    (handle.history operations state).length = operations.length := by
  rw [← List.length_map, handle.history_operations]

section

variable (before after : List Operation) (state : HandleState σ)

theorem performAll_append :
    handle.performAll (before ++ after) = do
      let first ← handle.performAll before
      let rest ← handle.performAll after
      return first ++ rest :=
  List.mapM_append

theorem state_performAll_append :
    (handle.performAll (before ++ after) state).state =
      (handle.performAll after (handle.performAll before state).state).state := by
  rw [performAll_append]
  rfl

theorem history_append :
    handle.history (before ++ after) state = handle.history before state ++
      handle.history after (handle.performAll before state).state := by
  induction before generalizing state with
  | nil => rfl
  | cons operation rest ih => simp [ih]

end

/-- A listing that succeeds gives records. -/
theorem exists_records_of_list {key : RecordKey} {state : HandleState σ} {answer : Answer}
    (h : (handle.perform (.list key) state).value = .ok answer) :
    ∃ records, answer = .records records := by
  cases listed : (handle.list key state).value with
  | error failure => simp [perform, listed, Except.map] at h
  | ok records =>
    simp [perform, listed, Except.map] at h
    exact ⟨records, h.symm⟩

/-! One operation and one entry. -/

/-- But for a listing, a success changes each warm entry as the history tells. -/
theorem get_applied {key : RecordKey} {operation : Operation} (other : operation ≠ .list key)
    (answer : Answer) (store : RecordStore) :
    (applied operation answer store).get key =
      (store.get key).map (History.change key · (operation, .ok answer)) := by
  cases operation with
  | list listed =>
    have foreign : key ≠ listed := fun same => other (same ▸ rfl)
    cases answer <;>
      simp [applied, History.change, RecordStore.replace, RecordStore.get_setEntry, foreign]
  | create =>
    cases answer <;>
      simp [applied, History.change, RecordStore.upsertIfWarm, RecordStore.get_setEntry_map]
  | update =>
    cases answer <;>
      simp [applied, History.change, RecordStore.upsertIfWarm, RecordStore.get_setEntry_map]
  | delete =>
    cases answer <;>
      simp [applied, History.change, RecordStore.removeIfWarm, RecordStore.get_setEntry_map]
  | resolve => simp [applied, History.change]
  | flush => simp [applied, History.change]

variable {key : RecordKey} {records : RecordMap} {state : HandleState σ}

theorem change_of_error (operation : Operation) (failure : Failure) :
    History.change key records (operation, .error failure) = records := by
  cases operation <;> rfl

/-- A warm entry changes as the history tells. -/
theorem get_perform_of_warm (warm : state.1.get key = some records) (operation : Operation) :
    (handle.perform operation state).state.1.get key =
      some (History.change key records (operation, (handle.perform operation state).value)) := by
  obtain ⟨succeeds, fails⟩ := handle.perform_remembers operation state
  cases given : (handle.perform operation state).value with
  | error failure => rw [fails failure given, change_of_error, warm]
  | ok answer =>
    by_cases own : operation = .list key
    · subst own
      obtain ⟨_, same, _⟩ := handle.list_of_warm warm
      have still : (handle.perform (.list key) state).state = state := same
      rw [still, warm]
      rfl
    · rw [succeeds answer given, get_applied own, warm, Option.map_some]

/-- Only a successful listing warms a cold entry. -/
theorem get_perform_of_cold (cold : state.1.get key = none) {operation : Operation}
    (unlisted : ∀ answer,
      (operation, (handle.perform operation state).value) ≠ (.list key, .ok answer)) :
    (handle.perform operation state).state.1.get key = none := by
  obtain ⟨succeeds, fails⟩ := handle.perform_remembers operation state
  cases given : (handle.perform operation state).value with
  | error failure => rw [fails failure given, cold]
  | ok answer =>
    have other : operation ≠ .list key := fun own => unlisted answer (by rw [given, own])
    rw [succeeds answer given, get_applied other, cold, Option.map_none]

/-- A successful listing makes its entry what it gives. -/
theorem get_perform_of_listed (listed : (handle.perform (.list key) state).value =
      .ok (.records records)) :
    (handle.perform (.list key) state).state.1.get key = some records := by
  rw [(handle.perform_remembers (.list key) state).1 _ listed]
  simp [applied, RecordStore.replace, RecordStore.get_setEntry]

/-! Runs. -/

theorem get_performAll_of_warm (warm : state.1.get key = some records)
    (operations : List Operation) :
    (handle.performAll operations state).state.1.get key =
      some ((handle.history operations state).foldl (History.change key) records) := by
  induction operations generalizing state records with
  | nil => exact warm
  | cons operation rest ih =>
    rw [performAll_cons_state, history_cons, List.foldl_cons]
    exact ih (handle.get_perform_of_warm warm operation)

theorem get_performAll_of_cold (cold : state.1.get key = none) (operations : List Operation)
    (unlisted : ∀ answer, (.list key, .ok answer) ∉ handle.history operations state) :
    (handle.performAll operations state).state.1.get key = none := by
  induction operations generalizing state with
  | nil => exact cold
  | cons operation rest ih =>
    rw [history_cons] at unlisted
    rw [performAll_cons_state]
    refine ih (handle.get_perform_of_cold cold ?_) ?_
    · intro answer first
      exact unlisted answer (first ▸ List.mem_cons_self)
    · intro answer later
      exact unlisted answer (List.mem_cons_of_mem _ later)

/-- A successful listing warms its entry for good. -/
theorem get_performAll_ne_none (operations : List Operation) {answer : Answer}
    (listed : (.list key, .ok answer) ∈ handle.history operations state) :
    (handle.performAll operations state).state.1.get key ≠ none := by
  induction operations generalizing state with
  | nil => cases listed
  | cons operation rest ih =>
    rw [history_cons] at listed
    rw [performAll_cons_state]
    rcases List.mem_cons.mp listed with own | later
    · obtain ⟨rfl, given⟩ := Prod.mk.inj own
      obtain ⟨records, rfl⟩ := handle.exists_records_of_list given.symm
      rw [handle.get_performAll_of_warm (handle.get_perform_of_listed given.symm) rest]
      exact Option.some_ne_none _
    · exact ih later

/-- From the first successful listing on, the entry is its records with the changes since. -/
theorem get_performAll_of_listed (cold : state.1.get key = none) (operations : List Operation)
    {before after : History} {answer : Answer}
    (split : handle.history operations state = before ++ (.list key, .ok answer) :: after)
    (first : ∀ answer, (.list key, .ok answer) ∉ before) :
    ∃ records, answer = .records records ∧
      (handle.performAll operations state).state.1.get key =
        some (after.foldl (History.change key) records) := by
  induction operations generalizing state before with
  | nil => simp at split
  | cons operation rest ih =>
    rw [history_cons] at split
    rw [performAll_cons_state]
    cases before with
    | nil =>
      obtain ⟨own, since⟩ := List.cons.inj split
      obtain ⟨rfl, given⟩ := Prod.mk.inj own
      obtain ⟨records, rfl⟩ := handle.exists_records_of_list given
      have warm := handle.get_perform_of_listed given
      exact ⟨records, rfl, since ▸ handle.get_performAll_of_warm warm rest⟩
    | cons performed before =>
      obtain ⟨rfl, later⟩ := List.cons.inj split
      refine ih (handle.get_perform_of_cold cold ?_) later ?_
      · intro answer listed
        exact first answer (listed ▸ List.mem_cons_self)
      · intro answer mem
        exact first answer (List.mem_cons_of_mem _ mem)

/-- What is remembered of a key after a run. -/
structure Known (key : RecordKey) (history : History) (state : HandleState σ) : Prop where
  cold_iff : state.1.get key = none ↔ ∀ answer, (.list key, .ok answer) ∉ history
  /-- The first listing counts, and the changes that succeeded since. -/
  warm : ∀ before answer after, history = before ++ (.list key, .ok answer) :: after →
    (∀ answer, (.list key, .ok answer) ∉ before) →
    ∃ records, answer = .records records ∧
      state.1.get key = some (after.foldl (History.change key) records)
  /-- A listing of a warm key needs no call and has nothing to tell the user. -/
  lists : ∀ records, state.1.get key = some records →
    (handle.perform (.list key) state).value = .ok (.records records) ∧
    (handle.perform (.list key) state).state = state ∧
    ∀ event ∈ (handle.perform (.list key) state).events,
      event.call? = none ∧ event.message? = none

theorem known_of_history (operations : List Operation) (remote : σ) (key : RecordKey) :
    let state := (handle.performAll operations (.initial remote)).state
    let history := handle.history operations (.initial remote)
    history.map (·.1) = operations ∧ handle.Known key history state := by
  have cold : (HandleState.initial remote).1.get key = none := rfl
  refine ⟨handle.history_operations operations _, ?_⟩
  constructor
  case cold_iff =>
    refine ⟨?_, handle.get_performAll_of_cold cold operations⟩
    intro still answer listed
    exact handle.get_performAll_ne_none operations listed still
  case warm =>
    intro before answer after split first
    exact handle.get_performAll_of_listed cold operations split first
  case lists =>
    intro records warm
    obtain ⟨value, same, line, only⟩ := handle.list_of_warm warm
    refine ⟨by simp [perform, value, Except.map], same, ?_⟩
    simp [perform, only, Event.call?, Event.message?]

end Handle

end AddressRecords
