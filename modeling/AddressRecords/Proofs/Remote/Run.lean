import AddressRecords.Proofs.Remote.Lone
import Mathlib.Data.List.Induction

/-!
Runs of a handle on a faithful remote: after every operation, and no matter which of them fail,
whatever the handle remembers is what the remote holds.
-/

namespace AddressRecords

variable {σ : Type} {handle : Handle σ} {remote : Remote σ}

theorem Handle.performAll_concat (handle : Handle σ) (before : List Operation)
    (operation : Operation) (state : HandleState σ) :
    (handle.performAll (before ++ [operation]) state).state =
      (handle.perform operation (handle.performAll before state).state).state := by
  induction before generalizing state with
  | nil => simp
  | cons first rest ih => simp [ih]

theorem Handle.history_concat (handle : Handle σ) (before : List Operation)
    (operation : Operation) (state : HandleState σ) :
    handle.history (before ++ [operation]) state = handle.history before state ++
      [(operation, (handle.perform operation (handle.performAll before state).state).value)] := by
  induction before generalizing state with
  | nil => simp
  | cons first rest ih => simp [ih]

theorem Coherent.initial (remote : Remote σ) (start : σ) :
    Coherent remote (History.Gave []) (.initial start) := by
  constructor
  case lists => exact fun _ _ impossible => nomatch impossible
  case agrees =>
    refine ⟨fun _ _ impossible => (nomatch impossible), ?_⟩
    rintro key id ⟨performed, mem, _⟩
    cases mem

theorem Faithful.coherent_of_run (faithful : Faithful handle remote) (start : σ)
    (operations : List Operation) (names : handle.NamesGiven operations start) :
    Coherent remote (handle.history operations (.initial start)).Gave
      (handle.performAll operations (.initial start)).state := by
  induction operations using List.reverseRecOn with
  | nil => exact .initial remote start
  | append_singleton before operation ih =>
    have namesBefore : handle.NamesGiven before start := by
      intro earlier named rest split
      exact names earlier named (rest ++ [operation]) (by simp [split])
    have step := (ih namesBefore).perform faithful operation (names before operation [] rfl)
    rw [Handle.performAll_concat, Handle.history_concat]
    refine step.mono ?_
    rintro key id ⟨performed, mem, gives⟩
    rcases List.mem_append.mp mem with earlier | last
    · exact .inl ⟨performed, earlier, gives⟩
    · exact .inr (List.mem_singleton.mp last ▸ gives)

/-- After every operation, each warm entry is what the owner's zone holds for its key. -/
theorem Faithful.mirrors_of_run (faithful : Faithful handle remote) (start : σ)
    {operations : List Operation} (names : handle.NamesGiven operations start) :
    ∀ before, before <+: operations →
      let state := (handle.performAll before (.initial start)).state
      ∀ key records, state.1.get key = some records →
        ∃ zone, remote.owner? key.domain = some zone ∧
          (remote.holdings state.2.2).Mirrors zone key records := by
  rintro before ⟨after, rfl⟩
  have namesBefore : handle.NamesGiven before start := by
    intro earlier named rest split
    exact names earlier named (rest ++ after) (by simp [split])
  exact (faithful.coherent_of_run start before namesBefore).agrees.mirrors

/-- The lone record is remembered under its second address, and so the remote has it. -/
theorem Lone.mirrors_moved : Faithful Lone.handle Lone.remote ∧
    Lone.handle.NamesGiven (life ++ [.delete key id]) .fresh ∧
    let state := (Lone.handle.performAll life (.initial .fresh)).state
    ∃ records, state.1.get key = some records ∧ records.find? id = some second ∧
      ∃ zone, Lone.remote.owner? key.domain = some zone ∧
        (Lone.remote.holdings state.2.2).Mirrors zone key records := by
  have warm : ((Lone.handle.performAll life (.initial .fresh)).state.1.get key).any
      (·.find? id = some second) := by decide +kernel
  obtain ⟨records, held, found⟩ := (Option.any_eq_true ..).mp warm
  refine ⟨faithful, namesGiven, records, held, of_decide_eq_true found, ?_⟩
  exact faithful.mirrors_of_run .fresh namesGiven life (List.prefix_append ..) key records held

end AddressRecords
