import AddressRecords.Proofs.Remote.Faithful

/-!
Which calls the client attempts: one for each change, and one for each page of a list, from the
first page on and each page once.
-/

namespace AddressRecords

open Api (Call Client NewRecord RecordPatch Service)
open Api.Client (Page)

variable {σ τ α β : Type}

/-! What is seen of actions. -/

namespace Act

/-- Everything that the action lets others see is of this kind. -/
def Emits (kind : Event → Prop) (act : Act σ α) : Prop := ∀ state, ∀ event ∈ (act state).events,
  kind event

namespace Emits

variable {kind : Event → Prop}

theorem pure (value : α) : (Pure.pure value : Act σ α).Emits kind := fun _ _ mem => nomatch mem

theorem emit {event : Event} (h : kind event) : (Act.emit event : Act σ Unit).Emits kind :=
  fun _ _ mem => List.mem_singleton.mp mem ▸ h

theorem get : (Act.get : Act σ σ).Emits kind := fun _ _ mem => nomatch mem

theorem modify (change : σ → σ) : (Act.modify change).Emits kind := fun _ _ mem => nomatch mem

theorem bind {act : Act σ α} {next : α → Act σ β} (h : act.Emits kind)
    (rest : ∀ value, (next value).Emits kind) : (act >>= next).Emits kind := by
  intro state event mem
  rw [events_bind] at mem
  rcases List.mem_append.mp mem with first | later
  · exact h state event first
  · exact rest _ _ event later

theorem map {act : Act σ α} (h : act.Emits kind) (f : α → β) : (f <$> act).Emits kind := by
  intro state event mem
  rw [events_map] at mem
  exact h state event mem

theorem onSecond {act : Act τ α} (h : act.Emits kind) :
    (act.onSecond : Act (σ × τ) α).Emits kind :=
  fun state => h state.2

end Emits

/-- The action attempts no call. -/
abbrev IsQuiet (act : Act σ α) : Prop := act.Emits (·.call? = none)

theorem isQuiet_debug (text : String) : (debug text : Act σ Unit).IsQuiet := .emit rfl

end Act

/-- The calls that were attempted. -/
def Outcome.calls (done : Outcome σ α) : List Call := done.events.filterMap Event.call?

namespace Act

theorem calls_bind (act : Act σ α) (next : α → Act σ β) (state : σ) :
    ((act >>= next) state).calls =
      (act state).calls ++ (next (act state).value (act state).state).calls := by
  simp [Outcome.calls]

theorem calls_map (f : α → β) (act : Act σ α) (state : σ) :
    ((f <$> act) state).calls = (act state).calls := by
  simp [Outcome.calls]

theorem IsQuiet.calls {act : Act σ α} (h : act.IsQuiet) (state : σ) : (act state).calls = [] :=
  List.filterMap_eq_nil_iff.mpr (h state)

theorem IsQuiet.calls_bind {act : Act σ α} (h : act.IsQuiet) (next : α → Act σ β) (state : σ) :
    ((act >>= next) state).calls = (next (act state).value (act state).state).calls := by
  rw [Act.calls_bind, h.calls, List.nil_append]

/-- A quiet action adds nothing to the calls before it. -/
theorem calls_bind_of_quiet {act : Act σ α} {next : α → Act σ β} {state : σ}
    (quiet : (next (act state).value).IsQuiet) :
    ((act >>= next) state).calls = (act state).calls := by
  rw [Act.calls_bind, quiet.calls, List.append_nil]

end Act

/-- The commands for the first pages of a list. -/
def Command.pages (command : UInt32 → Command) (count : Nat) : List Command :=
  (List.range' 1 count).map fun page => command (UInt32.ofNat page)

/-! The client. -/

namespace Api.Client

variable (api : Service σ) (client : Client)

theorem events_attempt (call : Call) (state : σ) :
    (attempt api client call state).events = [.call call] := by
  unfold attempt
  dsimp only
  split
  · rfl
  · split <;> rfl

theorem calls_send (reader : Json.Reader α) (call : Call) (state : σ) :
    (send api client reader call state).calls = [call] := by
  rw [send, Act.calls_map, Outcome.calls, events_attempt]
  rfl

/-- Behind a line in the log, one call. -/
theorem calls_send_of_quiet (text : String) (reader : Json.Reader α) (call : Call)
    {next : Except Failure (Envelope α) → Act σ β} (quiet : ∀ answer, (next answer).IsQuiet)
    (state : σ) :
    ((Act.debug text >>= fun _ => send api client reader call >>= next) state).calls = [call] := by
  rw [(Act.isQuiet_debug text).calls_bind, Act.calls_bind_of_quiet (quiet _), calls_send]

/-- Pages are fetched in their order, up to some last one. -/
theorem calls_collectFrom {fetch : UInt32 → Act σ (Except Failure (Page α))} {call : UInt32 → Call}
    (one : ∀ page state, (fetch page state).calls = [call page]) (page : UInt32) (items : List α)
    (state : σ) :
    ∃ count, 0 < count ∧ page.toNat + count ≤ UInt32.size ∧
      (collectFrom fetch page items state).calls =
        (List.range' page.toNat count).map fun page => call (UInt32.ofNat page) := by
  induction left : pagesAfter page using Nat.strongRecOn generalizing page items state with
  | ind left ih =>
    have alone : [call page] =
        (List.range' page.toNat 1).map fun page => call (UInt32.ofNat page) := by
      rw [List.range'_one, List.map_singleton, UInt32.ofNat_toNat]
    have inside : page.toNat + 1 ≤ UInt32.size := page.toNat_lt_size
    rw [collectFrom, Act.calls_bind, one]
    cases (fetch page state).value with
    | error failure => exact ⟨1, Nat.one_pos, inside, alone⟩
    | ok fetched =>
      dsimp only
      split
      · rename_i below
        have next := toNat_succ_of_lt below
        obtain ⟨count, -, bounded, rest⟩ := ih _ (left ▸ pagesAfter_succ_lt below) (page + 1)
          (items ++ fetched.items) (fetch page state).state rfl
        rw [next] at bounded rest
        refine ⟨count + 1, Nat.succ_pos _, by omega, ?_⟩
        rw [rest, List.range'_succ, List.map_cons, UInt32.ofNat_toNat]
        rfl
      · exact ⟨1, Nat.one_pos, inside, alone⟩

theorem calls_fetchAll (reader : Json.Reader α) (path : String)
    (query : UInt32 → List (String × String)) {command : UInt32 → Command}
    (asks : ∀ page, (command page).call client = ⟨.get, path, query page, none⟩) (state : σ) :
    ∃ count, 0 < count ∧ count < UInt32.size ∧
      (fetchAll api client reader path query state).calls =
        (Command.pages command count).map (·.call client) := by
  have one : ∀ page state, (fetchPage api client reader path query page state).calls =
      [⟨.get, path, query page, none⟩] :=
    fun page state => calls_send_of_quiet api client _ _ _ (fun _ => .pure _) state
  obtain ⟨count, some_pages, bounded, calls⟩ := calls_collectFrom one 1 [] state
  have first : (1 : UInt32).toNat = 1 := rfl
  rw [first] at bounded calls
  refine ⟨count, some_pages, by omega, ?_⟩
  rw [fetchAll, calls, Command.pages, List.map_map]
  exact List.map_congr_left fun page _ => (asks _).symm

theorem calls_listZones (name : String) (state : σ) :
    ∃ count, 0 < count ∧ count < UInt32.size ∧
      (client.listZones api name state).calls =
        (Command.pages (.zones name) count).map (·.call client) :=
  calls_fetchAll api client _ _ _ (fun _ => rfl) state

theorem calls_listRecords (zone name recordType : String) (state : σ) :
    ∃ count, 0 < count ∧ count < UInt32.size ∧
      (client.listRecords api zone name recordType state).calls =
        (Command.pages (.records zone name recordType) count).map (·.call client) :=
  calls_fetchAll api client _ _ _ (fun _ => rfl) state

theorem calls_createRecord (zone : String) (record : NewRecord) (state : σ) :
    (client.createRecord api zone record state).calls =
      [(Command.create zone record).call client] := by
  refine calls_send_of_quiet api client _ _ _ (fun answer => ?_) state
  cases answer with
  | error failure => exact .pure _
  | ok envelope =>
    dsimp only
    split
    · split <;> exact .pure _
    · exact .pure _

theorem calls_updateRecord (zone id : String) (patch : RecordPatch) (state : σ) :
    (client.updateRecord api zone id patch state).calls =
      [(Command.update zone id patch).call client] := by
  refine calls_send_of_quiet api client _ _ _ (fun answer => ?_) state
  cases answer <;> exact .pure _

theorem calls_deleteRecord (zone id : String) (state : σ) :
    (client.deleteRecord api zone id state).calls = [(Command.delete zone id).call client] := by
  refine calls_send_of_quiet api client _ _ _ (fun answer => ?_) state
  cases answer <;> exact .pure _

end Api.Client

end AddressRecords
