import AddressRecords.Proofs.Calls.Pages

/-!
Actions that take no notice of some difference between two states. What is compared is all they
give and let others see, but for debug lines and requests for zones.
-/

namespace AddressRecords

open Api (Call Client NewRecord RecordPatch Service)
open Api.Client (Page)

variable {σ τ α β : Type}

/-- Neither a line for debugging nor a request for zones. -/
def Event.isShown : Event → Bool
  | message _ => true
  | log line => line.severity ≠ .debug
  | call asked => asked.path ≠ "/zones"

def Outcome.shown (done : Outcome σ α) : List Event := done.events.filter Event.isShown

namespace Act

theorem shown_bind (act : Act σ α) (next : α → Act σ β) (state : σ) :
    ((act >>= next) state).shown =
      (act state).shown ++ (next (act state).value (act state).state).shown := by
  simp [Outcome.shown]

theorem shown_map (f : α → β) (act : Act σ α) (state : σ) :
    ((f <$> act) state).shown = (act state).shown := by
  simp [Outcome.shown]

/-- Nothing of the action is shown. -/
abbrev IsHidden (act : Act σ α) : Prop := act.Emits (·.isShown = false)

theorem IsHidden.shown {act : Act σ α} (h : act.IsHidden) (state : σ) : (act state).shown = [] :=
  List.filter_eq_nil_iff.mpr fun event mem => by simp [h state event mem]

/-- From two related states the action gives and shows the same, and the states stay related. -/
def Oblivious (related : σ → σ → Prop) (act : Act σ α) : Prop :=
  ∀ first second, related first second → (act first).value = (act second).value ∧
    (act first).shown = (act second).shown ∧ related (act first).state (act second).state

/-- States of two parts are related if both parts are. -/
def Beside (one : σ → σ → Prop) (other : τ → τ → Prop) (first second : σ × τ) : Prop :=
  one first.1 second.1 ∧ other first.2 second.2

/-! Oblivious actions. -/

namespace Oblivious

variable {related : σ → σ → Prop}

theorem pure (value : α) : (Pure.pure value : Act σ α).Oblivious related :=
  fun _ _ same => ⟨rfl, rfl, same⟩

theorem emit (event : Event) : (Act.emit event : Act σ Unit).Oblivious related :=
  fun _ _ same => ⟨rfl, rfl, same⟩

theorem bind {act : Act σ α} {next : α → Act σ β} (h : act.Oblivious related)
    (rest : ∀ value, (next value).Oblivious related) : (act >>= next).Oblivious related := by
  intro first second same
  obtain ⟨value, shown, later⟩ := h first second same
  obtain ⟨given, told, after⟩ := rest (act second).value _ _ later
  rw [value_bind, value_bind, shown_bind, shown_bind, state_bind, state_bind, value]
  exact ⟨given, by rw [shown, told], after⟩

theorem map {act : Act σ α} (h : act.Oblivious related) (f : α → β) :
    (f <$> act).Oblivious related := by
  intro first second same
  obtain ⟨value, shown, later⟩ := h first second same
  rw [value_map, value_map, shown_map, shown_map, state_map, state_map, value]
  exact ⟨rfl, shown, later⟩

/-- What is read of the state has to be the same in related ones. -/
theorem read {next : σ → Act σ α} (h : ∀ state, (next state).Oblivious related)
    (same : ∀ first second, related first second → next first = next second) :
    (Act.get >>= next).Oblivious related := by
  intro first second alike
  have done := h second first second alike
  rw [← same first second alike] at done
  rw [value_bind, value_bind, shown_bind, shown_bind, state_bind, state_bind]
  dsimp only [get_apply]
  rw [← same first second alike]
  exact ⟨done.1, congrArg _ done.2.1, done.2.2⟩

theorem onSecond {act : Act τ α} {beside : τ → τ → Prop} (h : act.Oblivious beside)
    (related : σ → σ → Prop) : (act.onSecond : Act (σ × τ) α).Oblivious (Beside related beside) := by
  intro first second same
  obtain ⟨value, shown, later⟩ := h first.2 second.2 same.2
  exact ⟨value, shown, same.1, later⟩

end Oblivious

end Act

/-! The client. -/

/-- What holds of giving something, and of fetching a page before anything of which it holds, holds
of collecting pages. -/
theorem Api.Client.collectFrom_induction {fetch : UInt32 → Act σ (Except Failure (Page α))}
    {motive : Act σ (Except Failure (List α)) → Prop} (gives : ∀ answer, motive (pure answer))
    (fetches : ∀ page (next : Except Failure (Page α) → Act σ (Except Failure (List α))),
      (∀ answer, motive (next answer)) → motive (fetch page >>= next))
    (page : UInt32) (items : List α) : motive (Client.collectFrom fetch page items) := by
  induction left : Client.pagesAfter page using Nat.strongRecOn generalizing page items with
  | ind left ih =>
    rw [Client.collectFrom]
    refine fetches page _ fun answer => ?_
    cases answer with
    | error failure => exact gives _
    | ok fetched =>
      dsimp only
      split
      · exact ih _ (left ▸ Client.pagesAfter_succ_lt ‹_›) _ _ rfl
      · exact gives _

/-- Requests for zones are not shown. -/
theorem Api.Client.isHidden_listZones (api : Service σ) (client : Client) (name : String) :
    (client.listZones api name).IsHidden := by
  refine collectFrom_induction (fun answer => .pure answer) ?_ 1 []
  intro page next rest
  refine .bind (.bind (.emit rfl) fun _ => .bind (.map ?_ _) fun _ => .pure _) rest
  intro state event mem
  rw [events_attempt] at mem
  rw [List.mem_singleton.mp mem]
  rfl

/-- Each request has one answer. -/
def Api.Service.IsFixed (api : Service σ) : Prop :=
  ∀ request first second, (api.answer request first).1 = (api.answer request second).1

namespace Api.Service.IsFixed

variable {api : Service σ} (fixed : api.IsFixed) (client : Client)

include fixed

/-- What an API was asked before does not count. -/
theorem attempt (call : Call) :
    (Client.attempt api client call).Oblivious fun _ _ => True := by
  intro first second _
  cases written : client.request call with
  | error fault => simp [Client.attempt, written, Outcome.shown]
  | ok request =>
    have same := fixed request first second
    rw [Client.attempt, Client.attempt, written]
    dsimp only
    generalize api.answer request first = one at same ⊢
    generalize api.answer request second = two at same ⊢
    obtain ⟨answer, after⟩ := one
    obtain ⟨other, later⟩ := two
    cases same
    cases answer with
    | ok reply => exact ⟨rfl, rfl, trivial⟩
    | error interruption => cases interruption <;> exact ⟨rfl, rfl, trivial⟩

theorem send (reader : Json.Reader α) (call : Call) :
    (Client.send api client reader call).Oblivious fun _ _ => True :=
  (fixed.attempt client call).map _

theorem fetchAll (reader : Json.Reader α) (path : String)
    (query : UInt32 → List (String × String)) :
    (Client.fetchAll api client reader path query).Oblivious fun _ _ => True := by
  refine Client.collectFrom_induction (fun answer => .pure answer) ?_ 1 []
  intro page next rest
  exact .bind (.bind (.emit _) fun _ => .bind (fixed.send client _ _) fun _ => .pure _) rest

theorem createRecord (zone : String) (record : NewRecord) :
    (client.createRecord api zone record).Oblivious fun _ _ => True := by
  refine .bind (.emit _) fun _ => .bind (fixed.send client _ _) fun answer => ?_
  cases answer with
  | error failure => exact .pure _
  | ok envelope =>
    dsimp only
    split
    · split <;> exact .pure _
    · exact .pure _

theorem updateRecord (zone id : String) (patch : RecordPatch) :
    (client.updateRecord api zone id patch).Oblivious fun _ _ => True := by
  refine .bind (.emit _) fun _ => .bind (fixed.send client _ _) fun answer => ?_
  cases answer <;> exact .pure _

theorem deleteRecord (zone id : String) :
    (client.deleteRecord api zone id).Oblivious fun _ _ => True := by
  refine .bind (.emit _) fun _ => .bind (fixed.send client _ _) fun answer => ?_
  cases answer <;> exact .pure _

end Api.Service.IsFixed

end AddressRecords
