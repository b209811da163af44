import AddressRecords.Proofs.Isolation.Oblivious

/-!
What actions tell the user. Calls to the API tell nothing, whatever comes of them, and neither do
look-ups of zones: it is left to the operations to say what their answers mean.
-/

namespace AddressRecords

open Api (Call Client NewRecord RecordPatch Service)

variable {σ α β : Type}

/-- The messages for the user. -/
def Outcome.messages (done : Outcome σ α) : List Diagnostics.Message :=
  done.events.filterMap Event.message?

namespace Act

theorem messages_bind (act : Act σ α) (next : α → Act σ β) (state : σ) :
    ((act >>= next) state).messages =
      (act state).messages ++ (next (act state).value (act state).state).messages := by
  simp [Outcome.messages]

/-- The action tells the user nothing. -/
abbrev IsSilent (act : Act σ α) : Prop := act.Emits (·.message? = none)

theorem IsSilent.messages {act : Act σ α} (h : act.IsSilent) (state : σ) :
    (act state).messages = [] :=
  List.filterMap_eq_nil_iff.mpr (h state)

theorem IsSilent.messages_bind {act : Act σ α} (h : act.IsSilent) (next : α → Act σ β)
    (state : σ) :
    ((act >>= next) state).messages = (next (act state).value (act state).state).messages := by
  rw [Act.messages_bind, h.messages, List.nil_append]

end Act

/-! The client. -/

namespace Api.Client

variable (api : Service σ) (client : Client)

theorem isSilent_send (reader : Json.Reader α) (call : Call) :
    (send api client reader call).IsSilent := by
  apply Act.Emits.map
  intro state event mem
  rw [events_attempt] at mem
  rw [List.mem_singleton.mp mem]
  rfl

theorem isSilent_fetchAll (reader : Json.Reader α) (path : String)
    (query : UInt32 → List (String × String)) :
    (fetchAll api client reader path query).IsSilent := by
  refine collectFrom_induction (fun answer => .pure answer) ?_ 1 []
  intro page next rest
  exact .bind (.bind (.emit rfl) fun _ => .bind (isSilent_send api client _ _) fun _ => .pure _)
    rest

theorem isSilent_listRecords (zone name recordType : String) :
    (client.listRecords api zone name recordType).IsSilent :=
  isSilent_fetchAll api client _ _ _

theorem isSilent_createRecord (zone : String) (record : NewRecord) :
    (client.createRecord api zone record).IsSilent := by
  refine .bind (.emit rfl) fun _ => .bind (isSilent_send api client _ _) fun answer => ?_
  cases answer with
  | error failure => exact .pure _
  | ok envelope =>
    dsimp only
    split
    · split <;> exact .pure _
    · exact .pure _

theorem isSilent_updateRecord (zone id : String) (patch : RecordPatch) :
    (client.updateRecord api zone id patch).IsSilent := by
  refine .bind (.emit rfl) fun _ => .bind (isSilent_send api client _ _) fun answer => ?_
  cases answer <;> exact .pure _

theorem isSilent_deleteRecord (zone id : String) : (client.deleteRecord api zone id).IsSilent := by
  refine .bind (.emit rfl) fun _ => .bind (isSilent_send api client _ _) fun answer => ?_
  cases answer <;> exact .pure _

theorem isSilent_zoneSource (name : String) : (client.zoneSource api name).IsSilent :=
  .bind (isSilent_fetchAll api client _ _ _) fun _ => .pure _

end Api.Client

/-- A look-up tells as little as its source. -/
theorem ZoneCache.isSilent_lookup {source : ZoneSource σ} (silent : ∀ name, (source name).IsSilent)
    (name : String) : (lookup source name).IsSilent := by
  unfold lookup
  split
  · exact .pure _
  · refine .bind .get fun state => ?_
    split
    · exact .bind (.emit rfl) fun _ => .pure _
    · exact .bind (.emit rfl) fun _ => .bind (silent name).onSecond fun _ =>
        .bind (.modify _) fun _ => .pure _

end AddressRecords
