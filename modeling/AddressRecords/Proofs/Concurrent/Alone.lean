import AddressRecords.Handle.Concurrent

/-!
An operation that nothing comes between: its stages one after the other are the operation as a
whole.
-/

namespace AddressRecords.Handle

variable {σ α : Type} (handle : Handle σ)

theorem advance_ready (operation : Operation) :
    handle.advance operation .ready = prepare operation := rfl

theorem advance_done (operation : Operation) (result : Except Failure Answer) :
    handle.advance operation (.done result) = pure (.done result) := rfl

/-- What is left to do once the zone is known. -/
def finish (operation : Operation) (zone : String) :
    Act (HandleState σ) (Except Failure Answer) := do
  match ← handle.ask operation zone with
  | .error failure => return .error failure
  | .ok answer =>
    enter operation answer
    return .ok answer

theorem advance_asking (operation : Operation) (zone : String) :
    handle.advance operation (.asking zone) >>= handle.advance operation =
      Stage.done <$> handle.finish operation zone := by
  simp only [advance, finish, bind_assoc, map_bind]
  congr 1
  funext result
  cases result with
  | error failure => simp [advance_done]
  | ok answer => simp [advance]

theorem finish_list (key : RecordKey) :
    handle.finish (.list key) = fun zone => (·.map .records) <$> handle.relist key zone := by
  funext zone
  simp only [finish, ask, relist, map_bind, bind_assoc]
  congr 1
  funext result
  cases result with
  | error failure => simp [Except.map]
  | ok records => simp [Except.map, enter]

theorem finish_create (key : RecordKey) (address : Address) (ttl : Ttl) (proxied : Bool) :
    handle.finish (.create key address ttl proxied) = fun zone =>
      (·.map .id) <$> handle.createIn key address ttl proxied zone := by
  funext zone
  simp only [finish, ask, createIn, map_bind, bind_assoc]
  congr 1
  funext result
  cases result with
  | error failure => simp [Except.map]
  | ok created => simp [Except.map, enter, newRecord]

theorem finish_update (key : RecordKey) (id : String) (address : Address) :
    handle.finish (.update key id address) = fun zone =>
      (·.map fun () => .done) <$> handle.updateIn key id address zone := by
  funext zone
  simp only [finish, ask, updateIn, map_bind, bind_assoc]
  congr 1
  funext result
  cases result with
  | error failure => simp [Except.map]
  | ok _ => simp [Except.map, enter, recordPatch]

theorem finish_delete (key : RecordKey) (id : String) :
    handle.finish (.delete key id) = fun zone =>
      (·.map fun () => .done) <$> handle.deleteIn key id zone := by
  funext zone
  simp only [finish, ask, deleteIn, map_bind, bind_assoc]
  congr 1
  funext result
  cases result with
  | error failure => simp [Except.map]
  | ok _ => simp [Except.map, enter]

theorem advance_locating {operation : Operation} {domain : Domain}
    (needs : operation.domain? = some domain) :
    handle.advance operation .locating >>= handle.advance operation >>= handle.advance operation =
      Stage.done <$> handle.inZone domain (handle.finish operation) := by
  rw [advance, needs]
  simp only [inZone, bind_assoc, map_bind]
  congr 1
  funext found
  cases found with
  | error failure => simp [advance_done]
  | ok zone => simpa using handle.advance_asking operation zone

/-- What is made of a success can as well be made of it in the zone. -/
theorem map_inZone {β : Type} (f : α → β) (domain : Domain)
    (act : String → Act (HandleState σ) (Except Failure α)) :
    (·.map f) <$> handle.inZone domain act =
      handle.inZone domain fun zone => (·.map f) <$> act zone := by
  simp only [inZone, map_bind]
  congr 1
  funext found
  cases found with
  | error failure => simp [Except.map]
  | ok zone => rfl

/-- The stages of an operation that nothing comes between. -/
theorem advance_alone (operation : Operation) :
    handle.advance operation .ready >>= handle.advance operation >>= handle.advance operation >>=
      handle.advance operation = Stage.done <$> handle.perform operation := by
  have located {domain : Domain} (needs : operation.domain? = some domain) :=
    handle.advance_locating needs
  simp only [bind_assoc] at located ⊢
  rw [advance_ready]
  cases operation with
  | list key =>
    simp only [prepare, perform, list, bind_assoc, map_bind]
    congr 1
    funext remembered
    cases remembered.1.get key with
    | some records => simp [advance_done, Except.map]
    | none => simp [located rfl, finish_list, ← map_inZone]
  | create key address ttl proxied =>
    by_cases own : key.family.owns address
    · simp [prepare, perform, create, withOwn, own, located rfl, finish_create, ← map_inZone]
    · simp [prepare, perform, create, withOwn, own, advance_done, Except.map]
  | update key id address =>
    by_cases own : key.family.owns address
    · simp [prepare, perform, update, withOwn, own, located rfl, finish_update, ← map_inZone]
    · simp [prepare, perform, update, withOwn, own, advance_done, Except.map]
  | delete key id =>
    simp [prepare, perform, delete, located rfl, finish_delete, ← map_inZone]
  | resolve domain =>
    simp only [prepare, perform, pure_bind, located rfl, inZone, ← bind_pure_comp,
      bind_assoc]
    congr 1
    funext found
    cases found with
    | error failure => rfl
    | ok zone => simp [finish, ask, enter, Except.map]
  | flush => rfl

end AddressRecords.Handle
