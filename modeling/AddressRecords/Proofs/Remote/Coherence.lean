import AddressRecords.Proofs.Address.Text
import AddressRecords.Proofs.Record.History
import AddressRecords.Proofs.Remote.Agreement
import AddressRecords.Proofs.Remote.Owner

/-!
Coherence with a faithful remote. As long as updates and deletions name identifiers that were
given for the same key before, no operation breaks it, however it ends.
-/

namespace AddressRecords

variable {σ : Type}

/-! What a handle knows. -/

/-- An operation gave an identifier of a record of the key. -/
def History.Gives (key : RecordKey) (id : String) : Operation × Except Failure Answer → Prop
  | (.list other, .ok (.records records)) => other = key ∧ (records.find? id).isSome
  | (.create other .., .ok (.id created)) => other = key ∧ created = id
  | _ => False

theorem History.gives_list {key other : RecordKey} {id : String}
    {answer : Except Failure RecordMap}
    (gives : Gives other id (.list key, answer.map .records)) :
    ∃ records, answer = .ok records ∧ key = other ∧ (records.find? id).isSome := by
  cases answer with
  | error failure => exact gives.elim
  | ok records => exact ⟨records, rfl, gives⟩

theorem History.gives_create {key other : RecordKey} {id : String} {address : Address} {ttl : Ttl}
    {proxied : Bool} {answer : Except Failure String}
    (gives : Gives other id (.create key address ttl proxied, answer.map .id)) :
    key = other ∧ answer = .ok id := by
  cases answer with
  | error failure => exact gives.elim
  | ok created =>
    obtain ⟨same, rfl⟩ := gives
    exact ⟨same, rfl⟩

/-- The identifier was given for the key at some time. -/
def History.Gave (history : History) (key : RecordKey) (id : String) : Prop :=
  ∃ performed ∈ history, Gives key id performed

/-- The record that an operation is to change, and the key under which. -/
def Operation.target? : Operation → Option (RecordKey × String)
  | update key id _ | delete key id => some (key, id)
  | _ => none

/-- Every update and deletion names an identifier that an earlier operation gave for its key. -/
def Handle.NamesGiven (handle : Handle σ) (operations : List Operation) (start : σ) : Prop :=
  ∀ before operation after, operations = before ++ operation :: after →
    ∀ key id, operation.target? = some (key, id) →
      (handle.history before (.initial start)).Gave key id

/-! What each operation does. -/

/-- Nothing has happened but look-ups of zones. -/
structure Remote.Still (remote : Remote σ) (before after : HandleState σ) : Prop where
  store : after.1 = before.1
  lists : remote.Lists after.2.1
  holdings : remote.holdings after.2.2 = remote.holdings before.2.2

variable {α : Type} {handle : Handle σ} {remote : Remote σ} {state : HandleState σ}

/-- A call that changes no record. -/
theorem Remote.Still.of_holdings (lists : remote.Lists state.2.1) {asked : σ}
    (same : remote.holdings asked = remote.holdings state.2.2) :
    remote.Still state (state.1, (state.2.1, asked)) :=
  ⟨rfl, lists, same⟩

/-- What is done in a zone is done in the owner's. -/
theorem Faithful.inZone (faithful : Faithful handle remote) (lists : remote.Lists state.2.1)
    (domain : Domain) (act : String → Act (HandleState σ) (Except Failure α)) :
    let done := handle.inZone domain act state
    ((∃ failure, done.value = .error failure) ∧ remote.Still state done.state) ∨
    ∃ zone inside, remote.owner? domain = some zone ∧ remote.Still state inside ∧
      done.value = (act zone inside).value ∧ done.state = (act zone inside).state := by
  obtain ⟨store, listsAfter, keeps, owner⟩ := faithful.resolve domain lists
  have still : remote.Still state (handle.resolve domain state).state :=
    ⟨store, listsAfter, keeps⟩
  dsimp only
  cases found : (handle.resolve domain state).value with
  | error failure =>
    left
    simp only [Handle.inZone, Act.value_bind, Act.state_bind, found]
    exact ⟨⟨failure, rfl⟩, still⟩
  | ok zone =>
    right
    refine ⟨zone, _, owner zone found, still, ?_⟩
    simp only [Handle.inZone, Act.value_bind, Act.state_bind, found, and_self]

/-- The addresses that are read are those of all the records. -/
theorem readRecords_eq {family : Family} {listed : List Api.RawRecord}
    {entries : List (String × Address)}
    (h : Handle.readRecords family listed = .ok entries) :
    listed.map (fun record => (record.id, family.parseAddress record.content)) =
      entries.map fun entry => (entry.1, .ok entry.2) := by
  induction listed generalizing entries with
  | nil =>
    cases h
    rfl
  | cons record rest ih =>
    unfold Handle.readRecords at h
    split at h
    · cases h
    · rename_i address parsed
      cases more : Handle.readRecords family rest with
      | error unreadable => simp [more, Except.map] at h
      | ok others =>
        simp only [more, Except.map] at h
        cases h
        simp [parsed, ih more]

theorem lookup_map_ok (entries : List (String × Address)) (id : String) :
    (entries.map fun entry => (entry.1, (.ok entry.2 : Except AddressError Address))).lookup id =
      (entries.lookup id).map .ok := by
  induction entries with
  | nil => rfl
  | cons entry rest ih =>
    obtain ⟨first, address⟩ := entry
    rw [List.map_cons, List.lookup_cons, List.lookup_cons]
    dsimp only
    cases id == first with
    | true => rfl
    | false => exact ih

/-- What is found of records that are all read is what the last of an identifier is read as. -/
theorem map_find?_of_readRecords {family : Family} {listed : List Api.RawRecord}
    {entries : List (String × Address)} (read : Handle.readRecords family listed = .ok entries)
    (id : String) : ((RecordMap.ofList entries).find? id).map Except.ok =
      (listed.map fun record =>
        (record.id, family.parseAddress record.content)).reverse.lookup id := by
  rw [RecordMap.find?_ofList, ← lookup_map_ok, List.map_reverse, ← readRecords_eq read]

/-- Records that are all read mirror those that were listed. -/
theorem mirrors_ofList {holdings : Holdings} {zone : String} {key : RecordKey}
    {listed : List Api.RawRecord} {entries : List (String × Address)}
    (shown : ∀ record, record ∈ listed ↔ holdings.find? zone record.id =
      some ⟨key.domain.wireName, key.family.recordType, record.content⟩)
    (read : Handle.readRecords key.family listed = .ok entries) :
    holdings.Mirrors zone key (.ofList entries) := by
  intro id
  let answers := listed.map fun record => (record.id, key.family.parseAddress record.content)
  rw [map_find?_of_readRecords read]
  cases looked : answers.reverse.lookup id with
  | none =>
    cases given : holdings.content? zone key id with
    | none => rfl
    | some content =>
      have mem := (shown ⟨id, content⟩).mpr (Holdings.find_of_content? given)
      have other := List.lookup_eq_none_iff.mp looked (id, key.family.parseAddress content)
        (List.mem_reverse.mpr (List.mem_map_of_mem mem))
      simp at other
  | some answer =>
    obtain ⟨before, after, split, _⟩ := List.lookup_eq_some_iff.mp looked
    have mem : (id, answer) ∈ answers := by
      rw [← List.mem_reverse, split]
      simp
    obtain ⟨record, listedRecord, same⟩ := List.mem_map.mp mem
    cases same
    rw [Holdings.content?_of_find ((shown record).mp listedRecord)]
    rfl

theorem Faithful.fetch (faithful : Faithful handle remote) (lists : remote.Lists state.2.1)
    {zone : String} (valid : IsId zone) (key : RecordKey) :
    let done := handle.fetch key zone state
    remote.Still state done.state ∧ ∀ records, done.value = .ok records →
      (remote.holdings done.state.2.2).Mirrors zone key records := by
  obtain ⟨keeps, shown⟩ := faithful.listRecords valid key.domain.wireName key.family.recordType
    state.2.2
  dsimp only
  rw [Handle.fetch_state]
  refine ⟨.of_holdings lists keeps, fun records given => ?_⟩
  obtain ⟨listed, entries, got, read, rfl⟩ := handle.fetch_of_ok given
  dsimp only
  rw [keeps]
  exact mirrors_ofList (shown listed got) read

/-- Whatever a handle remembers is what the remote holds, and `known` identifiers are of their
keys. -/
structure Coherent (remote : Remote σ) (known : RecordKey → String → Prop)
    (state : HandleState σ) : Prop where
  lists : remote.Lists state.2.1
  agrees : Agrees remote.owner? known (remote.holdings state.2.2) state.1

namespace Coherent

variable {known : RecordKey → String → Prop}

theorem still (h : Coherent remote known state) {after : HandleState σ}
    (still : remote.Still state after) : Coherent remote known after := by
  refine ⟨still.lists, ?_⟩
  rw [still.store, still.holdings]
  exact h.agrees

/-- Nothing more is known after an operation that gave nothing. -/
theorem given_nothing {more : RecordKey → String → Prop} (h : Coherent remote known state)
    (nothing : ∀ key id, ¬ more key id) :
    Coherent remote (fun key id => known key id ∨ more key id) state := by
  refine ⟨h.lists, h.agrees.mirrors, ?_⟩
  rintro key id (before | impossible)
  · exact h.agrees.fits key id before
  · exact absurd impossible (nothing key id)

theorem list (faithful : Faithful handle remote) (h : Coherent remote known state)
    (key : RecordKey) :
    let done := handle.list key state
    Coherent remote (fun other i => known other i ∨
      ∃ records, done.value = .ok records ∧ key = other ∧ (records.find? i).isSome)
      done.state := by
  dsimp only
  cases warm : state.1.get key with
  | some records =>
    obtain ⟨value, same, _⟩ := handle.list_of_warm warm
    rw [value, same]
    obtain ⟨zone, owned, mirrors⟩ := h.agrees.mirrors key records warm
    have listed := h.agrees.listed owned mirrors
    refine ⟨h.lists, h.agrees.mirrors, ?_⟩
    rintro other i (before | ⟨_, ⟨⟩, found⟩)
    · exact h.agrees.fits other i before
    · exact listed.fits other i (.inr found)
  | none =>
    obtain ⟨value, after⟩ := handle.list_of_cold warm
    rw [value, after]
    rcases faithful.inZone h.lists key.domain (handle.relist key) with
      ⟨⟨failure, failed⟩, still⟩ | ⟨zone, inside, owned, still, value, after⟩
    · rw [failed]
      exact (h.still still).given_nothing (by rintro other i ⟨_, ⟨⟩, _⟩)
    · rw [value, after]
      have here := h.still still
      obtain ⟨fetching, mirrored⟩ := faithful.fetch here.lists (remote.isId_of_owner? owned) key
      have there := here.still fetching
      cases fetched : (handle.fetch key zone inside).value with
      | error failure =>
        obtain ⟨value, after⟩ := handle.relist_of_error fetched
        rw [value, after]
        exact there.given_nothing (by rintro other i ⟨_, ⟨⟩, _⟩)
      | ok records =>
        obtain ⟨value, after⟩ := handle.relist_of_ok fetched
        rw [value, after]
        have listed := there.agrees.listed owned (mirrored records fetched)
        refine ⟨there.lists, listed.mirrors, ?_⟩
        rintro other i (before | ⟨_, ⟨⟩, found⟩)
        · exact listed.fits other i (.inl before)
        · exact listed.fits other i (.inr found)

theorem create (faithful : Faithful handle remote) (h : Coherent remote known state)
    (key : RecordKey) (address : Address) (ttl : Ttl) (proxied : Bool) :
    let done := handle.create key address ttl proxied state
    Coherent remote (fun other i => known other i ∨ (key = other ∧ done.value = .ok i))
      done.state := by
  dsimp only
  by_cases own : key.family.owns address
  · rw [handle.create_of_own own]
    rcases faithful.inZone h.lists key.domain (handle.createIn key address ttl proxied) with
      ⟨⟨failure, failed⟩, still⟩ | ⟨zone, inside, owned, still, value, after⟩
    · rw [failed]
      exact (h.still still).given_nothing (by rintro other i ⟨_, ⟨⟩⟩)
    · rw [value, after]
      have here := h.still still
      rcases faithful.createRecord (remote.isId_of_owner? owned)
        (Handle.newRecord key address ttl proxied) inside.2.2 with
        ⟨⟨failure, refused⟩, same⟩ | ⟨created, valid, confirmed, unused, made⟩
      · obtain ⟨⟨reason, value⟩, after⟩ := handle.createIn_of_error refused
        have refusing : remote.Still inside
            (handle.createIn key address ttl proxied zone inside).state := by
          rw [after]
          exact .of_holdings here.lists same
        rw [value]
        exact (here.still refusing).given_nothing (by rintro other i ⟨_, ⟨⟩⟩)
      · obtain ⟨value, after⟩ := handle.createIn_of_ok confirmed
        rw [value, after]
        have both := here.agrees.created owned unused valid (Family.parseAddress_toString own)
        refine ⟨here.lists, ?_⟩
        dsimp only
        rw [made]
        refine ⟨both.mirrors, ?_⟩
        rintro other i (before | ⟨same, ⟨⟩⟩)
        · exact both.fits other i (.inl before)
        · exact both.fits other created.id (.inr ⟨same, rfl⟩)
  · obtain ⟨⟨reason, value⟩, after⟩ := handle.create_of_foreign own
    rw [value, after]
    exact h.given_nothing (by rintro other i ⟨_, ⟨⟩⟩)

theorem update (faithful : Faithful handle remote) (h : Coherent remote known state)
    {key : RecordKey} {id : String} (given : known key id) (address : Address) :
    Coherent remote known (handle.update key id address state).state := by
  by_cases own : key.family.owns address
  · rw [handle.update_of_own own]
    rcases faithful.inZone h.lists key.domain (handle.updateIn key id address) with
      ⟨_, still⟩ | ⟨zone, inside, owned, still, _, after⟩
    · exact h.still still
    · rw [after]
      have here := h.still still
      obtain ⟨place, placed, used, _⟩ := here.agrees.fits key id given
      have valid := (remote.holdings inside.2.2).isId_of_used used
      rcases faithful.updateRecord (remote.isId_of_owner? owned) valid
        (Handle.recordPatch key address) inside.2.2 with
        ⟨⟨failure, refused⟩, same⟩ | ⟨confirmed, existing, made⟩
      · have refusing : remote.Still inside (handle.updateIn key id address zone inside).state := by
          rw [(handle.updateIn_of_error refused).2]
          exact .of_holdings here.lists same
        exact here.still refusing
      · rw [(handle.updateIn_of_ok confirmed).2]
        refine ⟨here.lists, ?_⟩
        dsimp only
        rw [made]
        exact here.agrees.updated owned given existing valid (Family.parseAddress_toString own)
  · rw [(handle.update_of_foreign own).2]
    exact h

theorem delete (faithful : Faithful handle remote) (h : Coherent remote known state)
    {key : RecordKey} {id : String} (given : known key id) :
    Coherent remote known (handle.delete key id state).state := by
  rcases faithful.inZone h.lists key.domain (handle.deleteIn key id) with
    ⟨_, still⟩ | ⟨zone, inside, owned, still, _, after⟩
  · exact h.still still
  · rw [Handle.delete, after]
    have here := h.still still
    obtain ⟨place, placed, used, _⟩ := here.agrees.fits key id given
    rcases faithful.deleteRecord (remote.isId_of_owner? owned)
      ((remote.holdings inside.2.2).isId_of_used used) inside.2.2 with
      ⟨⟨failure, refused⟩, same⟩ | ⟨confirmed, existing, dropped⟩
    · have refusing : remote.Still inside (handle.deleteIn key id zone inside).state := by
        rw [(handle.deleteIn_of_error key refused).2]
        exact .of_holdings here.lists same
      exact here.still refusing
    · rw [(handle.deleteIn_of_ok key confirmed).2]
      refine ⟨here.lists, ?_⟩
      dsimp only
      rw [dropped]
      exact here.agrees.deleted owned given

theorem flush (h : Coherent remote known state) : Coherent remote known (Handle.flush state).state :=
  ⟨fun _ _ impossible => (nomatch impossible), h.agrees⟩

theorem mono {more : RecordKey → String → Prop} (h : Coherent remote more state)
    (fewer : ∀ key id, known key id → more key id) : Coherent remote known state :=
  ⟨h.lists, h.agrees.mirrors, fun key id given => h.agrees.fits key id (fewer key id given)⟩

/-- One operation, whatever it is and however it ends. -/
theorem perform (faithful : Faithful handle remote) (h : Coherent remote known state)
    (operation : Operation)
    (names : ∀ key id, operation.target? = some (key, id) → known key id) :
    let done := handle.perform operation state
    Coherent remote (fun key id => known key id ∨ History.Gives key id (operation, done.value))
      done.state := by
  cases operation with
  | list key =>
    refine (h.list faithful key).mono ?_
    rintro other i (before | gives)
    · exact .inl before
    · exact .inr (History.gives_list gives)
  | create key address ttl proxied =>
    refine (h.create faithful key address ttl proxied).mono ?_
    rintro other i (before | gives)
    · exact .inl before
    · exact .inr (History.gives_create gives)
  | update key id address =>
    exact (h.update faithful (names key id rfl) address).given_nothing fun _ _ gives => gives.elim
  | delete key id =>
    exact (h.delete faithful (names key id rfl)).given_nothing fun _ _ gives => gives.elim
  | resolve domain =>
    obtain ⟨store, lists, keeps, _⟩ := faithful.resolve domain h.lists
    exact (h.still ⟨store, lists, keeps⟩).given_nothing fun _ _ gives => gives.elim
  | flush => exact h.flush.given_nothing fun _ _ gives => gives.elim

end Coherent

end AddressRecords
