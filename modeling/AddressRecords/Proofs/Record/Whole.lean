import AddressRecords.Proofs.Calls.Messages
import AddressRecords.Proofs.Remote.Coherence
import AddressRecords.Proofs.Zone.Settled
import Mathlib.Data.List.Dedup
import Mathlib.Data.List.Perm.Basic

/-!
Listing the records of a cold entry. Either the content of every listed record is an address, and
all the identifiers are kept and remembered; or nothing is remembered, the first record without an
address is told, and the API is asked again the next time.
-/

namespace AddressRecords

open Api (Client RawRecord)

variable {σ α : Type}

/-! Reading. -/

namespace Family

/-- The content of the record is an address of the family. -/
def Reads (family : Family) (record : RawRecord) : Prop :=
  ∃ address, family.parseAddress record.content = .ok address

theorem owns_of_parseAddress {family : Family} {text : String} {address : Address}
    (parsed : family.parseAddress text = .ok address) : family.owns address := by
  cases family <;>
  · unfold parseAddress at parsed
    dsimp only at parsed
    split at parsed
    · cases parsed
      rfl
    · cases parsed

end Family

/-- The first of the records whose content is no address. -/
structure FirstUnreadable (family : Family) (listed : List RawRecord) (record : RawRecord)
    (error : AddressError) : Prop where
  first : ∃ before after, listed = before ++ record :: after ∧
    ∀ earlier ∈ before, family.Reads earlier
  unreadable : family.parseAddress record.content = .error error

namespace Handle

/-- Records are read up to the first whose content is no address. -/
theorem readRecords_cases (family : Family) (listed : List RawRecord) :
    ((∀ record ∈ listed, family.Reads record) ∧ ∃ entries,
      readRecords family listed = .ok entries) ∨
    ∃ record error, FirstUnreadable family listed record error ∧
      readRecords family listed = .error ⟨record.content, error⟩ := by
  induction listed with
  | nil => exact .inl ⟨by simp, [], rfl⟩
  | cons record rest ih =>
    cases parsed : family.parseAddress record.content with
    | error error =>
      refine .inr ⟨record, error, ⟨⟨[], rest, rfl, by simp⟩, parsed⟩, ?_⟩
      rw [readRecords, parsed]
    | ok address =>
      have here : family.Reads record := ⟨address, parsed⟩
      rw [readRecords, parsed]
      rcases ih with ⟨all, entries, read⟩ | ⟨other, error, ⟨⟨before, after, split, earlier⟩,
        unreadable⟩, read⟩
      · exact .inl ⟨List.forall_mem_cons.mpr ⟨here, all⟩, _, by rw [read]; rfl⟩
      · refine .inr ⟨other, error, ⟨⟨record :: before, after, by rw [split]; rfl, ?_⟩,
          unreadable⟩, by rw [read]; rfl⟩
        exact List.forall_mem_cons.mpr ⟨here, earlier⟩

end Handle

theorem FirstUnreadable.not_all {family : Family} {listed : List RawRecord} {record : RawRecord}
    {error : AddressError} (h : FirstUnreadable family listed record error) :
    ¬ ∀ record ∈ listed, family.Reads record := by
  obtain ⟨⟨before, after, rfl, -⟩, unreadable⟩ := h
  intro all
  obtain ⟨address, parsed⟩ := all record (by simp)
  cases parsed.symm.trans unreadable

/-! What is kept. -/

namespace RecordMap

theorem mem_ids_iff {records : RecordMap} {id : String} :
    id ∈ records.entries.map (·.1) ↔ (records.find? id).isSome := by
  rw [find?, List.lookup_isSome_iff, List.mem_map]
  simp [eq_comm (a := id)]

theorem nodup_ids (records : RecordMap) : (records.entries.map (·.1)).Nodup := by
  rw [List.Nodup, List.pairwise_map]
  refine records.sorted.imp ?_
  intro entry other below same
  rw [same] at below
  exact String.lt_irrefl _ below

/-- The map holds what the records of a listing come to: for each identifier the last of them. -/
structure Holds (family : Family) (listed : List RawRecord) (records : RecordMap) : Prop where
  last : ∀ id address, records.find? id = some address ↔
    ∃ before content after, listed = before ++ ⟨id, content⟩ :: after ∧
      (∀ record ∈ after, record.id ≠ id) ∧ family.parseAddress content = .ok address
  all : ∀ id, (records.find? id).isSome ↔ ∃ record ∈ listed, record.id = id
  inOrder : (records.entries.map (·.1)).Pairwise (· < ·)
  size : records.size = (listed.map (·.id)).dedup.length
  own : ∀ id address, records.find? id = some address → family.owns address

end RecordMap

/-- What the last record of an identifier comes to, found from the end of the list. -/
theorem lookup_reverse_map_iff {listed : List RawRecord} {id : String} {answer : α}
    {read : String → α} :
    (listed.map fun record => (record.id, read record.content)).reverse.lookup id = some answer ↔
      ∃ before content after, listed = before ++ ⟨id, content⟩ :: after ∧
        (∀ record ∈ after, record.id ≠ id) ∧ read content = answer := by
  rw [List.lookup_eq_some_iff]
  constructor
  · rintro ⟨later, earlier, split, others⟩
    rw [List.reverse_eq_iff, List.reverse_append, List.reverse_cons, List.append_assoc,
      List.map_eq_append_iff] at split
    obtain ⟨before, rest, rfl, -, split⟩ := split
    obtain ⟨⟨id, content⟩, after, rfl, here, same⟩ := List.map_eq_cons_iff.mp split
    cases here
    refine ⟨before, content, after, rfl, ?_, rfl⟩
    intro record among
    have mem := List.mem_map_of_mem (f := fun record => (record.id, read record.content)) among
    rw [same] at mem
    have apart := bne_iff_ne.mp (others _ (List.mem_reverse.mp mem))
    exact apart.symm
  · rintro ⟨before, content, after, rfl, others, rfl⟩
    let answers (records : List RawRecord) :=
      records.map fun record => (record.id, read record.content)
    refine ⟨(answers after).reverse, (answers before).reverse, by simp [answers], ?_⟩
    intro entry mem
    obtain ⟨record, among, rfl⟩ := List.mem_map.mp (List.mem_reverse.mp mem)
    exact bne_iff_ne.mpr (others record among).symm

/-- Records that are all read are kept as the listing has them. -/
theorem RecordMap.holds_ofList {family : Family} {listed : List RawRecord}
    {entries : List (String × Address)} (read : Handle.readRecords family listed = .ok entries) :
    (ofList entries).Holds family listed := by
  have found := map_find?_of_readRecords read
  have last (id : String) (address : Address) : (ofList entries).find? id = some address ↔
      ∃ before content after, listed = before ++ ⟨id, content⟩ :: after ∧
        (∀ record ∈ after, record.id ≠ id) ∧ family.parseAddress content = .ok address := by
    rw [← lookup_reverse_map_iff, ← found, Option.map_eq_some_iff]
    simp
  have all (id : String) :
      ((ofList entries).find? id).isSome ↔ ∃ record ∈ listed, record.id = id := by
    rw [← Option.isSome_map, found, List.lookup_isSome_iff]
    simp [eq_comm (a := id)]
  constructor
  case last => exact last
  case all => exact all
  case inOrder => exact List.pairwise_map.mpr (ofList entries).sorted
  case size =>
    -- Neither list repeats an identifier, and both have the same ones.
    have same : ((ofList entries).entries.map (·.1)).Perm (listed.map (·.id)).dedup := by
      refine (List.perm_ext_iff_of_nodup (nodup_ids _) (List.nodup_dedup _)).mpr fun id => ?_
      rw [mem_ids_iff, List.mem_dedup, List.mem_map]
      exact all id
    rw [size, ← same.length_eq, List.length_map]
  case own =>
    intro id address held
    obtain ⟨_, _, _, -, -, parsed⟩ := (last id address).mp held
    exact Family.owns_of_parseAddress parsed

/-! Listing. -/

namespace Handle

variable (handle : Handle σ) {key : RecordKey} {zone : String} {state : HandleState σ}

/-- What the user is told of a record that cannot be read. -/
def unreadableMessage (key : RecordKey) (error : AddressError) : Diagnostics.Message :=
  ⟨.warning, .impossible, "Failed to parse the IP address in records of " ++
    Text.quote key.domain.wireName ++ ": " ++ error.message⟩

/-- The failure of a listing with such a record. -/
def unreadableFailure (key : RecordKey) (unreadable : Unreadable) : Failure :=
  .recordParseFailed key.domain.wireName
    s!"{Text.quote unreadable.content} is not an {key.family} address: {unreadable.error.message}"

section

variable {listed : List RawRecord}
  (given : (handle.client.listRecords handle.api zone key.domain.wireName key.family.recordType
    state.2.2).value = .ok listed)

include given

/-- The listing itself tells the user nothing. -/
theorem fetch_of_listed :
    (handle.fetch key zone state).value =
      ((readRecords key.family listed).mapError (unreadableFailure key)).map .ofList ∧
    (handle.fetch key zone state).messages =
      match readRecords key.family listed with
      | .ok _ => []
      | .error unreadable => [unreadableMessage key unreadable.error] := by
  have silent : (onRemote (handle.client.listRecords handle.api zone key.domain.wireName
      key.family.recordType) state).messages = [] :=
    (handle.client.isSilent_listRecords handle.api zone _ _).messages state.2.2
  rw [fetch, Act.messages_bind, Act.value_bind, silent, onRemote_apply]
  dsimp only
  rw [given]
  dsimp only
  cases readRecords key.family listed <;> exact ⟨rfl, rfl⟩

theorem relist_of_read {entries : List (String × Address)}
    (read : readRecords key.family listed = .ok entries) :
    (handle.relist key zone state).value = .ok (.ofList entries) ∧
      (handle.relist key zone state).state.1 = state.1.replace key (.ofList entries) ∧
      (handle.relist key zone state).messages = [] := by
  obtain ⟨value, messages⟩ := handle.fetch_of_listed given
  rw [read] at value messages
  obtain ⟨same, after⟩ := handle.relist_of_ok value
  refine ⟨same, ?_, ?_⟩
  · rw [after, fetch_state]
  · rw [relist, Act.messages_bind, messages, value]
    rfl

theorem relist_of_unreadable {record : RawRecord} {error : AddressError}
    (read : readRecords key.family listed = .error ⟨record.content, error⟩) :
    (handle.relist key zone state).value = .error (unreadableFailure key ⟨record.content, error⟩) ∧
      (handle.relist key zone state).state.1 = state.1 ∧
      (handle.relist key zone state).messages = [unreadableMessage key error] := by
  obtain ⟨value, messages⟩ := handle.fetch_of_listed given
  rw [read] at value messages
  obtain ⟨same, after⟩ := handle.relist_of_error value
  refine ⟨same, ?_, ?_⟩
  · rw [after, fetch_state]
  · rw [relist, Act.messages_bind, messages, value]
    rfl

end

/-- A listing of a cold entry is the resolution and the work in the zone. -/
theorem list_of_found (cold : state.1.get key = none)
    (found : (handle.resolve key.domain state).value = .ok zone) :
    let inside := handle.relist key zone (handle.resolve key.domain state).state
    (handle.list key state).value = inside.value ∧ (handle.list key state).state = inside.state ∧
      (handle.list key state).messages =
        (handle.resolve key.domain state).messages ++ inside.messages ∧
      (handle.list key state).calls = (handle.resolve key.domain state).calls ++ inside.calls := by
  rw [handle.list_eq_of_cold cold, handle.inZone_of_found found]
  exact ⟨rfl, rfl, List.filterMap_append, List.filterMap_append⟩

/-- The requests for the pages of the records of a key, and there is at least one. -/
def AsksForPages (key : RecordKey) (zone : String) (calls : List Api.Call) : Prop :=
  ∃ count, 0 < count ∧ calls =
    (Command.pages (.records zone key.domain.wireName key.family.recordType) count).map
      (·.call handle.client)

theorem calls_list_of_found (cold : state.1.get key = none)
    (found : (handle.resolve key.domain state).value = .ok zone) :
    ∃ asked, handle.AsksForPages key zone asked ∧
      (handle.list key state).calls = (handle.resolve key.domain state).calls ++ asked := by
  obtain ⟨work, works, calls⟩ :=
    handle.calls_relist key zone (handle.resolve key.domain state).state
  cases works with
  | list key zone some_pages bounded =>
    rw [(handle.list_of_found cold found).2.2.2, calls]
    exact ⟨_, ⟨_, some_pages, rfl⟩, rfl⟩

/-- What comes of listing a key whose entry is cold, in a zone that is found and from which all
these records are obtained. -/
structure ListsWhole (key : RecordKey) (state : HandleState σ) (zone : String)
    (listed : List RawRecord) : Prop where
  ok_iff : (∃ records, (handle.list key state).value = .ok records) ↔
    ∀ record ∈ listed, key.family.Reads record
  whole : ∀ records, (handle.list key state).value = .ok records →
    records.Holds key.family listed ∧
    (handle.list key state).state.1 = state.1.replace key records ∧
    (handle.list key state).messages = (handle.resolve key.domain state).messages
  /-- One record is told, the first that cannot be read. -/
  broken : ∀ failure, (handle.list key state).value = .error failure →
    ∃ record error, FirstUnreadable key.family listed record error ∧
      failure = unreadableFailure key ⟨record.content, error⟩ ∧
      (handle.list key state).messages =
        (handle.resolve key.domain state).messages ++ [unreadableMessage key error]
  /-- Nothing is remembered of a listing that cannot be read. -/
  kept : ∀ failure, (handle.list key state).value = .error failure →
    (handle.list key state).state.1 = state.1
  again : ∀ failure, (handle.list key state).value = .error failure →
    handle.AsksForPages key zone (handle.list key (handle.list key state).state).calls
  /-- The API is asked again, whatever is done until then but for a listing that succeeds. -/
  later : ∀ failure, (handle.list key state).value = .error failure → ∀ operations,
    (∀ answer, (.list key, .ok answer) ∉ handle.history operations (handle.list key state).state) →
    let after := (handle.performAll operations (handle.list key state).state).state
    after.1.get key = none ∧ ∀ owner, (handle.resolve key.domain after).value = .ok owner →
      ∃ asked, handle.AsksForPages key owner asked ∧
        (handle.list key after).calls = (handle.resolve key.domain after).calls ++ asked

section

variable {listed : List RawRecord} (cold : state.1.get key = none)
  (found : (handle.resolve key.domain state).value = .ok zone)
  (given : (handle.client.listRecords handle.api zone key.domain.wireName key.family.recordType
    (handle.resolve key.domain state).state.2.2).value = .ok listed)

include cold found given

theorem listsWhole_of_read (all : ∀ record ∈ listed, key.family.Reads record)
    {entries : List (String × Address)} (read : readRecords key.family listed = .ok entries) :
    handle.ListsWhole key state zone listed := by
  obtain ⟨value, after, messages, -⟩ := handle.list_of_found cold found
  obtain ⟨gives, store, silent⟩ := handle.relist_of_read given read
  rw [gives] at value
  have never {failure : Failure} : (handle.list key state).value ≠ .error failure := by
    rw [value]
    intro impossible
    cases impossible
  constructor
  case ok_iff => exact iff_of_true ⟨_, value⟩ all
  case whole =>
    intro records same
    cases value.symm.trans same
    refine ⟨RecordMap.holds_ofList read, ?_, ?_⟩
    · rw [after, store]
      rfl
    · rw [messages, silent, List.append_nil]
  case broken => exact fun _ failed => absurd failed never
  case kept => exact fun _ failed => absurd failed never
  case again => exact fun _ failed => absurd failed never
  case later => exact fun _ failed => absurd failed never

theorem listsWhole_of_unreadable {record : RawRecord} {error : AddressError}
    (first : FirstUnreadable key.family listed record error)
    (read : readRecords key.family listed = .error ⟨record.content, error⟩) :
    handle.ListsWhole key state zone listed := by
  obtain ⟨value, after, messages, -⟩ := handle.list_of_found cold found
  obtain ⟨fails, store, tells⟩ := handle.relist_of_unreadable given read
  rw [fails] at value
  have kept : (handle.list key state).state.1 = state.1 := by
    rw [after, store]
    rfl
  have still : (handle.list key state).state.1.get key = none := by rw [kept, cold]
  -- The zone stays known, so the next listing starts with the records.
  have settled : Settled key.domain zone (handle.list key state).state := by
    rw [after, Settled, handle.keeps_relist key zone]
    exact settled_of_resolve found
  constructor
  case ok_iff =>
    refine iff_of_false ?_ first.not_all
    rintro ⟨records, same⟩
    cases value.symm.trans same
  case whole =>
    intro records same
    cases value.symm.trans same
  case broken =>
    intro failure failed
    cases value.symm.trans failed
    exact ⟨record, error, first, rfl, by rw [messages, tells]⟩
  case kept => exact fun _ _ => kept
  case again =>
    intro _ _
    obtain ⟨same, -, quiet⟩ := handle.resolve_of_settled settled
    obtain ⟨asked, asks, calls⟩ := handle.calls_list_of_found still same
    rwa [calls, quiet]
  case later =>
    intro _ _ operations unlisted
    have colder := handle.get_performAll_of_cold still operations unlisted
    exact ⟨colder, fun owner located => handle.calls_list_of_found colder located⟩

end

/-- A listing is all that the API lists, each identifier with its last address, or it is nothing. -/
theorem listsWhole {listed : List RawRecord} (cold : state.1.get key = none)
    (found : (handle.resolve key.domain state).value = .ok zone)
    (given : (handle.client.listRecords handle.api zone key.domain.wireName key.family.recordType
      (handle.resolve key.domain state).state.2.2).value = .ok listed) :
    handle.ListsWhole key state zone listed := by
  rcases readRecords_cases key.family listed with
    ⟨all, entries, read⟩ | ⟨record, error, first, read⟩
  · exact handle.listsWhole_of_read cold found given all read
  · exact handle.listsWhole_of_unreadable cold found given first read

end Handle

/-! Two pages that share an identifier. -/

namespace Rehearsed

def pages : List Api.Reply := [located,
  ⟨⟨200⟩, "\x7b\"success\":true,\"result\":" ++
    "[\x7b\"id\":\"b\",\"content\":\"192.0.2.1\"\x7d," ++
    "\x7b\"id\":\"a\",\"content\":\"192.0.2.2\"\x7d]," ++
    "\"result_info\":\x7b\"total_pages\":2\x7d\x7d"⟩,
  .succeeding "[\x7b\"id\":\"b\",\"content\":\"192.0.2.3\"\x7d]"]

theorem listsWhole_shared :
    let state := HandleState.initial pages
    let listed : List RawRecord := [⟨"b", "192.0.2.1"⟩, ⟨"a", "192.0.2.2"⟩, ⟨"b", "192.0.2.3"⟩]
    state.1.get key = none ∧ (handle.resolve key.domain state).value = .ok "z" ∧
      (handle.client.listRecords handle.api "z" key.domain.wireName key.family.recordType
        (handle.resolve key.domain state).state.2.2).value = .ok listed ∧
      (handle.list key state).value.toOption.map
          (fun records => records.entries.map fun entry => (entry.1, toString entry.2)) =
        some [("a", "192.0.2.2"), ("b", "192.0.2.3")] ∧
      handle.ListsWhole key state "z" listed := by
  intro state listed
  have cold : state.1.get key = none := rfl
  have found : (handle.resolve key.domain state).value = .ok "z" := by decide +kernel
  have given : (handle.client.listRecords handle.api "z" key.domain.wireName key.family.recordType
      (handle.resolve key.domain state).state.2.2).value = .ok listed := by
    decide +kernel
  have run : (handle.list key state).value.toOption.map
      (fun records => records.entries.map fun entry => (entry.1, toString entry.2)) =
        some [("a", "192.0.2.2"), ("b", "192.0.2.3")] := by
    decide +kernel
  exact ⟨cold, found, given, run, handle.listsWhole cold found given⟩

end Rehearsed

end AddressRecords
