import AddressRecords.Proofs.Remote.Coherence

/-!
What the answers of a remote say of single records, what is found in the remembered records once
they are entered, and what a remote shows of a record itself.
-/

namespace AddressRecords

variable {σ : Type}

/-! What answers say. -/

/-- A change of one record. -/
structure Change where
  key : RecordKey
  id : String
  /-- What the record says from then on, if there still is one. -/
  address? : Option Address

/-- The records of the key with the change made. -/
def Change.revise (change : Change) (records : RecordMap) : RecordMap :=
  match change.address? with
  | some address => records.insert change.id address
  | none => records.erase change.id

theorem Change.find?_revise (change : Change) (records : RecordMap) (id : String) :
    (change.revise records).find? id =
      if change.id = id then change.address? else records.find? id := by
  obtain ⟨_, changed, address?⟩ := change
  simp only [@eq_comm _ changed]
  cases address? with
  | some address => exact records.find?_insert changed address id
  | none => exact records.find?_erase changed id

namespace Operation

/-- The change that the API has made when it gives this answer. -/
def change? : Operation → Answer → Option Change
  | .create key address _ _, .id id => some ⟨key, id, some address⟩
  | .update key id address, _ => some ⟨key, id, some address⟩
  | .delete key id, _ => some ⟨key, id, none⟩
  | _, _ => none

/-- What an answer tells of a record, if it is about it at all. -/
def tells? : Operation → Answer → RecordKey → String → Option (Option Address)
  | .list other, .records records, key, id =>
    if other = key then some (records.find? id) else none
  | operation, answer, key, id =>
    (operation.change? answer).bind fun change =>
      if change.key = key ∧ change.id = id then some change.address? else none

variable {operation : Operation} {answer : Answer} {key : RecordKey} {id : String}

theorem tells?_of_change {change : Change} (h : operation.change? answer = some change)
    (key : RecordKey) (id : String) : operation.tells? answer key id =
      if change.key = key ∧ change.id = id then some change.address? else none := by
  cases operation with
  | list => cases answer <;> cases h
  | _ => simp [tells?, h]

theorem tells?_list (records : RecordMap) :
    (list key).tells? (.records records) key id = some (records.find? id) := by
  simp [tells?]

theorem key?_of_change {change : Change} (h : operation.change? answer = some change) :
    operation.key? = some change.key := by
  cases operation <;> cases answer <;> cases h <;> rfl

/-- What is said is said of records of the operation's key. -/
theorem key?_of_tells {address? : Option Address}
    (h : operation.tells? answer key id = some address?) : operation.key? = some key := by
  cases operation <;> cases answer <;> simp [tells?, change?] at h <;> simp [key?, h]

end Operation

theorem Handle.applied_of_change {operation : Operation} {answer : Answer} {change : Change}
    (h : operation.change? answer = some change) (store : RecordStore) :
    applied operation answer store =
      store.setEntry change.key ((store.get change.key).map change.revise) := by
  cases operation <;> cases answer <;> cases h <;> rfl

/-- An answer is entered for the records it speaks of, and for no other. -/
theorem Handle.find?_applied {operation : Operation} {answer : Answer} {store : RecordStore}
    {key : RecordKey} {records : RecordMap}
    (warm : (applied operation answer store).get key = some records) (id : String) :
    operation.tells? answer key id = some (records.find? id) ∨
    (operation.tells? answer key id = none ∧
      ∃ before, store.get key = some before ∧ records.find? id = before.find? id) := by
  cases made : operation.change? answer with
  | some change =>
    rw [applied_of_change made, RecordStore.get_setEntry_map] at warm
    obtain ⟨before, held, rfl⟩ := Option.map_eq_some_iff.mp warm
    rw [Operation.tells?_of_change made]
    by_cases own : change.key = key
    · rw [if_pos own, Change.find?_revise]
      by_cases named : change.id = id
      · simp [own, named]
      · simp [named, held]
    · simp [own, held]
  | none =>
    cases operation <;> cases answer <;> simp [Operation.change?] at made
    case list.records other listed =>
      rw [applied, RecordStore.replace, RecordStore.get_setEntry] at warm
      by_cases own : key = other
      · rw [if_pos own] at warm
        cases warm
        exact .inl (own ▸ Operation.tells?_list records)
      · rw [if_neg own] at warm
        exact .inr ⟨if_neg (Ne.symm own), records, warm, rfl⟩
    all_goals exact .inr ⟨rfl, records, warm, rfl⟩

/-! What a remote shows. -/

/-- A record that is held under a key is one of the key. -/
theorem Holdings.fits_of_content? {holdings : Holdings} {zone id : String} {key : RecordKey}
    (held : holdings.content? zone key id ≠ none) :
    holdings.IsUsed zone id ∧ holdings.Fits zone key id := by
  obtain ⟨content, given⟩ := Option.ne_none_iff_exists'.mp held
  have found := find_of_content? given
  refine ⟨holdings.used_of_find found, ?_⟩
  intro entry same
  rw [found] at same
  cases same
  exact ⟨rfl, rfl⟩

/-- The record has this address, or there is none with this identifier. -/
def Remote.Shows (remote : Remote σ) (holdings : Holdings) (key : RecordKey) (id : String)
    (address? : Option Address) : Prop :=
  ∃ zone, remote.owner? key.domain = some zone ∧
    (holdings.content? zone key id).map key.family.parseAddress = address?.map Except.ok

section

variable {remote : Remote σ} {holdings : Holdings} {key other : RecordKey}
  {zone id i content : String} {address : Address} {address? : Option Address}

theorem Remote.Shows.unique {second? : Option Address}
    (first : remote.Shows holdings key id address?)
    (second : remote.Shows holdings key id second?) : address? = second? := by
  obtain ⟨zone, owned, one⟩ := first
  obtain ⟨_, same, two⟩ := second
  obtain rfl := Option.some.inj (owned.symm.trans same)
  exact Option.map_injective (fun _ _ => Except.ok.inj) (one.symm.trans two)

/-- Records mirror the holdings if all that is found in them is shown, and all that is not is
not. -/
theorem Remote.exists_mirrors_iff (records : RecordMap) :
    (∃ zone, remote.owner? key.domain = some zone ∧ holdings.Mirrors zone key records) ↔
      ∀ id, remote.Shows holdings key id (records.find? id) := by
  constructor
  · rintro ⟨zone, owned, mirrors⟩ id
    exact ⟨zone, owned, (mirrors id).symm⟩
  · intro shown
    obtain ⟨zone, owned, _⟩ := shown ""
    refine ⟨zone, owned, fun id => ?_⟩
    obtain ⟨_, same, found⟩ := shown id
    obtain rfl := Option.some.inj (owned.symm.trans same)
    exact found.symm

/-! After a change of a record, only that record is shown in another way. -/

theorem Remote.shows_put_self (owned : remote.owner? key.domain = some zone) (valid : IsId id)
    (parsed : key.family.parseAddress content = .ok address) :
    remote.Shows
      (holdings.put zone id ⟨key.domain.wireName, key.family.recordType, content⟩ valid) key id
      (some address) := by
  refine ⟨zone, owned, ?_⟩
  simp [Holdings.content?_put, parsed]

theorem Remote.Shows.put_other (shown : remote.Shows holdings other i address?)
    (fits : holdings.Fits zone key id) (valid : IsId id) (apart : ¬ (key = other ∧ id = i)) :
    remote.Shows
      (holdings.put zone id ⟨key.domain.wireName, key.family.recordType, content⟩ valid) other i
      address? := by
  obtain ⟨place, owned, found⟩ := shown
  refine ⟨place, owned, ?_⟩
  rw [Holdings.content?_put]
  by_cases here : place = zone ∧ i = id
  · obtain ⟨rfl, rfl⟩ := here
    have foreign : other ≠ key := fun same => apart ⟨same.symm, rfl⟩
    simpa [foreign, fits.content?_eq_none foreign] using found
  · rw [if_neg here]
    exact found

theorem Remote.shows_drop_self (owned : remote.owner? key.domain = some zone) :
    remote.Shows (holdings.drop zone id) key id none := by
  refine ⟨zone, owned, ?_⟩
  simp [Holdings.content?_drop]

theorem Remote.Shows.drop_other (shown : remote.Shows holdings other i address?)
    (fits : holdings.Fits zone key id) (apart : ¬ (key = other ∧ id = i)) :
    remote.Shows (holdings.drop zone id) other i address? := by
  obtain ⟨place, owned, found⟩ := shown
  refine ⟨place, owned, ?_⟩
  rw [Holdings.content?_drop]
  by_cases here : place = zone ∧ i = id
  · obtain ⟨rfl, rfl⟩ := here
    have foreign : other ≠ key := fun same => apart ⟨same.symm, rfl⟩
    simpa [fits.content?_eq_none foreign] using found
  · rw [if_neg here]
    exact found

end

end AddressRecords
