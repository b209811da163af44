import AddressRecords.Proofs.Remote.Mirror

/-!
All that a handle remembers, and all identifiers it was given, set against the holdings of a
remote: what an operation does on both sides leaves them in agreement.
-/

namespace AddressRecords

/-- Remembered records that mirror the holdings, and known identifiers that are not of other keys.
`owner?` tells the zone of a domain. -/
structure Agrees (owner? : Domain → Option String) (known : RecordKey → String → Prop)
    (holdings : Holdings) (store : RecordStore) : Prop where
  mirrors : ∀ key records, store.get key = some records →
    ∃ zone, owner? key.domain = some zone ∧ holdings.Mirrors zone key records
  fits : ∀ key id, known key id → ∃ zone, owner? key.domain = some zone ∧
    holdings.IsUsed zone id ∧ holdings.Fits zone key id

namespace Agrees

variable {owner? : Domain → Option String} {known : RecordKey → String → Prop}
  {holdings : Holdings} {store : RecordStore} {zone id content : String} {key : RecordKey}
  {records : RecordMap} {address : Address}

/-- A complete listing is remembered. -/
theorem listed (h : Agrees owner? known holdings store) (owned : owner? key.domain = some zone)
    (mirrors : holdings.Mirrors zone key records) :
    Agrees owner? (fun other i => known other i ∨ (key = other ∧ (records.find? i).isSome))
      holdings (store.replace key records) := by
  constructor
  case mirrors =>
    intro other held warm
    rw [RecordStore.replace, RecordStore.get_setEntry] at warm
    split at warm
    · rename_i own
      subst own
      cases warm
      exact ⟨zone, owned, mirrors⟩
    · exact h.mirrors other held warm
  case fits =>
    rintro other i (before | ⟨rfl, found⟩)
    · exact h.fits other i before
    · have shown := mirrors i
      obtain ⟨address, held⟩ := Option.isSome_iff_exists.mp found
      rw [held] at shown
      obtain ⟨content, given, _⟩ := Option.map_eq_some_iff.mp shown.symm
      have record := Holdings.find_of_content? given
      refine ⟨zone, owned, holdings.used_of_find record, ?_⟩
      intro entry same
      rw [record] at same
      cases same
      exact ⟨rfl, rfl⟩

/-- A record of the key is set on both sides. -/
theorem put (h : Agrees owner? known holdings store) (owned : owner? key.domain = some zone)
    (fits : holdings.Fits zone key id)
    (alone : ∀ other, known other id → owner? other.domain = some zone → other = key)
    (valid : IsId id) (parsed : key.family.parseAddress content = .ok address) :
    Agrees owner? (fun other i => known other i ∨ (key = other ∧ id = i))
      (holdings.put zone id ⟨key.domain.wireName, key.family.recordType, content⟩ valid)
      (store.upsertIfWarm key id address) := by
  constructor
  case mirrors =>
    intro other held warm
    rw [RecordStore.upsertIfWarm, RecordStore.get_setEntry_map] at warm
    obtain ⟨records, before, rfl⟩ := Option.map_eq_some_iff.mp warm
    obtain ⟨place, placed, mirrors⟩ := h.mirrors other records before
    refine ⟨place, placed, ?_⟩
    by_cases own : key = other
    · subst own
      obtain rfl : place = zone := Option.some.inj (placed.symm.trans owned)
      rw [if_pos rfl]
      exact mirrors.insert valid parsed
    · rw [if_neg own]
      exact mirrors.put_other fits (Ne.symm own) valid
  case fits =>
    rintro other i (before | ⟨rfl, rfl⟩)
    · obtain ⟨place, placed, used, otherFits⟩ := h.fits other i before
      refine ⟨place, placed, .inl used, ?_⟩
      intro entry found
      by_cases here : place = zone ∧ i = id
      · obtain ⟨rfl, rfl⟩ := here
        obtain rfl := alone other before placed
        simp only [Holdings.put, and_self, if_true, Option.some.injEq] at found
        exact found ▸ ⟨rfl, rfl⟩
      · simp only [Holdings.put, if_neg here] at found
        exact otherFits entry found
    · refine ⟨zone, owned, .inr ⟨rfl, rfl⟩, ?_⟩
      intro entry found
      simp only [Holdings.put, and_self, if_true, Option.some.injEq] at found
      exact found ▸ ⟨rfl, rfl⟩

/-- A record of the key is dropped on both sides. -/
theorem drop (h : Agrees owner? known holdings store) (owned : owner? key.domain = some zone)
    (fits : holdings.Fits zone key id) :
    Agrees owner? known (holdings.drop zone id) (store.removeIfWarm key id) := by
  constructor
  case mirrors =>
    intro other held warm
    rw [RecordStore.removeIfWarm, RecordStore.get_setEntry_map] at warm
    obtain ⟨records, before, rfl⟩ := Option.map_eq_some_iff.mp warm
    obtain ⟨place, placed, mirrors⟩ := h.mirrors other records before
    refine ⟨place, placed, ?_⟩
    by_cases own : key = other
    · subst own
      obtain rfl : place = zone := Option.some.inj (placed.symm.trans owned)
      rw [if_pos rfl]
      exact mirrors.erase
    · rw [if_neg own]
      exact mirrors.drop_other fits (Ne.symm own)
  case fits =>
    intro other i before
    obtain ⟨place, placed, used, otherFits⟩ := h.fits other i before
    refine ⟨place, placed, used, ?_⟩
    intro entry found
    by_cases here : place = zone ∧ i = id
    · simp [Holdings.drop, here] at found
    · simp only [Holdings.drop, if_neg here] at found
      exact otherFits entry found

/-- An identifier that was never used is of no key yet. -/
theorem created (h : Agrees owner? known holdings store) (owned : owner? key.domain = some zone)
    (unused : ¬ holdings.IsUsed zone id) (valid : IsId id)
    (parsed : key.family.parseAddress content = .ok address) :
    Agrees owner? (fun other i => known other i ∨ (key = other ∧ id = i))
      (holdings.put zone id ⟨key.domain.wireName, key.family.recordType, content⟩ valid)
      (store.upsertIfWarm key id address) := by
  refine h.put owned ?_ ?_ valid parsed
  · intro entry found
    exact absurd (holdings.used_of_find found) unused
  · intro other given owns
    obtain ⟨place, placed, used, _⟩ := h.fits other id given
    obtain rfl : place = zone := Option.some.inj (placed.symm.trans owns)
    exact absurd used unused

/-- The record that a known identifier stands for is of no other key. -/
theorem updated (h : Agrees owner? known holdings store) (owned : owner? key.domain = some zone)
    (given : known key id) (existing : holdings.find? zone id ≠ none) (valid : IsId id)
    (parsed : key.family.parseAddress content = .ok address) :
    Agrees owner? known
      (holdings.put zone id ⟨key.domain.wireName, key.family.recordType, content⟩ valid)
      (store.upsertIfWarm key id address) := by
  have fits {other : RecordKey} (given : known other id) (owns : owner? other.domain = some zone) :
      holdings.Fits zone other id := by
    obtain ⟨place, placed, _, fits⟩ := h.fits other id given
    obtain rfl : place = zone := Option.some.inj (placed.symm.trans owns)
    exact fits
  have alone : ∀ other, known other id → owner? other.domain = some zone → other = key := by
    intro other otherGiven owns
    obtain ⟨entry, found⟩ := Option.ne_none_iff_exists'.mp existing
    exact Holdings.key_unique (fits given owned entry found) (fits otherGiven owns entry found)
  have both := h.put owned (fits given owned) alone valid parsed
  exact ⟨both.mirrors, fun other i before => both.fits other i (.inl before)⟩

theorem deleted (h : Agrees owner? known holdings store) (owned : owner? key.domain = some zone)
    (given : known key id) :
    Agrees owner? known (holdings.drop zone id) (store.removeIfWarm key id) := by
  obtain ⟨place, placed, _, fits⟩ := h.fits key id given
  obtain rfl : place = zone := Option.some.inj (placed.symm.trans owned)
  exact h.drop owned fits

end Agrees

end AddressRecords
