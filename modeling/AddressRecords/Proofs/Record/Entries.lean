import AddressRecords.Proofs.Record.Map
import AddressRecords.Proofs.Record.Remembered

/-!
The entries of a record store do not know of each other. A run of uses is, seen from one key, the
run of the uses of that key on one entry by itself, which starts cold; what it answers is what the
store answers. So uses of two keys can be made in either order.
-/

namespace AddressRecords

/-- A use of one entry. -/
inductive EntryUse
  | get
  | replace (records : RecordMap)
  | upsert (id : String) (address : Address)
  | remove (id : String)

inductive EntryReply
  | held (records : Option RecordMap)
  | replaced
  /-- A change to one record tells whether the entry was warm. -/
  | changed (wasWarm : Bool)

/-- A use of an entry that stands by itself. -/
def EntryUse.apply (entry : Option RecordMap) : EntryUse → EntryReply × Option RecordMap
  | get => (.held entry, entry)
  | replace records => (.replaced, some records)
  | upsert id address => (.changed entry.isSome, entry.map (·.insert id address))
  | remove id => (.changed entry.isSome, entry.map (·.erase id))

structure StoreUse where
  key : RecordKey
  use : EntryUse

/-- A use of the entry that a store has for a key. -/
def StoreUse.apply (store : RecordStore) : StoreUse → EntryReply × RecordStore
  | ⟨key, .get⟩ => (.held (store.get key), store)
  | ⟨key, .replace records⟩ => (.replaced, store.replace key records)
  | ⟨key, .upsert id address⟩ =>
    (.changed (store.isWarm key), store.upsertIfWarm key id address)
  | ⟨key, .remove id⟩ => (.changed (store.isWarm key), store.removeIfWarm key id)

/-! Runs. -/

section

variable {σ α β : Type} (apply : σ → α → β × σ)

/-- What several uses answer, one after the other, and what they leave. -/
def applyAll (state : σ) : List α → List (α × β) × σ
  | [] => ([], state)
  | use :: rest =>
    let (reply, next) := apply state use
    let (replies, last) := applyAll next rest
    ((use, reply) :: replies, last)

theorem applyAll_cons (state : σ) (use : α) (rest : List α) :
    applyAll apply state (use :: rest) =
      ((use, (apply state use).1) :: (applyAll apply (apply state use).2 rest).1,
        (applyAll apply (apply state use).2 rest).2) := rfl

end

namespace RecordStore

@[ext]
theorem ext {first second : RecordStore} (h : ∀ key, first.get key = second.get key) :
    first = second :=
  congrArg mk (funext h)

variable (store : RecordStore) (use : StoreUse) (key : RecordKey)

/-- The answer to a use is that of its own entry. -/
theorem reply_apply : (use.apply store).1 = (use.use.apply (store.get use.key)).1 := by
  obtain ⟨own, use⟩ := use
  cases use <;> rfl

/-- A use changes its own entry, as if that stood by itself. -/
theorem apply_eq_setEntry :
    (use.apply store).2 = store.setEntry use.key (use.use.apply (store.get use.key)).2 := by
  obtain ⟨own, use⟩ := use
  cases use with
  | get => exact (store.setEntry_get own).symm
  | replace | upsert | remove => rfl

/-- A use changes no other entry. -/
theorem get_apply : (use.apply store).2.get key =
    if use.key = key then (use.use.apply (store.get key)).2 else store.get key := by
  rw [apply_eq_setEntry, get_setEntry]
  by_cases own : use.key = key
  · rw [if_pos own, if_pos own.symm, own]
  · rw [if_neg own, if_neg (Ne.symm own)]

/-! Runs. -/

/-- The uses of one key. -/
def usesOf (key : RecordKey) (uses : List StoreUse) : List EntryUse :=
  (uses.filter (·.key = key)).map (·.use)

/-- What a run answers to the uses of one key. -/
def repliesTo (key : RecordKey) (answered : List (StoreUse × EntryReply)) :
    List (EntryUse × EntryReply) :=
  (answered.filter (·.1.key = key)).map fun (use, reply) => (use.use, reply)

/-- Seen from one key, a run is the run of its own uses on its entry. -/
theorem applyAll_of_key (uses : List StoreUse) :
    repliesTo key (applyAll StoreUse.apply store uses).1 =
        (applyAll EntryUse.apply (store.get key) (usesOf key uses)).1 ∧
      (applyAll StoreUse.apply store uses).2.get key =
        (applyAll EntryUse.apply (store.get key) (usesOf key uses)).2 := by
  induction uses generalizing store with
  | nil => exact ⟨rfl, rfl⟩
  | cons use rest ih =>
    obtain ⟨replies, entry⟩ := ih (use.apply store).2
    have next := store.get_apply use key
    by_cases own : use.key = key
    · have reply := store.reply_apply use
      rw [own] at reply
      rw [if_pos own] at next
      have first : usesOf key (use :: rest) = use.use :: usesOf key rest := by simp [usesOf, own]
      rw [first, applyAll_cons, applyAll_cons, ← next, ← reply, ← replies, ← entry]
      exact ⟨by simp [repliesTo, own], rfl⟩
    · rw [if_neg own] at next
      have first : usesOf key (use :: rest) = usesOf key rest := by simp [usesOf, own]
      rw [first, applyAll_cons, ← next, ← replies, ← entry]
      exact ⟨by simp [repliesTo, own], rfl⟩

/-- Runs that use each key alike leave the same store, however the keys take turns. -/
theorem applyAll_congr {uses others : List StoreUse}
    (alike : ∀ key, usesOf key others = usesOf key uses) :
    (applyAll StoreUse.apply store others).2 = (applyAll StoreUse.apply store uses).2 := by
  ext key : 1
  rw [(store.applyAll_of_key key others).2, (store.applyAll_of_key key uses).2, alike key]

/-! Two uses, and one. -/

/-- The order of two uses makes no difference, neither to what is left nor to the answers. -/
structure Commutes (one other : StoreUse) : Prop where
  left : (other.apply (one.apply store).2).2 = (one.apply (other.apply store).2).2
  reply : (one.apply (other.apply store).2).1 = (one.apply store).1
  otherReply : (other.apply (one.apply store).2).1 = (other.apply store).1

theorem commutes_of_ne {one other : StoreUse} (apart : one.key ≠ other.key) :
    store.Commutes one other := by
  constructor
  case left =>
    ext key : 1
    by_cases own : one.key = key
    · have foreign : other.key ≠ key := fun same => apart (own.trans same.symm)
      simp only [get_apply, own, foreign, if_true, if_false]
    · simp only [get_apply, own, if_false]
  case reply => rw [reply_apply, reply_apply, get_apply, if_neg (Ne.symm apart)]
  case otherReply => rw [reply_apply, reply_apply, get_apply, if_neg apart]

end RecordStore

/-- What a change to one record does to an entry, and the answer. A cold entry stays cold. -/
inductive Patches (id : String) (address : Option Address) :
    Option RecordMap → Option RecordMap → EntryReply → Prop
  | cold : Patches id address none none (.changed false)
  | warm {before after : RecordMap} (here : after.find? id = address)
      (elsewhere : ∀ other, other ≠ id → after.find? other = before.find? other) :
      Patches id address (some before) (some after) (.changed true)

namespace EntryUse

variable (entry : Option RecordMap) (id : String)

theorem patches_upsert (address : Address) : Patches id (some address) entry
    ((upsert id address).apply entry).2 ((upsert id address).apply entry).1 := by
  cases entry with
  | none => exact .cold
  | some records =>
    refine .warm ?_ ?_
    · rw [RecordMap.find?_insert, if_pos rfl]
    · intro other apart
      rw [RecordMap.find?_insert, if_neg apart]

theorem patches_remove : Patches id none entry ((remove id).apply entry).2
    ((remove id).apply entry).1 := by
  cases entry with
  | none => exact .cold
  | some records =>
    refine .warm ?_ ?_
    · rw [RecordMap.find?_erase, if_pos rfl]
    · intro other apart
      rw [RecordMap.find?_erase, if_neg apart]

end EntryUse

namespace RecordStore

/-- What a run on a fresh store comes to for one key, and what a further use does. -/
structure StandsAlone (uses : List StoreUse) (store : RecordStore) (key : RecordKey) : Prop where
  entry : store.get key = (applyAll EntryUse.apply none (usesOf key uses)).2
  replies : repliesTo key (applyAll StoreUse.apply empty uses).1 =
    (applyAll EntryUse.apply none (usesOf key uses)).1
  /-- However the keys took turns. -/
  turns : ∀ others, (∀ key, usesOf key others = usesOf key uses) →
    (applyAll StoreUse.apply empty others).2 = store
  read : (StoreUse.mk key .get).apply store = (.held (store.get key), store)
  replaced : ∀ records,
    ((StoreUse.mk key (.replace records)).apply store).2.get key = some records
  upserted : ∀ id address, let done := (StoreUse.mk key (.upsert id address)).apply store
    Patches id (some address) (store.get key) (done.2.get key) done.1
  removed : ∀ id, let done := (StoreUse.mk key (.remove id)).apply store
    Patches id none (store.get key) (done.2.get key) done.1
  /-- Keys of two domains or of two families; a wildcard is another domain than its own name. -/
  commutes : ∀ use other : StoreUse,
    use.key.domain ≠ other.key.domain ∨ use.key.family ≠ other.key.family ∨
      (∃ name, use.key.domain = .literal name ∧ other.key.domain = .wildcard name) →
    store.Commutes use other

/-- Whatever a store is used for, each entry is what its own uses make of a cold one. -/
theorem standsAlone_of_run (uses : List StoreUse) (key : RecordKey) :
    StandsAlone uses (applyAll StoreUse.apply empty uses).2 key := by
  generalize left : (applyAll StoreUse.apply empty uses).2 = store
  obtain ⟨replies, entry⟩ := applyAll_of_key empty key uses
  constructor
  case entry => exact left ▸ entry
  case replies => exact replies
  case turns => exact fun others alike => (applyAll_congr empty alike).trans left
  case read => rfl
  case replaced =>
    intro records
    rw [get_apply, if_pos rfl]
    rfl
  case upserted =>
    intro id address
    dsimp only
    rw [get_apply, reply_apply, if_pos rfl]
    exact EntryUse.patches_upsert (store.get key) id address
  case removed =>
    intro id
    dsimp only
    rw [get_apply, reply_apply, if_pos rfl]
    exact EntryUse.patches_remove (store.get key) id
  case commutes =>
    intro use other apart
    refine store.commutes_of_ne fun same => ?_
    rcases apart with domains | families | ⟨name, literal, wildcard⟩
    · exact domains (congrArg RecordKey.domain same)
    · exact families (congrArg RecordKey.family same)
    · rw [same, wildcard] at literal
      cases literal

end RecordStore

end AddressRecords
