import AddressRecords.Zone.Cache

/-!
What one look-up does: a name that has a list gets it and nothing changes; any other name but the
root is asked for once, and only its own cell changes.
-/

namespace AddressRecords

namespace ZoneCache

/-! Cells. -/

theorem lookup_setCell_self (name : String) (content : Option (List Zone))
    (cells : List (String × Option (List Zone))) :
    (setCell name content cells).lookup name = some content := by
  induction cells with
  | nil => simp [setCell]
  | cons cell rest ih =>
    obtain ⟨other, held⟩ := cell
    by_cases same : other = name
    · simp [setCell, same]
    · simp [setCell, same, List.lookup_cons, beq_eq_false_iff_ne.mpr (Ne.symm same), ih]

theorem lookup_setCell_of_ne {name other : String} (different : other ≠ name)
    (content : Option (List Zone)) (cells : List (String × Option (List Zone))) :
    (setCell name content cells).lookup other = cells.lookup other := by
  have apart : (other == name) = false := beq_eq_false_iff_ne.mpr different
  induction cells with
  | nil => simp [setCell, List.lookup_cons, apart]
  | cons cell rest ih =>
    obtain ⟨first, held⟩ := cell
    by_cases same : first = name
    · simp [setCell, same, List.lookup_cons, apart]
    · simp [setCell, same, List.lookup_cons, ih]

@[simp] theorem find?_set_self (cache : ZoneCache) (name : String)
    (content : Option (List Zone)) : (cache.set name content).find? name = content := by
  simp [find?, set, lookup_setCell_self]

theorem find?_set_of_ne {name other : String} (different : other ≠ name) (cache : ZoneCache)
    (content : Option (List Zone)) : (cache.set name content).find? other = cache.find? other := by
  simp [find?, set, lookup_setCell_of_ne different]

/-! Look-ups. -/

variable {σ : Type} (source : ZoneSource σ) {name : String} {state : ZoneCache × σ}

@[simp] theorem lookup_root (state : ZoneCache × σ) :
    lookup source "" state = ⟨.ok [], state, []⟩ := rfl

theorem lookup_hit {zones : List Zone} (named : name ≠ "")
    (known : state.1.find? name = some zones) :
    (lookup source name state).value = .ok zones ∧ (lookup source name state).state = state := by
  simp [lookup, named, known]

/-- A source is asked about a name without a list, and its answer is passed on. -/
theorem lookup_miss (named : name ≠ "") (unknown : state.1.find? name = none) :
    (lookup source name state).value = (source name state.2).value ∧
    (lookup source name state).state =
      (state.1.set name (source name state.2).value.toOption, (source name state.2).state) := by
  simp [lookup, named, unknown]

/-- A look-up leaves the lists of all other names as they are. -/
theorem find?_lookup_of_ne {other : String} (different : other ≠ name) :
    (lookup source name state).state.1.find? other = state.1.find? other := by
  by_cases root : name = ""
  · simp [root]
  · cases known : state.1.find? name with
    | some zones => rw [(lookup_hit source root known).2]
    | none => rw [(lookup_miss source root known).2, find?_set_of_ne different]

end ZoneCache

/-! What a source is asked. -/

/-- Each name that a source was asked for, with its answer. -/
abbrev Journal := List (String × Except Api.Failure (List Zone))

/-- The source, keeping a journal of what it is asked. -/
def ZoneSource.journaled {σ : Type} (source : ZoneSource σ) : ZoneSource (Journal × σ) :=
  fun name state =>
    let done := source name state.2
    ⟨done.value, (state.1 ++ [(name, done.value)], done.state), done.events⟩

section

variable {σ : Type} (source : ZoneSource σ) (name : String) (state : Journal × σ)

@[simp] theorem journaled_value :
    (source.journaled name state).value = (source name state.2).value := rfl

@[simp] theorem journaled_state :
    (source.journaled name state).state =
      (state.1 ++ [(name, (source name state.2).value)], (source name state.2).state) := rfl

end

/-- A journal does not change what a look-up gives and does. -/
theorem lookup_journaled {σ : Type} (source : ZoneSource σ) (name : String) (cache : ZoneCache)
    (journal : Journal) (remote : σ) :
    let plain := ZoneCache.lookup source name (cache, remote)
    let done := ZoneCache.lookup source.journaled name (cache, (journal, remote))
    done.value = plain.value ∧ done.state.1 = plain.state.1 ∧ done.state.2.2 = plain.state.2 := by
  by_cases root : name = ""
  · simp [root]
  · cases known : cache.find? name <;> simp [ZoneCache.lookup, root, known]

end AddressRecords
