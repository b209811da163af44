import AddressRecords.Json.Value

/-!
What can be read can be passed over. A reader goes through the nodes in the order of the text, and
asks of each at least what passing over it asks; so two readers of one object, each of which reads
some members and passes over the others, accept the members that both of them read alike.
-/

namespace AddressRecords

theorem exists_of_bind_eq_ok {ε α β : Type} {first : Except ε α} {next : α → Except ε β}
    {value : β} (h : first >>= next = .ok value) :
    ∃ found, first = .ok found ∧ next found = .ok value := by
  cases first with
  | error error => cases h
  | ok found => exact ⟨found, rfl, h⟩

namespace Json

variable {σ τ α : Type}

theorem exists_of_map_eq_ok {ε β : Type} {answer : Except ε α} {f : α → β} {value : β}
    (h : f <$> answer = .ok value) : ∃ found, answer = .ok found ∧ f found = value := by
  cases answer with
  | error error => cases h
  | ok found => exact ⟨found, rfl, Except.ok.inj h⟩

/-! Ends. -/

theorem ListEnd.skip_of_read {ending : ListEnd} (h : ending.read = .ok ()) :
    ending.skip = .ok () := by
  cases ending <;> first | rfl | cases h

theorem ObjectEnd.skip_of_read {ending : ObjectEnd} (h : ending.read = .ok ()) :
    ending.skip = .ok () := by
  cases ending <;> first | rfl | cases h

/-- What is read a level deeper was read. -/
theorem exists_of_enter {depth : Nat} {inside : Nat → Except Fault α} {value : α}
    (h : enter depth inside = .ok value) : ∃ below, inside below = .ok value := by
  unfold enter at h
  split at h
  · exact ⟨_, h⟩
  · cases h

/-! Values of any shape. -/

mutual

theorem Node.skip_of_value {depth : Nat} :
    ∀ {node : Node} {value : Value}, node.value depth = .ok value → node.skip = .ok ()
  | .null, _, _ => rfl
  | .boolean _, _, _ => rfl
  | .number token, _, h => by
    obtain ⟨number, read, -⟩ := exists_of_map_eq_ok h
    exact token.skip_of_read read
  | .string token, _, h => by
    obtain ⟨text, read, -⟩ := exists_of_map_eq_ok h
    exact token.skip_of_read read
  | .list items, _, h => by
    rw [Node.value] at h
    obtain ⟨below, inside⟩ := exists_of_enter h
    obtain ⟨values, read, -⟩ := exists_of_map_eq_ok inside
    exact items.skip_of_values read
  | .object members, _, h => by
    rw [Node.value] at h
    obtain ⟨below, inside⟩ := exists_of_enter h
    obtain ⟨values, read, -⟩ := exists_of_map_eq_ok inside
    exact members.skip_of_values read
  | .absent fault, _, h => nomatch h

theorem Items.skip_of_values {depth : Nat} :
    ∀ {items : Items} {values : List Value}, items.values depth = .ok values →
      items.skip = .ok ()
  | .done ending, _, h => by
    obtain ⟨_, read, -⟩ := exists_of_bind_eq_ok h
    exact ending.skip_of_read read
  | .item node rest, _, h => by
    obtain ⟨value, read, h⟩ := exists_of_bind_eq_ok h
    obtain ⟨values, more, -⟩ := exists_of_bind_eq_ok h
    rw [Items.skip, Node.skip_of_value read]
    exact Items.skip_of_values more

theorem Members.skip_of_values {depth : Nat} :
    ∀ {members : Members} {before values : List (String × Value)},
      members.values depth before = .ok values → members.skip = .ok ()
  | .done ending, _, _, h => by
    obtain ⟨_, read, -⟩ := exists_of_bind_eq_ok h
    exact ending.skip_of_read read
  | .member key node rest, _, _, h => by
    obtain ⟨name, named, h⟩ := exists_of_bind_eq_ok h
    obtain ⟨value, read, more⟩ := exists_of_bind_eq_ok h
    rw [Members.skip, key.skip_of_read named, Node.skip_of_value read]
    exact Members.skip_of_values more

end

/-! Lists and objects, as readers go through them. -/

namespace Items

variable {items rest : Items} {value : α}

/-- A list that ends where its end is due is closed. -/
theorem skip_of_finish (h : items.finish = .ok ()) : items.skip = .ok () := by
  unfold finish at h
  split at h <;> first | rfl | cases h

theorem skip_of_next {reader : Node → Except Fault α} {missing : Except Fault α}
    (passes : ∀ node value, reader node = .ok value → node.skip = .ok ())
    (h : items.next reader missing = .ok (value, rest)) (later : rest.skip = .ok ()) :
    items.skip = .ok () := by
  cases items with
  | done ending =>
    obtain ⟨_, read, h⟩ := exists_of_bind_eq_ok h
    exact ending.skip_of_read read
  | item node more =>
    obtain ⟨found, read, h⟩ := exists_of_bind_eq_ok h
    cases h
    rw [skip, passes node value read]
    exact later

end Items

namespace Members

variable {step : σ → String → Node → Except Fault σ}

/-- What a step accepts of each member can be passed over, and so can all of them. -/
theorem skip_of_fold
    (passes : ∀ state key node after, step state key node = .ok after → node.skip = .ok ()) :
    ∀ {members : Members} {state after : σ}, members.fold step state = .ok after →
      members.skip = .ok ()
  | .done ending, _, _, h => by
    obtain ⟨_, read, -⟩ := exists_of_bind_eq_ok h
    exact ending.skip_of_read read
  | .member key node rest, _, _, h => by
    obtain ⟨name, named, h⟩ := exists_of_bind_eq_ok h
    obtain ⟨between, read, more⟩ := exists_of_bind_eq_ok h
    rw [skip, key.skip_of_read named, passes _ name node between read]
    exact skip_of_fold passes more

/-- A step that follows another one in a part of the state follows it through all members. -/
theorem fold_of_part {other : τ → String → Node → Except Fault τ} (part : σ → τ)
    (follows : ∀ state key node after, step state key node = .ok after →
      other (part state) key node = .ok (part after)) :
    ∀ {members : Members} {state after : σ}, members.fold step state = .ok after →
      members.fold other (part state) = .ok (part after)
  | .done ending, _, _, h => by
    obtain ⟨_, read, same⟩ := exists_of_bind_eq_ok h
    cases same
    rw [fold, read]
    rfl
  | .member key node rest, _, _, h => by
    obtain ⟨name, named, h⟩ := exists_of_bind_eq_ok h
    obtain ⟨between, read, more⟩ := exists_of_bind_eq_ok h
    rw [fold, named]
    change (other _ name node >>= fun state => rest.fold other state) = _
    rw [follows _ name node between read]
    exact fold_of_part part follows more

end Members

/-! Readers. -/

namespace Reader

/-- What the reader accepts can be passed over. -/
def Passes (reader : Reader α) : Prop :=
  ∀ depth node value, reader depth node = .ok value → node.skip = .ok ()

/-- A field that was filled was empty, and holds the value. -/
theorem exists_of_fill {name : String} {slot filled : Option α} {value : Except Fault α}
    (h : fill name slot value = .ok filled) :
    slot = none ∧ ∃ found, value = .ok found ∧ filled = some found := by
  cases slot with
  | some held => cases h
  | none =>
    obtain ⟨found, given, same⟩ := exists_of_map_eq_ok h
    exact ⟨rfl, found, given, same.symm⟩

theorem value_passes : value.Passes := fun _ _ _ => Node.skip_of_value

theorem boolean_passes : boolean.Passes := by
  intro depth node value h
  cases node with
  | boolean => rfl
  | null | number | string | list | object | absent => cases h

theorem word32_passes : word32.Passes := by
  intro depth node value h
  obtain ⟨small, read, -⟩ := exists_of_map_eq_ok h
  cases node with
  | number token =>
    obtain ⟨number, scanned, -⟩ := exists_of_bind_eq_ok read
    exact token.skip_of_read scanned
  | null | boolean | string | list | object | absent => cases read

variable {reader : Reader α}

namespace Passes

theorem of_fill (h : reader.Passes) {name : String} {slot filled : Option α} {depth : Nat}
    {node : Node} (read : fill name slot (reader depth node) = .ok filled) :
    node.skip = .ok () := by
  obtain ⟨-, found, given, -⟩ := exists_of_fill read
  exact h depth node found given

theorem option (h : reader.Passes) : reader.option.Passes := by
  intro depth node value read
  unfold Reader.option at read
  split at read
  · rfl
  · obtain ⟨found, given, -⟩ := exists_of_map_eq_ok read
    exact h depth node found given

/-- A record can be passed over in both its forms, if its fields can. -/
theorem record {name : String} {ofItems : Nat → Items → Except Fault (α × Items)}
    {ofMembers : Nat → Members → Except Fault α}
    (inItems : ∀ depth items value rest, ofItems depth items = .ok (value, rest) →
      rest.skip = .ok () → items.skip = .ok ())
    (inMembers : ∀ depth members value, ofMembers depth members = .ok value →
      members.skip = .ok ()) : (Reader.record name ofItems ofMembers).Passes := by
  intro depth node value read
  cases node with
  | list items =>
    rw [Reader.record] at read
    obtain ⟨below, inside⟩ := exists_of_enter read
    obtain ⟨⟨found, rest⟩, fields, inside⟩ := exists_of_bind_eq_ok inside
    obtain ⟨_, finished, -⟩ := exists_of_bind_eq_ok inside
    exact inItems below items found rest fields (Items.skip_of_finish finished)
  | object members =>
    rw [Reader.record] at read
    obtain ⟨below, inside⟩ := exists_of_enter read
    exact inMembers below members value inside
  | null | boolean | number | string | absent => cases read

end Passes

end Reader

/-! Objects. -/

/-- The text is an object if it is anything: it starts with a brace. -/
def OpensObject (text : String) : Prop :=
  (Document.skipBlanks text.toList).head? = some (Char.ofNat 0x7b)

instance : DecidablePred OpensObject := fun _ => inferInstanceAs (Decidable (_ = _))

namespace Document

theorem exists_members_of_brace (steps : Nat) {text rest : List Char}
    (brace : skipBlanks text = Char.ofNat 0x7b :: rest) :
    ∃ members, (node (steps + 1) text).1 = .object members := by
  rw [node.eq_def, brace]
  dsimp only
  iterate 7 rw [if_neg (by decide)]
  rw [if_pos (by decide)]
  split
  · exact ⟨_, rfl⟩
  · split <;> exact ⟨_, rfl⟩

theorem exists_root_of_opensObject {text : String} (opens : OpensObject text) :
    ∃ members, (ofText text).root = .object members := by
  obtain ⟨rest, brace⟩ := List.head?_eq_some_iff.mp opens
  obtain ⟨members, first⟩ := exists_members_of_brace (2 * text.length + 1) brace
  refine ⟨members, ?_⟩
  rw [← first, ofText]
  split
  · rename_i given
    rw [given]
  · rename_i given
    rw [given]

end Document

end Json

end AddressRecords
