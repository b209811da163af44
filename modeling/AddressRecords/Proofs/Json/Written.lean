import AddressRecords.Proofs.Json.Tokens
import Mathlib.Data.List.Induction

/-!
What is written is taken apart as it was put together, and read as the value that was written.
-/

namespace AddressRecords.Json

/-! Documents. -/

/-- Whether the number is an integer of 64 bits. -/
def Number.isExact : Number → Bool
  | .natural value => Scan.fitsInteger false value
  | .negative magnitude => Scan.fitsInteger true magnitude
  | .real _ => false

mutual

/-- Whether all numbers in the value are exact. -/
def Value.isExact : Value → Bool
  | .null | .boolean _ | .string _ => true
  | .number value => value.isExact
  | .list items => areExact items
  | .object members => haveExact members

def areExact : List Value → Bool
  | [] => true
  | value :: rest => value.isExact && areExact rest

def haveExact : List (String × Value) → Bool
  | [] => true
  | (_, value) :: rest => value.isExact && haveExact rest

end

mutual

/-- How the text of a value is taken apart. -/
def Value.node : Value → Node
  | .null => .null
  | .boolean value => .boolean value
  | .number value => .number (.whole (.ok value))
  | .string value => .string (.whole (.ok value))
  | .list items => .list (itemNodes items)
  | .object members => .object (memberNodes members)

def itemNodes : List Value → Items
  | [] => .done .closed
  | value :: rest => .item value.node (itemNodes rest)

def memberNodes : List (String × Value) → Members
  | [] => .done .closed
  | (key, value) :: rest => .member (.whole (.ok key)) value.node (memberNodes rest)

end

namespace Document

section

variable {c : Char} {rest : List Char}

theorem skipBlanks_cons (visible : isBlank c = false) : skipBlanks (c :: rest) = c :: rest := by
  rw [skipBlanks, List.dropWhile_cons_of_neg (by simp [visible])]

/-- A text that goes on with a value. -/
def Begins (text : List Char) : Prop :=
  ∃ c rest, text = c :: rest ∧ isBlank c = false ∧ c ≠ ']'

theorem begins_toDigits (n : Nat) : ∃ c more, Nat.toDigits 10 n = c :: more ∧ c.isDigit := by
  have some_digits : Nat.toDigits 10 n ≠ [] := Nat.toDigits_ne_nil
  obtain ⟨c, more, digits⟩ := List.exists_cons_of_ne_nil some_digits
  refine ⟨c, more, digits, ?_⟩
  exact Nat.isDigit_of_mem_toDigits (by decide) (by decide) (digits ▸ List.mem_cons_self)

theorem ne_of_isDigit {d : Char} (digit : c.isDigit) (other : d.isDigit = false) : c ≠ d := by
  rintro rfl
  rw [digit] at other
  cases other

theorem isBlank_of_isDigit (digit : c.isDigit) : isBlank c = false := by
  simp [isBlank, ne_of_isDigit (d := ' ') digit rfl, ne_of_isDigit (d := '\n') digit rfl,
    ne_of_isDigit (d := '\t') digit rfl, ne_of_isDigit (d := '\r') digit rfl]

theorem begins_chars {value : Value} (exact : value.isExact) (rest : List Char) :
    Begins (value.chars ++ rest) := by
  cases value with
  | null => exact ⟨'n', _, rfl, by decide, by decide⟩
  | boolean value =>
    cases value
    · exact ⟨'f', _, rfl, by decide, by decide⟩
    · exact ⟨'t', _, rfl, by decide, by decide⟩
  | number value =>
    cases value with
    | natural n =>
      obtain ⟨c, more, digits, digit⟩ := begins_toDigits n
      refine ⟨c, more ++ rest, ?_, isBlank_of_isDigit digit, ne_of_isDigit digit rfl⟩
      rw [Value.chars, numberChars, digits, List.cons_append]
    | negative magnitude =>
      exact ⟨'-', _, by rw [Value.chars, numberChars]; rfl, by decide, by decide⟩
    | real value => cases exact
  | string value => exact ⟨'"', _, by rw [Value.chars, stringChars]; rfl, by decide, by decide⟩
  | list items => exact ⟨'[', _, by rw [Value.chars]; rfl, by decide, by decide⟩
  | object members => exact ⟨Char.ofNat 0x7b, _, by rw [Value.chars]; rfl, by decide, by decide⟩

/-- Closing signs and commas end numbers. -/
theorem endsNumber_cons (other : extendsNumber c = false) (rest : List Char) :
    EndsNumber (c :: rest) := by
  rintro _ ⟨⟩
  exact other

/-! What the first character of a value decides. -/

variable (steps : Nat)

theorem node_number {number : Number} (exact : number.isExact) (ends : EndsNumber rest) :
    node (steps + 1) (numberChars number ++ rest) = (.number (.whole (.ok number)), some rest) := by
  cases number with
  | natural n =>
    have scanned := Scan.number_toDigits ends exact
    obtain ⟨c, more, digits, digit⟩ := begins_toDigits n
    rw [digits, List.cons_append] at scanned
    rw [numberChars, digits, List.cons_append, node.eq_def,
      skipBlanks_cons (isBlank_of_isDigit digit)]
    dsimp only
    rw [if_neg (ne_of_isDigit digit rfl), if_neg (ne_of_isDigit digit rfl),
      if_neg (ne_of_isDigit digit rfl), if_neg (ne_of_isDigit digit rfl), if_pos digit, scanned]
    rfl
  | negative magnitude =>
    have scanned := Scan.number_toDigits ends exact
    rw [numberChars, List.cons_append, node.eq_def, skipBlanks_cons rfl]
    dsimp only
    rw [if_neg (by decide), if_neg (by decide), if_neg (by decide), if_pos rfl, scanned]
    rfl
  | real value => cases exact

theorem node_string (text : String) :
    node (steps + 1) (stringChars text ++ rest) = (.string (.whole (.ok text)), some rest) := by
  rw [stringChars, List.cons_append, List.cons_append, List.append_assoc, List.singleton_append,
    node.eq_def, skipBlanks_cons rfl]
  dsimp only
  rw [if_neg (by decide), if_neg (by decide), if_neg (by decide), if_neg (by decide),
    if_neg (by decide), if_pos rfl, Scan.string_written]
  rfl

theorem node_list {text : List Char} (begins : Begins text) :
    node (steps + 1) ('[' :: text) = (.list (items steps text).1, (items steps text).2) := by
  obtain ⟨c, more, rfl, visible, other⟩ := begins
  rw [node.eq_def, skipBlanks_cons rfl]
  dsimp only
  rw [if_neg (by decide), if_neg (by decide), if_neg (by decide), if_neg (by decide),
    if_neg (by decide), if_neg (by decide), if_pos rfl, skipBlanks_cons visible]
  split
  case h_1 none => cases none
  case h_2 closed => exact absurd (List.cons.inj closed).1 other
  case h_3 => rfl

theorem node_empty_list (rest : List Char) :
    node (steps + 1) ('[' :: ']' :: rest) = (.list (.done .closed), some rest) := by
  rw [node.eq_def, skipBlanks_cons rfl]
  rfl

theorem node_object (text : List Char) :
    node (steps + 1) (Char.ofNat 0x7b :: '"' :: text) =
      (.object (members steps ('"' :: text)).1, (members steps ('"' :: text)).2) := by
  rw [node.eq_def, skipBlanks_cons rfl]
  rfl

theorem node_empty_object (rest : List Char) :
    node (steps + 1) (Char.ofNat 0x7b :: Char.ofNat 0x7d :: rest) =
      (.object (.done .closed), some rest) := by
  rw [node.eq_def, skipBlanks_cons rfl]
  rfl

variable {steps} {text : List Char} {value : Node}

theorem items_last (read : node steps text = (value, some (']' :: rest))) :
    items (steps + 1) text = (.item value (.done .closed), some rest) := by
  rw [items, read]
  rfl

theorem items_more (read : node steps text = (value, some (',' :: rest))) (begins : Begins rest) :
    items (steps + 1) text = (.item value (items steps rest).1, (items steps rest).2) := by
  obtain ⟨c, more, rfl, visible, other⟩ := begins
  rw [items, read]
  dsimp only
  rw [skipBlanks_cons rfl]
  simp only [skipBlanks_cons visible]
  split
  case h_1 none => cases none
  case h_2 closed => exact absurd (List.cons.inj closed).1 other
  case h_3 => rfl

variable (key : String)

theorem members_last (read : node steps text = (value, some (Char.ofNat 0x7d :: rest))) :
    members (steps + 1) (stringChars key ++ ':' :: text) =
      (.member (.whole (.ok key)) value (.done .closed), some rest) := by
  rw [stringChars, List.cons_append, List.cons_append, List.append_assoc, List.singleton_append,
    members, Scan.string_written]
  dsimp only
  rw [skipBlanks_cons rfl]
  simp only [read]
  rfl

theorem members_more (read : node steps text = (value, some (',' :: '"' :: rest))) :
    members (steps + 1) (stringChars key ++ ':' :: text) =
      (.member (.whole (.ok key)) value (members steps ('"' :: rest)).1,
        (members steps ('"' :: rest)).2) := by
  rw [stringChars, List.cons_append, List.cons_append, List.append_assoc, List.singleton_append,
    members, Scan.string_written]
  dsimp only
  rw [skipBlanks_cons rfl]
  simp only [read]
  rfl

end

/-! Whole values. Every step of taking a text apart takes a character of it, so that there are steps
enough if there are as many as characters. -/

theorem some_chars {value : Value} (exact : value.isExact) : 0 < value.chars.length := by
  obtain ⟨c, rest, text, -, -⟩ := begins_chars exact []
  rw [List.append_nil] at text
  rw [text]
  exact Nat.succ_pos _

theorem itemChars_cons_cons (value next : Value) (more : List Value) :
    itemChars (value :: next :: more) = value.chars ++ ',' :: itemChars (next :: more) := by
  rw [itemChars]
  exact List.cons_ne_nil next more

theorem memberChars_cons_cons (key : String) (value : Value) (next : String × Value)
    (more : List (String × Value)) :
    memberChars ((key, value) :: next :: more) =
      stringChars key ++ ':' :: value.chars ++ ',' :: memberChars (next :: more) := by
  rw [memberChars]
  exact List.cons_ne_nil next more

theorem begins_itemChars {items : List Value} (exact : areExact items) (some_items : items ≠ [])
    (rest : List Char) : Begins (itemChars items ++ rest) := by
  match items, exact with
  | [], _ => exact absurd rfl some_items
  | [value], exact => exact begins_chars (Bool.and_eq_true_iff.mp exact).1 rest
  | value :: next :: more, exact =>
    rw [itemChars_cons_cons, List.append_assoc]
    exact begins_chars (Bool.and_eq_true_iff.mp exact).1 _

theorem begins_memberChars {members : List (String × Value)} (some_members : members ≠ []) :
    ∃ text, memberChars members = '"' :: text := by
  refine List.head?_eq_some_iff.mp ?_
  match members with
  | [] => exact absurd rfl some_members
  | [(key, value)] =>
    rw [memberChars, stringChars]
    rfl
  | (key, value) :: next :: more =>
    rw [memberChars_cons_cons, stringChars]
    rfl

mutual

theorem node_chars (value : Value) (exact : value.isExact) (steps : Nat) {rest : List Char}
    (enough : value.chars.length ≤ steps) (ends : EndsNumber rest) :
    node steps (value.chars ++ rest) = (value.node, some rest) := by
  have some_steps : 0 < steps := Nat.lt_of_lt_of_le (some_chars exact) enough
  obtain ⟨left, rfl⟩ := Nat.exists_eq_add_of_lt some_steps
  rw [Nat.zero_add] at enough ⊢
  match value, exact with
  | .null, _ | .boolean true, _ | .boolean false, _ =>
    rw [Value.chars, List.cons_append, node.eq_def, skipBlanks_cons rfl]
    rfl
  | .number number, exact =>
    rw [Value.chars, Value.node]
    exact node_number left exact ends
  | .string text, _ =>
    rw [Value.chars, Value.node]
    exact node_string left text
  | .list [], _ =>
    rw [Value.chars]
    exact node_empty_list left rest
  | .list (item :: more), exact =>
    rw [Value.chars, List.length_append, List.length_cons, List.length_singleton] at enough
    have begins : Begins (itemChars (item :: more) ++ ']' :: rest) :=
      begins_itemChars exact (List.cons_ne_nil item more) _
    have inside := items_chars (item :: more) exact (List.cons_ne_nil item more) left rest
      (by omega)
    rw [Value.chars, List.cons_append, List.cons_append, List.append_assoc, List.singleton_append,
      node_list left begins, inside]
    rfl
  | .object [], _ =>
    rw [Value.chars]
    exact node_empty_object left rest
  | .object (member :: more), exact =>
    rw [Value.chars, List.length_append, List.length_cons, List.length_singleton] at enough
    have inside := members_chars (member :: more) exact (List.cons_ne_nil member more) left rest
      (by omega)
    obtain ⟨text, begins⟩ := begins_memberChars (List.cons_ne_nil member more)
    rw [begins, List.cons_append] at inside
    rw [Value.chars, List.cons_append, List.cons_append, List.append_assoc, List.singleton_append,
      begins, List.cons_append, node_object, inside]
    rfl

theorem items_chars (items : List Value) (exact : areExact items) (some_items : items ≠ [])
    (steps : Nat) (rest : List Char) (enough : (itemChars items).length < steps) :
    Document.items steps (itemChars items ++ ']' :: rest) = (itemNodes items, some rest) := by
  obtain ⟨left, rfl⟩ := Nat.exists_eq_add_of_lt (Nat.zero_lt_of_lt enough)
  rw [Nat.zero_add] at enough ⊢
  match items, exact with
  | [], _ => exact absurd rfl some_items
  | [value], exact =>
    have first := (Bool.and_eq_true_iff.mp exact).1
    rw [itemChars] at enough ⊢
    have read := node_chars value first left (by omega)
      (endsNumber_cons (c := ']') rfl rest)
    exact items_last read
  | value :: next :: more, exact =>
    obtain ⟨first, others⟩ := Bool.and_eq_true_iff.mp exact
    rw [itemChars_cons_cons, List.length_append, List.length_cons] at enough
    have read := node_chars value first left (by omega)
      (endsNumber_cons (c := ',') rfl (itemChars (next :: more) ++ ']' :: rest))
    have behind := items_chars (next :: more) others (List.cons_ne_nil next more) left rest
      (by omega)
    rw [itemChars_cons_cons, List.append_assoc, List.cons_append,
      items_more read (begins_itemChars others (List.cons_ne_nil next more) _), behind]
    rfl

theorem members_chars (members : List (String × Value)) (exact : haveExact members)
    (some_members : members ≠ []) (steps : Nat) (rest : List Char)
    (enough : (memberChars members).length < steps) :
    Document.members steps (memberChars members ++ Char.ofNat 0x7d :: rest) =
      (memberNodes members, some rest) := by
  obtain ⟨left, rfl⟩ := Nat.exists_eq_add_of_lt (Nat.zero_lt_of_lt enough)
  rw [Nat.zero_add] at enough ⊢
  match members, exact with
  | [], _ => exact absurd rfl some_members
  | [(key, value)], exact =>
    have first := (Bool.and_eq_true_iff.mp exact).1
    rw [memberChars] at enough ⊢
    rw [List.length_append, List.length_cons] at enough
    have read := node_chars value first left (by omega)
      (endsNumber_cons (c := Char.ofNat 0x7d) rfl rest)
    rw [List.append_assoc, List.cons_append]
    exact members_last key read
  | (key, value) :: next :: more, exact =>
    obtain ⟨first, others⟩ := Bool.and_eq_true_iff.mp exact
    rw [memberChars_cons_cons, List.length_append, List.length_append, List.length_cons,
      List.length_cons] at enough
    have read := node_chars value first left (by omega)
      (endsNumber_cons (c := ',') rfl (memberChars (next :: more) ++ Char.ofNat 0x7d :: rest))
    have behind := members_chars (next :: more) others (List.cons_ne_nil next more) left rest
      (by omega)
    obtain ⟨text, begins⟩ := begins_memberChars (List.cons_ne_nil next more)
    rw [begins, List.cons_append] at read behind
    rw [memberChars_cons_cons, begins, List.append_assoc, List.append_assoc, List.cons_append,
      List.cons_append, List.cons_append, members_more key read, behind]
    rfl

end

/-- A text that was written is one value, with nothing behind it. -/
theorem ofText_toString {value : Value} (exact : value.isExact) :
    ofText (toString value) = ⟨value.node, false⟩ := by
  have chars : (toString value).toList = value.chars := String.toList_ofList
  have long : (toString value).length = value.chars.length := by
    rw [← String.length_toList, chars]
  have ends : EndsNumber [] := fun _ none => nomatch none
  have read := node_chars value exact (2 * (toString value).length + 2) (by omega) ends
  rw [List.append_nil] at read
  rw [ofText, chars, read]
  rfl

end Document

/-! Values. -/

def Value.isScalar : Value → Bool
  | .list _ | .object _ => false
  | _ => true

/-- The members of an object that is read, by their keys. -/
def inOrder (members : List (String × Value)) : List (String × Value) :=
  members.foldl (fun read member => insertMember member.1 member.2 read) []

section

variable {key : String} {value : Value} {read members : List (String × Value)}

theorem perm_insertMember (new : key ∉ read.map (·.1)) :
    (insertMember key value read).Perm ((key, value) :: read) := by
  induction read with
  | nil => exact .refl _
  | cons member rest ih =>
    obtain ⟨other, held⟩ := member
    rw [List.map_cons, List.mem_cons, not_or] at new
    obtain ⟨different, further⟩ := new
    rw [insertMember]
    cases order : compare key other with
    | lt => exact .refl _
    | eq => exact absurd (Std.LawfulEqOrd.eq_of_compare order) different
    | gt => exact ((ih further).cons _).trans (.swap _ _ _)

/-- Members with keys of their own are all kept. -/
theorem perm_inOrder (distinct : (members.map (·.1)).Nodup) : (inOrder members).Perm members := by
  induction members using List.reverseRecOn with
  | nil => exact .refl []
  | append_singleton earlier member ih =>
    rw [List.map_append, List.map_singleton] at distinct
    obtain ⟨before, -, apart⟩ := List.nodup_append.mp distinct
    have kept := ih before
    have new : member.1 ∉ (inOrder earlier).map (·.1) := by
      intro mem
      exact apart _ ((kept.map _).mem_iff.mp mem) _ (List.mem_singleton_self _) rfl
    rw [inOrder, List.foldl_append]
    have last : (member :: earlier).Perm (earlier ++ [member]) :=
      (List.perm_append_singleton member earlier).symm
    exact ((perm_insertMember new).trans (kept.cons member)).trans last

theorem value_of_isScalar (scalar : value.isScalar) (depth : Nat) :
    value.node.value depth = .ok value := by
  cases value with
  | null | boolean | number | string => rfl
  | list | object => cases scalar

theorem values_memberNodes (scalars : ∀ member ∈ members, member.2.isScalar) (depth : Nat)
    (read : List (String × Value)) :
    (memberNodes members).values depth read =
      .ok (members.foldl (fun read member => insertMember member.1 member.2 read) read) := by
  induction members generalizing read with
  | nil => rfl
  | cons member rest ih =>
    obtain ⟨here, others⟩ := List.forall_mem_cons.mp scalars
    rw [memberNodes, Members.values, value_of_isScalar here]
    exact ih others _

end

/-- An object of scalars is read back with its members in the order of their keys. -/
theorem readText_object {members : List (String × Value)} (exact : haveExact members)
    (scalars : ∀ member ∈ members, member.2.isScalar) :
    readText Reader.value (toString (Value.object members)) = .ok (.object (inOrder members)) := by
  have whole : (Value.object members).isExact := exact
  have inside : (Value.object members).node.value depthLimit = .ok (.object (inOrder members)) := by
    rw [Value.node, Node.value, depthLimit, enter, values_memberNodes scalars]
    rfl
  rw [readText, Document.ofText_toString whole]
  dsimp only [Reader.value]
  rw [inside]
  rfl

/-- A text that is an object with exactly these members, whatever their order. -/
structure IsObject (text : String) (members : List (String × Value)) : Prop where
  /-- Each of them stands in the text, and once. -/
  document : Document.ofText text = ⟨.object (memberNodes members), false⟩
  value : ∃ read, readText Reader.value text = .ok (.object read) ∧ read.Perm members

theorem isObject_toString {members : List (String × Value)} (exact : haveExact members)
    (scalars : ∀ member ∈ members, member.2.isScalar) (distinct : (members.map (·.1)).Nodup) :
    IsObject (toString (Value.object members)) members := by
  have whole : (Value.object members).isExact := exact
  constructor
  case document => exact Document.ofText_toString whole
  case value => exact ⟨_, readText_object exact scalars, perm_inOrder distinct⟩

end AddressRecords.Json
