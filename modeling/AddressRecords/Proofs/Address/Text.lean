import AddressRecords.Address.Family
import AddressRecords.Proofs.Text.Digits

/-!
The text of an address is read back as that address: dotted numbers, groups with or without a run
of zeros left out, and an IPv4 address in the place of the last two groups. The other family does
not read it.
-/

namespace AddressRecords

namespace Address

theorem isDigitOf_of_takeDigits {base most : Nat} {text digits rest : List Char}
    (h : takeDigits base most text = some (digits, rest)) :
    ∀ c ∈ digits, Text.isDigitOf base c := by
  rw [takeDigits, List.span_eq_takeWhile_dropWhile] at h
  dsimp only at h
  split at h
  · cases h
  · cases h
    exact fun c mem => List.all_eq_true.mp List.all_takeWhile c mem

/-! IPv4. -/

namespace V4

theorem takeOctet_octetChars (octet : UInt8) {rest : List Char} (ends : EndsDigits 10 rest) :
    takeOctet (octetChars octet ++ rest) = some (octet, rest) := by
  have below : octet.toNat < 256 := octet.toNat_lt
  have short : (octetChars octet).length ≤ 3 :=
    (Nat.length_toDigits_le_iff (by decide) (by decide)).mpr (Nat.lt_trans below (by decide))
  have taken := takeDigits_toDigits (by decide) (by decide) short ends
  have number : Text.numberOf 10 (Nat.toDigits 10 octet.toNat) = octet.toNat :=
    Text.numberOf_toDigits (by decide) (by decide) _
  have plain : (octetChars octet).head? ≠ some '0' ∨ (octetChars octet).length = 1 := by
    by_cases zero : octet.toNat = 0
    · exact .inr (by simp [octetChars, zero])
    · exact .inl (Text.head?_toDigits_ne_zero (by decide) (by omega))
  rw [octetChars] at plain ⊢
  rw [takeOctet, taken]
  unfold guard
  simp [number, plain, below]

/-- A dot ends a number. -/
theorem endsDigits_dot (rest : List Char) : EndsDigits 10 ('.' :: rest) := by
  simp [EndsDigits, Text.isDigitOf, Text.digitValue?]

theorem take_toChars (address : V4) {rest : List Char} (ends : EndsDigits 10 rest) :
    take (address.toChars ++ rest) = some (address, rest) := by
  simp [take, toChars, takeOctet_octetChars _ (endsDigits_dot _), takeOctet_octetChars _ ends,
    takeChar]

theorem mem_of_takeOctet {text rest : List Char} {octet : UInt8}
    (h : takeOctet text = some (octet, rest)) {c : Char} (mem : c ∈ rest) : c ∈ text := by
  unfold takeOctet guard at h
  simp only [Option.bind_eq_bind, Option.bind_eq_some_iff] at h
  obtain ⟨⟨digits, behind⟩, taken, _, _, _, _, same⟩ := h
  cases same
  rw [← takeDigits_append taken]
  exact List.mem_append_right digits mem

/-- Without a dot there is no address. -/
theorem take_eq_none {text : List Char} (undotted : '.' ∉ text) : take text = none := by
  cases taken : takeOctet text with
  | none => simp [take, taken]
  | some octet =>
    obtain ⟨first, rest⟩ := octet
    have stops : takeChar '.' rest = none := by
      cases rest with
      | nil => rfl
      | cons c more =>
        have mem : c ∈ text := mem_of_takeOctet taken List.mem_cons_self
        have other : c ≠ '.' := fun dot => undotted (dot ▸ mem)
        simp [takeChar, other]
    simp [take, taken, stops]

/-- A colon is part of no number, and no dot. -/
theorem colon_mem_of_takeOctet {text rest : List Char} {octet : UInt8}
    (h : takeOctet text = some (octet, rest)) (mem : ':' ∈ text) : ':' ∈ rest := by
  unfold takeOctet guard at h
  simp only [Option.bind_eq_bind, Option.bind_eq_some_iff] at h
  obtain ⟨⟨digits, behind⟩, taken, _, _, _, _, same⟩ := h
  cases same
  rw [← takeDigits_append taken] at mem
  refine (List.mem_append.mp mem).resolve_left fun among => ?_
  exact absurd (isDigitOf_of_takeDigits taken ':' among) (by decide)

theorem colon_mem_of_takeChar {text rest : List Char} (h : takeChar '.' text = some rest)
    (mem : ':' ∈ text) : ':' ∈ rest := by
  cases text with
  | nil => cases h
  | cons c more =>
    rw [takeChar] at h
    split at h
    · rename_i dot
      cases h
      exact (List.mem_cons.mp mem).resolve_left fun colon => absurd (colon.trans dot) (by decide)
    · cases h

/-- A text with a colon is no IPv4 address. -/
theorem ofChars_of_colon {text : List Char} (mem : ':' ∈ text) : ofChars text = none := by
  unfold ofChars
  split
  · rename_i address taken
    simp only [take, Option.bind_eq_bind, Option.bind_eq_some_iff] at taken
    obtain ⟨_, first, _, dot, _, second, _, dot', _, third, _, dot'', _, fourth, same⟩ := taken
    have empty := (Prod.mk.inj (Option.some.inj same)).2
    have behind := colon_mem_of_takeChar dot (colon_mem_of_takeOctet first mem)
    have further := colon_mem_of_takeChar dot' (colon_mem_of_takeOctet second behind)
    have last := colon_mem_of_takeChar dot'' (colon_mem_of_takeOctet third further)
    exact absurd (empty ▸ colon_mem_of_takeOctet fourth last) List.not_mem_nil
  · rfl

theorem ofChars_toChars (address : V4) : ofChars address.toChars = some address := by
  have ends : EndsDigits 10 [] := by simp [EndsDigits]
  have taken := take_toChars address ends
  rw [List.append_nil] at taken
  rw [ofChars, taken]

end V4

/-! IPv6. -/

namespace V6

/-- Groups with a colon before each. -/
def joined (groups : List UInt16) : List Char :=
  groups.flatMap fun group => ':' :: Nat.toDigits 16 group.toNat

/-- The end of a text, or the place where zeros are left out. -/
inductive Stops : List Char → Prop
  | ended : Stops []
  | gap (rest : List Char) : Stops (':' :: ':' :: rest)

theorem groupChars_cons (group : UInt16) (rest : List UInt16) :
    groupChars (group :: rest) = Nat.toDigits 16 group.toNat ++ joined rest := by
  induction rest generalizing group with
  | nil => simp [groupChars, joined]
  | cons next more ih =>
    simpa [groupChars, joined, List.intercalate_cons_cons] using ih next

theorem endsDigits_of_stops {rest : List Char} (stops : Stops rest) (groups : List UInt16) :
    EndsDigits 16 (joined groups ++ rest) := by
  cases groups with
  | nil => cases stops <;> simp [EndsDigits, joined, Text.isDigitOf, Text.digitValue?]
  | cons => simp [EndsDigits, joined, Text.isDigitOf, Text.digitValue?]

theorem takeGroup_toDigits (group : UInt16) {rest : List Char} (ends : EndsDigits 16 rest) :
    takeGroup (Nat.toDigits 16 group.toNat ++ rest) = some (group, rest) := by
  have short : (Nat.toDigits 16 group.toNat).length ≤ 4 :=
    (Nat.length_toDigits_le_iff (by decide) (by decide)).mpr group.toNat_lt
  have number : Text.numberOf 16 (Nat.toDigits 16 group.toNat) = group.toNat :=
    Text.numberOf_toDigits (by decide) (by decide) _
  rw [takeGroup, takeDigits_toDigits (by decide) (by decide) short ends]
  simp [number]

theorem dot_not_mem_digits (group : UInt16) : '.' ∉ Nat.toDigits 16 group.toNat := by
  intro mem
  have digit := Text.isDigitOf_of_mem_toDigits (by decide) (by decide) '.' mem
  exact absurd digit (by decide)

theorem dot_not_mem_joined (groups : List UInt16) : '.' ∉ joined groups := by
  simp [joined, dot_not_mem_digits]

/-- Nothing is taken off a text that stops. -/
theorem takeStretch_of_stops {rest : List Char} (stops : Stops rest) (undotted : '.' ∉ rest)
    (isFirst : Bool) (slots : Nat) : takeStretch isFirst slots rest = ⟨[], false, rest⟩ := by
  have noGroup (behind : List Char) : takeGroup (':' :: behind) = none := by
    simp [takeGroup, takeDigits, Text.isDigitOf, Text.digitValue?]
  cases slots with
  | zero => rfl
  | succ slots =>
    cases stops with
    | ended =>
      have none : V4.take [] = none := V4.take_eq_none undotted
      cases isFirst <;> simp [takeStretch, takeChar, takeGroup, takeDigits, none]
    | gap behind =>
      have undottedBehind : '.' ∉ ':' :: behind := fun mem => undotted (List.mem_cons_of_mem _ mem)
      cases isFirst <;>
        simp [takeStretch, takeChar, noGroup, V4.take_eq_none undotted,
          V4.take_eq_none undottedBehind]

/-- One group is taken off, with the colon before it if it is not the first. -/
theorem takeStretch_group {rest : List Char} (stops : Stops rest) (undotted : '.' ∉ rest)
    (isFirst : Bool) (slots : Nat) (group : UInt16) (more : List UInt16) :
    takeStretch isFirst (slots + 1)
        ((if isFirst then [] else [':']) ++ Nat.toDigits 16 group.toNat ++ (joined more ++ rest)) =
      let behind := takeStretch false slots (joined more ++ rest)
      { behind with groups := group :: behind.groups } := by
  have undottedBehind : '.' ∉ Nat.toDigits 16 group.toNat ++ (joined more ++ rest) := by
    simp [dot_not_mem_digits, dot_not_mem_joined, undotted]
  have noAddress := V4.take_eq_none undottedBehind
  have taken := takeGroup_toDigits group (endsDigits_of_stops stops more)
  cases isFirst <;> simp [takeStretch, takeChar, noAddress, taken]

/-- Groups are taken up to where they stop. -/
theorem takeStretch_joined {rest : List Char} (stops : Stops rest) (undotted : '.' ∉ rest)
    (groups : List UInt16) {slots : Nat} (fits : groups.length ≤ slots) :
    takeStretch false slots (joined groups ++ rest) = ⟨groups, false, rest⟩ := by
  induction groups generalizing slots with
  | nil => exact takeStretch_of_stops stops undotted false slots
  | cons group more ih =>
    obtain ⟨left, rfl⟩ := Nat.exists_eq_add_of_le' (Nat.le_trans (Nat.le_add_left 1 _) fits)
    have step := takeStretch_group stops undotted false left group more
    rw [ih (Nat.le_of_succ_le_succ fits)] at step
    simpa [joined] using step

theorem takeStretch_groupChars {rest : List Char} (stops : Stops rest) (undotted : '.' ∉ rest)
    (groups : List UInt16) {slots : Nat} (fits : groups.length ≤ slots) :
    takeStretch true slots (groupChars groups ++ rest) = ⟨groups, false, rest⟩ := by
  cases groups with
  | nil => exact takeStretch_of_stops stops undotted true slots
  | cons group more =>
    obtain ⟨left, rfl⟩ := Nat.exists_eq_add_of_le' (Nat.le_trans (Nat.le_add_left 1 _) fits)
    have step := takeStretch_group stops undotted true left group more
    rw [takeStretch_joined stops undotted more (Nat.le_of_succ_le_succ fits)] at step
    simpa [groupChars_cons] using step

theorem dot_not_mem_groupChars (groups : List UInt16) : '.' ∉ groupChars groups := by
  cases groups with
  | nil => simp [groupChars]
  | cons group rest => simp [groupChars_cons, dot_not_mem_digits, dot_not_mem_joined]

/-! The run of zeros. -/

theorem take_leadingZeros (groups : List UInt16) :
    groups.take (leadingZeros groups) = List.replicate (leadingZeros groups) 0 := by
  rw [leadingZeros, ← List.prefix_iff_eq_take.mp (List.takeWhile_prefix _)]
  refine List.eq_replicate_iff.mpr ⟨rfl, ?_⟩
  intro group mem
  exact beq_iff_eq.mp (List.all_eq_true.mp List.all_takeWhile group mem)

theorem leadingZeros_le (groups : List UInt16) : leadingZeros groups ≤ groups.length :=
  (List.takeWhile_prefix _).length_le

/-- The longest run of zeros is one. -/
theorem longestZeros_spec (groups : List UInt16) :
    let run := longestZeros groups
    run.1 + run.2 ≤ groups.length ∧
      groups.take run.1 ++ List.replicate run.2 0 ++ groups.drop (run.1 + run.2) = groups := by
  induction groups with
  | nil => simp [longestZeros]
  | cons group rest ih =>
    obtain ⟨inside, run⟩ := ih
    dsimp only [longestZeros]
    split
    · have here := take_leadingZeros (group :: rest)
      rw [List.take_zero, List.nil_append, Nat.zero_add, ← here, List.take_append_drop]
      exact ⟨leadingZeros_le _, rfl⟩
    · have further : (longestZeros rest).1 + 1 + (longestZeros rest).2 =
          (longestZeros rest).1 + (longestZeros rest).2 + 1 := by omega
      rw [further]
      refine ⟨Nat.succ_le_succ inside, ?_⟩
      simpa using run

/-! Reading back. -/

theorem ofParts_eq {address : V6} {head tail : List UInt16} (count : Nat)
    (whole : head ++ List.replicate count 0 ++ tail = address.groups) :
    ofParts head tail = some address := by
  have lengths := congrArg List.length whole
  rw [address.length_groups, List.length_append, List.length_append, List.length_replicate]
    at lengths
  have filled : 8 - head.length - tail.length = count := by omega
  simp [ofParts, filled, whole, address.length_groups]

theorem ofChars_groupChars (address : V6) : ofChars (groupChars address.groups) = some address := by
  have head := takeStretch_groupChars .ended (by simp) address.groups
    (Nat.le_of_eq address.length_groups)
  rw [List.append_nil] at head
  have whole : address.groups ++ List.replicate 0 0 ++ [] = address.groups := by simp
  simp [ofChars, head, address.length_groups, ofParts_eq 0 whole]

/-- A run of zeros between a head and a tail may be left out. -/
theorem ofChars_gap {address : V6} {head tail : List UInt16} (count : Nat) (several : 1 < count)
    (whole : head ++ List.replicate count 0 ++ tail = address.groups) :
    ofChars (groupChars head ++ [':', ':'] ++ groupChars tail) = some address := by
  have lengths := congrArg List.length whole
  rw [address.length_groups, List.length_append, List.length_append, List.length_replicate]
    at lengths
  have undotted : '.' ∉ ':' :: ':' :: groupChars tail := by simp [dot_not_mem_groupChars]
  have before : takeStretch true 8 (groupChars head ++ ':' :: ':' :: groupChars tail) =
      ⟨head, false, ':' :: ':' :: groupChars tail⟩ :=
    takeStretch_groupChars (.gap _) undotted head (by omega)
  have behind : takeStretch true (7 - head.length) (groupChars tail ++ []) = ⟨tail, false, []⟩ :=
    takeStretch_groupChars .ended (by simp) tail (by omega)
  rw [List.append_nil] at behind
  have short : head.length ≠ 8 := by omega
  simp [ofChars, before, behind, short, takeChar, ofParts_eq count whole]

theorem ofChars_compressed (address : V6) : ofChars address.compressed = some address := by
  have run := (longestZeros_spec address.groups).2
  dsimp only [compressed]
  split
  · exact ofChars_gap _ ‹_› run
  · exact ofChars_groupChars address

/-- A group is made of its two bytes. -/
theorem group_of_bytes (group : UInt16) :
    (group / 256).toUInt8.toUInt16 * 256 + group.toUInt8.toUInt16 = group := by
  apply UInt16.toNat_inj.mp
  have bound := group.toNat_lt
  have radix : (256 : UInt16).toNat = 256 := rfl
  simp only [UInt16.toNat_add, UInt16.toNat_mul, UInt8.toNat_toUInt16, UInt16.toNat_toUInt8,
    UInt16.toNat_div, radix]
  omega

/-- The last groups of a mapped address are those of the IPv4 address. -/
theorem groups_of_mappedV4? {address : V6} {v4 : V4} (mapped : address.mappedV4? = some v4) :
    List.replicate 5 0 ++ 0xffff :: groupsOfV4 v4 = address.groups := by
  unfold mappedV4? at mapped
  split at mapped
  · rename_i high low groups
    cases mapped
    rw [groups, groupsOfV4, group_of_bytes, group_of_bytes]
    rfl
  · cases mapped

theorem ofChars_mapped {address : V6} {v4 : V4} (mapped : address.mappedV4? = some v4) :
    ofChars ([':', ':', 'f', 'f', 'f', 'f', ':'] ++ v4.toChars) = some address := by
  have noAddress (c : Char) (rest : List Char) (other : Text.isDigitOf 10 c = false) :
      V4.take (c :: rest) = none := by
    have noDigits : takeDigits 10 3 (c :: rest) = none := by simp [takeDigits, other]
    rw [V4.take, V4.takeOctet, noDigits]
    rfl
  have noGroup (rest : List Char) : takeGroup (':' :: rest) = none := by
    simp [takeGroup, takeDigits, Text.isDigitOf, Text.digitValue?]
  have marker (rest : List Char) : takeGroup ('f' :: 'f' :: 'f' :: 'f' :: ':' :: rest) =
      some (0xffff, ':' :: rest) :=
    takeGroup_toDigits 0xffff (by simp [EndsDigits, Text.isDigitOf, Text.digitValue?])
  have ends : EndsDigits 10 [] := by simp [EndsDigits]
  have taken := V4.take_toChars v4 ends
  rw [List.append_nil] at taken
  have whole : [] ++ List.replicate 5 0 ++ 0xffff :: groupsOfV4 v4 = address.groups :=
    groups_of_mappedV4? mapped
  simp [ofChars, takeStretch, noAddress ':' _ (by decide), noAddress 'f' _ (by decide), noGroup,
    marker, takeChar, taken, ofParts_eq 5 whole]

theorem ofChars_toChars (address : V6) : ofChars address.toChars = some address := by
  cases mapped : address.mappedV4? with
  | none => simpa [toChars, mapped] using ofChars_compressed address
  | some v4 => simpa [toChars, mapped] using ofChars_mapped mapped

/-! The other family. -/

theorem colon_mem_groupChars {groups : List UInt16} (several : 1 < groups.length) :
    ':' ∈ groupChars groups := by
  match groups, several with
  | group :: next :: rest, _ => simp [groupChars_cons, joined]

theorem colon_mem_toChars (address : V6) : ':' ∈ address.toChars := by
  rw [toChars]
  split
  · simp
  · dsimp only [compressed]
    split
    · simp
    · exact colon_mem_groupChars (by simp [address.length_groups])

/-- The text of an IPv4 address is taken as two groups, which are too few. -/
theorem ofChars_of_v4 (address : V4) : ofChars address.toChars = none := by
  have ends : EndsDigits 10 [] := by simp [EndsDigits]
  have taken := V4.take_toChars address ends
  rw [List.append_nil] at taken
  simp [ofChars, takeStretch, taken, groupsOfV4]

end V6

end Address

/-- An address of a family is read back from its text. -/
theorem Family.parseAddress_toString {family : Family} {address : Address}
    (own : family.owns address) : family.parseAddress (toString address) = .ok address := by
  cases family <;> cases address <;>
    simp_all [Family.owns, Address.family, Family.parseAddress, toString,
      Address.V4.ofChars_toChars, Address.V6.ofChars_toChars]

/-- The other family does not take it for one of its own. -/
theorem Family.parseAddress_of_not_owns {family : Family} {address : Address}
    (other : ¬ family.owns address) :
    family.parseAddress (toString address) = .error (.notOf family) := by
  cases family with
  | v4 =>
    cases address with
    | v4 => exact absurd rfl other
    | v6 address =>
      simp [parseAddress, toString, Address.V4.ofChars_of_colon address.colon_mem_toChars]
  | v6 =>
    cases address with
    | v4 address => simp [parseAddress, toString, Address.V6.ofChars_of_v4]
    | v6 => exact absurd rfl other

end AddressRecords
