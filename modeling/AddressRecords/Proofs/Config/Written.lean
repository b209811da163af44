import AddressRecords.Config
import AddressRecords.Credentials
import AddressRecords.Proofs.Json.Written

/-!
Settings that were written are read back. What a reader of an object knows after some of its members
depends on which members those were and not on their order, as each of them is given once; so a
provider's members may come in any order, the one that names its kind among them.
-/

namespace AddressRecords

open Json (Fault Node Reader Value memberNodes)

/-! Objects. -/

namespace Json

theorem haveExact_of_forall {members : List (String × Value)}
    (exact : ∀ member ∈ members, member.2.isExact) : haveExact members := by
  induction members with
  | nil => rfl
  | cons member rest ih =>
    obtain ⟨first, others⟩ := List.forall_mem_cons.mp exact
    exact Bool.and_eq_true_iff.mpr ⟨first, ih others⟩

/-- A state that is known from the members read so far is known from all of them in the end. -/
theorem fold_behind {σ : Type} {step : σ → String → Node → Except Fault σ}
    (stateOf : List String → σ) {members : List (String × Value)}
    (distinct : (members.map (·.1)).Nodup)
    (steps : ∀ read, ∀ member ∈ members, member.1 ∉ read →
      step (stateOf read) member.1 member.2.node = .ok (stateOf (member.1 :: read)))
    {read : List String} (new : ∀ member ∈ members, member.1 ∉ read) :
    (memberNodes members).fold step (stateOf read) =
      .ok (stateOf ((members.map (·.1)).reverse ++ read)) := by
  induction members generalizing read with
  | nil => rfl
  | cons member rest ih =>
    obtain ⟨apart, distinctRest⟩ := List.nodup_cons.mp distinct
    obtain ⟨first, others⟩ := List.forall_mem_cons.mp new
    have here := steps read member List.mem_cons_self first
    have newRest : ∀ other ∈ rest, other.1 ∉ member.1 :: read := by
      intro other mem
      rw [List.mem_cons, not_or]
      exact ⟨fun same => apart (List.mem_map.mpr ⟨other, mem, same⟩), others other mem⟩
    have later := ih distinctRest (fun read other mem => steps read other (.tail _ mem)) newRest
    rw [List.map_cons, List.reverse_cons, List.append_assoc, List.singleton_append, ← later,
      memberNodes, Members.fold]
    change (step (stateOf read) member.1 member.2.node >>= _) = _
    rw [here]
    rfl

theorem fold_memberNodes {σ : Type} {step : σ → String → Node → Except Fault σ}
    (stateOf : List String → σ) {members : List (String × Value)}
    (distinct : (members.map (·.1)).Nodup)
    (steps : ∀ read, ∀ member ∈ members, member.1 ∉ read →
      step (stateOf read) member.1 member.2.node = .ok (stateOf (member.1 :: read))) :
    (memberNodes members).fold step (stateOf []) = .ok (stateOf (members.map (·.1)).reverse) := by
  have new : ∀ member ∈ members, member.1 ∉ ([] : List String) := fun _ _ => List.not_mem_nil
  have folded := fold_behind stateOf distinct steps new
  rwa [List.append_nil] at folded

theorem isScalar_ofOption (text : Option String) : (Value.ofOption text).isScalar := by
  cases text <;> rfl

theorem isExact_ofOption (text : Option String) : (Value.ofOption text).isExact := by
  cases text <;> rfl

theorem option_string_ofOption (depth : Nat) (text : Option String) :
    Reader.string.option depth (Value.ofOption text).node = .ok text := by
  cases text <;> rfl

/-- A field is filled where its member has not been read yet. -/
theorem fill_of_not_mem {α : Type} {name : String} {read : List String} (new : name ∉ read)
    {found : Except Fault α} {value : α} (given : found = .ok value) :
    Reader.fill name (if name ∈ read then some value else none) found = .ok (some value) := by
  rw [if_neg new, given]
  rfl

end Json

/-! The provider. -/

namespace ProviderConfig

/-- The members as they are written. -/
def members (config : ProviderConfig) : List (String × Value) :=
  [("type", .string typeName), ("api_token", .string config.apiToken),
    ("account_id", .ofOption config.accountId), ("base_url", .ofOption config.baseUrl)]

theorem toJson_eq (config : ProviderConfig) : config.toJson = .object config.members := rfl

/-- What is known of the kind of provider once these members have been read. -/
def kindOf (read : List String) : Option Unit := if "type" ∈ read then some () else none

/-- What is known of the settings once these members have been read. -/
def fieldsOf (config : ProviderConfig) (read : List String) : Fields where
  apiToken := if "api_token" ∈ read then some config.apiToken else none
  accountId := if "account_id" ∈ read then some config.accountId else none
  baseUrl := if "base_url" ∈ read then some config.baseUrl else none

variable {config : ProviderConfig} {member : String × Value} {read : List String}

/-- Every member is a text or null. -/
theorem exists_text_of_mem (mem : member ∈ config.members) :
    ∃ text, member.2 = .ofOption text := by
  simp only [members, List.mem_cons, List.not_mem_nil, or_false] at mem
  rcases mem with rfl | rfl | rfl | rfl
  · exact ⟨some typeName, rfl⟩
  · exact ⟨some config.apiToken, rfl⟩
  · exact ⟨config.accountId, rfl⟩
  · exact ⟨config.baseUrl, rfl⟩

theorem takeKind_of_mem (mem : member ∈ config.members) (new : member.1 ∉ read) (depth : Nat) :
    takeKind depth (kindOf read) member.1 member.2.node = .ok (kindOf (member.1 :: read)) := by
  by_cases kind : member.1 = "type"
  · have named : member = ("type", .string typeName) := by
      simp only [members, List.mem_cons, List.not_mem_nil, or_false] at mem
      rcases mem with rfl | rfl | rfl | rfl
      · rfl
      all_goals simp at kind
    subst named
    rw [takeKind, if_pos rfl, kindOf, if_neg new, kindOf, if_pos List.mem_cons_self]
    rfl
  · obtain ⟨text, holds⟩ := exists_text_of_mem mem
    have scalar := Json.value_of_isScalar (Json.isScalar_ofOption text) depth
    have same : kindOf (member.1 :: read) = kindOf read := by
      simp [kindOf, Ne.symm kind]
    rw [takeKind, if_neg kind, holds, Reader.value, scalar, same]
    rfl

theorem takeSetting_of_mem (mem : member ∈ config.members) (new : member.1 ∉ read)
    (depth : Nat) : takeSetting depth (config.fieldsOf read) member.1 member.2.node =
      .ok (config.fieldsOf (member.1 :: read)) := by
  simp only [members, List.mem_cons, List.not_mem_nil, or_false] at mem
  rcases mem with rfl | rfl | rfl | rfl
  · simp [takeSetting, fieldsOf]
  · have given : Reader.string depth (Value.string config.apiToken).node = .ok config.apiToken :=
      rfl
    have filled := Json.fill_of_not_mem new given
    simp [takeSetting, fieldsOf, filled]
  · have filled := Json.fill_of_not_mem new
      (Json.option_string_ofOption depth config.accountId)
    simp [takeSetting, fieldsOf, filled]
  · have filled := Json.fill_of_not_mem new (Json.option_string_ofOption depth config.baseUrl)
    simp [takeSetting, fieldsOf, filled]

/-- Members that tell the settings: those that are written, in any order, each once. One that is
null can be left out. -/
structure GivenBy (config : ProviderConfig) (given : List (String × Value)) : Prop where
  distinct : (given.map (·.1)).Nodup
  written : ∀ member ∈ given, member ∈ config.members
  whole : ∀ member ∈ config.members, member.2 ≠ .null → member ∈ given

theorem givenBy_of_perm {given : List (String × Value)} (perm : given.Perm config.members) :
    config.GivenBy given := by
  have distinct : (config.members.map (·.1)).Nodup := by
    simp [members]
  exact ⟨(perm.map _).nodup_iff.mpr distinct, fun _ => perm.mem_iff.mp,
    fun _ mem _ => perm.mem_iff.mpr mem⟩

namespace GivenBy

variable {given : List (String × Value)} (tells : config.GivenBy given)

include tells

theorem mem_names {name : String} {value : Value} (mem : (name, value) ∈ config.members)
    (some_value : value ≠ .null) : name ∈ (given.map (·.1)).reverse :=
  List.mem_reverse.mpr (List.mem_map.mpr ⟨_, tells.whole _ mem some_value, rfl⟩)

/-- An option that is not among the members has no value. -/
theorem join_option (name : String) {option : Option String}
    (mem : (name, .ofOption option) ∈ config.members) :
    (if name ∈ (given.map (·.1)).reverse then some option else none).join = option := by
  cases option with
  | none => split <;> rfl
  | some text => rw [if_pos (tells.mem_names mem nofun), Option.join_some]

theorem checkMembers (depth : Nat) :
    ProviderConfig.checkMembers depth (memberNodes given) = .ok () := by
  have kinds := Json.fold_memberNodes kindOf tells.distinct
    fun read member mem new => takeKind_of_mem (tells.written member mem) new depth
  have named : "type" ∈ (given.map (·.1)).reverse := tells.mem_names (.head _) nofun
  rw [kindOf, kindOf, if_neg List.not_mem_nil, if_pos named] at kinds
  rw [ProviderConfig.checkMembers, kinds]
  rfl

theorem ofMembers (depth : Nat) :
    ProviderConfig.ofMembers depth (memberNodes given) = .ok config := by
  have fields := Json.fold_memberNodes config.fieldsOf tells.distinct
    fun read member mem new => takeSetting_of_mem (tells.written member mem) new depth
  have token : "api_token" ∈ (given.map (·.1)).reverse :=
    tells.mem_names (.tail _ (.head _)) nofun
  have account := tells.join_option "account_id" (.tail _ (.tail _ (.head _)))
  have url := tells.join_option "base_url" (.tail _ (.tail _ (.tail _ (.head _))))
  have start : config.fieldsOf [] = ⟨none, none, none⟩ := by simp [fieldsOf]
  rw [start, fieldsOf, if_pos token] at fields
  rw [ProviderConfig.ofMembers, tells.checkMembers]
  change ((memberNodes given).fold (takeSetting depth) _ >>= _) = _
  rw [fields]
  change Except.ok (ProviderConfig.mk config.apiToken _ _) = _
  rw [account, url]

theorem reader (depth : Nat) :
    ProviderConfig.reader (depth + 2) (Value.object given).node = .ok config := by
  rw [Value.node]
  exact tells.ofMembers (depth + 1)

theorem haveExact : Json.haveExact given := by
  refine Json.haveExact_of_forall fun member mem => ?_
  obtain ⟨text, holds⟩ := exists_text_of_mem (tells.written member mem)
  rw [holds]
  exact Json.isExact_ofOption text

end GivenBy

end ProviderConfig

/-! All settings. -/

namespace HandleConfig

/-- The members as they are written, but for those of the provider. -/
def membersWith (config : HandleConfig) (given : List (String × Value)) : List (String × Value) :=
  [("provider", .object given), ("timeout_secs", .ofNat config.timeoutSecs.toNat)]

theorem toJson_eq (config : HandleConfig) :
    config.toJson = .object (config.membersWith config.provider.members) := rfl

/-- What is known of the settings once these members have been read. -/
def fieldsOf (config : HandleConfig) (read : List String) : Fields where
  provider := if "provider" ∈ read then some config.provider else none
  timeoutSecs := if "timeout_secs" ∈ read then some config.timeoutSecs else none

variable {config : HandleConfig} {given outer : List (String × Value)}
  {member : String × Value} {read : List String}

theorem word64_toNat (depth : Nat) (word : UInt64) :
    Reader.word64 depth (Value.ofNat word.toNat).node = .ok word := by
  have small : word.toNat < UInt64.size := word.toNat_lt
  have whole : Reader.natural "u64" UInt64.size depth (Value.ofNat word.toNat).node =
      .ok word.toNat := by
    change (if word.toNat < UInt64.size then _ else _) = _
    rw [if_pos small]
  rw [Reader.word64, whole]
  exact congrArg Except.ok UInt64.ofNat_toNat

section

variable (tells : config.provider.GivenBy given)

include tells

theorem takeSetting_of_mem (mem : member ∈ config.membersWith given) (new : member.1 ∉ read)
    (depth : Nat) : takeSetting (depth + 2) (config.fieldsOf read) member.1 member.2.node =
      .ok (config.fieldsOf (member.1 :: read)) := by
  simp only [membersWith, List.mem_cons, List.not_mem_nil, or_false] at mem
  rcases mem with rfl | rfl
  · have filled := Json.fill_of_not_mem new (tells.reader depth)
    simp [takeSetting, fieldsOf, filled]
  · have filled := Json.fill_of_not_mem new (word64_toNat (depth + 2) config.timeoutSecs)
    simp [takeSetting, fieldsOf, filled]

theorem isExact_of_mem (mem : member ∈ config.membersWith given) : member.2.isExact := by
  simp only [membersWith, List.mem_cons, List.not_mem_nil, or_false] at mem
  rcases mem with rfl | rfl
  · exact tells.haveExact
  · have small : config.timeoutSecs.toNat < 2 ^ 64 := config.timeoutSecs.toNat_lt
    exact decide_eq_true small

theorem ofMembers_memberNodes (distinct : (outer.map (·.1)).Nodup)
    (written : ∀ member ∈ outer, member ∈ config.membersWith given)
    (named : "provider" ∈ outer.map (·.1)) (depth : Nat) :
    ofMembers (depth + 2) (memberNodes outer) = .ok ⟨config.provider,
      if "timeout_secs" ∈ outer.map (·.1) then config.timeoutSecs else defaultTimeoutSecs⟩ := by
  have fields := Json.fold_memberNodes config.fieldsOf distinct
    fun read member mem new => takeSetting_of_mem tells (written member mem) new depth
  have start : config.fieldsOf [] = ⟨none, none⟩ := by simp [fieldsOf]
  rw [start, fieldsOf, if_pos (List.mem_reverse.mpr named)] at fields
  rw [ofMembers, fields]
  change Except.ok (HandleConfig.mk config.provider _) = _
  simp only [List.mem_reverse]
  split <;> rfl

/-- What a text of such members is read as. -/
theorem readText_members (distinct : (outer.map (·.1)).Nodup)
    (written : ∀ member ∈ outer, member ∈ config.membersWith given)
    (named : "provider" ∈ outer.map (·.1)) :
    Json.readText reader (toString (Value.object outer)) = .ok ⟨config.provider,
      if "timeout_secs" ∈ outer.map (·.1) then config.timeoutSecs else defaultTimeoutSecs⟩ := by
  have exact : (Value.object outer).isExact :=
    Json.haveExact_of_forall fun member mem => isExact_of_mem tells (written member mem)
  -- The provider is nested one level deeper, far from the limit.
  have inside := ofMembers_memberNodes tells distinct written named 125
  rw [Json.readText, Json.Document.ofText_toString exact, Value.node]
  change (ofMembers 127 (memberNodes outer) >>= _) = _
  rw [inside]
  rfl

theorem readText_of_perm (perm : outer.Perm (config.membersWith given)) :
    Json.readText reader (toString (Value.object outer)) = .ok config := by
  have names := perm.map (·.1)
  have distinct : (outer.map (·.1)).Nodup := by
    rw [names.nodup_iff]
    simp [membersWith]
  have provider : "provider" ∈ outer.map (·.1) := names.mem_iff.mpr (.head _)
  have timeout : "timeout_secs" ∈ outer.map (·.1) := names.mem_iff.mpr (.tail _ (.head _))
  rw [readText_members tells distinct (fun _ => perm.mem_iff.mp) provider, if_pos timeout]

theorem readText_provider :
    Json.readText reader (toString (Value.object [("provider", .object given)])) =
      .ok ⟨config.provider, 30⟩ := by
  have written : ∀ member ∈ [("provider", Value.object given)],
      member ∈ config.membersWith given := by
    intro member mem
    rw [List.mem_singleton.mp mem]
    exact .head _
  have distinct : (([("provider", Value.object given)] : List (String × Value)).map (·.1)).Nodup :=
    List.pairwise_singleton _ _
  rw [readText_members tells distinct written (.head _), if_neg (by simp)]
  rfl

end

/-- What texts are read as the settings. -/
structure ReadsBack (config : HandleConfig) : Prop where
  written : Json.readText reader (toString config.toJson) = .ok config
  validates : (Json.readText reader (toString config.toJson)).map validate = .ok config.validate
  connects : (Json.readText reader (toString config.toJson)).map
      (fun read => Credentials.ofConfig read.provider) = .ok (Credentials.ofConfig config.provider)
  /-- The provider's members may come in any order. -/
  reordered : ∀ given, given.Perm config.provider.members →
    Json.readText reader (toString (Value.object (config.membersWith given))) = .ok config
  /-- Without a timeout it is the default one. -/
  defaulted : Json.readText reader
      (toString (Value.object [("provider", config.provider.toJson)])) = .ok ⟨config.provider, 30⟩
  /-- All members may come in any order, and without the options that have no value. -/
  told : ∀ given, config.provider.GivenBy given → ∀ outer, outer.Perm (config.membersWith given) →
    Json.readText reader (toString (Value.object outer)) = .ok config
  toldDefaulted : ∀ given, config.provider.GivenBy given →
    Json.readText reader (toString (Value.object [("provider", .object given)])) =
      .ok ⟨config.provider, 30⟩

/-- Whatever the settings are, they are read back from what is written of them. -/
theorem readsBack (config : HandleConfig) : config.ReadsBack := by
  have all : config.provider.GivenBy config.provider.members :=
    ProviderConfig.givenBy_of_perm (.refl _)
  have whole : Json.readText reader (toString config.toJson) = .ok config := by
    rw [toJson_eq]
    exact readText_of_perm all (.refl _)
  constructor
  case written => exact whole
  case validates =>
    rw [whole]
    rfl
  case connects =>
    rw [whole]
    rfl
  case reordered =>
    intro given perm
    exact readText_of_perm (ProviderConfig.givenBy_of_perm perm) (.refl _)
  case defaulted =>
    rw [ProviderConfig.toJson_eq]
    exact readText_provider all
  case told => exact fun given tells outer perm => readText_of_perm tells perm
  case toldDefaulted => exact fun given tells => readText_provider tells

end HandleConfig

end AddressRecords
