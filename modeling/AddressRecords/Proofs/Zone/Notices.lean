import AddressRecords.Proofs.Calls.Messages
import AddressRecords.Proofs.Zone.Settled
import AddressRecords.Zone.Table

/-!
What the user is told while the zone of a domain is looked for: of each zone that is passed over,
and then why the search ended as it did. The lists of zones decide every word of it, so that a
second search, which asks for no list, says all of it again.
-/

namespace AddressRecords

variable {σ τ : Type}

namespace Resolver

open Diagnostics (Message)

/-! Messages. -/

/-- Of a zone that is passed over. -/
def skippedNotice (name : String) : Message :=
  ⟨.info, .warning, "Zone " ++ Text.quote name ++ " is \"deleted\" and thus skipped"⟩

/-- One notice for each removed zone of a list. -/
def skippedIn (name : String) : Except Api.Failure (List Zone) → List Message
  | .error _ => []
  | .ok zones => List.replicate (zones.countP (·.status = .removed)) (skippedNotice name)

/-- Of the status of a zone that is used: nothing if the zone is active, or else two warnings. -/
inductive Warns (name : String) : ZoneStatus → List Message → Prop
  | active : Warns name .active []
  | degraded (raw : String) : Warns name (.degraded raw)
      [⟨.warning, .warning, "Zone " ++ Text.quote name ++ " is " ++ Text.quote raw ++
        "; your Cloudflare setup is incomplete"⟩,
      ⟨.warning, .warning, "Some features might stop working"⟩]
  | undocumented (raw : String) : Warns name (.undocumented raw)
      [⟨.warning, .impossible, "Zone " ++ Text.quote name ++ " is in an undocumented status " ++
        Text.quote raw⟩,
      ⟨.warning, .impossible, "Please report this status to the maintainers"⟩]

/-- The last words on a candidate that settles the question. -/
inductive Remarks (candidate : String) : Except Api.Failure (List Zone) → List Message → Prop
  | failed (failure : Api.Failure) : Remarks candidate (.error failure)
      [⟨.warning, .error, "Failed to check the existence of a zone named " ++
        Text.quote candidate ++ ": " ++ failure.message⟩]
  | owner {zones : List Zone} {zone : Zone} {messages : List Message}
      (only : eligible zones = [zone]) (warns : Warns candidate zone.status messages) :
      Remarks candidate (.ok zones) messages
  | ambiguous {zones : List Zone} (several : 2 ≤ (eligible zones).length) :
      Remarks candidate (.ok zones)
        [⟨.warning, .impossible, "Found multiple active zones named " ++ Text.quote candidate ++
          ". " ++ "Specifying CF_ACCOUNT_ID might help"⟩]

/-- The last words of a resolution that got `answers` for the candidates it looked up. -/
inductive Closes (domain : Domain) (candidates : List String) :
    List String → List (Except Api.Failure (List Zone)) → List Message → Prop
  | exhausted {answers : List (Except Api.Failure (List Zone))}
      (passed : ∀ answer ∈ answers, Passes answer) :
      Closes domain candidates candidates answers
        [⟨.warning, .error, "Failed to find the zone of " ++ Text.quote domain.wireName⟩]
  | decided {before : List String} {candidate : String}
      {answers : List (Except Api.Failure (List Zone))} {answer : Except Api.Failure (List Zone)}
      {messages : List Message} (passed : ∀ answer ∈ answers, Passes answer)
      (remarks : Remarks candidate answer messages) :
      Closes domain candidates (before ++ [candidate]) (answers ++ [answer]) messages

theorem Warns.unique {name : String} {status : ZoneStatus} {one other : List Message}
    (h : Warns name status one) (also : Warns name status other) : one = other := by
  cases h <;> cases also <;> rfl

/-- There is one thing to say about an answer. -/
theorem Remarks.unique {candidate : String} {answer : Except Api.Failure (List Zone)}
    {one other : List Message} (h : Remarks candidate answer one)
    (also : Remarks candidate answer other) : one = other := by
  cases h with
  | failed failure =>
    cases also
    rfl
  | owner only warns =>
    cases also with
    | owner same others =>
      cases only.symm.trans same
      exact warns.unique others
    | ambiguous several => simp [only] at several
  | ambiguous several =>
    cases also with
    | owner only => simp [only] at several
    | ambiguous => rfl

theorem Closes.after_passes {domain : Domain} {candidates looked : List String}
    {candidate : String} {answers : List (Except Api.Failure (List Zone))}
    {answer : Except Api.Failure (List Zone)} {messages : List Message} (passes : Passes answer)
    (h : Closes domain candidates looked answers messages) :
    Closes domain (candidate :: candidates) (candidate :: looked) (answer :: answers) messages := by
  cases h with
  | exhausted passed => exact .exhausted (List.forall_mem_cons.mpr ⟨passes, passed⟩)
  | decided passed remarks =>
    rw [← List.cons_append, ← List.cons_append]
    exact .decided (List.forall_mem_cons.mpr ⟨passes, passed⟩) remarks

/-! One candidate. -/

theorem messages_tellSkipped (name : String) (zones : List Zone) (state : σ) :
    (tellSkipped name zones state).messages = skippedIn name (.ok zones) := by
  induction zones with
  | nil => rfl
  | cons zone rest ih =>
    unfold tellSkipped
    split
    · rename_i skip
      have removed : zone.status = .removed := by
        cases status : zone.status <;> simp [status, ZoneStatus.isEligible] at skip ⊢
      rw [Act.messages_bind, skippedIn, List.countP_cons_of_pos (by simpa), List.replicate_succ]
      exact congrArg (skippedNotice name :: ·) ih
    · rename_i keep
      have kept : zone.status ≠ .removed := by
        intro removed
        simp [removed, ZoneStatus.isEligible] at keep
      rw [ih, skippedIn, skippedIn, List.countP_cons_of_neg (by simpa)]

theorem warns_tellStatus (name : String) {status : ZoneStatus} (usable : status ≠ .removed)
    (state : σ) : Warns name status (tellStatus name status state).messages := by
  cases status with
  | active => exact .active
  | degraded raw => exact .degraded raw
  | undocumented raw => exact .undocumented raw
  | removed => exact absurd rfl usable

/-- A zone that may own records is in use. -/
theorem status_of_eligible {zones : List Zone} {zone : Zone} (mem : zone ∈ eligible zones) :
    zone.status ≠ .removed := by
  have kept := (List.mem_filter.mp mem).2
  simpa using kept

section

variable {source : ZoneSource σ} (domain : Domain) {candidate : String} {state : ZoneCache × σ}
  (silent : (ZoneCache.lookup source candidate state).messages = [])

include silent

theorem messages_resolveAmong_of_passes (rest : List String)
    (h : Passes (ZoneCache.lookup source candidate state).value) :
    (resolveAmong source domain (candidate :: rest) state).messages =
      skippedIn candidate (ZoneCache.lookup source candidate state).value ++
        (resolveAmong source domain rest
          (ZoneCache.lookup source candidate state).state).messages := by
  obtain ⟨zones, answer, none⟩ := h
  rw [resolveAmong, Act.messages_bind, silent, List.nil_append, answer]
  dsimp only
  rw [Act.messages_bind, messages_tellSkipped, tellSkipped_state, eligible_eq_filter, none]

theorem messages_resolveAmong_of_decides (rest : List String) {result : Except Failure String}
    (h : Decides candidate (ZoneCache.lookup source candidate state).value result) :
    ∃ last, Remarks candidate (ZoneCache.lookup source candidate state).value last ∧
      (resolveAmong source domain (candidate :: rest) state).messages =
        skippedIn candidate (ZoneCache.lookup source candidate state).value ++ last := by
  generalize answer : (ZoneCache.lookup source candidate state).value = given at h
  rw [resolveAmong, Act.messages_bind, silent, List.nil_append, answer]
  cases h with
  | failed failure => exact ⟨_, .failed failure, rfl⟩
  | @owner zones zone only =>
    have mem : zone ∈ eligible zones := by simp [only]
    have warns := warns_tellStatus candidate (status_of_eligible mem)
      (ZoneCache.lookup source candidate state).state
    dsimp only
    rw [Act.messages_bind, messages_tellSkipped, tellSkipped_state, eligible_eq_filter, only]
    refine ⟨_, .owner only warns, ?_⟩
    dsimp only
    rw [Act.messages_bind]
    exact congrArg _ (List.append_nil _)
  | @ambiguous zones several =>
    refine ⟨_, .ambiguous several, ?_⟩
    dsimp only
    rw [Act.messages_bind, messages_tellSkipped, eligible_eq_filter]
    cases found : eligible zones with
    | nil => simp [found] at several
    | cons first others =>
      cases others with
      | nil => simp [found] at several
      | cons second more => rfl

end

/-! The walk. -/

/-- What is told of a resolution that looks up `looked`. -/
structure Announces (source : ZoneSource σ) (domain : Domain) (candidates : List String)
    (state : ZoneCache × σ) (looked : List String) : Prop where
  inOrder : looked <+: candidates
  ends : Ends domain candidates looked (ZoneCache.lookupEach source looked state).value
    (resolveAmong source domain candidates state).value
  /-- Each candidate's notices come in the candidates' order, and then the last words. -/
  told : ∃ last,
    Closes domain candidates looked (ZoneCache.lookupEach source looked state).value last ∧
    (resolveAmong source domain candidates state).messages =
      (List.zipWith skippedIn looked (ZoneCache.lookupEach source looked state).value).flatten ++
        last
  /-- The answers alone decide, wherever they are from. -/
  determined : ∀ {τ : Type} (other : ZoneSource τ) (elsewhere : ZoneCache × τ),
    (∀ name, (other name).IsSilent) →
    (ZoneCache.lookupEach other looked elsewhere).value =
      (ZoneCache.lookupEach source looked state).value →
    (resolveAmong other domain candidates elsewhere).value =
      (resolveAmong source domain candidates state).value ∧
    (resolveAmong other domain candidates elsewhere).messages =
      (resolveAmong source domain candidates state).messages

section

variable {source : ZoneSource σ} (silent : ∀ name, (source name).IsSilent) {domain : Domain}
  {candidate : String} {rest : List String} {state : ZoneCache × σ}

include silent

theorem Announces.after_passes {looked : List String}
    (passes : Passes (ZoneCache.lookup source candidate state).value)
    (h : Announces source domain rest (ZoneCache.lookup source candidate state).state looked) :
    Announces source domain (candidate :: rest) state (candidate :: looked) := by
  obtain ⟨value, -⟩ := resolveAmong_of_passes source domain rest passes
  have unsaid := (ZoneCache.isSilent_lookup silent candidate).messages state
  have messages := messages_resolveAmong_of_passes domain unsaid rest passes
  constructor
  case inOrder => exact List.cons_prefix_cons.mpr ⟨rfl, h.inOrder⟩
  case ends =>
    rw [value, ZoneCache.lookupEach_cons_value]
    exact h.ends.after_passes domain passes
  case told =>
    obtain ⟨last, closes, told⟩ := h.told
    rw [ZoneCache.lookupEach_cons_value]
    refine ⟨last, closes.after_passes passes, ?_⟩
    rw [messages, told, List.zipWith_cons_cons, List.flatten_cons, List.append_assoc]
  case determined =>
    intro τ other elsewhere quiet same
    rw [ZoneCache.lookupEach_cons_value, ZoneCache.lookupEach_cons_value] at same
    obtain ⟨first, others⟩ := List.cons.inj same
    have also := first.symm ▸ passes
    obtain ⟨found, -⟩ := resolveAmong_of_passes other domain rest also
    obtain ⟨later, words⟩ := h.determined other _ quiet others
    have mute := (ZoneCache.isSilent_lookup quiet candidate).messages elsewhere
    rw [found, value, messages, messages_resolveAmong_of_passes domain mute rest also, later,
      words, first]
    exact ⟨rfl, rfl⟩

theorem announces_of_decides {result : Except Failure String}
    (decides : Decides candidate (ZoneCache.lookup source candidate state).value result) :
    Announces source domain (candidate :: rest) state [candidate] := by
  obtain ⟨value, -⟩ := resolveAmong_of_decides source domain rest decides
  have unsaid := (ZoneCache.isSilent_lookup silent candidate).messages state
  obtain ⟨last, remarks, messages⟩ :=
    messages_resolveAmong_of_decides domain unsaid rest decides
  have passed : ∀ answer ∈ ([] : List (Except Api.Failure (List Zone))), Passes answer := by simp
  constructor
  case inOrder => simp
  case ends =>
    rw [value, ZoneCache.lookupEach_cons_value]
    exact (.decided passed decides : Ends domain _ ([] ++ [candidate]) ([] ++ [_]) result)
  case told =>
    rw [ZoneCache.lookupEach_cons_value]
    have closes : Closes domain (candidate :: rest) ([] ++ [candidate]) ([] ++ [_]) last :=
      .decided passed remarks
    refine ⟨last, closes, ?_⟩
    rw [messages, List.zipWith_cons_cons, List.flatten_cons, ZoneCache.lookupEach_nil]
    simp
  case determined =>
    intro τ other elsewhere quiet same
    rw [ZoneCache.lookupEach_cons_value, ZoneCache.lookupEach_cons_value] at same
    obtain ⟨first, -⟩ := List.cons.inj same
    have also := first.symm ▸ decides
    obtain ⟨found, -⟩ := resolveAmong_of_decides other domain rest also
    have mute := (ZoneCache.isSilent_lookup quiet candidate).messages elsewhere
    obtain ⟨words, others, told⟩ := messages_resolveAmong_of_decides domain mute rest also
    rw [first] at others told
    rw [found, value, told, messages, others.unique remarks]
    exact ⟨rfl, rfl⟩

theorem exists_announces (domain : Domain) (candidates : List String) (state : ZoneCache × σ) :
    ∃ looked, Announces source domain candidates state looked := by
  induction candidates generalizing state with
  | nil =>
    have passed : ∀ answer ∈ ([] : List (Except Api.Failure (List Zone))), Passes answer := by simp
    exact ⟨[], List.prefix_rfl, .exhausted passed, ⟨_, .exhausted passed, rfl⟩,
      fun _ _ _ _ => ⟨rfl, rfl⟩⟩
  | cons candidate rest ih =>
    rcases decides_or_passes candidate (ZoneCache.lookup source candidate state).value with
      passes | ⟨result, decides⟩
    · obtain ⟨looked, h⟩ := ih (ZoneCache.lookup source candidate state).state
      exact ⟨candidate :: looked, h.after_passes silent passes⟩
    · exact ⟨[candidate], announces_of_decides silent decides⟩

end

/-! Once more. -/

/-- The first outcome over again, and with nothing called for or changed. -/
structure Echo {α : Type} (first : Outcome (ZoneCache × σ) α) (before : ZoneCache × τ)
    (second : Outcome (ZoneCache × τ) α) : Prop where
  value : second.value = first.value
  messages : second.messages = first.messages
  state : second.state = before
  calls : second.calls = []

/-- If no look-up failed, the lists that are left lead to the same result in the same words,
whatever source there is to ask. -/
def Repeats (source : ZoneSource σ) (domain : Domain) (candidates : List String)
    (state : ZoneCache × σ) : Prop :=
  (∀ zone reason,
    (resolveAmong source domain candidates state).value ≠ .error (.zoneLookupFailed zone reason)) →
  ∀ {τ : Type} (other : ZoneSource τ) (remote : τ),
    Echo (resolveAmong source domain candidates state)
      ((resolveAmong source domain candidates state).state.1, remote)
      (resolveAmong other domain candidates
        ((resolveAmong source domain candidates state).state.1, remote))

/-- A list that is remembered is given without a word or a call. -/
theorem messages_lookup_hit {name : String} {cache : ZoneCache} {zones : List Zone}
    (known : cache.find? name = some zones) (source : ZoneSource σ) (remote : σ) :
    (ZoneCache.lookup source name (cache, remote)).messages = [] := by
  unfold ZoneCache.lookup
  by_cases root : name = ""
  · rw [if_pos root]
    rfl
  · rw [if_neg root, Act.IsSilent.messages_bind .get]
    dsimp only [Act.get_apply]
    rw [known]
    exact Act.IsSilent.messages (.bind (.emit rfl) fun _ => .pure _) _

section

variable {source : ZoneSource σ} (silent : ∀ name, (source name).IsSilent) {domain : Domain}
  {candidate : String} {rest : List String} {state : ZoneCache × σ}

include silent

theorem Repeats.after_passes (named : candidate ≠ "") (new : candidate ∉ rest)
    (passes : Passes (ZoneCache.lookup source candidate state).value)
    (h : Repeats source domain rest (ZoneCache.lookup source candidate state).state) :
    Repeats source domain (candidate :: rest) state := by
  obtain ⟨value, after⟩ := resolveAmong_of_passes source domain rest passes
  have unsaid := (ZoneCache.isSilent_lookup silent candidate).messages state
  have messages := messages_resolveAmong_of_passes domain unsaid rest passes
  obtain ⟨zones, answer, none⟩ := passes
  intro whole τ other remote
  rw [value] at whole
  have later := h whole other remote
  rw [after]
  generalize cacheEq : (resolveAmong source domain rest
    (ZoneCache.lookup source candidate state).state).state.1 = cache at later ⊢
  have known : cache.find? candidate = some zones := by
    rw [← cacheEq, find?_resolveAmong_of_not_mem source domain new]
    exact ZoneCache.find?_lookup_of_ok source named answer
  have mute := messages_lookup_hit known other remote
  have quiet : (ZoneCache.lookup other candidate (cache, remote)).calls = [] :=
    ZoneCache.calls_lookup_hit other known
  obtain ⟨gives, same⟩ : (ZoneCache.lookup other candidate (cache, remote)).value = .ok zones ∧
    (ZoneCache.lookup other candidate (cache, remote)).state = (cache, remote) :=
      ZoneCache.lookup_hit other named known
  have also : Passes (ZoneCache.lookup other candidate (cache, remote)).value :=
    ⟨zones, gives, none⟩
  obtain ⟨found, left⟩ := resolveAmong_of_passes other domain rest also
  constructor
  case value => rw [found, same, value, later.value]
  case messages =>
    rw [messages_resolveAmong_of_passes domain mute rest also, gives, same, later.messages,
      messages, answer]
  case state => rw [left, same, later.state]
  case calls =>
    rw [calls_resolveAmong_of_passes other domain rest also, same, later.calls, quiet,
      List.append_nil]

theorem repeats_of_decides (named : candidate ≠ "") {result : Except Failure String}
    (decides : Decides candidate (ZoneCache.lookup source candidate state).value result) :
    Repeats source domain (candidate :: rest) state := by
  obtain ⟨value, after⟩ := resolveAmong_of_decides source domain rest decides
  have unsaid := (ZoneCache.isSilent_lookup silent candidate).messages state
  obtain ⟨last, remarks, messages⟩ := messages_resolveAmong_of_decides domain unsaid rest decides
  intro whole τ other remote
  rw [value] at whole
  have listed : ∃ zones, (ZoneCache.lookup source candidate state).value = .ok zones := by
    generalize (ZoneCache.lookup source candidate state).value = answer at decides
    cases decides with
    | failed failure => exact absurd rfl (whole candidate failure.message)
    | owner | ambiguous => exact ⟨_, rfl⟩
  obtain ⟨zones, answer⟩ := listed
  have known := ZoneCache.find?_lookup_of_ok source named answer
  rw [after]
  generalize (ZoneCache.lookup source candidate state).state.1 = cache at known ⊢
  have mute := messages_lookup_hit known other remote
  have quiet : (ZoneCache.lookup other candidate (cache, remote)).calls = [] :=
    ZoneCache.calls_lookup_hit other known
  obtain ⟨gives, same⟩ : (ZoneCache.lookup other candidate (cache, remote)).value = .ok zones ∧
    (ZoneCache.lookup other candidate (cache, remote)).state = (cache, remote) :=
      ZoneCache.lookup_hit other named known
  rw [answer] at decides messages remarks
  have also := gives.symm ▸ decides
  obtain ⟨found, left⟩ := resolveAmong_of_decides other domain rest also
  obtain ⟨words, others, told⟩ := messages_resolveAmong_of_decides domain mute rest also
  rw [gives] at others told
  constructor
  case value => rw [found, value]
  case messages => rw [told, messages, others.unique remarks]
  case state => rw [left, same]
  case calls =>
    rw [calls_resolveAmong_of_decides other domain rest also, quiet]

theorem repeats_resolveAmong (domain : Domain) {candidates : List String}
    (distinct : candidates.Nodup) (named : ∀ name ∈ candidates, name ≠ "")
    (state : ZoneCache × σ) : Repeats source domain candidates state := by
  induction candidates generalizing state with
  | nil => exact fun _ _ _ _ => ⟨rfl, rfl, rfl, rfl⟩
  | cons candidate rest ih =>
    obtain ⟨new, distinctRest⟩ := List.nodup_cons.mp distinct
    obtain ⟨first, namedRest⟩ := List.forall_mem_cons.mp named
    rcases decides_or_passes candidate (ZoneCache.lookup source candidate state).value with
      passes | ⟨result, decides⟩
    · exact .after_passes silent first new passes (ih distinctRest namedRest _)
    · exact repeats_of_decides silent first decides

end

/-! Resolutions. -/

/-- Of the status of some zone, and of nothing else. -/
def IsStatusNotice (message : Message) : Prop :=
  (∃ name, message = skippedNotice name) ∨
    ∃ name status messages, Warns name status messages ∧ message ∈ messages

theorem isStatusNotice_of_mem_skippedIn {message : Message} {looked : List String}
    {answers : List (Except Api.Failure (List Zone))}
    (mem : message ∈ (List.zipWith skippedIn looked answers).flatten) :
    IsStatusNotice message := by
  obtain ⟨notices, listed, among⟩ := List.mem_flatten.mp mem
  rw [← List.map_uncurry_zip_eq_zipWith] at listed
  obtain ⟨⟨name, answer⟩, -, rfl⟩ := List.mem_map.mp listed
  cases answer with
  | error failure => cases among
  | ok zones => exact .inl ⟨name, (List.mem_replicate.mp among).2⟩

section

variable {domain : Domain} {candidates looked others : List String}
  {answers : List (Except Api.Failure (List Zone))} {last : List Message}

/-- A resolution that fails has a warning for its last word. -/
theorem Closes.of_error {failure : Failure} (h : Closes domain candidates looked answers last)
    (ends : Ends domain candidates others answers (.error failure)) :
    ∃ message, last = [message] ∧ message.level = .warning := by
  cases h with
  | exhausted passed => exact ⟨_, rfl, rfl⟩
  | @decided before candidate answers answer last passed remarks =>
    cases remarks with
    | failed failure => exact ⟨_, rfl, rfl⟩
    | ambiguous several => exact ⟨_, rfl, rfl⟩
    | @owner zones zone last only warns =>
      generalize given : answers ++ [.ok zones] = all at ends
      cases ends with
      | exhausted passed =>
        obtain ⟨_, same, none⟩ := passed (.ok zones) (by simp [← given])
        cases same
        simp [only] at none
      | decided passed decides =>
        obtain ⟨-, same⟩ := List.append_inj' given rfl
        cases List.singleton_inj.mp same
        cases decides with
        | ambiguous several => simp [only] at several

/-- One that succeeds ends with the status of the zone. -/
theorem Closes.of_ok {zone : String} (h : Closes domain candidates looked answers last)
    (ends : Ends domain candidates others answers (.ok zone)) :
    ∃ name status, Warns name status last := by
  cases h with
  | exhausted passed =>
    cases ends with
    | decided others decides => exact absurd (passed _ (by simp)) decides.not_passes
  | @decided before candidate answers answer last passed remarks =>
    generalize given : answers ++ [answer] = all at ends
    cases ends with
    | decided passed decides =>
      obtain ⟨-, same⟩ := List.append_inj' given rfl
      cases List.singleton_inj.mp same
      cases decides with
      | owner only =>
        cases remarks with
        | owner also warns => exact ⟨_, _, warns⟩
        | ambiguous several => simp [only] at several

end

/-- All that is told of a resolution which looks up `looked`. -/
structure Notices (source : ZoneSource σ) (domain : Domain) (state : ZoneCache × σ)
    (looked : List String) : Prop where
  inOrder : looked <+: domain.zoneCandidates
  ends : Ends domain domain.zoneCandidates looked (ZoneCache.lookupEach source looked state).value
    (resolve source domain state).value
  told : ∃ last,
    Closes domain domain.zoneCandidates looked (ZoneCache.lookupEach source looked state).value
      last ∧
    (resolve source domain state).messages =
      (List.zipWith skippedIn looked (ZoneCache.lookupEach source looked state).value).flatten ++
        last
  /-- From any source and with anything remembered, the same lists give the same words. -/
  determined : ∀ {τ : Type} (other : ZoneSource τ) (elsewhere : ZoneCache × τ),
    (∀ name, (other name).IsSilent) →
    (ZoneCache.lookupEach other looked elsewhere).value =
      (ZoneCache.lookupEach source looked state).value →
    (resolve other domain elsewhere).value = (resolve source domain state).value ∧
    (resolve other domain elsewhere).messages = (resolve source domain state).messages
  /-- A second resolution says it all again, and no source has a part in it. -/
  repeated :
    (∀ zone reason, (resolve source domain state).value ≠ .error (.zoneLookupFailed zone reason)) →
    ∀ {τ : Type} (other : ZoneSource τ) (remote : τ),
      Echo (resolve source domain state) ((resolve source domain state).state.1, remote)
        (resolve other domain ((resolve source domain state).state.1, remote))

/-- What a resolution says is in the lists of zones that it looked up, and nothing else is. -/
theorem exists_notices {source : ZoneSource σ} (silent : ∀ name, (source name).IsSilent)
    (domain : Domain) (state : ZoneCache × σ) : ∃ looked, Notices source domain state looked := by
  obtain ⟨looked, announces⟩ := exists_announces silent domain domain.zoneCandidates state
  have named : ∀ name ∈ domain.zoneCandidates, name ≠ "" := by
    intro name mem
    exact Domain.ne_empty_of_mem_zoneCandidates mem
  have repeats := repeats_resolveAmong silent domain domain.nodup_zoneCandidates named state
  exact ⟨looked, announces.inOrder, announces.ends, announces.told, announces.determined, repeats⟩

end Resolver

/-! A zone that is new and one that is gone. -/

namespace ZoneTable

theorem isSilent_source (name : String) : (source name).IsSilent := by
  intro table event mem
  unfold source at mem
  cases failed : table.failures <;> simp [failed] at mem

/-- Of two zones for `b.c` one was deleted, and the other has a status that is new. -/
private def renamed : ZoneTable :=
  ⟨[("b.c", [⟨"y", .removed⟩, ⟨"z", .undocumented "moved"⟩])], [], []⟩

private def child : Domain := .literal ⟨"a.b.c", by decide +kernel⟩

/-- Both resolutions find `z`, which takes three messages, and the second one asks for nothing. -/
theorem exists_notices_renamed :
    let first := Resolver.resolve source child (ZoneCache.empty, renamed)
    (∀ name, (source name).IsSilent) ∧
    first.value = .ok "z" ∧ first.state.2.queries = ["a.b.c", "b.c"] ∧
    first.messages = Resolver.skippedNotice "b.c" ::
      [⟨.warning, .impossible, "Zone \"b.c\" is in an undocumented status \"moved\""⟩,
        ⟨.warning, .impossible, "Please report this status to the maintainers"⟩] ∧
    (Resolver.resolve source child first.state).messages = first.messages ∧
    (Resolver.resolve source child first.state).state.2.queries = ["a.b.c", "b.c"] := by
  intro first
  have found : first.value = .ok "z" := by decide +kernel
  have asked : first.state.2.queries = ["a.b.c", "b.c"] := by decide +kernel
  obtain ⟨looked, notices⟩ :=
    Resolver.exists_notices isSilent_source child (ZoneCache.empty, renamed)
  have succeeded : ∀ zone reason, first.value ≠ .error (.zoneLookupFailed zone reason) := by
    intro zone reason failed
    rw [found] at failed
    cases failed
  have again := notices.repeated succeeded source first.state.2
  refine ⟨isSilent_source, found, asked, by decide +kernel, again.messages, ?_⟩
  rw [again.state, asked]

end ZoneTable

end AddressRecords
