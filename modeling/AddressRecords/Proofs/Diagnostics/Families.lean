import AddressRecords.Diagnostics.Sinks
import Mathlib.Data.List.DropRight
import Mathlib.Logic.Relation

/-!
What a sink and its clones show. Sinks form families: a clone belongs to the family of the sink it
was made from. All sinks of a family show the messages that any of them was given since any of them
was last cleared, and nothing that is done to another family changes that.
-/

namespace AddressRecords.Diagnostics

/-- The ways to give a message to a sink. -/
inductive Method
  | emit (level : Level)
  | info
  | warning
  | error
  deriving DecidableEq

/-- The level that a message gets. -/
def Method.level : Method → Level
  | emit level => level
  | info => .info
  | warning => .warning
  | error => .error

/-- What is done with sinks, which go by their numbers. -/
inductive SinkAction
  | create
  | clone (sink : Nat)
  | give (sink : Nat) (method : Method) (tag : Tag) (text : String)
  | clear (sink : Nat)
  deriving DecidableEq

namespace SinkAction

/-- Whether a sink is made. -/
def makes : SinkAction → Bool
  | create | clone _ => true
  | give .. | clear _ => false

/-- The sink that the action is about. -/
def sink? : SinkAction → Option Nat
  | create => none
  | clone sink | give sink .. | clear sink => some sink

end SinkAction

open SinkAction

/-- How many sinks have been made. -/
def made (history : List SinkAction) : Nat := history.countP (·.makes)

/-- Only sinks that are there are used, `count` of them from the start. -/
def UsesMade (count : Nat) : List SinkAction → Prop
  | [] => True
  | action :: rest =>
    (∀ sink ∈ action.sink?, sink < count) ∧ UsesMade (count + if action.makes then 1 else 0) rest

/-- The second sink was made as a clone of the first. -/
def Cloned (history : List SinkAction) (sink copy : Nat) : Prop :=
  ∃ before after, history = before ++ clone sink :: after ∧ copy = made before

/-- Sinks that are related by cloning, in either direction and over any number of clones. -/
def Family (history : List SinkAction) : Nat → Nat → Prop := Relation.EqvGen (Cloned history)

/-! What reaches some sinks. -/

section

variable (members : Nat → Prop) [DecidablePred members]

/-- The message that the action gives to one of the sinks. -/
def SinkAction.message? : SinkAction → Option Message
  | give sink method tag text => if members sink then some ⟨method.level, tag, text⟩ else none
  | create | clone _ | clear _ => none

def SinkAction.clears : SinkAction → Bool
  | clear sink => members sink
  | create | clone _ | give .. => false

/-- What has been given to any of the sinks since any of them was last cleared. -/
def kept (history : List SinkAction) : List Message :=
  (history.rtakeWhile fun action => !action.clears members).filterMap (·.message? members)

theorem kept_concat (history : List SinkAction) (action : SinkAction) :
    kept members (history ++ [action]) = if action.clears members then []
      else kept members history ++ (action.message? members).toList := by
  rw [kept, List.rtakeWhile_concat]
  by_cases clears : action.clears members
  · rw [if_pos clears, if_neg (by simp [clears])]
    rfl
  · rw [if_neg clears, if_pos (by simp [clears]), List.filterMap_append, ← kept]
    cases given : action.message? members <;> simp [given]

/-- Whether the messages of one of the sinks change. -/
def SinkAction.touches : SinkAction → Bool
  | give sink .. | clear sink => members sink
  | create | clone _ => false

theorem of_touches {action : SinkAction} (touching : action.touches members) :
    action.clears members = action.clears (fun _ => True) ∧
      action.message? members = action.message? (fun _ => True) := by
  cases action with
  | create | clone => cases touching
  | give sink | clear sink =>
    have member : members sink := of_decide_eq_true touching
    simp [SinkAction.clears, message?, member]

theorem of_not_touches {action : SinkAction} (foreign : ¬ action.touches members) :
    ¬ action.clears members ∧ action.message? members = none := by
  cases action with
  | create | clone => exact ⟨Bool.false_ne_true, rfl⟩
  | give sink | clear sink =>
    have outside : ¬ members sink := fun member => foreign (decide_eq_true member)
    simp [SinkAction.clears, message?, outside]

/-- Only what touches one of the sinks counts. -/
theorem kept_eq_of_touching (history : List SinkAction) :
    kept members history = kept (fun _ => True) (history.filter (·.touches members)) := by
  induction history using List.reverseRecOn with
  | nil => rfl
  | append_singleton earlier action ih =>
    rw [List.filter_append, kept_concat, ih]
    by_cases touching : action.touches members
    · have whole : [action].filter (·.touches members) = [action] := by simp [touching]
      obtain ⟨cleared, given⟩ := of_touches members touching
      rw [whole, kept_concat, cleared, given]
    · have nothing : [action].filter (·.touches members) = [] := by simp [touching]
      obtain ⟨uncleared, silent⟩ := of_not_touches members touching
      rw [nothing, List.append_nil, if_neg uncleared, silent, Option.toList_none, List.append_nil]

theorem kept_append {history more : List SinkAction}
    (foreign : ∀ action ∈ more, ¬ action.touches members) :
    kept members (history ++ more) = kept members history := by
  have nothing : more.filter (·.touches members) = [] := List.filter_eq_nil_iff.mpr foreign
  rw [kept_eq_of_touching, List.filter_append, nothing, List.append_nil, ← kept_eq_of_touching]

theorem kept_congr {members others : Nat → Prop} [DecidablePred members] [DecidablePred others]
    (same : ∀ sink, members sink ↔ others sink) (history : List SinkAction) :
    kept members history = kept others history := by
  obtain rfl : members = others := funext fun sink => propext (same sink)
  congr

end

namespace Sinks

/-- No sink has been made. -/
def empty : Sinks := ⟨[], []⟩

def give (s : Sinks) (sink : Nat) (method : Method) (tag : Tag) (text : String) : Sinks :=
  match method with
  | .emit level => s.emit sink ⟨level, tag, text⟩
  | .info => s.info sink tag text
  | .warning => s.warning sink tag text
  | .error => s.error sink tag text

def apply (s : Sinks) : SinkAction → Sinks
  | .create => s.create
  | .clone sink => s.clone sink
  | .give sink method tag text => s.give sink method tag text
  | .clear sink => s.clear sink

/-- The sinks after a history, which starts without any. -/
def after (history : List SinkAction) : Sinks := history.foldl apply empty

theorem after_concat (history : List SinkAction) (action : SinkAction) :
    after (history ++ [action]) = (after history).apply action := by
  rw [after, List.foldl_append]
  rfl

/-! One action. -/

variable (s : Sinks)

theorem give_eq_emit (sink : Nat) (method : Method) (tag : Tag) (text : String) :
    s.give sink method tag text = s.emit sink ⟨method.level, tag, text⟩ := by
  cases method <;> rfl

theorem bufferOf_change (sink : Nat) (update : List Message → List Message) :
    (s.change sink update).bufferOf = s.bufferOf := by
  unfold change
  split <;> rfl

theorem length_buffers_change (sink : Nat) (update : List Message → List Message) :
    (s.change sink update).buffers.length = s.buffers.length := by
  unfold change
  split
  · exact List.length_modify ..
  · rfl

/-- What a buffer holds when the buffer of one sink has been changed. -/
theorem getD_change {sink own : Nat} (at_own : s.bufferOf[sink]? = some own)
    (inside : own < s.buffers.length) (update : List Message → List Message) (buffer : Nat) :
    (s.change sink update).buffers.getD buffer [] =
      if own = buffer then update (s.buffers.getD buffer []) else s.buffers.getD buffer [] := by
  simp only [change, at_own, List.getD_eq_getElem?_getD, List.getElem?_modify]
  by_cases same : own = buffer
  · subst same
    simp [inside]
  · simp [same]

/-- The buffer of the sink that is made. -/
def newBuffer? : SinkAction → Option Nat
  | .create => some s.buffers.length
  | .clone sink => s.bufferOf[sink]?
  | .give .. | .clear _ => none

theorem bufferOf_apply (action : SinkAction) :
    (s.apply action).bufferOf = s.bufferOf ++ (s.newBuffer? action).toList := by
  cases action with
  | create => rfl
  | clone sink =>
    rw [apply, clone, newBuffer?]
    cases s.bufferOf[sink]? with
    | none => exact (List.append_nil _).symm
    | some buffer => rfl
  | give sink method tag text =>
    rw [apply, give_eq_emit]
    exact (s.bufferOf_change ..).trans (List.append_nil _).symm
  | clear sink => exact (s.bufferOf_change ..).trans (List.append_nil _).symm

theorem length_buffers_apply (action : SinkAction) :
    (s.apply action).buffers.length = s.buffers.length + if action = .create then 1 else 0 := by
  cases action with
  | create => exact List.length_append
  | clone sink =>
    rw [apply, clone]
    cases s.bufferOf[sink]? <;> rfl
  | give sink method tag text =>
    rw [apply, give_eq_emit]
    exact s.length_buffers_change ..
  | clear sink => exact s.length_buffers_change ..

end Sinks

/-! Histories. -/

theorem made_concat (history : List SinkAction) (action : SinkAction) :
    made (history ++ [action]) = made history + if action.makes then 1 else 0 := by
  rw [made, List.countP_append, List.countP_singleton]
  rfl

theorem usesMade_append (count : Nat) (history more : List SinkAction) :
    UsesMade count (history ++ more) ↔
      UsesMade count history ∧ UsesMade (count + made history) more := by
  induction history generalizing count with
  | nil => simp [UsesMade, made]
  | cons action rest ih =>
    have later : made (action :: rest) = made rest + if action.makes then 1 else 0 :=
      List.countP_cons
    have total : count + (if action.makes then 1 else 0) + made rest =
        count + made (action :: rest) := by
      rw [later]
      omega
    rw [List.cons_append, UsesMade, ih, total, UsesMade, and_assoc]

theorem usesMade_concat (history : List SinkAction) (action : SinkAction) :
    UsesMade 0 (history ++ [action]) ↔
      UsesMade 0 history ∧ ∀ sink ∈ action.sink?, sink < made history := by
  rw [usesMade_append, UsesMade, UsesMade, and_true, Nat.zero_add]

theorem Cloned.append {history : List SinkAction} {sink copy : Nat}
    (h : Cloned history sink copy) (more : List SinkAction) :
    Cloned (history ++ more) sink copy := by
  obtain ⟨before, rest, rfl, made⟩ := h
  exact ⟨before, rest ++ more, List.append_assoc .., made⟩

theorem Family.append {history : List SinkAction} {sink other : Nat}
    (h : Family history sink other) (more : List SinkAction) :
    Family (history ++ more) sink other := by
  have cloned : Cloned history ≤ Cloned (history ++ more) := fun _ _ h => h.append more
  exact Relation.EqvGen.mono cloned _ _ h

namespace Sinks

/-- Every sink that was made has a buffer, and it is there. -/
structure Sound (history : List SinkAction) : Prop where
  size : (after history).bufferOf.length = made history
  inside : ∀ buffer ∈ (after history).bufferOf, buffer < (after history).buffers.length

theorem Sound.exists_buffer {history : List SinkAction} (sound : Sound history) {sink : Nat}
    (there : sink < made history) : ∃ buffer, (after history).bufferOf[sink]? = some buffer ∧
      buffer < (after history).buffers.length := by
  have bound : sink < (after history).bufferOf.length := sound.size ▸ there
  exact ⟨_, List.getElem?_eq_getElem bound, sound.inside _ (List.getElem_mem bound)⟩

theorem sound_of_usesMade {history : List SinkAction} (uses : UsesMade 0 history) :
    Sound history := by
  induction history using List.reverseRecOn with
  | nil => exact ⟨rfl, nofun⟩
  | append_singleton earlier action ih =>
    obtain ⟨before, there⟩ := (usesMade_concat earlier action).mp uses
    have sound := ih before
    constructor
    case size =>
      rw [after_concat, bufferOf_apply, List.length_append, sound.size, made_concat]
      cases action with
      | create | give | clear => rfl
      | clone sink =>
        obtain ⟨buffer, held, -⟩ := sound.exists_buffer (there sink rfl)
        rw [newBuffer?, held]
        rfl
    case inside =>
      intro buffer mem
      rw [after_concat, length_buffers_apply]
      rw [after_concat, bufferOf_apply] at mem
      rcases List.mem_append.mp mem with old | new
      · exact Nat.lt_add_right _ (sound.inside buffer old)
      · cases action with
        | create =>
          obtain rfl : (after earlier).buffers.length = buffer :=
            Option.some.inj (Option.mem_toList.mp new)
          exact Nat.lt_succ_self _
        | clone sink =>
          have held : (after earlier).bufferOf[sink]? = some buffer := Option.mem_toList.mp new
          exact sound.inside buffer (List.mem_of_getElem? held)
        | give | clear => cases new

theorem getD_create (s : Sinks) (buffer : Nat) :
    s.create.buffers.getD buffer [] = s.buffers.getD buffer [] := by
  simp only [create, List.getD_eq_getElem?_getD]
  by_cases inside : buffer < s.buffers.length
  · rw [List.getElem?_append_left inside]
  · have beyond : s.buffers.length ≤ buffer := Nat.le_of_not_lt inside
    rw [List.getElem?_append_right beyond, List.getElem?_eq_none beyond]
    cases buffer - s.buffers.length <;> rfl

theorem buffers_clone (s : Sinks) (sink : Nat) : (s.clone sink).buffers = s.buffers := by
  unfold clone
  split <;> rfl

/-- A sink keeps its buffer. -/
theorem getElem?_of_grown {first table : List Nat} (grown : first <+: table) {sink buffer : Nat}
    (held : first[sink]? = some buffer) : table[sink]? = some buffer := by
  obtain ⟨rest, rfl⟩ := grown
  rw [List.getElem?_append_left (List.getElem?_eq_some_iff.mp held).1, held]

/-- What a buffer holds after one action, where some sinks are told by having it. -/
theorem getD_apply {s : Sinks} {action : SinkAction} (there : ∀ sink ∈ action.sink?,
      ∃ own, s.bufferOf[sink]? = some own ∧ own < s.buffers.length)
    {members : Nat → Prop} [DecidablePred members] {buffer : Nat}
    (told : ∀ sink ∈ action.sink?, members sink ↔ s.bufferOf[sink]? = some buffer) :
    (s.apply action).buffers.getD buffer [] = if action.clears members then []
      else s.buffers.getD buffer [] ++ (action.message? members).toList := by
  cases action with
  | create => exact (s.getD_create buffer).trans (List.append_nil _).symm
  | clone sink =>
    rw [apply, buffers_clone]
    exact (List.append_nil _).symm
  | give sink method tag text =>
    obtain ⟨own, at_own, inside⟩ := there sink rfl
    have member : members sink ↔ own = buffer := by
      rw [told sink rfl, at_own, Option.some.injEq]
    rw [apply, give_eq_emit, emit, getD_change _ at_own inside]
    by_cases same : own = buffer <;> simp [SinkAction.clears, message?, member, same]
  | clear sink =>
    obtain ⟨own, at_own, inside⟩ := there sink rfl
    have member : members sink ↔ own = buffer := by
      rw [told sink rfl, at_own, Option.some.injEq]
    rw [apply, clear, getD_change _ at_own inside]
    by_cases same : own = buffer <;> simp [SinkAction.clears, message?, member, same]

/-- A buffer holds what was given to its sinks since one of them was last cleared. As sinks keep
their buffers, a later table tells which sinks those are as well. -/
theorem getD_after {history : List SinkAction} (uses : UsesMade 0 history) {table : List Nat}
    (grown : (after history).bufferOf <+: table) (buffer : Nat) :
    (after history).buffers.getD buffer [] =
      kept (fun sink => table[sink]? = some buffer) history := by
  induction history using List.reverseRecOn with
  | nil => rfl
  | append_singleton earlier action ih =>
    obtain ⟨before, there⟩ := (usesMade_concat earlier action).mp uses
    have sound := sound_of_usesMade before
    rw [after_concat, bufferOf_apply] at grown
    have grownBefore := (List.prefix_append _ _).trans grown
    have told : ∀ sink ∈ action.sink?,
        table[sink]? = some buffer ↔ (after earlier).bufferOf[sink]? = some buffer := by
      intro sink used
      obtain ⟨own, held, -⟩ := sound.exists_buffer (there sink used)
      rw [held, getElem?_of_grown grownBefore held]
    rw [after_concat, kept_concat, ← ih before grownBefore]
    exact getD_apply (fun sink used => sound.exists_buffer (there sink used)) told

/-! Families. -/

theorem bufferOf_prefix (history more : List SinkAction) :
    (after history).bufferOf <+: (after (history ++ more)).bufferOf := by
  induction more using List.reverseRecOn with
  | nil => simp
  | append_singleton earlier action ih =>
    rw [← List.append_assoc, after_concat, bufferOf_apply]
    exact ih.trans (List.prefix_append _ _)

/-- A clone has the buffer of its sink. -/
theorem getElem?_of_cloned {history : List SinkAction} (uses : UsesMade 0 history)
    {sink copy : Nat} (h : Cloned history sink copy) :
    (after history).bufferOf[sink]? = (after history).bufferOf[copy]? := by
  obtain ⟨before, rest, rfl, rfl⟩ := h
  rw [List.append_cons] at uses ⊢
  obtain ⟨first, there⟩ := (usesMade_concat before _).mp ((usesMade_append 0 _ rest).mp uses).1
  have sound := sound_of_usesMade first
  obtain ⟨buffer, held, -⟩ := sound.exists_buffer (there sink rfl)
  have table : (after (before ++ [SinkAction.clone sink])).bufferOf =
      (after before).bufferOf ++ [buffer] := by
    rw [after_concat, bufferOf_apply, newBuffer?, held]
    rfl
  have grown := bufferOf_prefix (before ++ [SinkAction.clone sink]) rest
  rw [table] at grown
  have copied : ((after before).bufferOf ++ [buffer])[made before]? = some buffer := by
    rw [← sound.size, List.getElem?_concat_length]
  have kept := getElem?_of_grown (List.prefix_append _ [buffer]) held
  rw [getElem?_of_grown grown kept, getElem?_of_grown grown copied]

theorem getElem?_append_toList {buffers : List Nat} {new : Option Nat} {sink buffer : Nat}
    (held : (buffers ++ new.toList)[sink]? = some buffer) :
    buffers[sink]? = some buffer ∨ sink = buffers.length ∧ new = some buffer := by
  by_cases old : sink < buffers.length
  · rw [List.getElem?_append_left old] at held
    exact .inl held
  · rw [List.getElem?_append_right (Nat.le_of_not_lt old)] at held
    cases new with
    | none => cases held
    | some made =>
      have bound : sink - buffers.length < 1 := (List.getElem?_eq_some_iff.mp held).1
      have last : sink - buffers.length = 0 := by omega
      rw [last] at held
      exact .inr ⟨by omega, held⟩

/-- Sinks with one buffer are related by cloning. -/
theorem family_of_buffer {history : List SinkAction} (uses : UsesMade 0 history)
    {sink other buffer : Nat} (held : (after history).bufferOf[sink]? = some buffer)
    (same : (after history).bufferOf[other]? = some buffer) : Family history sink other := by
  induction history using List.reverseRecOn generalizing sink other with
  | nil => cases held
  | append_singleton earlier action ih =>
    obtain ⟨before, there⟩ := (usesMade_concat earlier action).mp uses
    have sound := sound_of_usesMade before
    -- The sink that is made, if it has the buffer, is a clone of one that has it already.
    have joins {old : Nat} (has : (after earlier).bufferOf[old]? = some buffer)
        (new : (after earlier).newBuffer? action = some buffer) :
        Family (earlier ++ [action]) old (after earlier).bufferOf.length := by
      cases action with
      | create =>
        cases new
        exact absurd (sound.inside _ (List.mem_of_getElem? has)) (Nat.lt_irrefl _)
      | clone source =>
        have related := (ih before has new).append [SinkAction.clone source]
        exact related.trans _ _ _ (.rel _ _ ⟨earlier, [], rfl, sound.size⟩)
      | give | clear => cases new
    rw [after_concat, bufferOf_apply] at held same
    rcases getElem?_append_toList held with held | ⟨rfl, new⟩
    · rcases getElem?_append_toList same with same | ⟨rfl, new⟩
      · exact (ih before held same).append [action]
      · exact joins held new
    · rcases getElem?_append_toList same with same | ⟨rfl, -⟩
      · exact (joins same new).symm
      · exact .refl _

theorem getElem?_of_family {history : List SinkAction} (uses : UsesMade 0 history)
    {sink other : Nat} (related : Family history sink other) :
    (after history).bufferOf[sink]? = (after history).bufferOf[other]? := by
  induction related with
  | rel sink copy cloned => exact getElem?_of_cloned uses cloned
  | refl sink => rfl
  | symm sink other _ ih => exact ih.symm
  | trans sink between other _ _ first second => exact first.trans second

theorem family_iff {history : List SinkAction} (uses : UsesMade 0 history) {sink buffer : Nat}
    (held : (after history).bufferOf[sink]? = some buffer) (other : Nat) :
    Family history sink other ↔ (after history).bufferOf[other]? = some buffer := by
  constructor
  · intro related
    rw [← held]
    exact (getElem?_of_family uses related).symm
  · exact family_of_buffer uses held

/-! What is shown. -/

section

variable {history : List SinkAction} (uses : UsesMade 0 history) {sink : Nat}

theorem messages_of_buffer {s : Sinks} {buffer : Nat} (held : s.bufferOf[sink]? = some buffer) :
    s.messages sink = s.buffers.getD buffer [] := by
  rw [messages, held]

include uses

theorem messages_after (there : sink < made history) [DecidablePred (Family history sink)] :
    (after history).messages sink = kept (Family history sink) history := by
  obtain ⟨buffer, held, -⟩ := (sound_of_usesMade uses).exists_buffer there
  rw [messages_of_buffer held, getD_after uses List.prefix_rfl]
  exact kept_congr (fun other => (family_iff uses held other).symm) history

theorem messages_of_family (there : sink < made history) {other : Nat}
    (related : Family history sink other) :
    (after history).messages other = (after history).messages sink := by
  obtain ⟨buffer, held, -⟩ := (sound_of_usesMade uses).exists_buffer there
  rw [messages_of_buffer held, messages_of_buffer ((family_iff uses held other).mp related)]

/-- As long as its family is left alone, a sink shows the same, whatever else is done. -/
theorem messages_append (there : sink < made history) {more : List SinkAction}
    (usesMore : UsesMade 0 (history ++ more)) [DecidablePred (Family (history ++ more) sink)]
    (foreign : ∀ action ∈ more, ¬ action.touches (Family (history ++ more) sink)) :
    (after (history ++ more)).messages sink = (after history).messages sink := by
  obtain ⟨buffer, held, -⟩ := (sound_of_usesMade uses).exists_buffer there
  have grown := bufferOf_prefix history more
  have heldMore := getElem?_of_grown grown held
  have still : made history ≤ made (history ++ more) := by
    rw [made, made, List.countP_append]
    exact Nat.le_add_right _ _
  rw [messages_after usesMore (Nat.lt_of_lt_of_le there still), kept_append _ foreign,
    messages_of_buffer held, getD_after uses grown]
  exact kept_congr (family_iff usesMore heldMore) history

end

/-- What a sink shows after a history. -/
structure Shows (history : List SinkAction) (sink : Nat) [DecidablePred (Family history sink)] :
    Prop where
  messages : (after history).messages sink = kept (Family history sink) history
  texts : (after history).texts sink = (kept (Family history sink) history).map (·.text)
  count : (after history).count sink = (kept (Family history sink) history).length
  isEmpty : (after history).isEmpty sink ↔ kept (Family history sink) history = []
  /-- All of a family show the same. -/
  family : ∀ other, Family history sink other →
    (after history).messages other = (after history).messages sink ∧
    (after history).texts other = (after history).texts sink ∧
    (after history).count other = (after history).count sink ∧
    (after history).isEmpty other = (after history).isEmpty sink
  /-- What is done to other families makes no difference, be it done later … -/
  later : ∀ more, UsesMade 0 (history ++ more) →
    ∀ [DecidablePred (Family (history ++ more) sink)],
    (∀ action ∈ more, ¬ action.touches (Family (history ++ more) sink)) →
    (after (history ++ more)).messages sink = (after history).messages sink
  /-- … or in between. -/
  between : ∀ other, UsesMade 0 other → sink < made other →
    ∀ [DecidablePred (Family other sink)],
    other.filter (·.touches (Family other sink)) =
      history.filter (·.touches (Family history sink)) →
    (after other).messages sink = (after history).messages sink

/-- A sink shows what its family was given since any of it was last cleared. -/
theorem shows_of_usesMade {history : List SinkAction} (uses : UsesMade 0 history) {sink : Nat}
    (there : sink < made history) [DecidablePred (Family history sink)] : Shows history sink := by
  have messages := messages_after uses there
  constructor
  case messages => exact messages
  case texts => rw [texts, messages]
  case count => rw [count, messages]
  case isEmpty => rw [isEmpty, messages, List.isEmpty_iff]
  case family =>
    intro other related
    have same := messages_of_family uses there related
    refine ⟨same, ?_, ?_, ?_⟩
    · rw [texts, texts, same]
    · rw [count, count, same]
    · rw [isEmpty, isEmpty, same]
  case later => exact fun more usesMore _ foreign => messages_append uses there usesMore foreign
  case between =>
    intro other usesOther thereOther _ alike
    rw [messages_after usesOther thereOther, messages, kept_eq_of_touching, alike,
      ← kept_eq_of_touching]

/-- Clones of clones, made before and after messages and a clearing. -/
def aliased : List SinkAction :=
  [.create, .give 0 .warning .error "early", .clone 0, .create, .clear 1, .clone 1,
    .give 3 (.emit .info) .notice "shared", .give 2 .error .impossible "apart",
    .give 0 .error .userError "last"]

theorem shows_aliased : UsesMade 0 aliased ∧ 3 < made aliased ∧
    (after aliased).messages 3 = [⟨.info, .notice, "shared"⟩, ⟨.error, .userError, "last"⟩] ∧
    ∃ _ : DecidablePred (Family aliased 3), Shows aliased 3 := by
  have uses : UsesMade 0 aliased := by
    simp [aliased, UsesMade, SinkAction.sink?, SinkAction.makes]
  have there : 3 < made aliased := by decide
  have decides : DecidablePred (Family aliased 3) := Classical.decPred _
  exact ⟨uses, there, by decide, decides, shows_of_usesMade uses there⟩

end Sinks

end AddressRecords.Diagnostics
