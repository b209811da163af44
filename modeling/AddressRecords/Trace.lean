import AddressRecords.Api.Request
import AddressRecords.Diagnostics.Log

/-!
Actions: what an operation gives back, what it does to a state, and what it lets others see while
it runs. The events of several actions in a row are those of each, one after the other.
-/

namespace AddressRecords

inductive Event
  | log (line : Diagnostics.LogLine)
  | message (message : Diagnostics.Message)
  /-- A call was attempted. -/
  | call (call : Api.Call)
  deriving DecidableEq

structure Outcome (σ α : Type) where
  value : α
  state : σ
  events : List Event

def Act (σ α : Type) : Type := σ → Outcome σ α

namespace Act

variable {σ τ α β : Type}

instance : Monad (Act σ) where
  pure value := fun state => ⟨value, state, []⟩
  bind first next := fun state =>
    let done := first state
    let rest := next done.value done.state
    { rest with events := done.events ++ rest.events }

@[ext]
theorem ext {first second : Act σ α} (h : ∀ state, first state = second state) : first = second :=
  funext h

instance : LawfulMonad (Act σ) := LawfulMonad.mk' (Act σ)
  (fun act => ext fun state => by
    change Outcome.mk (act state).value (act state).state ((act state).events ++ []) = act state
    rw [List.append_nil])
  (fun value next => ext fun state => by simp [bind, pure])
  (fun act second third => ext fun state => by simp [bind, List.append_assoc])

def emit (event : Event) : Act σ Unit := fun state => ⟨(), state, [event]⟩

def debug (text : String) : Act σ Unit := emit (.log ⟨.debug, text, none⟩)

def info (text : String) : Act σ Unit := emit (.log ⟨.info, text, none⟩)

def warn (text : String) : Act σ Unit := emit (.log ⟨.warn, text, none⟩)

def error (text : String) : Act σ Unit := emit (.log ⟨.error, text, none⟩)

/-- Tells the user something. -/
def tell (level : Diagnostics.Level) (tag : Diagnostics.Tag) (text : String) : Act σ Unit :=
  emit (.message ⟨level, tag, text⟩)

def get : Act σ σ := fun state => ⟨state, state, []⟩

def modify (change : σ → σ) : Act σ Unit := fun state => ⟨(), change state, []⟩

/-- An action on the second of two states. -/
def onSecond (act : Act τ α) : Act (σ × τ) α := fun state =>
  let done := act state.2
  ⟨done.value, (state.1, done.state), done.events⟩

/-! What actions amount to, one part of the outcome at a time. -/

@[simp] theorem pure_apply (value : α) (state : σ) :
    (pure value : Act σ α) state = ⟨value, state, []⟩ := rfl

@[simp] theorem value_bind (act : Act σ α) (next : α → Act σ β) (state : σ) :
    ((act >>= next) state).value = (next (act state).value (act state).state).value := rfl

@[simp] theorem state_bind (act : Act σ α) (next : α → Act σ β) (state : σ) :
    ((act >>= next) state).state = (next (act state).value (act state).state).state := rfl

@[simp] theorem events_bind (act : Act σ α) (next : α → Act σ β) (state : σ) :
    ((act >>= next) state).events =
      (act state).events ++ (next (act state).value (act state).state).events := rfl

@[simp] theorem value_map (f : α → β) (act : Act σ α) (state : σ) :
    ((f <$> act) state).value = f (act state).value := rfl

@[simp] theorem state_map (f : α → β) (act : Act σ α) (state : σ) :
    ((f <$> act) state).state = (act state).state := rfl

@[simp] theorem events_map (f : α → β) (act : Act σ α) (state : σ) :
    ((f <$> act) state).events = (act state).events := List.append_nil _

@[simp] theorem emit_apply (event : Event) (state : σ) :
    emit event state = ⟨(), state, [event]⟩ := rfl

@[simp] theorem debug_apply (text : String) (state : σ) :
    debug text state = ⟨(), state, [.log ⟨.debug, text, none⟩]⟩ := rfl

@[simp] theorem info_apply (text : String) (state : σ) :
    info text state = ⟨(), state, [.log ⟨.info, text, none⟩]⟩ := rfl

@[simp] theorem tell_apply (level : Diagnostics.Level) (tag : Diagnostics.Tag) (text : String)
    (state : σ) : tell level tag text state = ⟨(), state, [.message ⟨level, tag, text⟩]⟩ := rfl

@[simp] theorem get_apply (state : σ) : get state = ⟨state, state, []⟩ := rfl

@[simp] theorem modify_apply (change : σ → σ) (state : σ) :
    modify change state = ⟨(), change state, []⟩ := rfl

@[simp] theorem onSecond_apply (act : Act τ α) (state : σ × τ) :
    act.onSecond state =
      ⟨(act state.2).value, (state.1, (act state.2).state), (act state.2).events⟩ := rfl

end Act

namespace Event

def message? : Event → Option Diagnostics.Message
  | message m => some m
  | _ => none

def log? : Event → Option Diagnostics.LogLine
  | log line => some line
  | _ => none

def call? : Event → Option Api.Call
  | call c => some c
  | _ => none

/-- The line of an event where messages for the user go to the log as well. -/
def line? : Event → Option Diagnostics.LogLine
  | log line => some line
  | message m => some (.ofMessage m)
  | call _ => none

end Event

end AddressRecords
