import AddressRecords.Diagnostics.Message

/-!
Sinks that keep the messages they are given. A sink and its clones share one buffer, whichever
was made from which.
-/

namespace AddressRecords.Diagnostics

/-- Sinks are numbered in the order in which they were made, and so are buffers. -/
structure Sinks where
  /-- The buffer of each sink. -/
  bufferOf : List Nat
  buffers : List (List Message)

namespace Sinks

/-- One empty sink. -/
def initial : Sinks := ⟨[0], [[]]⟩

def size (s : Sinks) : Nat := s.bufferOf.length

/-- The messages of a sink. A sink that was never made has none. -/
def messages (s : Sinks) (sink : Nat) : List Message :=
  match s.bufferOf[sink]? with
  | some buffer => s.buffers.getD buffer []
  | none => []

def texts (s : Sinks) (sink : Nat) : List String :=
  (s.messages sink).map (·.text)

/-- How many messages a sink has. -/
def count (s : Sinks) (sink : Nat) : Nat := (s.messages sink).length

def isEmpty (s : Sinks) (sink : Nat) : Bool := (s.messages sink).isEmpty

/-- Replaces what a sink's buffer holds. -/
def change (s : Sinks) (sink : Nat) (update : List Message → List Message) : Sinks :=
  match s.bufferOf[sink]? with
  | some buffer => { s with buffers := s.buffers.modify buffer update }
  | none => s

def emit (s : Sinks) (sink : Nat) (message : Message) : Sinks :=
  s.change sink (· ++ [message])

def info (s : Sinks) (sink : Nat) (tag : Tag) (text : String) : Sinks :=
  s.emit sink ⟨.info, tag, text⟩

def warning (s : Sinks) (sink : Nat) (tag : Tag) (text : String) : Sinks :=
  s.emit sink ⟨.warning, tag, text⟩

def error (s : Sinks) (sink : Nat) (tag : Tag) (text : String) : Sinks :=
  s.emit sink ⟨.error, tag, text⟩

def clear (s : Sinks) (sink : Nat) : Sinks :=
  s.change sink fun _ => []

/-- Adds an empty sink. -/
def create (s : Sinks) : Sinks :=
  ⟨s.bufferOf ++ [s.buffers.length], s.buffers ++ [[]]⟩

/-- Adds a sink with the buffer of another. -/
def clone (s : Sinks) (sink : Nat) : Sinks :=
  match s.bufferOf[sink]? with
  | some buffer => { s with bufferOf := s.bufferOf ++ [buffer] }
  | none => s

end Sinks

end AddressRecords.Diagnostics
