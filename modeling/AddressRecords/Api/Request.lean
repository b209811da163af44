import AddressRecords.Api.Status
import AddressRecords.Url.Parse

/-!
Requests to the API and its answers. What an API answers is left open: it may depend on the
request and on a state of its own, and it may fail to answer.
-/

namespace AddressRecords.Api

inductive Method
  | get
  | post
  | patch
  | delete
  deriving DecidableEq, Repr

instance : ToString Method where
  toString
    | .get => "GET"
    | .post => "POST"
    | .patch => "PATCH"
    | .delete => "DELETE"

/-- What is asked of the API, wherever that may be: `path` is put behind the base URL. -/
structure Call where
  method : Method
  path : String
  query : List (String × String)
  body : Option String
  deriving DecidableEq

/-- A call that is addressed and signed. -/
structure Request where
  method : Method
  url : Url
  authorization : String
  body : Option String
  deriving DecidableEq

structure Reply where
  status : Status
  body : String
  deriving DecidableEq

/-- A byte order mark at the start of a body is not part of its text. -/
def Reply.text (reply : Reply) : String :=
  match reply.body.toList with
  | c :: rest => if c.toNat = 0xfeff then String.ofList rest else reply.body
  | [] => reply.body

/-- Where an exchange broke off. -/
inductive Interruption
  | beforeReply
  | withinBody
  deriving DecidableEq, Repr

/-- An API with states in `σ`. -/
structure Service (σ : Type) where
  answer : Request → σ → Except Interruption Reply × σ

/-- An API that cannot be reached. -/
def Service.unreachable {σ : Type} : Service σ := ⟨fun _ state => (.error .beforeReply, state)⟩

/-- Why an exchange gave no complete answer. -/
inductive TransportFault
  /-- The base URL or the token cannot be used at all. -/
  | unusable
  | unusableUrl (url : String)
  | notSent (url : String)
  | bodyCut
  deriving DecidableEq, Repr

def TransportFault.message : TransportFault → String
  | unusable => "builder error"
  | unusableUrl url => s!"builder error for url ({url})"
  | notSent url => s!"error sending request for url ({url})"
  | bodyCut => "error decoding response body"

end AddressRecords.Api
