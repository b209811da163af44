import AddressRecords.Json.Value
import AddressRecords.Ttl

/-!
What the API answers, and the bodies of requests. Every answer comes in one envelope, which tells
whether the request succeeded, why not, and which page of a longer result this is.
-/

namespace AddressRecords.Api

open Json (Reader Node Items Members Fault)

/-- One reported error. -/
structure ResponseInfo where
  code : UInt32
  message : String
  deriving DecidableEq, Repr

structure ResultInfo where
  totalPages : UInt32
  deriving DecidableEq, Repr

structure Envelope (α : Type) where
  success : Bool
  errors : List ResponseInfo
  result : Option α
  resultInfo : Option ResultInfo

/-- The code of the error that the addressed record does not exist. -/
def recordMissingCode : UInt32 := 81044

def reportsMissingRecord (errors : List ResponseInfo) : Bool :=
  errors.any (·.code == recordMissingCode)

/-- The reported errors in one line. -/
def summarize (errors : List ResponseInfo) : String :=
  if errors.isEmpty then "no error details"
  else "; ".intercalate (errors.map fun e => s!"{e.message} (code {e.code})")

/-- A zone as it is listed. -/
structure RawZone where
  id : String
  status : String
  deriving DecidableEq, Repr

/-- A record as it is listed, or as it was created. -/
structure RawRecord where
  id : String
  content : String
  deriving DecidableEq, Repr

structure TokenStatus where
  status : String
  deriving DecidableEq, Repr

namespace ResponseInfo

structure Fields where
  code : Option UInt32
  message : Option String

def ofMembers (depth : Nat) (members : Members) : Except Fault ResponseInfo := do
  let fields ← members.fold (fun (fields : Fields) key node =>
    match key with
    | "code" => do
      let code ← Reader.fill key fields.code (Reader.word32 depth node)
      return { fields with code }
    | "message" => do
      let message ← Reader.fill key fields.message (Reader.string depth node)
      return { fields with message }
    | _ => do
      node.skip
      return fields) ⟨none, none⟩
  return ⟨fields.code.getD 0, fields.message.getD ""⟩

def ofItems (depth : Nat) (items : Items) : Except Fault (ResponseInfo × Items) := do
  let (code, rest) ← items.next (Reader.word32 depth) (.ok 0)
  let (message, rest) ← rest.next (Reader.string depth) (.ok "")
  return (⟨code, message⟩, rest)

def reader : Reader ResponseInfo := Reader.record "struct ResponseInfo" ofItems ofMembers

end ResponseInfo

namespace ResultInfo

def ofMembers (depth : Nat) (members : Members) : Except Fault ResultInfo := do
  let totalPages ← members.fold (fun totalPages key node =>
    match key with
    | "total_pages" => Reader.fill key totalPages (Reader.word32 depth node)
    | _ => do
      node.skip
      return totalPages) none
  return ⟨totalPages.getD 0⟩

def ofItems (depth : Nat) (items : Items) : Except Fault (ResultInfo × Items) := do
  let (totalPages, rest) ← items.next (Reader.word32 depth) (.ok 0)
  return (⟨totalPages⟩, rest)

def reader : Reader ResultInfo := Reader.record "struct ResultInfo" ofItems ofMembers

end ResultInfo

namespace TokenStatus

def ofMembers (depth : Nat) (members : Members) : Except Fault TokenStatus := do
  let status ← members.fold (fun status key node =>
    match key with
    | "status" => Reader.fill key status (Reader.string depth node)
    | _ => do
      node.skip
      return status) none
  return ⟨status.getD ""⟩

def ofItems (depth : Nat) (items : Items) : Except Fault (TokenStatus × Items) := do
  let (status, rest) ← items.next (Reader.string depth) (.ok "")
  return (⟨status⟩, rest)

def reader : Reader TokenStatus := Reader.record "struct TokenStatus" ofItems ofMembers

end TokenStatus

namespace RawZone

structure Fields where
  id : Option String
  status : Option String

def ofMembers (depth : Nat) (members : Members) : Except Fault RawZone := do
  let fields ← members.fold (fun (fields : Fields) key node =>
    match key with
    | "id" => do
      let id ← Reader.fill key fields.id (Reader.string depth node)
      return { fields with id }
    | "status" => do
      let status ← Reader.fill key fields.status (Reader.string depth node)
      return { fields with status }
    | _ => do
      node.skip
      return fields) ⟨none, none⟩
  return ⟨← Reader.require "id" fields.id, fields.status.getD ""⟩

def ofItems (depth : Nat) (items : Items) : Except Fault (RawZone × Items) := do
  let (id, rest) ← items.next (Reader.string depth)
    (.error (.invalidLength 0 "struct Zone with 2 elements"))
  let (status, rest) ← rest.next (Reader.string depth) (.ok "")
  return (⟨id, status⟩, rest)

def reader : Reader RawZone := Reader.record "struct Zone" ofItems ofMembers

end RawZone

namespace RawRecord

structure Fields where
  id : Option String
  content : Option String

def ofMembers (depth : Nat) (members : Members) : Except Fault RawRecord := do
  let fields ← members.fold (fun (fields : Fields) key node =>
    match key with
    | "id" => do
      let id ← Reader.fill key fields.id (Reader.string depth node)
      return { fields with id }
    | "content" => do
      let content ← Reader.fill key fields.content (Reader.string depth node)
      return { fields with content }
    | _ => do
      node.skip
      return fields) ⟨none, none⟩
  return ⟨fields.id.getD "", fields.content.getD ""⟩

def ofItems (depth : Nat) (items : Items) : Except Fault (RawRecord × Items) := do
  let (id, rest) ← items.next (Reader.string depth) (.ok "")
  let (content, rest) ← rest.next (Reader.string depth) (.ok "")
  return (⟨id, content⟩, rest)

def reader : Reader RawRecord := Reader.record "struct DnsRecord" ofItems ofMembers

end RawRecord

namespace Envelope

variable {α : Type}

structure Fields (α : Type) where
  success : Option Bool
  errors : Option (List ResponseInfo)
  result : Option (Option α)
  resultInfo : Option (Option ResultInfo)

def ofMembers (reader : Reader α) (depth : Nat) (members : Members) :
    Except Fault (Envelope α) := do
  let fields ← members.fold (fun (fields : Fields α) key node =>
    match key with
    | "success" => do
      let success ← Reader.fill key fields.success (Reader.boolean depth node)
      return { fields with success }
    | "errors" => do
      let errors ← Reader.fill key fields.errors (ResponseInfo.reader.list depth node)
      return { fields with errors }
    | "result" => do
      let result ← Reader.fill key fields.result (reader.option depth node)
      return { fields with result }
    | "result_info" => do
      let resultInfo ← Reader.fill key fields.resultInfo (ResultInfo.reader.option depth node)
      return { fields with resultInfo }
    | _ => do
      node.skip
      return fields) ⟨none, none, none, none⟩
  return {
    success := ← Reader.require "success" fields.success
    errors := fields.errors.getD []
    result := fields.result.join
    resultInfo := fields.resultInfo.join }

def ofItems (reader : Reader α) (depth : Nat) (items : Items) :
    Except Fault (Envelope α × Items) := do
  let tooShort (length : Nat) : Fault := .invalidLength length "struct Envelope with 4 elements"
  let (success, rest) ← items.next (Reader.boolean depth) (.error (tooShort 0))
  let (errors, rest) ← rest.next (ResponseInfo.reader.list depth) (.ok [])
  let (result, rest) ← rest.next (reader.option depth) (.error (tooShort 2))
  let (resultInfo, rest) ← rest.next (ResultInfo.reader.option depth) (.ok none)
  return (⟨success, errors, result, resultInfo⟩, rest)

/-- Reads an envelope whose result is read by `reader`. -/
def reader (reader : Reader α) : Reader (Envelope α) :=
  Reader.record "struct Envelope" (ofItems reader) (ofMembers reader)

end Envelope

/-! The errors of an answer that is otherwise not looked at. -/

namespace ErrorBody

def ofMembers (depth : Nat) (members : Members) : Except Fault (List ResponseInfo) := do
  let errors ← members.fold (fun errors key node =>
    match key with
    | "errors" => Reader.fill key errors (ResponseInfo.reader.list depth node)
    | _ => do
      node.skip
      return errors) none
  return errors.getD []

def ofItems (depth : Nat) (items : Items) : Except Fault (List ResponseInfo × Items) :=
  items.next (ResponseInfo.reader.list depth) (.ok [])

def reader : Reader (List ResponseInfo) := Reader.record "struct ErrorBody" ofItems ofMembers

end ErrorBody

/-! The bodies of requests. -/

structure NewRecord where
  name : String
  recordType : String
  content : String
  ttl : Ttl
  proxied : Bool
  deriving DecidableEq

structure RecordPatch where
  name : String
  recordType : String
  content : String
  deriving DecidableEq

def NewRecord.toJson (record : NewRecord) : Json.Value :=
  .object [
    ("name", .string record.name),
    ("type", .string record.recordType),
    ("content", .string record.content),
    ("ttl", .ofNat record.ttl.seconds.toNat),
    ("proxied", .boolean record.proxied)]

def RecordPatch.toJson (patch : RecordPatch) : Json.Value :=
  .object [
    ("name", .string patch.name),
    ("type", .string patch.recordType),
    ("content", .string patch.content)]

end AddressRecords.Api
