import AddressRecords.Api.Envelope
import AddressRecords.Api.Request

/-!
Why a call to the API gave no result.
-/

namespace AddressRecords.Api

/-- `missing` tells that the API does not know the addressed record. -/
inductive Failure
  | transport (fault : TransportFault)
  | unauthorized (status : Status) (detail : String)
  | notFound (detail : String)
  | rateLimited (detail : String)
  | server (status : Status) (detail : String)
  | rejected (status : Status) (detail : String) (missing : Bool)
  | unsuccessful (detail : String) (missing : Bool)
  | decode (fault : Json.Fault)
  | incomplete (what : String)
  deriving DecidableEq

namespace Failure

def message : Failure → String
  | transport fault => "HTTP request failed: " ++ fault.message
  | unauthorized status detail =>
    "authentication failed: invalid API token or insufficient permissions " ++
      s!"(HTTP {status}): {detail}"
  | notFound detail => s!"not found (HTTP 404): {detail}"
  | rateLimited detail => s!"rate limit exceeded (HTTP 429): {detail}"
  | server status detail => s!"Cloudflare server error (HTTP {status}): {detail}"
  | rejected status detail _ => s!"request rejected (HTTP {status}): {detail}"
  | unsuccessful detail _ => s!"API reported failure: {detail}"
  | decode fault => s!"failed to parse response: {fault.message}"
  | incomplete what => s!"response is missing the {what}"

def isMissing : Failure → Bool
  | notFound _ => true
  | rejected _ _ missing | unsuccessful _ missing => missing
  | _ => false

/-- How many characters of an unreadable body are shown. -/
def excerptLength : Nat := 200

def excerpt (body : String) : String :=
  let bare := (Unicode.trim body).toList
  if bare.isEmpty then "empty response body"
  else if bare.length ≤ excerptLength then String.ofList bare
  else String.ofList (bare.take excerptLength) ++ "..."

/-- The errors that an answer without success reports, if they can be read. -/
def reportedErrors (body : String) : List ResponseInfo :=
  (Json.readText ErrorBody.reader body).toOption.getD []

/-- The failure that an answer without success stands for. -/
def ofReply (status : Status) (body : String) : Failure :=
  let errors := reportedErrors body
  let detail := if errors.isEmpty then excerpt body else summarize errors
  if status.code = 401 ∨ status.code = 403 then unauthorized status detail
  else if status.code = 404 then notFound detail
  else if status.code = 429 then rateLimited detail
  else if 500 ≤ status.code ∧ status.code ≤ 599 then server status detail
  else rejected status detail (reportsMissingRecord errors)

end Failure

end AddressRecords.Api
