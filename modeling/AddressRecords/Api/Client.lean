import AddressRecords.Api.Failure
import AddressRecords.Trace

/-!
The API client. Each call is attempted once; an answer counts only if its status, its envelope and
its result do. Lists come in pages, and a list is whole or not there.
-/

namespace AddressRecords.Api

structure Client where
  /-- Has no slash at its end. -/
  baseUrl : String
  token : String
  accountId : Option String
  deriving DecidableEq

namespace Client

/-- A client of the API at `url`. -/
def connectingTo (url token : String) (accountId : Option String) : Client :=
  { baseUrl := String.ofList (url.toList.reverse.dropWhile (· = '/')).reverse
    token, accountId }

/-- The client without its token. -/
def describe (client : Client) : String :=
  s!"ApiClient \x7b base_url: {Text.quote client.baseUrl}, token: {Text.redacted}, " ++
    s!"account_id: {Text.quoteOption client.accountId} \x7d"

/-! One call. -/

/-- A header holds text without controls, except for tabs. -/
def isHeaderValue (text : String) : Bool :=
  text.toList.all fun c => c = '\t' || (0x20 ≤ c.toNat && c.toNat ≠ 0x7f)

def hasHost (url : Url) : Bool := url.host.any (!·.chars.isEmpty)

/-- Whether a request for the URL can be written down. -/
def isSendable (url : Url) : Bool := url.isHttp && url.host.any Url.Host.isSendable

def authorization (client : Client) : String := "Bearer " ++ client.token

/-- The request that a call becomes. -/
def request (client : Client) (call : Call) : Except TransportFault Request :=
  match Url.ofText? (client.baseUrl ++ call.path) with
  | none => .error .unusable
  | some url =>
    if !hasHost url then .error (.unusableUrl (toString url))
    else
      let url := url.appendPairs call.query
      if !isHeaderValue client.authorization then .error .unusable
      else if !isSendable url then .error (.unusableUrl (toString url))
      else .ok ⟨call.method, url, client.authorization, call.body⟩

variable {σ α : Type}

/-- Makes one call, whatever the answer. -/
def attempt (api : Service σ) (client : Client) (call : Call) :
    Act σ (Except TransportFault Reply) := fun state =>
  let events := [Event.call call]
  match client.request call with
  | .error fault => ⟨.error fault, state, events⟩
  | .ok request =>
    match api.answer request state with
    | (.ok reply, state) => ⟨.ok reply, state, events⟩
    | (.error .beforeReply, state) => ⟨.error (.notSent (toString request.url)), state, events⟩
    | (.error .withinBody, state) => ⟨.error .bodyCut, state, events⟩

/-- What an exchange means: an envelope that reports success, or why there is none. -/
def judge (reader : Json.Reader α) :
    Except TransportFault Reply → Except Failure (Envelope α)
  | .error fault => .error (.transport fault)
  | .ok reply =>
    if !reply.status.isSuccess then .error (.ofReply reply.status reply.text)
    else
      match Json.readText (Envelope.reader reader) reply.text with
      | .error fault => .error (.decode fault)
      | .ok envelope =>
        if envelope.success then .ok envelope
        else
          .error (.unsuccessful (summarize envelope.errors)
            (reportsMissingRecord envelope.errors))

/-- Makes one call and takes its answer out of the envelope. -/
def send (api : Service σ) (client : Client) (reader : Json.Reader α) (call : Call) :
    Act σ (Except Failure (Envelope α)) :=
  judge reader <$> attempt api client call

/-! Lists. -/

/-- One page of a list, and how many pages there are by its account. -/
structure Page (α : Type) where
  items : List α
  total : UInt32

/-- The page in an envelope. One that does not tell the number of pages counts none. -/
def Page.ofEnvelope (envelope : Envelope (List α)) : Except Failure (Page α) :=
  match envelope.result with
  | none => .error (.incomplete "result list")
  | some items => .ok ⟨items, (envelope.resultInfo.map (·.totalPages)).getD 0⟩

/-- Fetches one page of a list. -/
def fetchPage (api : Service σ) (client : Client) (reader : Json.Reader α) (path : String)
    (query : UInt32 → List (String × String)) (page : UInt32) :
    Act σ (Except Failure (Page α)) := do
  Act.debug s!"GET {path} (page {page})"
  let answer ← send api client reader.list ⟨.get, path, query page, none⟩
  return answer.bind Page.ofEnvelope

/-- How many page numbers follow `page`. -/
def pagesAfter (page : UInt32) : Nat := UInt32.size - 1 - page.toNat

/-- A page number below another has a successor. -/
theorem toNat_succ_of_lt {page total : UInt32} (below : page < total) :
    (page + 1).toNat = page.toNat + 1 := by
  have := UInt32.lt_iff_toNat_lt.mp below
  have := total.toNat_lt
  rw [UInt32.toNat_add, UInt32.toNat_one, Nat.mod_eq_of_lt (by omega)]

theorem pagesAfter_succ_lt {page total : UInt32} (below : page < total) :
    pagesAfter (page + 1) < pagesAfter page := by
  have := UInt32.lt_iff_toNat_lt.mp below
  have := total.toNat_lt_size
  rw [pagesAfter, pagesAfter, toNat_succ_of_lt below]
  omega

/-- Collects the pages from `page` on behind the items of those before it, until a page fails or
is the last one by its own account. -/
def collectFrom (fetch : UInt32 → Act σ (Except Failure (Page α))) (page : UInt32)
    (items : List α) : Act σ (Except Failure (List α)) := do
  match ← fetch page with
  | .error failure => return .error failure
  | .ok fetched =>
    if _ : page < fetched.total then
      collectFrom fetch (page + 1) (items ++ fetched.items)
    else return .ok (items ++ fetched.items)
termination_by pagesAfter page
decreasing_by exact pagesAfter_succ_lt ‹_›

/-- Fetches a whole list. -/
def fetchAll (api : Service σ) (client : Client) (reader : Json.Reader α) (path : String)
    (query : UInt32 → List (String × String)) : Act σ (Except Failure (List α)) :=
  collectFrom (fetchPage api client reader path query) 1 []

/-! The endpoints. -/

def verifyToken (api : Service σ) (client : Client) : Act σ (Except Failure TokenStatus) := do
  Act.debug "GET /user/tokens/verify"
  match ← send api client TokenStatus.reader ⟨.get, "/user/tokens/verify", [], none⟩ with
  | .error failure => return .error failure
  | .ok envelope =>
    match envelope.result with
    | none => return .error (.incomplete "token status")
    | some status => return .ok status

/-- How many zones a page holds at most. -/
def zonesPerPage : Nat := 50

/-- The first page is asked for without its number. -/
def zoneQuery (client : Client) (name : String) (page : UInt32) : List (String × String) :=
  (client.accountId.map (("account.id", ·))).toList ++
    [("name", name), ("per_page", toString zonesPerPage)] ++
    if 1 < page then [("page", toString page)] else []

/-- The zones with the given name, in the client's account if it has one. -/
def listZones (api : Service σ) (client : Client) (name : String) :
    Act σ (Except Failure (List RawZone)) :=
  fetchAll api client RawZone.reader "/zones" (client.zoneQuery name)

def recordsPath (zone : String) : String := s!"/zones/{zone}/dns_records"

def recordPath (zone id : String) : String := s!"/zones/{zone}/dns_records/{id}"

def recordQuery (name recordType : String) (page : UInt32) : List (String × String) :=
  [("name", name), ("page", toString page), ("type", recordType)]

/-- The records of one name and type in a zone. -/
def listRecords (api : Service σ) (client : Client) (zone name recordType : String) :
    Act σ (Except Failure (List RawRecord)) :=
  fetchAll api client RawRecord.reader (recordsPath zone) (recordQuery name recordType)

/-- Creates a record. An answer that does not name the new record's identifier is no success. -/
def createRecord (api : Service σ) (client : Client) (zone : String) (record : NewRecord) :
    Act σ (Except Failure RawRecord) := do
  let path := recordsPath zone
  Act.debug s!"POST {path}"
  match ← send api client RawRecord.reader
      ⟨.post, path, [], some (toString record.toJson)⟩ with
  | .error failure => return .error failure
  | .ok envelope =>
    match envelope.result with
    | some created =>
      if created.id = "" then return .error (.incomplete "ID of the new record")
      else return .ok created
    | none => return .error (.incomplete "ID of the new record")

def updateRecord (api : Service σ) (client : Client) (zone id : String) (patch : RecordPatch) :
    Act σ (Except Failure Unit) := do
  let path := recordPath zone id
  Act.debug s!"PATCH {path}"
  match ← send api client Json.Reader.value
      ⟨.patch, path, [], some (toString patch.toJson)⟩ with
  | .error failure => return .error failure
  | .ok _ => return .ok ()

def deleteRecord (api : Service σ) (client : Client) (zone id : String) :
    Act σ (Except Failure Unit) := do
  let path := recordPath zone id
  Act.debug s!"DELETE {path}"
  match ← send api client Json.Reader.value ⟨.delete, path, [], none⟩ with
  | .error failure => return .error failure
  | .ok _ => return .ok ()

end Client

end AddressRecords.Api
