import AddressRecords.Api.Request

/-!
An API that follows a script. The first rule that fits a request and is not used up gives the
answer; a request that no rule fits gets the answer of an API with a good token and no zones.
-/

namespace AddressRecords.Api

structure Rule where
  method : Method
  /-- Encoded as in the request, without a query. -/
  path : String
  /-- The pairs that the query has to contain. -/
  query : List (String × String)
  /-- How often the rule can still be used, if that is limited. -/
  uses : Option Nat
  reply : Except Interruption Reply

structure Script where
  rules : List Rule
  /-- The requests answered so far. -/
  requests : List Request

def Request.path (request : Request) : String := String.ofList request.url.path.chars

def Request.pairs (request : Request) : List (String × String) :=
  Url.Form.decode (request.url.query.getD [])

namespace Rule

def fits (rule : Rule) (request : Request) : Bool :=
  rule.method == request.method && rule.path == request.path &&
    rule.query.all request.pairs.contains && rule.uses != some 0

def use (rule : Rule) : Rule := { rule with uses := rule.uses.map (· - 1) }

end Rule

namespace Script

/-- The reply of the first rule that fits, and the rules after its use. -/
def next? (request : Request) : List Rule → Option (Except Interruption Reply × List Rule)
  | [] => none
  | rule :: rest =>
    if rule.fits request then some (rule.reply, rule.use :: rest)
    else (next? request rest).map fun (reply, rest) => (reply, rule :: rest)

/-- The answer where no rule applies. -/
def defaultReply (request : Request) : Reply :=
  if request.method = .get ∧ request.path = "/user/tokens/verify" then
    ⟨⟨200⟩, "\x7b\"success\":true,\"errors\":[]," ++
      "\"result\":\x7b\"id\":\"t\",\"status\":\"active\"\x7d\x7d"⟩
  else if request.method = .get ∧ request.path = "/zones" then
    ⟨⟨200⟩, "\x7b\"success\":true,\"errors\":[],\"result\":[]\x7d"⟩
  else ⟨⟨404⟩, ""⟩

/-- Some answers never have a body. -/
def sent (reply : Reply) : Reply :=
  if reply.status.code = 204 ∨ reply.status.code = 304 then { reply with body := "" } else reply

def service : Service Script := ⟨fun request script =>
  let (reply, rules) := (next? request script.rules).getD (.ok (defaultReply request), script.rules)
  (reply.map sent, ⟨rules, script.requests ++ [request]⟩)⟩

end Script

end AddressRecords.Api
