import AddressRecords.Config
import AddressRecords.Handle

/-!
Credentials, and the handle they become once the API has confirmed the token.
-/

namespace AddressRecords

structure Credentials where
  token : String
  accountId : Option String
  baseUrl : String
  deriving DecidableEq

namespace Credentials

/-- Where the API is found. -/
def publicApi : String := "https://api.cloudflare.com/client/v4"

def ofConfig (config : ProviderConfig) : Except ConfigError Credentials := do
  config.validate
  return ⟨config.apiToken, config.accountId, config.baseUrl.getD publicApi⟩

/-- The credentials without the token. -/
def describe (credentials : Credentials) : String :=
  s!"CloudflareAuth \x7b token: {Text.redacted}, " ++
    s!"account_id: {Text.quoteOption credentials.accountId}, " ++
    s!"base_url: {Text.quote credentials.baseUrl} \x7d"

/-- What is known of a token once the API has been asked. -/
inductive Verdict
  | active
  | refused (reason : String)
  /-- The API could not be asked, or its answer does not tell. -/
  | unknown (reason : String)
  deriving DecidableEq

def Verdict.ofAnswer : Except Api.Failure Api.TokenStatus → Verdict
  | .ok token =>
    if token.status = "active" then active
    else refused ("the token is " ++ Text.quote token.status)
  | .error failure =>
    match failure with
    | .unauthorized .. | .rejected .. | .unsuccessful .. | .notFound _ => refused failure.message
    | .transport _ | .rateLimited _ | .server .. | .decode _ | .incomplete _ =>
      unknown failure.message

variable {σ : Type}

/-- Has the API confirm the token, and gives the handle to use with it. Where no HTTP client can be
set up, nothing is asked. -/
def connectBy (setup : Except Api.TransportFault Unit) (api : Api.Service σ)
    (credentials : Credentials) : Act σ (Except Failure (Handle σ)) := do
  if isBlank credentials.token then
    Act.tell .error .userError
      "Failed to prepare the Cloudflare authentication: the API token is empty"
    return .error (.authInvalid "Cloudflare API token is empty")
  else
    match setup with
    | .error fault =>
      let reason := (Api.Failure.transport fault).message
      Act.tell .error .error
        ("Failed to prepare the Cloudflare authentication: " ++ reason)
      return .error (.http reason)
    | .ok () =>
      let client :=
        Api.Client.connectingTo credentials.baseUrl credentials.token credentials.accountId
      match Verdict.ofAnswer (← client.verifyToken api) with
      | .active =>
        Act.info "Cloudflare API token verified"
        return .ok ⟨api, client⟩
      | .refused reason =>
        Act.tell .error .userError
          ("The Cloudflare API token could not be verified: " ++ reason)
        Act.tell .error .userError "Please double-check CF_API_TOKEN or CF_API_TOKEN_FILE"
        return .error (.authInvalid reason)
      | .unknown reason =>
        Act.tell .error .error
          ("Failed to reach Cloudflare to verify the API token: " ++ reason)
        return .error (.http reason)

/-- Connects where there is HTTP. -/
def connect (api : Api.Service σ) (credentials : Credentials) :
    Act σ (Except Failure (Handle σ)) :=
  credentials.connectBy (.ok ()) api

end Credentials

end AddressRecords
