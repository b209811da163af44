import AddressRecords.Failure
import AddressRecords.Json.Value
import AddressRecords.Unicode.WhiteSpace

/-!
Settings of a handle: the provider, its credentials, and how long a request may take.
-/

namespace AddressRecords

structure ProviderConfig where
  apiToken : String
  accountId : Option String
  baseUrl : Option String
  deriving DecidableEq

structure HandleConfig where
  provider : ProviderConfig
  timeoutSecs : UInt64
  deriving DecidableEq

def defaultTimeoutSecs : UInt64 := 30

/-- Why settings cannot be used. -/
inductive ConfigError
  | zeroTimeout
  | emptyToken
  | blankAccount
  | notHttp (url : String)
  deriving DecidableEq, Repr

namespace ConfigError

def message : ConfigError → String
  | zeroTimeout => "Request timeout must be > 0"
  | emptyToken => "Cloudflare API token cannot be empty"
  | blankAccount => "Cloudflare account ID cannot be blank when set"
  | notHttp url => "Cloudflare base URL must be an http(s) URL, got " ++ Text.quote url

def toFailure (error : ConfigError) : Failure := .config error.message

end ConfigError

def isBlank (text : String) : Bool := text.toList.all Unicode.isWhiteSpace

namespace ProviderConfig

/-- What the kind of provider is called. -/
def typeName : String := "cloudflare"

def isHttp (url : String) : Bool :=
  "https://".toList.isPrefixOf url.toList || "http://".toList.isPrefixOf url.toList

def validate (config : ProviderConfig) : Except ConfigError Unit :=
  if isBlank config.apiToken then .error .emptyToken
  else if config.accountId.any isBlank then .error .blankAccount
  else
    match config.baseUrl with
    | none => .ok ()
    | some url => if isHttp url then .ok () else .error (.notHttp url)

/-- The settings without the token. -/
def describe (config : ProviderConfig) : String :=
  s!"Cloudflare \x7b api_token: {Text.redacted}, " ++
    s!"account_id: {Text.quoteOption config.accountId}, " ++
    s!"base_url: {Text.quoteOption config.baseUrl} \x7d"

end ProviderConfig

namespace HandleConfig

def ofProvider (provider : ProviderConfig) : HandleConfig := ⟨provider, defaultTimeoutSecs⟩

def withTimeoutSecs (config : HandleConfig) (seconds : UInt64) : HandleConfig :=
  { config with timeoutSecs := seconds }

def validate (config : HandleConfig) : Except ConfigError Unit :=
  if config.timeoutSecs = 0 then .error .zeroTimeout else config.provider.validate

def describe (config : HandleConfig) : String :=
  s!"HandleConfig \x7b provider: {config.provider.describe}, " ++
    s!"timeout_secs: {config.timeoutSecs} \x7d"

end HandleConfig

/-! Settings as JSON. The kind of provider is a member of the provider's own object. -/

namespace ProviderConfig

def toJson (config : ProviderConfig) : Json.Value :=
  .object [
    ("type", .string typeName),
    ("api_token", .string config.apiToken),
    ("account_id", .ofOption config.accountId),
    ("base_url", .ofOption config.baseUrl)]

open Json (Reader Node Items Members Fault)

/-- Reads the kind of provider. -/
def readType : Reader Unit
  | _, .string token => do
    let name ← token.read
    if name = typeName then .ok () else .error (.unknownVariant name typeName)
  | _, node => .error (node.mismatch "variant identifier")

/-- Takes the kind of provider where a member names it, and reads any other member as it is. -/
def takeKind (depth : Nat) (kind : Option Unit) (key : String) (node : Node) :
    Except Fault (Option Unit) :=
  if key = "type" then Reader.fill "type" kind (readType depth node)
  else do
    let _ ← Reader.value depth node
    return kind

/-- Reads every member once before the settings are told apart, as the kind may come last. -/
def checkMembers (depth : Nat) (members : Members) : Except Fault Unit := do
  let kind ← members.fold (takeKind depth) none
  Reader.require "type" kind

structure Fields where
  apiToken : Option String
  accountId : Option (Option String)
  baseUrl : Option (Option String)

/-- Takes a setting from its member. Other members have been read before. -/
def takeSetting (depth : Nat) (fields : Fields) (key : String) (node : Node) :
    Except Fault Fields :=
  match key with
  | "api_token" => do
    let apiToken ← Reader.fill key fields.apiToken (Reader.string depth node)
    return { fields with apiToken }
  | "account_id" => do
    let accountId ← Reader.fill key fields.accountId (Reader.string.option depth node)
    return { fields with accountId }
  | "base_url" => do
    let baseUrl ← Reader.fill key fields.baseUrl (Reader.string.option depth node)
    return { fields with baseUrl }
  | _ => .ok fields

def ofMembers (depth : Nat) (members : Members) : Except Fault ProviderConfig := do
  checkMembers depth members
  let fields ← members.fold (takeSetting depth) ⟨none, none, none⟩
  return {
    apiToken := ← Reader.require "api_token" fields.apiToken
    accountId := fields.accountId.join
    baseUrl := fields.baseUrl.join }

/-- The kind comes first in a list of the settings, and is not counted among them. -/
def ofItems (depth : Nat) (items : Items) : Except Fault (ProviderConfig × Items) := do
  let ((), rest) ← items.next (readType depth) (.error (.missingField "type"))
  let values ← rest.readAll fun node => do
    let _ ← Reader.value depth node
    return node
  match values with
  | [] => .error (.invalidLength 0 "struct variant ProviderConfig::Cloudflare with 3 elements")
  | token :: values =>
    let apiToken ← Reader.string depth token
    let accountId ← (values.head?.map (Reader.string.option depth)).getD (.ok none)
    let baseUrl ← ((values.drop 1).head?.map (Reader.string.option depth)).getD (.ok none)
    if values.length ≤ 2 then .ok (⟨apiToken, accountId, baseUrl⟩, .done .closed)
    else .error (.invalidLength (values.length + 1) "3 elements in sequence")

def reader : Reader ProviderConfig :=
  Reader.record "internally tagged enum ProviderConfig" ofItems ofMembers

end ProviderConfig

namespace HandleConfig

open Json (Reader Node Items Members Fault)

def toJson (config : HandleConfig) : Json.Value :=
  .object [
    ("provider", config.provider.toJson),
    ("timeout_secs", .ofNat config.timeoutSecs.toNat)]

structure Fields where
  provider : Option ProviderConfig
  timeoutSecs : Option UInt64

/-- Takes a setting from its member, and passes over any other member. -/
def takeSetting (depth : Nat) (fields : Fields) (key : String) (node : Node) :
    Except Fault Fields :=
  match key with
  | "provider" => do
    let provider ← Reader.fill key fields.provider (ProviderConfig.reader depth node)
    return { fields with provider }
  | "timeout_secs" => do
    let timeoutSecs ← Reader.fill key fields.timeoutSecs (Reader.word64 depth node)
    return { fields with timeoutSecs }
  | _ => do
    node.skip
    return fields

def ofMembers (depth : Nat) (members : Members) : Except Fault HandleConfig := do
  let fields ← members.fold (takeSetting depth) ⟨none, none⟩
  return {
    provider := ← Reader.require "provider" fields.provider
    timeoutSecs := fields.timeoutSecs.getD defaultTimeoutSecs }

def ofItems (depth : Nat) (items : Items) : Except Fault (HandleConfig × Items) := do
  let (provider, rest) ← items.next (ProviderConfig.reader depth)
    (.error (.invalidLength 0 "struct HandleConfig with 2 elements"))
  let (timeoutSecs, rest) ← rest.next (Reader.word64 depth) (.ok defaultTimeoutSecs)
  return (⟨provider, timeoutSecs⟩, rest)

def reader : Reader HandleConfig :=
  Reader.record "struct HandleConfig" ofItems ofMembers

end HandleConfig

end AddressRecords
