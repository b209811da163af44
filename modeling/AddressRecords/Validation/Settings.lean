import AddressRecords.Config
import AddressRecords.Domain.Basic
import AddressRecords.Address.Family
import AddressRecords.Text.Number

/-!
Settings of a validation run, as an environment gives them.
-/

namespace AddressRecords.Validation

structure Environment where
  value? : String → Option String
  /-- The text of a file, or why it cannot be read. -/
  fileText : String → Except String String

namespace Environment

/-- Names the file that holds the token. -/
def tokenFile : String := "CF_API_TOKEN_FILE"

/-- The variables that settings are read from. -/
def names : List String :=
  ["CF_API_TOKEN", tokenFile, "CF_ACCOUNT_ID", "DDNS_DOMAINS", "DDNS_TEST_IP",
    "DDNS_TIMEOUT_SECS", "DDNS_LOG_LEVEL", "DDNS_MODE"]

end Environment

structure Settings where
  handle : HandleConfig
  domains : List Domain
  testAddress : Option Address
  /-- Whether records are changed. -/
  live : Bool
  logLevel : String

inductive SettingsError
  | noToken
  | unreadableToken (path reason : String)
  | noDomainList
  | badDomain (raw : String) (error : NameError)
  | badTestAddress (raw : String) (error : AddressError)
  | badTimeout (raw : String) (error : Text.NumberError)
  | badHandle (error : ConfigError)
  | emptyDomainList
  | noTestAddress
  deriving DecidableEq

def SettingsError.message : SettingsError → String
  | noToken => "CF_API_TOKEN or CF_API_TOKEN_FILE is required"
  | unreadableToken path reason =>
    s!"Failed to read CF_API_TOKEN_FILE {Text.quote path}: {reason}"
  | noDomainList => "DDNS_DOMAINS is required: environment variable not found"
  | badDomain raw error =>
    s!"Invalid domain {Text.quote raw}: {(Failure.invalidInput error.message).message}"
  | badTestAddress raw error => s!"Invalid DDNS_TEST_IP {Text.quote raw}: {error.message}"
  | badTimeout raw error => s!"Invalid DDNS_TIMEOUT_SECS {Text.quote raw}: {error.message}"
  | badHandle error => error.toFailure.message
  | emptyDomainList => "DDNS_DOMAINS lists no domain"
  | noTestAddress => "DDNS_TEST_IP is required when DDNS_MODE=live"

namespace Settings

/-- The token itself comes before a file with the token. -/
def readToken (env : Environment) : Except SettingsError String :=
  match env.value? "CF_API_TOKEN", env.value? Environment.tokenFile with
  | some token, _ => .ok token
  | none, some path =>
    match env.fileText path with
    | .ok text => .ok (Unicode.trim text)
    | .error reason => .error (.unreadableToken path reason)
  | none, none => .error .noToken

/-- The entries of a list that are not blank, without the space around them. -/
def listEntries (text : String) : List String :=
  ((text.toList.splitOn ',').map fun entry => Unicode.trim (String.ofList entry)).filter (· ≠ "")

def readDomain (raw : String) : Except SettingsError Domain :=
  (Domain.parse raw).mapError (.badDomain raw)

def readDomains (env : Environment) : Except SettingsError (List Domain) :=
  match env.value? "DDNS_DOMAINS" with
  | none => .error .noDomainList
  | some text => (listEntries text).mapM readDomain

def readTestAddress (env : Environment) : Except SettingsError (Option Address) :=
  match env.value? "DDNS_TEST_IP" with
  | none => .ok none
  | some raw => ((Address.parse raw).mapError (.badTestAddress raw)).map some

def readTimeout (env : Environment) : Except SettingsError UInt64 :=
  match env.value? "DDNS_TIMEOUT_SECS" with
  | none => .ok defaultTimeoutSecs
  | some raw => (Text.readWord64 raw).mapError (.badTimeout raw)

/-- Runs are live only where the mode says so, in letters of either case. -/
def isLive (env : Environment) : Bool :=
  (env.value? "DDNS_MODE").any fun mode => mode.map Char.toLower == "live"

/-- Reads the variables in turn; the first that cannot be read counts. -/
def read (env : Environment) : Except SettingsError Settings := do
  let apiToken ← readToken env
  let accountId := (env.value? "CF_ACCOUNT_ID").filter (!isBlank ·)
  let domains ← readDomains env
  let testAddress ← readTestAddress env
  let timeoutSecs ← readTimeout env
  return {
    handle := ⟨⟨apiToken, accountId, none⟩, timeoutSecs⟩
    domains, testAddress
    live := isLive env
    logLevel := (env.value? "DDNS_LOG_LEVEL").getD "info" }

def validate (settings : Settings) : Except SettingsError Unit := do
  settings.handle.validate.mapError .badHandle
  if settings.domains.isEmpty then throw .emptyDomainList
  if settings.live && settings.testAddress.isNone then throw .noTestAddress

/-- The settings of an environment, if they can be used. -/
def ofEnvironment (env : Environment) : Except SettingsError Settings := do
  let settings ← read env
  settings.validate
  return settings

end Settings

end AddressRecords.Validation
