import AddressRecords.Url.Form
import AddressRecords.Url.Host

/-!
URLs: their parts, and how they are written.
-/

namespace AddressRecords

namespace Url

inductive Path
  | segments (list : List (List Char))
  /-- The path of a URL that has no host, when it does not start with a slash. -/
  | bare (text : List Char)
  deriving DecidableEq

def Path.chars : Path → List Char
  | segments list => list.flatMap ('/' :: ·)
  | bare text => text

end Url

structure Url where
  scheme : List Char
  host : Option Url.Host
  port : Option Nat
  path : Url.Path
  query : Option (List Char)
  fragment : Option (List Char)
  deriving DecidableEq

namespace Url

def isFile (scheme : List Char) : Bool := scheme == "file".toList

/-- The schemes with rules of their own, and the ports they use if none is named. -/
def specialSchemes : List (List Char × Option Nat) :=
  [("http".toList, some 80), ("https".toList, some 443), ("ws".toList, some 80),
    ("wss".toList, some 443), ("ftp".toList, some 21), ("file".toList, none)]

def isSpecial (scheme : List Char) : Bool := specialSchemes.any (·.1 == scheme)

def defaultPort (scheme : List Char) : Option Nat := (specialSchemes.lookup scheme).join

/-- Whether requests can be sent to URLs of the scheme. -/
def isHttp (url : Url) : Bool :=
  url.scheme == "http".toList || url.scheme == "https".toList

/-- What stands between the scheme and the path. A path that would be taken for a host is marked
by a leading dot. -/
def authorityChars (url : Url) : List Char :=
  match url.host with
  | some host =>
    ['/', '/'] ++ host.chars ++
      match url.port with
      | some port => ':' :: Nat.toDigits 10 port
      | none => []
  | none =>
    if isFile url.scheme then ['/', '/']
    else
      match url.path with
      | .segments ([] :: _ :: _) => ['/', '.']
      | _ => []

def queryChars (url : Url) : List Char :=
  match url.query with
  | some query => '?' :: query
  | none => []

def fragmentChars (url : Url) : List Char :=
  match url.fragment with
  | some fragment => '#' :: fragment
  | none => []

/-- The path and query, as they stand in a request. -/
def target (url : Url) : List Char := url.path.chars ++ url.queryChars

def chars (url : Url) : List Char :=
  url.scheme ++ ':' :: url.authorityChars ++ url.target ++ url.fragmentChars

instance : ToString Url := ⟨fun url => String.ofList url.chars⟩

/-- Adds pairs to the query. -/
def appendPairs (url : Url) (pairs : List (String × String)) : Url :=
  if pairs.isEmpty then url
  else
    let held := match url.query with
      | some (c :: rest) => c :: rest ++ ['&']
      | _ => []
    { url with query := some (held ++ Form.encode pairs) }

end Url

end AddressRecords
