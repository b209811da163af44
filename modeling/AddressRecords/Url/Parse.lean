import AddressRecords.Url.Basic
import AddressRecords.Unicode.WhiteSpace

/-!
Reading URLs. The text is cut at its fragment and query first, as nothing before them can hold
their signs; then the scheme decides how the rest is read.
-/

namespace AddressRecords.Url

/-- Blanks and controls around a URL, and tabs and line ends anywhere, do not count. -/
def clean (text : List Char) : List Char :=
  (Unicode.trimBoth (fun c => c.toNat ≤ 0x20) text).filter
    (fun c => c ≠ '\t' && c ≠ '\n' && c ≠ '\r')

/-- What stands before the first `mark`, and what behind it. -/
def cut (mark : Char) (text : List Char) : List Char × Option (List Char) :=
  let (before, rest) := text.span (· ≠ mark)
  (before, rest.tail?)

/-- The scheme in lower case, and what follows its colon. -/
def scheme? (text : List Char) : Option (List Char × List Char) := do
  let (scheme, rest) := cut ':' text
  let rest ← rest
  guard (scheme.head?.any Char.isAlpha)
  guard (scheme.all fun c => c.isAlphanum || c = '+' || c = '-' || c = '.')
  return (scheme.map Char.toLower, rest)

/-- Schemes with rules of their own take a backslash for a slash. -/
def isSlash (special : Bool) (c : Char) : Bool := c = '/' || (special && c = '\\')

def isSingleDot (segment : List Char) : Bool :=
  let lower := segment.map Char.toLower
  lower == ['.'] || lower == ['%', '2', 'e']

def isDoubleDot (segment : List Char) : Bool :=
  let lower := segment.map Char.toLower
  lower == ['.', '.'] || lower == ['.', '%', '2', 'e'] || lower == ['%', '2', 'e', '.'] ||
    lower == ['%', '2', 'e', '%', '2', 'e']

/-- A drive in a file path: a letter and a colon, or a bar in its place. -/
def drive? : List Char → Option (List Char)
  | [letter, mark] =>
    if letter.isAlpha ∧ (mark = ':' ∨ mark = '|') then some [letter, ':'] else none
  | _ => none

/-- Leaves out the last segment; a drive at the start of a file path stays. -/
def shorten (file : Bool) (segments : List (List Char)) : List (List Char) :=
  match segments with
  | [first] => if file ∧ first.getLast? = some ':' ∧ (drive? first).isSome then [first] else []
  | _ => segments.dropLast

/-- Adds one segment of the text to the path; `last` tells whether it is the last one. -/
def addSegment (file last : Bool) (path : List (List Char)) (segment : List Char) :
    List (List Char) :=
  if isDoubleDot segment then
    let shorter := shorten file path
    if last then shorter ++ [[]] else shorter
  else if isSingleDot segment then
    if last then path ++ [[]] else path
  else
    let driven := if file ∧ path.isEmpty then drive? segment else none
    path ++ [driven.getD (Percent.encode Percent.keepsPath segment)]

def addSegments (file : Bool) (path : List (List Char)) : List (List Char) → List (List Char)
  | [] => path
  | [segment] => addSegment file true path segment
  | segment :: rest => addSegments file (addSegment file false path segment) rest

/-- The segments of a path; `text` is what follows its first slash. -/
def segmentsOf (special file : Bool) (text : List Char) : List (List Char) :=
  addSegments file [] (text.splitOnP (isSlash special))

/-- The path behind a host: none, if the scheme has no rules and there is no slash. -/
def pathAfterHost (special : Bool) (text : List Char) : Path :=
  match text with
  | [] => .segments (if special then [[]] else [])
  | _ :: rest => .segments (segmentsOf special false rest)

/-- The text before a colon outside of brackets, and what stands behind it. -/
def splitPort (inside : Bool) : List Char → List Char × Option (List Char)
  | [] => ([], none)
  | c :: rest =>
    if c = ':' ∧ !inside then ([], some rest)
    else
      let inside := c = '[' || (inside && c ≠ ']')
      let (host, port) := splitPort inside rest
      (c :: host, port)

/-- The port of a URL, without the one that its scheme uses anyway. -/
def port? (scheme text : List Char) : Option (Option Nat) :=
  if !text.all Char.isDigit then none
  else if text.isEmpty then some none
  else
    let port := Text.numberOf 10 text
    if 65535 < port then none
    else some (if defaultPort scheme = some port then none else some port)

/-- Credentials stand before the last at-sign of an authority; they are not kept. -/
def dropCredentials (authority : List Char) : Bool × List Char :=
  let (reversed, rest) := authority.reverse.span (· ≠ '@')
  (!rest.isEmpty, reversed.reverse)

/-- Reads the host and port of a URL that must have them. -/
def authority? (scheme authority : List Char) : Option (Host × Option Nat) := do
  let (hasCredentials, rest) := dropCredentials authority
  let (hostText, portText) := splitPort false rest
  guard (!hostText.isEmpty || (!isSpecial scheme && !hasCredentials && portText.isNone))
  let host ← if isSpecial scheme then Host.ofSpecial hostText else Host.ofAny hostText
  let port ← port? scheme (portText.getD [])
  return (host, port)

/-- What a host and the path behind it look like when a scheme has been read. -/
structure Location where
  host : Option Host
  port : Option Nat
  path : Path

/-- Behind `http:` and the like any number of slashes leads to the host. -/
def specialLocation? (scheme text : List Char) : Option Location := do
  let (authority, rest) := (text.dropWhile (isSlash true)).span (!isSlash true ·)
  let (host, port) ← authority? scheme authority
  return ⟨host, port, pathAfterHost true rest⟩

/-- The host of a file is kept only if it is another machine, and a drive is none. -/
def fileLocation? (text : List Char) : Option Location :=
  match text with
  | a :: b :: rest =>
    if isSlash true a ∧ isSlash true b then
      let (hostText, path) := rest.span (!isSlash true ·)
      if (drive? hostText).isSome then
        some ⟨none, none, .segments (segmentsOf true true rest)⟩
      else do
        let path := Path.segments (segmentsOf true true (path.drop 1))
        if hostText.isEmpty then return ⟨none, none, path⟩
        else
          let host ← Host.ofSpecial hostText
          return ⟨if host = .name "localhost".toList then none else some host, none, path⟩
    else if isSlash true a then some ⟨none, none, .segments (segmentsOf true true (b :: rest))⟩
    else some ⟨none, none, .segments (segmentsOf true true text)⟩
  | [a] => some ⟨none, none, .segments (segmentsOf true true (if isSlash true a then [] else [a]))⟩
  | [] => some ⟨none, none, .segments [[]]⟩

/-- Other schemes have a host only behind two slashes. -/
def otherLocation? (scheme text : List Char) : Option Location :=
  match text with
  | '/' :: '/' :: rest => do
    let (authority, path) := rest.span (· ≠ '/')
    let (host, port) ← authority? scheme authority
    return ⟨host, port, pathAfterHost false path⟩
  | '/' :: rest => some ⟨none, none, .segments (segmentsOf false false rest)⟩
  | _ => some ⟨none, none, .bare (Percent.encode Percent.keepsBare text)⟩

def location? (scheme text : List Char) : Option Location :=
  if isFile scheme then fileLocation? text
  else if isSpecial scheme then specialLocation? scheme text
  else otherLocation? scheme text

/-- Reads an absolute URL. -/
def ofText? (text : String) : Option Url := do
  let (body, fragment) := cut '#' (clean text.toList)
  let (body, query) := cut '?' body
  let (scheme, rest) ← scheme? body
  let location ← location? scheme rest
  let keepsQuery := if isSpecial scheme then Percent.keepsSpecialQuery else Percent.keepsQuery
  return {
    scheme
    host := location.host
    port := location.port
    path := location.path
    query := query.map (Percent.encode keepsQuery)
    fragment := fragment.map (Percent.encode Percent.keepsFragment) }

end AddressRecords.Url
