import BeaconLight.Url.Host

/-!
# URLs

`Url.parse?` reads a URL by the common standard of the web. It takes off controls and spaces
at both ends and leaves out tabs and line ends. A web URL has a host, which any number of
slashes may precede, and its path is resolved: a dot segment names the segment itself and two
dots the one above. What comes behind the first question mark is the query, and what comes
behind a number sign is dropped.

A URL of another scheme is read far enough to tell whether it is one.
-/

namespace BeaconLight

/-- A scheme whose URLs are read with slashes, a host and a path. -/
inductive WebScheme
  | http
  | https
  | ws
  | wss
  | ftp
  deriving DecidableEq, Repr

/-- The name of a scheme. -/
def WebScheme.name : WebScheme → String
  | .http => "http"
  | .https => "https"
  | .ws => "ws"
  | .wss => "wss"
  | .ftp => "ftp"

/-- The scheme of a name in lower case. -/
def WebScheme.ofName? (name : String) : Option WebScheme :=
  [.http, .https, .ws, .wss, .ftp].find? fun scheme => scheme.name == name

/-- The number of the service that a scheme is for. -/
def WebScheme.defaultService : WebScheme → Nat
  | .http | .ws => 80
  | .https | .wss => 443
  | .ftp => 21

/-- A web URL without its fragment and credentials. The path is a list of segments, and the
service is the number that follows the host. -/
structure WebUrl where
  scheme : WebScheme
  host : Host
  service : Nat
  path : List String
  query : Option String
  deriving DecidableEq, Repr

/-- A URL. -/
inductive Url
  | web (url : WebUrl)
  /-- A URL of another scheme and what comes behind the colon. -/
  | other (scheme rest : String)
  deriving DecidableEq, Repr

namespace WebUrl

/-- The path of a URL. -/
def renderPath (u : WebUrl) : String :=
  String.join (u.path.map ("/" ++ ·))

/-- What a request for a URL asks the host for: its path and its query. -/
def target (u : WebUrl) : String :=
  match u.query with
  | none => u.renderPath
  | some query => u.renderPath ++ "?" ++ query

/-- The host of a URL, with the service unless it is the usual one. -/
def authority (u : WebUrl) : String :=
  if u.service = u.scheme.defaultService then u.host.render
  else u.host.render ++ ":" ++ Text.decimal u.service

/-- The text of a URL. -/
def render (u : WebUrl) : String :=
  u.scheme.name ++ "://" ++ u.authority ++ u.target

end WebUrl

namespace Url

/-- The part of a text in front of the first element that satisfies a test, and the rest from
that element on. -/
def cut {α : Type} (test : α → Bool) (xs : List α) : List α × List α :=
  (xs.takeWhile (!test ·), xs.dropWhile (!test ·))

/-- A text without controls and spaces at both ends and without tabs and line ends. -/
def clean (text : String) : List Char :=
  (Text.stripBoth (· ≤ ' ') text.toList).filter fun c => !(c == '\t' || c == '\n' || c == '\r')

/-- The scheme of a URL, in lower case, and what comes behind its colon. -/
def scheme? (cs : List Char) : Option (String × List Char) :=
  match cs with
  | [] => none
  | first :: _ =>
    let name := cs.takeWhile fun c => c.isAlphanum || c == '+' || c == '-' || c == '.'
    match cs.drop name.length with
    | ':' :: rest =>
      if first.isAlpha then some (String.ofList (name.map Char.toLower), rest) else none
    | _ => none

/-- A slash of either kind. -/
def isSlash (c : Char) : Bool := c == '/' || c == '\\'

/-- A character that ends the host part of a web URL. -/
def endsAuthority (c : Char) : Bool := isSlash c || c == '?' || c == '#'

/-- What comes behind the credentials, which end in the last at sign. -/
def dropCredentials (cs : List Char) : List Char :=
  (cs.reverse.takeWhile (· != '@')).reverse

/-- The host, and what comes behind the colon that follows it. A colon between brackets
belongs to the host. -/
def cutHost : (inBrackets : Bool) → List Char → List Char × Option (List Char)
  | _, [] => ([], none)
  | inBrackets, c :: rest =>
    if c = ':' ∧ inBrackets = false then ([], some rest)
    else
      let inside := c = '[' || (inBrackets && c != ']')
      let (host, service) := cutHost inside rest
      (c :: host, service)

/-- The numbers of services are below this one. -/
def serviceLimit : Nat := Nat.pow 2 16

/-- The number of a service, which may be left out. -/
def service? : Option (List Char) → Option (Option Nat)
  | none | some [] => some none
  | some digits =>
    if digits.all Char.isDigit then
      let n := Text.ofDigits digits
      if n < serviceLimit then some (some n) else none
    else none

/-- A segment that names the segment itself. -/
def isDot (segment : List Char) : Bool :=
  segment.map Char.toLower ∈ [['.'], "%2e".toList]

/-- A segment that names the one above. -/
def isDoubleDot (segment : List Char) : Bool :=
  segment.map Char.toLower ∈ ["..".toList, ".%2e".toList, "%2e.".toList, "%2e%2e".toList]

/-- Resolves segments, those that are `done` in front of them last one first. -/
def resolve (done : List String) : List (List Char) → List String
  | [] => done.reverse
  | [last] =>
    if isDoubleDot last then ("" :: done.tail).reverse
    else if isDot last then ("" :: done).reverse
    else (encodeSegment last :: done).reverse
  | segment :: rest =>
    if isDoubleDot segment then resolve done.tail rest
    else if isDot segment then resolve done rest
    else resolve (encodeSegment segment :: done) rest
where
  encodeSegment (segment : List Char) : String :=
    String.ofList (Percent.encode Percent.isPathChar segment)

/-- The segments of a path, which may start with a slash. -/
def segments (cs : List Char) : List String :=
  match cs with
  | [] => [""]
  | c :: rest => resolve [] (InternetAddress.splitBy isSlash (if isSlash c then rest else cs))

/-- The path and the query in what comes behind the host. -/
def pathAndQuery (cs : List Char) : List String × Option String :=
  let (beforeFragment, _) := cut (· == '#') cs
  let (path, rest) := cut (· == '?') beforeFragment
  let query :=
    match rest with
    | _ :: query => some (String.ofList (Percent.encode Percent.isQueryChar query))
    | [] => none
  (segments path, query)

/-- Reads what comes behind the colon of a web scheme. -/
def parseWeb? (scheme : WebScheme) (cs : List Char) : Option WebUrl := do
  let (authority, rest) := cut endsAuthority (cs.dropWhile isSlash)
  let (hostText, serviceText) := cutHost false (dropCredentials authority)
  let host ← Host.parse? hostText
  let service ← service? serviceText
  let (path, query) := pathAndQuery rest
  return ⟨scheme, host, service.getD scheme.defaultService, path, query⟩

/-- A letter and a colon or a bar, which name a drive in a file URL. -/
def isDrive : List Char → Bool
  | [letter, mark] => letter.isAlpha && (mark == ':' || mark == '|')
  | _ => false

/-- What comes behind the colon of a file URL is well formed. -/
def isFile : List Char → Bool
  | a :: b :: rest =>
    if isSlash a && isSlash b then
      let (host, _) := cut endsAuthority rest
      host.isEmpty || isDrive host || (Host.parse? host).isSome
    else true
  | _ => true

/-- What comes behind the colon of a scheme that is not known is well formed. -/
def isOther : List Char → Bool
  | '/' :: '/' :: rest =>
    let (authority, _) := cut (fun c => c == '/' || c == '?' || c == '#') rest
    let (hostText, serviceText) := cutHost false (dropCredentials authority)
    (Host.parseOther? hostText).isSome && (service? serviceText).isSome
      && (!hostText.isEmpty || authority.isEmpty)
  | _ => true

/-- The URL that a text spells. -/
def parse? (text : String) : Option Url := do
  let (name, rest) ← scheme? (clean text)
  match WebScheme.ofName? name with
  | some scheme => (parseWeb? scheme rest).map .web
  | none =>
    let wellFormed := if name = "file" then isFile rest else isOther rest
    if wellFormed then some (.other name (String.ofList rest)) else none

/-- The name of the scheme of a URL. -/
def scheme : Url → String
  | .web url => url.scheme.name
  | .other name _ => name

/-- The text of a URL. -/
def render : Url → String
  | .web url => url.render
  | .other name rest => name ++ ":" ++ rest

end Url

end BeaconLight
