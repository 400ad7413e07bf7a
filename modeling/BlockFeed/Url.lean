import BlockFeed.Fault
import BlockFeed.Url.Host

/-!
# Web addresses

A portal is found at a web address. The text of an address may be written in
many ways; reading it yields the parts from which its one usual form is made.
Addresses of other kinds are told apart only far enough to say why they cannot
be used.
-/

namespace BlockFeed

/-- A web address without its fragment. -/
structure Url where
  scheme : String
  /-- Name and password as they are written before the host. -/
  userinfo : String
  host : Url.Host
  /-- The port, unless it is the usual one. -/
  port : Option Nat
  /-- The path, which begins with a slash. -/
  path : String
  query : Option String
  deriving DecidableEq, Repr

namespace Url

/-- How the parts of an address are found, by its scheme. -/
inductive Kind
  /-- Host and path between slashes of either kind. -/
  | special (defaultPort : Nat)
  | file
  | other
  deriving DecidableEq, Repr

/-- The kind of the addresses with a scheme. -/
def kindOf (scheme : String) : Kind :=
  match scheme with
  | "http" => .special 80
  | "https" => .special 443
  | "ws" => .special 80
  | "wss" => .special 443
  | "ftp" => .special 21
  | "file" => .file
  | _ => .other

/-- The usual port of a kind. -/
def Kind.defaultPort? : Kind -> Option Nat
  | .special port => some port
  | _ => none

/-- Whether a backslash counts as a slash. -/
def Kind.isSpecial : Kind -> Bool
  | .special _ => true
  | .file => true
  | .other => false

/-- Whether a character separates the parts of a path. -/
def Kind.isSlash (kind : Kind) (character : Char) : Bool :=
  character == '/' || (kind.isSpecial && character == '\\')

/-- Whether the authority of an address ends at a character. -/
def Kind.endsAuthority (kind : Kind) (character : Char) : Bool :=
  kind.isSlash character || character == '?' || character == '#'

/-! ## Reading -/

/-- A text as it counts in an address: without blanks and control characters at
its ends, and without tabs and line breaks. -/
def significant (text : String) : List Char :=
  let isEdge := fun character : Char => character.toNat ≤ 0x20
  let trimmed := ((text.toList.dropWhile isEdge).reverse.dropWhile isEdge).reverse
  trimmed.filter fun character =>
    !(character == '\t' || character == '\n' || character == '\r')

/-- Whether a character may stand in a scheme behind its first one. -/
def isSchemeChar (character : Char) : Bool :=
  character.isAlphanum || character == '+' || character == '-' || character == '.'

/-- The scheme of an address in small letters, and what follows its colon. -/
def scheme? : List Char -> Option (String × List Char)
  | [] => none
  | first :: rest =>
      if first.isAlpha then
        match rest.dropWhile isSchemeChar with
        | ':' :: remaining =>
            some (String.ofList ((first :: rest.takeWhile isSchemeChar).map Char.toLower),
              remaining)
        | _ => none
      else none

/-- Name and password as they are written before the host. Empty ones are left
out. -/
def renderUserinfo (characters : List Char) : String :=
  let name := percentEncode .userinfo (characters.takeWhile (· != ':'))
  let password := percentEncode .userinfo ((characters.dropWhile (· != ':')).drop 1)
  let colon := if password.isEmpty then [] else [':']
  if name.isEmpty && password.isEmpty then ""
  else String.ofList (name ++ colon ++ password ++ ['@'])

/-- Split an authority behind its last at sign: name and password, if there are
any, and the host with its port. -/
def splitUserinfo (authority : List Char) : Option (List Char) × List Char :=
  let reversed := authority.reverse
  match reversed.dropWhile (· != '@') with
  | _ :: before => (some before.reverse, (reversed.takeWhile (· != '@')).reverse)
  | [] => (none, authority)

/-- Split a host from its port. Colons between brackets belong to the host. -/
def splitPort (inBrackets : Bool) : List Char -> List Char × Option (List Char)
  | [] => ([], none)
  | character :: rest =>
      if character == ':' && !inBrackets then ([], some rest)
      else
        let inside :=
          if character == '[' then true
          else if character == ']' then false
          else inBrackets
        let (host, port) := splitPort inside rest
        (character :: host, port)

/-- The number that the digits of a port stand for. -/
def portNumber (digits : List Char) : Except Problem Nat :=
  match natIn? 10 digits with
  | some value => if value ≤ 65535 then .ok value else .error .invalidPort
  | none => .error .invalidPort

/-- The port behind a colon, unless it is empty or the usual one. -/
def parsePort (kind : Kind) (digits : List Char) : Except Problem (Option Nat) := do
  if digits.isEmpty then return none
  let number ← portNumber digits
  return if kind.defaultPort? == some number then none else some number

/-- What precedes the path of an address. -/
structure Authority where
  userinfo : String
  host : Host
  port : Option Nat
  deriving DecidableEq, Repr

/-- Read a host by the kind of the address. -/
def parseHost (kind : Kind) (characters : List Char) : Except Problem Host :=
  match kind with
  | .special _ =>
      if characters.isEmpty then .error .emptyHost else Host.parse characters
  | .file => Host.parse characters
  | .other => Host.parseOpaque characters

/-- Read an authority. `more` tells whether anything follows it. -/
def parseAuthority (kind : Kind) (characters : List Char) (more : Bool) :
    Except Problem Authority := do
  let (info, hostAndPort) := splitUserinfo characters
  if info == some [] && hostAndPort.isEmpty && more then throw .emptyHost
  let userinfo := renderUserinfo (info.getD [])
  let (hostText, portText) := splitPort false hostAndPort
  let host ← parseHost kind hostText
  if host == .name [] && portText.isSome then throw .emptyHost
  let port ← parsePort kind (portText.getD [])
  if host == .name [] && !userinfo.isEmpty then throw .emptyHost
  return ⟨userinfo, host, port⟩

/-! ## Paths -/

/-- Whether a segment stands for the one it follows. -/
def isHere (segment : List Char) : Bool :=
  [".", "%2e"].contains (String.ofList (segment.map Char.toLower))

/-- Whether a segment stands for the one above. -/
def isAbove (segment : List Char) : Bool :=
  ["..", "%2e.", ".%2e", "%2e%2e"].contains (String.ofList (segment.map Char.toLower))

/-- Whether a segment is the letter of a drive, which has nothing above it. -/
def isDrive : List Char -> Bool
  | [letter, mark] => letter.isAlpha && (mark == ':' || mark == '|')
  | _ => false

/-- The segments without the last one, the latest first. -/
def goUp : List (List Char) -> List (List Char)
  | [] => []
  | last :: rest => if isDrive last then last :: rest else rest

/-- Add a segment that a slash follows. -/
def enterSegment (reversed : List (List Char)) (segment : List Char) : List (List Char) :=
  if isAbove segment then goUp reversed
  else if isHere segment then reversed
  else segment :: reversed

/-- Resolve segments behind others, the latest of which comes first. The last
segment has no slash behind it. -/
def resolve (reversed : List (List Char)) : List (List Char) -> List (List Char)
  | [] => reversed.reverse
  | [last] =>
      if isAbove last then (goUp reversed).reverse ++ [[]]
      else if isHere last then reversed.reverse ++ [[]]
      else reversed.reverse ++ [last]
  | segment :: next :: rest => resolve (enterSegment reversed segment) (next :: rest)

/-- The pieces of a path between its slashes. -/
def segments (kind : Kind) (path : List Char) : List (List Char) :=
  piecesBetween '/' (path.map fun character =>
    if kind.isSlash character then '/' else character)

/-- The usual form of a path, which may lack its first slash. -/
def normalPath (kind : Kind) (path : List Char) : String :=
  let pieces := segments kind path
  let relative :=
    match pieces with
    | [] :: next :: rest => next :: rest
    | others => others
  let encoded := relative.map (percentEncode .path)
  "/" ++ String.intercalate "/" ((resolve [] encoded).map String.ofList)

/-! ## Whole addresses -/

/-- Split what follows the authority: the path and the query. -/
def splitQuery (characters : List Char) : List Char × Option (List Char) :=
  let withoutFragment := characters.takeWhile (· != '#')
  match withoutFragment.dropWhile (· != '?') with
  | _ :: query => (withoutFragment.takeWhile (· != '?'), some query)
  | [] => (withoutFragment, none)

/-- An address that could be read. -/
inductive Parsed
  | web (url : Url)
  /-- An address of another kind. -/
  | unsupported (scheme : String)
  deriving DecidableEq, Repr

/-- Read what follows the slashes before an authority. -/
def parseHierarchy (scheme : String) (kind : Kind) (characters : List Char) :
    Except Problem Parsed := do
  let isInside := fun character => !kind.endsAuthority character
  let rest := characters.dropWhile isInside
  let authority ← parseAuthority kind (characters.takeWhile isInside) (!rest.isEmpty)
  if scheme == "http" || scheme == "https" then
    let (path, query) := splitQuery rest
    return .web
      { scheme := scheme
        userinfo := authority.userinfo
        host := authority.host
        port := authority.port
        path := normalPath kind path
        query := query.map fun text => String.ofList (percentEncode .query text) }
  else return .unsupported scheme

/-- Read the address of a file: only its host can be wrong. -/
def parseFile (scheme : String) (characters : List Char) : Except Problem Parsed := do
  match characters with
  | first :: second :: rest =>
      if Kind.file.isSlash first && Kind.file.isSlash second then
        let host := rest.takeWhile fun character => !Kind.file.endsAuthority character
        if !host.isEmpty && !isDrive host then
          let _ ← Host.parse host
        return .unsupported scheme
      else return .unsupported scheme
  | _ => return .unsupported scheme

/-- Read an address. -/
def parse (text : String) : Except Problem Parsed := do
  match scheme? (significant text) with
  | none => throw .relative
  | some (scheme, rest) =>
      match kindOf scheme with
      | .special port =>
          parseHierarchy scheme (.special port)
            (rest.dropWhile fun character => character == '/' || character == '\\')
      | .file => parseFile scheme rest
      | .other =>
          match rest with
          | '/' :: '/' :: remaining => parseHierarchy scheme .other remaining
          | _ => return .unsupported scheme

/-- The usual form of an address. -/
def render (url : Url) : String :=
  url.scheme ++ "://" ++ url.userinfo ++ url.host.render ++
    (match url.port with
      | some port => ":" ++ toString port
      | none => "") ++
    url.path ++
    (match url.query with
      | some query => "?" ++ query
      | none => "")

/-- A path without the slashes at its end. -/
def withoutTrailingSlashes (path : String) : String :=
  String.ofList (path.toList.reverse.dropWhile (· == '/')).reverse

/-- The address whose path goes on behind this one. The query stays. -/
def join (url : Url) (path : String) : Url :=
  { url with path := withoutTrailingSlashes url.path ++ "/" ++ path }

/-- The web address that a text stands for. -/
def ofText (text : String) : Except Fault Url :=
  match parse text with
  | .ok (.web url) => .ok url
  | .ok (.unsupported scheme) =>
      .error (.invalidUrl (text ++ ": unsupported scheme " ++ Text.quoted scheme))
  | .error problem => .error (.invalidUrl (text ++ ": " ++ problem.message))

example : ((ofText "http://H:80/a/../b?x#y").map render).toOption = some "http://h/b?x" := by
  decide +kernel

end Url
end BlockFeed
