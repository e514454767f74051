import IndexFeed.Url.Host

/-! URLs and their text. -/
namespace IndexFeed

namespace Url

/-- What follows two slashes: credentials, already encoded and with their at sign, host and port. -/
structure Authority where
  credentials : List Char
  host : Host
  port : Option Nat
  deriving DecidableEq, Repr

/-- The path of a URL. -/
inductive Route where
  /-- A path of segments, to which others can be added. -/
  | segments (path : Segments)
  /-- A path without structure. -/
  | plain (text : List Char)
  deriving DecidableEq, Repr

/-- Schemes with rules of their own, and their default ports. -/
def specialSchemes : List (String × Option Nat) :=
  [("http", some 80), ("https", some 443), ("ftp", some 21), ("ws", some 80), ("wss", some 443),
    ("file", none)]

def isSpecial (scheme : String) : Bool := (specialSchemes.lookup scheme).isSome

def defaultPort (scheme : String) : Option Nat := (specialSchemes.lookup scheme).join

end Url

/-- A URL in its parts. -/
structure Url where
  scheme : String
  authority : Option Url.Authority
  route : Url.Route
  query : Option (List Char)
  fragment : Option (List Char)
  deriving DecidableEq, Repr

namespace Url

def Authority.place (authority : Authority) : List Char :=
  authority.host.chars ++
    match authority.port with
    | none => []
    | some port => ':' :: Nat.toDigits 10 port

def Authority.chars (authority : Authority) : List Char :=
  authority.credentials ++ authority.place

/-- The route in a URL; after a scheme alone, a path with two slashes at its front needs a dot, so that
it is not taken for an authority. -/
def Route.chars (hasAuthority : Bool) : Route → List Char
  | .plain text => text
  | .segments path =>
    match hasAuthority, path with
    | false, [] :: _ :: _ => '/' :: '.' :: Segments.chars path
    | _, _ => Segments.chars path

/-- A part after its mark, if there is one. -/
def marked (mark : Char) : Option (List Char) → List Char
  | none => []
  | some text => mark :: text

def chars (url : Url) : List Char :=
  url.scheme.toList ++ ':' :: (match url.authority with
    | none => []
    | some authority => '/' :: '/' :: authority.chars) ++
    url.route.chars url.authority.isSome ++ marked '?' url.query ++ marked '#' url.fragment

def text (url : Url) : String := String.ofList url.chars

def target (url : Url) : String :=
  String.ofList (url.route.chars url.authority.isSome ++ marked '?' url.query)

def isReservedInFragment (c : Char) : Bool := c ∈ [' ', '"', '<', '>', '`']

def isReservedInPath (c : Char) : Bool :=
  isReservedInFragment c || c ∈ ['#', '?', '\x7b', '\x7d']

/-- Characters that are encoded in an added segment. -/
def isReservedInSegment (special : Bool) (c : Char) : Bool :=
  c ∈ [' ', '"', '<', '>', '`', '#', '?', '\x7b', '\x7d', '/', '%'] || (special && c == '\\')

/-- Tabs and line ends, which no URL has. -/
def isDropped (c : Char) : Bool := c == '\t' || c == '\n' || c == '\r'

def visible (text : List Char) : List Char := text.filter fun c => !isDropped c

/-- Whether a character separates segments. -/
def isSlash (special : Bool) (c : Char) : Bool := c == '/' || (special && c == '\\')

/-- What follows the slash at the front of a text, if there is one. Tabs and line ends before it do not
count. -/
def afterSlash? (text : List Char) : Option (List Char) :=
  match text.dropWhile isDropped with
  | c :: rest => if isSlash true c then some rest else none
  | [] => none

/-- An added segment as it stands in the URL. -/
def encodeSegment (special : Bool) (segment : String) : List Char :=
  encode (isReservedInSegment special) (visible segment.toList)

/-- Adds segments to a path, each as one; segments that are one or two dots add nothing. -/
def extendPath (special : Bool) (path : Segments) (segments : List String) : Segments :=
  (segments.filter fun s => s ≠ "." ∧ s ≠ "..").foldl
    (fun path segment => path.append (encodeSegment special segment)) path.popIfEmpty

/-- The URL below this one; none where its path has no segments to add to. -/
def below? (url : Url) (segments : List String) : Option Url :=
  match url.route with
  | .plain _ => none
  | .segments path =>
    some { url with route := .segments (extendPath (isSpecial url.scheme) path segments) }

end Url
end IndexFeed
