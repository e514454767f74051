import IndexFeed.Url.Basic

/-! Reads a text as a URL: scheme, authority, path, query and fragment from the left. In paths of files a
drive is special where it is the first segment. -/
namespace IndexFeed.Url

/-- The path of a file while it is read. -/
structure FilePath where
  segments : Segments
  /-- Whether the first segment was written as a drive. -/
  onDrive : Bool

namespace FilePath

/-- A drive at the front of a written segment and what follows it, where a tab or line end parts them. -/
def splitDrive? (written : List Char) : Option (List Char × List Char) :=
  match visible written with
  | letter :: ':' :: next :: rest =>
    let isParted := ((written.dropWhile (· ≠ ':')).drop 1).head?.any isDropped
    if letter.isAlpha ∧ isParted then some ([letter, ':'], next :: rest) else none
  | _ => none

/-- A segment, where the name of a drive has a colon and no bar. -/
def withColon : List Char → List Char
  | [letter, mark] => if Segments.isDrive [letter, mark] then [letter, ':'] else [letter, mark]
  | segment => segment

/-- The path with one more written segment, which `next` adds to those before it. A drive in front of the
path that is parted from the rest of its segment is a segment by itself; the rest is taken as it is, even
if it is dots. -/
def add (next : Segments → List Char → Segments) (path : FilePath) (written : List Char) : FilePath :=
  let segment := encode isReservedInPath (visible written)
  match path.segments, splitDrive? written with
  | [], some (drive, rest) => { path with segments := [drive, encode isReservedInPath rest] }
  | [], none =>
    ⟨next [] (withColon segment), path.onDrive || Segments.isDrive segment⟩
  | directory, _ => { path with segments := next directory segment }

def resolve (written : List (List Char)) : FilePath :=
  add Segments.finish (written.dropLast.foldl (add Segments.enter) ⟨[], false⟩) (written.getLastD [])

/-- Reads a path. Unless it is `rooted`, the slash that it starts with closes an empty segment. -/
def read (rooted : Bool) (text : List Char) : FilePath :=
  let text := if rooted then (afterSlash? text).getD text else text
  resolve (text.splitOnP (isSlash true))

/-- The segments that the path has in the end: none at its front are empty. -/
def route (path : FilePath) : Segments :=
  match path.segments.dropWhile (· = []) with
  | [] => [[]]
  | segments => segments

end FilePath

def isReservedInCredentials (c : Char) : Bool :=
  isReservedInPath c || c ∈ ['/', ':', ';', '=', '@', '[', '\\', ']', '^', '|']

def isReservedInQuery (special : Bool) (c : Char) : Bool :=
  c ∈ [' ', '"', '#', '<', '>'] || (special && c == '\'')

/-- The text without controls and blanks at its ends. -/
def trimEdges (text : List Char) : List Char :=
  let isEdge (c : Char) : Bool := c.toNat ≤ 0x20
  ((text.dropWhile isEdge).reverse.dropWhile isEdge).reverse

/-- Whether a character ends an authority. -/
def endsAuthority (special : Bool) (c : Char) : Bool :=
  isSlash special c || c == '?' || c == '#'

/-- The scheme, in lower case, and the text after its colon, with its tabs and line ends. -/
def scheme? (text : List Char) : Option (String × List Char) :=
  let belongs (c : Char) : Bool := c.isAlphanum || c == '+' || c == '-' || c == '.' || isDropped c
  match visible (text.takeWhile belongs), text.dropWhile belongs with
  | first :: later, ':' :: rest =>
    if first.isAlpha then some (String.ofList ((first :: later).map Char.toLower), rest) else none
  | _, _ => none

/-- The text before the last at sign of an authority, if it has one, and the text after it. -/
def splitCredentials (special : Bool) (text : List Char) : Option (List Char) × List Char :=
  let authority := text.takeWhile fun c => !endsAuthority special c
  let rest := text.dropWhile fun c => !endsAuthority special c
  if '@' ∈ authority then
    let host := (authority.reverse.takeWhile (· ≠ '@')).reverse
    (some (authority.take (authority.length - host.length - 1)), host ++ rest)
  else (none, text)

/-- Credentials as they stand in a URL: an empty password has no colon, and empty ones no at sign. -/
def encodeCredentials (text : List Char) : List Char :=
  let user := text.takeWhile (· ≠ ':')
  let password := (text.dropWhile (· ≠ ':')).drop 1
  if user = [] ∧ password = [] then []
  else
    encode isReservedInCredentials user ++
      (if password = [] then [] else ':' :: encode isReservedInCredentials password) ++ ['@']

/-- The host at the front of a text and the rest. A colon ends it unless it stands in brackets. -/
def splitHost (special : Bool) : (bracketed : Bool) → List Char → List Char × List Char
  | _, [] => ([], [])
  | bracketed, c :: rest =>
    if endsAuthority special c ∨ (c = ':' ∧ bracketed = false) then ([], c :: rest)
    else
      let (host, rest) :=
        splitHost special (if c = '[' then true else if c = ']' then false else bracketed) rest
      (c :: host, rest)

/-- The port at the front of a text, if it has digits, and the rest. -/
def readPort (text : List Char) : Except Fault (Option Nat × List Char) :=
  let digits := text.takeWhile Char.isDigit
  let rest := text.dropWhile Char.isDigit
  let port := Nat.ofDigitChars 10 digits 0
  if 65535 < port then .error .invalidPort
  else
    match rest with
    | [] => .ok (if digits = [] then none else some port, rest)
    | c :: _ =>
      if c ∈ ['/', '\\', '?', '#'] then .ok (if digits = [] then none else some port, rest)
      else .error .invalidPort

/-- The authority after two slashes, and the rest. -/
def readAuthority (scheme : String) (text : List Char) : Except Fault (Authority × List Char) := do
  let special := isSpecial scheme
  let (credentials, text) := splitCredentials special text
  if credentials = some [] ∧ (text.head?.map (endsAuthority special)).getD false then
    throw .emptyHost
  let credentials := encodeCredentials (credentials.getD [])
  let (hostText, rest) := splitHost special false text
  if special ∧ hostText = [] then throw .emptyHost
  let host ← if special then Host.parse hostText else Host.parseUnruled hostText
  match rest with
  | ':' :: rest =>
    if host = Host.none then throw .emptyHost
    let (port, rest) ← readPort rest
    return (⟨credentials, host, if port = defaultPort scheme then none else port⟩, rest)
  | rest =>
    if host = Host.none ∧ credentials ≠ [] then throw .emptyHost
    return (⟨credentials, host, none⟩, rest)

/-- The text before the query and the fragment, the query and the fragment. -/
def splitTail (text : List Char) : List Char × Option (List Char) × Option (List Char) :=
  let front := text.takeWhile (· ≠ '#')
  let fragment := match text.dropWhile (· ≠ '#') with
    | [] => none
    | _ :: rest => some rest
  let query := match front.dropWhile (· ≠ '?') with
    | [] => none
    | _ :: rest => some rest
  (front.takeWhile (· ≠ '?'), query, fragment)

def readSegments (special : Bool) (text : List Char) : Segments :=
  Segments.resolve ((text.splitOnP (isSlash special)).map (encode isReservedInPath))

/-- The path after an authority. A special URL always has a segment. -/
def readPath (special : Bool) : List Char → Segments
  | [] => if special then [[]] else []
  | c :: rest =>
    if isSlash special c then readSegments special rest else readSegments special (c :: rest)

/-- A URL from its parts as they are written: what follows the path is its query and fragment. -/
def assemble (scheme : String) (authority : Option Authority) (readRoute : List Char → Route)
    (text : List Char) : Url :=
  let (path, query, fragment) := splitTail text
  { scheme, authority, route := readRoute path
    query := query.map fun text => encode (isReservedInQuery (isSpecial scheme)) (visible text)
    fragment := fragment.map fun text => encode isReservedInFragment (visible text) }

/-- The host that a file has, if any, and the text after it. The own machine is no host, nor is a drive. -/
def splitFileHost (text : List Char) : Except Fault (Option Host × List Char) := do
  let hostText := visible (text.takeWhile fun c => !endsAuthority true c)
  if hostText = [] ∨ Segments.isDrive hostText then return (none, text)
  let host ← Host.parse hostText
  return (if host = Host.name "localhost" then none else some host,
    text.dropWhile fun c => !endsAuthority true c)

/-- The URL of a file, from its host, if any, its path, and the text whose query and fragment it has. -/
def assembleFile (scheme : String) (host : Option Host) (path : FilePath) (text : List Char) : Url :=
  assemble scheme (some ⟨[], host.getD Host.none, none⟩) (fun _ => .segments path.route) text

/-- Reads what follows the two slashes after the scheme of a file. Without a host, the slash of the path
closes an empty segment, after which a drive is not the first segment. A host is dropped where the path
is on a drive. -/
def readFileAuthority (scheme : String) (text : List Char) : Except Fault Url := do
  let (host, rest) ← splitFileHost text
  let path := FilePath.read host.isSome (splitTail rest).1
  return assembleFile scheme (if path.onDrive then none else host) path rest

/-- Reads what follows the scheme of a file, with its tabs and line ends. -/
def readFile (scheme : String) (text : List Char) : Except Fault Url :=
  match (afterSlash? text).bind afterSlash? with
  | some rest => readFileAuthority scheme rest
  | none => .ok (assembleFile scheme none (.read true (splitTail text).1) text)

def parse (text : String) : Except Fault Url :=
  match scheme? (trimEdges text.toList) with
  | none => .error .noScheme
  | some (scheme, written) =>
    let rest := visible written
    let withAuthority (text : List Char) : Except Fault Url := do
      let (authority, after) ← readAuthority scheme text
      return assemble scheme (some authority)
        (fun path => .segments (readPath (isSpecial scheme) path)) after
    if scheme = "file" then readFile scheme written
    else if isSpecial scheme then withAuthority (rest.dropWhile (isSlash true))
    else
      match rest with
      | '/' :: '/' :: text => withAuthority text
      | '/' :: _ =>
        .ok (assemble scheme none (fun path => .segments (readPath false path)) rest)
      | _ => .ok (assemble scheme none (fun path => .plain (encode (fun _ => false) path)) rest)

end IndexFeed.Url
