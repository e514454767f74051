import IndexFeed.Http.Message

/-! Messages of HTTP as bytes. A connection carries one call and ends after the reply to it. -/
namespace IndexFeed.Http

/-- The lines of a call before its body. -/
def Call.lines (call : Call) : List String :=
  let place := (call.url.authority.map Url.Authority.place).getD []
  [call.method.name ++ " " ++ call.url.target ++ " HTTP/1.1",
    "host: " ++ String.ofList place,
    "accept: */*",
    "connection: close",
    "content-type: application/json",
    "content-length: " ++ toString (call.body.getD "").utf8ByteSize]

def Call.wire (call : Call) : String :=
  String.join (call.lines.map (· ++ "\r\n")) ++ "\r\n" ++ call.body.getD ""

namespace Wire

/-- A line and the bytes after its end. -/
def splitLine : (bytes : List UInt8) →
    Option (List UInt8 × { rest : List UInt8 // rest.length < bytes.length })
  | [] => none
  | 13 :: 10 :: rest => some ([], ⟨rest, by grind⟩)
  | byte :: rest => do
    let (line, after) ← splitLine rest
    return (byte :: line, ⟨after.1, by grind⟩)

def lineText (line : List UInt8) : String := String.ofList (line.map fun byte => Char.ofNat byte.toNat)

/-- The lines before the first empty one, and the bytes after it. -/
def splitHead (bytes : List UInt8) : Option (List String × List UInt8) :=
  match splitLine bytes with
  | none => none
  | some ([], rest) => some ([], rest)
  | some (line, rest) => do
    let (lines, body) ← splitHead rest
    return (lineText line :: lines, body)
termination_by bytes.length
decreasing_by exact rest.2

/-- The number that the hexadecimal digits at the front of a line write. -/
def size? (line : List UInt8) : Option Nat :=
  let digits := (lineText line).toList.takeWhile fun c => (Text.hexDigit? c).isSome
  if digits = [] then none else Text.number? 16 digits

/-- The content of chunks: each stands after its size, and one of size zero comes last. -/
def joinChunks (bytes : List UInt8) : Option (List UInt8) :=
  match splitLine bytes with
  | none => none
  | some (line, ⟨rest, _⟩) =>
    match size? line with
    | none => none
    | some 0 => some []
    | some size =>
      if rest.length < size then none
      else (joinChunks (rest.drop (size + 2))).map (rest.take size ++ ·)
termination_by bytes.length
decreasing_by simp only [List.length_drop]; omega

def status? (line : String) : Option Status :=
  match line.splitOn " " with
  | _ :: code :: _ => code.toNat?.map Status.mk
  | _ => none

/-- The value of a field of a reply, if its name, in lower case, is this one. -/
def field? (name line : String) : Option String :=
  let written := line.toList.takeWhile (· ≠ ':')
  if String.ofList (written.map Char.toLower) = name then
    some (Text.trim (String.ofList (line.toList.drop (written.length + 1))))
  else none

/-- The body that the fields of a reply delimit in the bytes after them; none if bytes are missing. -/
def body? (fields : List String) (bytes : List UInt8) : Option (List UInt8) :=
  if fields.findSome? (field? "transfer-encoding") = some "chunked" then joinChunks bytes
  else
    match (fields.findSome? (field? "content-length")).bind String.toNat? with
    | some length => if bytes.length < length then none else some (bytes.take length)
    | none => some bytes

/-- Whether a reply to this method with this status has no body, whatever its fields say. -/
def isBare (method : Method) (status : Status) : Bool :=
  method = .head ∨ status.code ∈ [204, 304]

end Wire

/-- Reads all bytes of a connection as the reply to a call of this method. -/
def Reply.ofBytes? (method : Method) (bytes : List UInt8) : Option Reply :=
  match Wire.splitHead bytes with
  | some (first :: fields, rest) => do
    let status ← Wire.status? first
    if Wire.isBare method status then return ⟨status, ""⟩
    let body ← Wire.body? fields rest
    return ⟨status, ← String.fromUTF8? ⟨body.toArray⟩⟩
  | _ => none

end IndexFeed.Http
