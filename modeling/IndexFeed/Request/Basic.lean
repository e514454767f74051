import IndexFeed.Json.Readable

/-! Requests to the index, their JSON, and requests read from JSON. A key that is known may be written
once; other keys are passed over. -/
namespace IndexFeed

/-- Where a document is. -/
structure Target where
  index : String
  type : String
  id : String
  deriving DecidableEq, Repr

/-- The body of an update: fields to merge, or a script to run. -/
inductive UpdateBody where
  | doc (document : Json)
  | script (text : String)
  deriving DecidableEq

/-- Writes a document as a whole. -/
structure IndexRequest where
  target : Target
  body : Json
  deriving DecidableEq

/-- Changes a document that is there. -/
structure UpdateRequest where
  target : Target
  body : UpdateBody
  deriving DecidableEq

/-- Looks for documents of a type. -/
structure SearchRequest where
  index : String
  type : String
  body : Json
  deriving DecidableEq

/-- What is asked of the index. -/
inductive Request where
  | index (request : IndexRequest)
  | update (request : UpdateRequest)
  | search (request : SearchRequest)
  deriving DecidableEq

def Target.members (target : Target) : List (String × Json) :=
  [("index", .string target.index), ("type", .string target.type), ("id", .string target.id)]

def Target.toJson (target : Target) : Json := .object target.members

def UpdateBody.toJson : UpdateBody → Json
  | .doc document => .object [("doc", document)]
  | .script text => .object [("script", .string text)]

def IndexRequest.toJson (request : IndexRequest) : Json :=
  .object (request.target.members ++ [("body", request.body)])

def UpdateRequest.toJson (request : UpdateRequest) : Json :=
  .object (request.target.members ++ [("body", request.body.toJson)])

def SearchRequest.toJson (request : SearchRequest) : Json :=
  .object [("index", .string request.index), ("type", .string request.type),
    ("body", request.body)]

def Request.toJson : Request → Json
  | index request => request.toJson
  | update request => request.toJson
  | search request => request.toJson

open Json (Readable field? string?)

variable {α : Type} [Readable α]

/-- Reads the three parts of a target from the members of an object. -/
def Target.ofMembers? (members : List (String × α)) : Option Target := do
  let index ← field? members "index" string? none
  let type ← field? members "type" string? none
  let id ← field? members "id" string? none
  return { index, type, id }

def Target.read? (x : α) : Option Target :=
  match Readable.members? x, Readable.items? x with
  | some members, _ => ofMembers? members
  | none, some [index, type, id] => do
    return { index := ← string? index, type := ← string? type, id := ← string? id }
  | _, _ => none

/-- The members of an object in which every value can be read. -/
def readableMembers? (x : α) : Option (List (String × α)) := do
  let members ← Readable.members? x
  if members.all fun member => (Readable.value? member.2).isSome then some members else none

/-- Reads the body of an update from an object: fields to merge if it has them once, else a script. -/
def UpdateBody.read? (x : α) : Option UpdateBody := do
  let members ← readableMembers? x
  match field? members "doc" Readable.value? none with
  | some document => some (.doc document)
  | none => (field? members "script" string? none).map .script

def IndexRequest.read? (x : α) : Option IndexRequest := do
  let members ← readableMembers? x
  let body ← field? members "body" Readable.value? none
  return { target := ← Target.ofMembers? members, body }

def UpdateRequest.read? (x : α) : Option UpdateRequest := do
  let members ← readableMembers? x
  let body ← field? members "body" UpdateBody.read? none
  return { target := ← Target.ofMembers? members, body }

def SearchRequest.read? (x : α) : Option SearchRequest :=
  match Readable.members? x, Readable.items? x with
  | some members, _ => do
    let index ← field? members "index" string? none
    let type ← field? members "type" string? none
    let body ← field? members "body" Readable.value? none
    return { index, type, body }
  | none, some [index, type, body] => do
    return { index := ← string? index, type := ← string? type, body := ← Readable.value? body }
  | _, _ => none

end IndexFeed
