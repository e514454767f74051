import IndexFeed.Mutator.Basic

/-! What an update is given: documents and their ids, selectors that may name ids by themselves, and
options. -/
namespace IndexFeed

/-- The key under which a document names itself. -/
def idKey : String := "_id"

/-- The members of a document: what it is written as, without the braces. -/
abbrev Document := List (String × Json)

/-- Keeps the allowed members of a document and its id. -/
def Document.restrict (document : Document) (allowed : List String) : Document :=
  document.filter fun member => member.1 = idKey ∨ member.1 ∈ allowed

namespace Document

def ofJson : Json → Except Error Document
  | .object members => .ok members
  | _ => .error (.invalidDocument .notAnObject)

/-- The text of the id, which is a string or a number. -/
def id (document : Document) : Except Error String :=
  match (Entries.get? idKey document).bind Json.name? with
  | some name => .ok name
  | none => .error (.missingField idKey)

end Document

namespace Selector

/-- The key that names one of several ids. -/
def anyOfKey : String := "$in"

/-- The ids of `{"_id": id}` and of `{"_id": {"$in": [id, ...]}}`, as often as they are written; none
where the selector has to be looked up. -/
def ids? (selector : Json) : Option (List String) := do
  let members ← selector.members?
  let id ← Entries.get? idKey members
  match id.name? with
  | some name => some [name]
  | none =>
    match ← Entries.get? anyOfKey (← id.members?) with
    | .array items => items.mapM Json.name?
    | _ => none

end Selector

/-- Where and how a call writes. -/
structure WriteOptions where
  /-- The index to write to, if not the one of the settings. -/
  index : Option String := none
  type : Option String := none
  /-- The top-level fields that the index has; none where it has all. -/
  fields : Option (List String) := none
  /-- Whether every matched document is updated, not only the first. -/
  multi : Bool := false
  /-- Whether selectors that name no ids can be looked up. -/
  lookup : Bool := false
  deriving DecidableEq, Repr

namespace WriteOptions

def listed {α : Type} (show? : α → String) : Option α → String
  | none => "None"
  | some value => "Some(" ++ show? value ++ ")"

def listing (options : WriteOptions) : String :=
  "WriteConfig \x7b index: " ++ listed Text.quoted options.index ++
    ", doc_type: " ++ listed Text.quoted options.type ++
    ", fields_to_include: " ++
    listed (fun names => "[" ++ ", ".intercalate (names.map Text.quoted) ++ "]") options.fields ++
    ", multi: " ++ toString options.multi ++ ", lookup: " ++ toString options.lookup ++ " \x7d"

end WriteOptions
end IndexFeed
