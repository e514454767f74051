import IndexFeed.Json.Readable

/-! Settings of a connection, and their JSON. -/
namespace IndexFeed

/-- How the index is reached, and where documents go when a call does not say. -/
structure Settings where
  host : String
  index : Option String
  type : Option String
  timeout : Nat
  deriving DecidableEq, Repr

namespace Settings

def defaultHost : String := "localhost:9200"

def defaultTimeout : Nat := 30

def default : Settings := ⟨defaultHost, none, none, defaultTimeout⟩

def optional : Option String → Json
  | none => .null
  | some text => .string text

def toJson (settings : Settings) : Json :=
  .object [("host", .string settings.host), ("index", optional settings.index),
    ("type", optional settings.type), ("timeoutSecs", .number (.integer settings.timeout))]

open Json (Readable field? string? optionalString? natural?)

variable {α : Type} [Readable α]

/-- Reads settings from the values written for them, in order; those not written have their defaults. -/
def ofItems? : List α → Option Settings
  | [] => some default
  | [host] => do
    return { default with host := ← string? host }
  | [host, index] => do
    return { default with host := ← string? host, index := ← optionalString? index }
  | [host, index, type] => do
    return { default with
      host := ← string? host, index := ← optionalString? index, type := ← optionalString? type }
  | [host, index, type, timeout] => do
    return {
      host := ← string? host
      index := ← optionalString? index
      type := ← optionalString? type
      timeout := ← natural? timeout }
  | _ => none

/-- Reads settings from an object, or from a list of its parts; what is not written has its default. -/
def read? (x : α) : Option Settings :=
  match Readable.members? x, Readable.items? x with
  | some members, _ => do
    let host ← field? members "host" string? (some defaultHost)
    let index ← field? members "index" optionalString? (some none)
    let type ← field? members "type" optionalString? (some none)
    let timeout ← field? members "timeoutSecs" natural? (some defaultTimeout)
    return { host, index, type, timeout }
  | none, some items => ofItems? items
  | none, none => none

end Settings
end IndexFeed
