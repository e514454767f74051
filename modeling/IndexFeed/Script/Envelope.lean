import IndexFeed.Request.Basic

/-! A compiled script on its own, in the envelope in which it can be sent. -/
namespace IndexFeed.Script

/-- A script by itself. -/
structure Envelope where
  script : String
  deriving DecidableEq, Repr

namespace Envelope

def toJson (envelope : Envelope) : Json := .object [("script", .string envelope.script)]

def body (envelope : Envelope) : UpdateBody := .script envelope.script

open Json (Readable field? string?)

def read? {α : Type} [Readable α] (x : α) : Option Envelope :=
  match Readable.members? x, Readable.items? x with
  | some members, _ => (field? members "script" string? none).map (⟨·⟩)
  | none, some [script] => (string? script).map (⟨·⟩)
  | _, _ => none

end Envelope
end IndexFeed.Script
