import IndexFeed.Proofs.Mutator.Elements
import IndexFeed.Proofs.Script.LiteralValue
import IndexFeed.Proofs.Script.Unambiguous

/-! Edits: what a mutator asks for, step by step, in terms of its paths and operands. Its script shows all
of it where the paths consist of words. -/
namespace IndexFeed
open Script (Literal Statement elementText?)

/-- A change of one field. Values are those of the operands, and elements are known by their texts. -/
inductive Edit where
  | assign (field : List Segment) (value : Json)
  | remove (container : List Segment) (leaf : String)
  | increase (field : List Segment) (amount : String)
  | append (field : List Segment) (element : String)
  | subtract (field : List Segment) (element : String)
  /-- Adds the first element of some to a set. -/
  | addFirst (field : List Segment) (element : String)
  /-- Adds a further element to a set. -/
  | addNext (field : List Segment) (element : String)

namespace Edit

/-- Equality of edits whose values are alike. -/
def Alike : Edit → Edit → Prop
  | assign field v, assign other w => field = other ∧ v.Alike w
  | a, b => a = b

/-- The removal of a field from the container on the way to it. -/
def removal (raw : String) : Edit :=
  match ((Path.parts raw).map Segment.ofPart).reverse with
  | leaf :: parent :: above => .remove (parent :: above).reverse (String.ofList leaf.name)
  | _ => .remove [] raw

/-- One element is added first, and the others next. -/
def additions (field : List Segment) : List String → List Edit
  | [] => []
  | text :: rest => .addFirst field text :: rest.map (.addNext field)

end Edit

/-- What an element of a list is called: a string by itself, a number or a boolean by its text. -/
def Json.elementName : Json → Option String
  | .string s => some s
  | .number n => some n.text
  | .bool b => some (if b then "true" else "false")
  | .null | .array _ | .object _ => none

namespace Operand

/-- The elements that an operand lists. -/
def listed : Operand → List Json
  | scalar value => [value]
  | object _ => []
  | array items | each items => items

/-- The names of the elements that an operand lists. -/
def names (operand : Operand) : List String := operand.listed.filterMap Json.elementName

end Operand

namespace Edit

end Edit

namespace Mutator

end Mutator
end IndexFeed
