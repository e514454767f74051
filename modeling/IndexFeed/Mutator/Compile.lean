import IndexFeed.Mutator.Basic
import IndexFeed.Script.Statement

/-! The script of a mutator: each field of each operation becomes statements of its own, in order. -/
namespace IndexFeed

open Script (Literal Statement elementText?)

namespace Operand

/-- The elements of an operand that is one scalar or a list under `$each`. -/
def scalarOrEach : Operand → Except OperandFault (List Json)
  | each items => .ok items
  | scalar value => .ok [value]
  | object _ | array _ => .error .notScalarOrEach

/-- The elements of an operand that is one scalar or a plain list. -/
def scalarOrList : Operand → Except OperandFault (List Json)
  | array items => .ok items
  | scalar value => .ok [value]
  | object _ | each _ => .error .notScalarOrList

/-- The texts of elements, all of which have one. -/
def elementTexts : List Json → Except OperandFault (List String)
  | [] => .ok []
  | value :: rest =>
    match elementText? value with
    | none => .error .notAnElement
    | some text => (elementTexts rest).map (text :: ·)

end Operand

namespace Path

/-- Removes the field from its container. A field of the document is named as it was written. -/
def removal (path : Path) : Statement :=
  match path.parents, path.segments.getLast? with
  | [], _ | _, none => .remove [] path.raw
  | parents, some leaf => .remove parents (String.ofList leaf.name)

end Path

namespace Operator

/-- Statements that add elements to a set: the first one also makes the list. -/
def additions (field : List Segment) : List String → List Statement
  | [] => []
  | text :: rest => .addFirst field text :: rest.map (.addNext field)

/-- The statements by which an operator changes one field. -/
def effect (operator : Operator) (path : Path) (operand : Operand) :
    Except OperandFault (List Statement) :=
  match operator with
  | set =>
    match operand with
    | .each _ => .error .eachNotSupported
    | _ =>
      match Literal.ofJson? operand.toJson with
      | none => .error .nestedContainer
      | some literal => .ok [.assign path.segments literal]
  | unset => .ok [path.removal]
  | inc =>
    match operand with
    | .scalar (.number n) => .ok [.increase path.segments n.text]
    | _ => .error .notANumber
  | push => do
    let texts ← Operand.elementTexts (← operand.scalarOrEach)
    return texts.map (.append path.segments)
  | pull => do
    let texts ← Operand.elementTexts (← operand.scalarOrEach)
    return texts.map (.subtract path.segments)
  | pullAll => do
    let texts ← Operand.elementTexts (← operand.scalarOrList)
    return texts.map (.subtract path.segments)
  | addToSet => do
    let texts ← Operand.elementTexts (← operand.scalarOrEach)
    return additions path.segments texts

/-- The statements of one field as it is written. Its path is read before its operand. -/
def statements (operator : Operator) (field : String) (operand : Operand) :
    Except Error (List Statement) :=
  match Path.parse field with
  | .error e => .error e
  | .ok path =>
    match operator.effect path operand with
    | .error fault => .error (.invalidOperand operator.name field fault)
    | .ok statements => .ok statements

end Operator

/-- Joins what a function gives for each element; the first error ends it. -/
def collect {α β ε : Type} (f : α → Except ε (List β)) : List α → Except ε (List β)
  | [] => .ok []
  | x :: rest =>
    match f x with
    | .error e => .error e
    | .ok ys => (collect f rest).map (ys ++ ·)

namespace Operation

def statements (operation : Operation) : Except Error (List Statement) :=
  collect (fun (field, operand) => operation.1.statements field operand) operation.2

end Operation

namespace Mutator

def statements (m : Mutator) : Except Error (List Statement) :=
  collect Operation.statements m.operations

/-- The script of a mutator; there is none unless every field has statements. -/
def script (m : Mutator) : Except Error String := m.statements.map Script.text

/-- The script of a mutator that is given as a value, which is read to its end before it is translated. -/
def scriptOfJson (value : Json) : Except Error String := (ofJson value).bind script

end Mutator
end IndexFeed
