import IndexFeed.Path

/-! Mutators: operators with the fields they change, in the order in which they were written. -/
namespace IndexFeed

/-- What can be done to a field. -/
inductive Operator where
  | set
  | unset
  | inc
  | push
  | pull
  | pullAll
  | addToSet
  deriving DecidableEq, Repr

namespace Operator

def all : List Operator := [set, unset, inc, push, pull, pullAll, addToSet]

def name : Operator → String
  | set => "$set"
  | unset => "$unset"
  | inc => "$inc"
  | push => "$push"
  | pull => "$pull"
  | pullAll => "$pullAll"
  | addToSet => "$addToSet"

/-- The operator of a name; names outside the set are not supported. -/
def ofName (name : String) : Except Error Operator :=
  match all.find? (fun operator => operator.name == name) with
  | some operator => .ok operator
  | none => .error (.unsupportedOperator name)

/-- An operator is found by its name. -/
theorem ofName_name (operator : Operator) : ofName operator.name = .ok operator := by
  cases operator <;> rfl

end Operator

/-- What an operator is given for a field. -/
inductive Operand where
  | scalar (value : Json)
  | object (members : List (String × Json))
  | array (items : List Json)
  /-- The operator is applied once to each of these. -/
  | each (items : List Json)
  deriving DecidableEq

namespace Operand

/-- The key that asks for one application per element. -/
def eachKey : String := "$each"

/-- Reads an operand. An object with the key `$each` has no other key and a list under it. -/
def ofJson : Json → Except Error Operand
  | .object members =>
    match Entries.get? eachKey members with
    | none => .ok (object members)
    | some value =>
      if members.length ≠ 1 then .error (.invalidMutator .eachNotAlone)
      else
        match value with
        | .array items => .ok (each items)
        | _ => .error (.invalidMutator .eachNotAList)
  | .array items => .ok (array items)
  | value => .ok (scalar value)

def toJson : Operand → Json
  | scalar value => value
  | object members => .object members
  | array items => .array items
  | each items => .object [(eachKey, .array items)]

end Operand

abbrev Fields := List (String × Operand)

abbrev Operation := Operator × Fields

/-- The operations of an update, one for each operator that occurs. -/
structure Mutator where
  operations : List Operation
  deriving DecidableEq

namespace Mutator

def empty : Mutator := ⟨[]⟩

def isEmpty (m : Mutator) : Bool := m.operations.isEmpty

/-- Adds an operation. An operator that is there keeps its place and gets the new fields. -/
def push (m : Mutator) (operation : Operation) : Mutator :=
  ⟨Entries.put operation.1 operation.2 m.operations⟩

/-- Adds an operation unless it has no fields. -/
def pushNonempty (m : Mutator) (operation : Operation) : Mutator :=
  if operation.2.isEmpty then m else m.push operation

/-- Keeps the fields whose top part is allowed, and the operations that keep a field. -/
def restrict (m : Mutator) (allowed : List String) : Mutator :=
  m.operations.foldl (fun kept (operator, fields) =>
    kept.pushNonempty (operator, fields.filter fun field => Path.top field.1 ∈ allowed)) empty

def fieldsOfJson : List (String × Json) → Except Error Fields
  | [] => .ok []
  | (path, value) :: rest =>
    match Operand.ofJson value with
    | .error e => .error e
    | .ok operand => (fieldsOfJson rest).map ((path, operand) :: ·)

/-- Reads an operation: first its name, then the form of its fields, then each field. -/
def operationOfJson (name : String) (value : Json) : Except Error Operation :=
  match Operator.ofName name with
  | .error e => .error e
  | .ok operator =>
    match value with
    | .object members => (fieldsOfJson members).map (operator, ·)
    | _ => .error (.invalidMutator (.fieldsNotAnObject operator.name))

def operationsOfJson : List (String × Json) → Except Error (List Operation)
  | [] => .ok []
  | (name, value) :: rest =>
    match operationOfJson name value with
    | .error e => .error e
    | .ok operation => (operationsOfJson rest).map (operation :: ·)

/-- Reads a mutator; the first fault in reading order is the error. -/
def ofJson : Json → Except Error Mutator
  | .object members => (operationsOfJson members).map (⟨·⟩)
  | _ => .error (.invalidMutator .notAnObject)

/-- The fields as an object, written one after the other. -/
def fieldsToJson (fields : Fields) : Json :=
  .object (Entries.ofList (fields.map fun (path, operand) => (path, operand.toJson)))

/-- A mutator as an object, written operation by operation. -/
def toJson (m : Mutator) : Json :=
  .object (Entries.ofList (m.operations.map fun (operator, fields) =>
    (operator.name, fieldsToJson fields)))

end Mutator
end IndexFeed
