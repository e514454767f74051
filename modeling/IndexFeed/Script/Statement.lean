import IndexFeed.Json.Printer
import IndexFeed.Path

/-! Statements of update scripts and the literals in them: flat values, and strings in which no
interpolation can start. Lists in the index hold texts, so elements are string literals. -/
namespace IndexFeed.Script

/-- A character inside a string literal; a dollar is escaped, so that it interpolates nothing. -/
def escape (c : Char) : List Char := if c = '$' then ['\\', '$'] else Json.escape c

def quote (text : List Char) : List Char := '"' :: text.flatMap escape ++ ['"']

/-- A value without parts; a number is its numeral. -/
inductive Scalar where
  | null
  | bool (value : Bool)
  | numeral (text : String)
  | string (text : String)
  deriving DecidableEq, Repr

/-- A scalar, or a list or map of scalars. -/
inductive Literal where
  | scalar (value : Scalar)
  | list (items : List Scalar)
  | map (entries : List (String × Scalar))
  deriving DecidableEq, Repr

namespace Scalar

def ofJson? : Json → Option Scalar
  | .null => some null
  | .bool value => some (bool value)
  | .number n => some (numeral n.text)
  | .string text => some (string text)
  | .array _ | .object _ => none

def chars : Scalar → List Char
  | null => ['n', 'u', 'l', 'l']
  | bool true => ['t', 'r', 'u', 'e']
  | bool false => ['f', 'a', 'l', 's', 'e']
  | numeral text => text.toList
  | string text => quote text.toList

end Scalar

namespace Literal

/-- The literal of a value; none where a container holds a container. -/
def ofJson? : Json → Option Literal
  | .array items => (items.mapM Scalar.ofJson?).map list
  | .object members =>
    (members.mapM fun member : String × Json =>
      (Scalar.ofJson? member.2).map (member.1, ·)).map map
  | value => (Scalar.ofJson? value).map scalar

/-- Texts with a comma between each two. -/
def commas (texts : List (List Char)) : List Char := List.intercalate [','] texts

def chars : Literal → List Char
  | scalar value => value.chars
  | list items => '[' :: commas (items.map Scalar.chars) ++ [']']
  | map [] => ['[', ':', ']']
  | map entries =>
    '[' :: commas (entries.map fun (key, value) => quote key.toList ++ ':' :: value.chars) ++ [']']

def text (literal : Literal) : String := String.ofList literal.chars

end Literal

/-- What a value is called inside a list: a string itself, or the text of a number or a boolean. -/
def elementText? : Json → Option String
  | .string text => some text
  | .number n => some n.text
  | .bool true => some "true"
  | .bool false => some "false"
  | .null | .array _ | .object _ => none

/-- A statement, which changes a field of the document or of one of its containers. -/
inductive Statement where
  | assign (field : List Segment) (value : Literal)
  /-- Removes the entry called `leaf` from a container. -/
  | remove (container : List Segment) (leaf : String)
  /-- Adds a number, given by its numeral. -/
  | increase (field : List Segment) (amount : String)
  | append (field : List Segment) (element : String)
  | subtract (field : List Segment) (element : String)
  /-- Adds an element that is not there yet, and makes the list where the field is missing. -/
  | addFirst (field : List Segment) (element : String)
  /-- Adds an element that is not there yet. -/
  | addNext (field : List Segment) (element : String)
  deriving DecidableEq, Repr

namespace Statement

/-- Adds an element unless the list has it. -/
def addUnlessThere (list element : List Char) : List Char :=
  "if (!".toList ++ list ++ ".contains(".toList ++ element ++ ")) \x7b  ".toList ++ list ++
    " += ".toList ++ element ++ ";\x7d".toList

def chars : Statement → List Char
  | assign field value => Path.accessorChars field ++ " = ".toList ++ value.chars
  | remove container leaf =>
    Path.accessorChars container ++ ".remove(".toList ++ quote leaf.toList ++ [')']
  | increase field amount => Path.accessorChars field ++ "+=".toList ++ amount.toList
  | append field element => Path.accessorChars field ++ "+=".toList ++ quote element.toList
  | subtract field element => Path.accessorChars field ++ "-=".toList ++ quote element.toList
  | addFirst field element =>
    let list := Path.accessorChars field
    let element := quote element.toList
    "if (!".toList ++ list ++ ") \x7b  ".toList ++ list ++ " = [".toList ++ element ++
      "];\x7d else ".toList ++ addUnlessThere list element
  | addNext field element =>
    addUnlessThere (Path.accessorChars field) (quote element.toList)

def text (statement : Statement) : String := String.ofList statement.chars

end Statement

/-- The text of a script: its statements with a semicolon between each two. -/
def chars (statements : List Statement) : List Char :=
  List.intercalate [';'] (statements.map Statement.chars)

def text (statements : List Statement) : String := String.ofList (chars statements)

end IndexFeed.Script
