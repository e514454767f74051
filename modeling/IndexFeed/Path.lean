import IndexFeed.Error

/-! Dotted field paths and the script expression that reaches the field. -/
namespace IndexFeed

/-- A part of a path: a key, or a position in a list. -/
inductive Segment where
  | key (name : String)
  | index (position : Nat)
  deriving DecidableEq, Repr

namespace Segment

/-- Positions stay below this bound; larger numbers are keys. -/
def indexLimit : Nat := Nat.pow 2 64

/-- The segment that a part of a path writes: a position if it has digits only and is in range. -/
def ofPart (part : List Char) : Segment :=
  if part.all Char.isDigit ∧ Nat.ofDigitChars 10 part 0 < indexLimit then
    .index (Nat.ofDigitChars 10 part 0)
  else .key (String.ofList part)

/-- The name of a segment on its own; a position is its decimal. -/
def name : Segment → List Char
  | key name => name.toList
  | index position => Nat.toDigits 10 position

/-- A segment as it follows an expression: a key after a dot, a position in brackets. -/
def access : Segment → List Char
  | key name => '.' :: name.toList
  | index position => '[' :: Nat.toDigits 10 position ++ [']']

end Segment

/-- A dotted path and the segments it was split into. -/
structure Path where
  raw : String
  segments : List Segment
  deriving DecidableEq, Repr

namespace Path

def root : String := "ctx._source"

/-- The expression that reaches a field through these segments, character by character. -/
def accessorChars (segments : List Segment) : List Char :=
  root.toList ++ segments.flatMap Segment.access

def parts (raw : String) : List (List Char) := raw.toList.splitOn '.'

/-- The part that stands for a matched list element, which no script expression reaches. -/
def positional : List Char := ['$']

/-- Reads the parts from the left; the first one that is positional or empty decides the error. -/
def segmentsOf (raw : String) : List (List Char) → Except Error (List Segment)
  | [] => .ok []
  | part :: rest =>
    if part = positional then .error (.unsupportedPath raw)
    else if part = [] then .error (.invalidMutator (.emptySegment raw))
    else (segmentsOf raw rest).map (Segment.ofPart part :: ·)

def parse (raw : String) : Except Error Path :=
  if raw = "" then .error (.invalidMutator .emptyPath)
  else (segmentsOf raw (parts raw)).map (⟨raw, ·⟩)

def accessor (path : Path) : String := String.ofList (accessorChars path.segments)

/-- The segments of the container that holds the field. -/
def parents (path : Path) : List Segment := path.segments.dropLast

/-- The expression of the container and the name of the field in it, for a path of two or more
segments. -/
def splitLeaf (path : Path) : Option (String × String) :=
  match path.parents, path.segments.getLast? with
  | [], _ | _, none => none
  | parents, some leaf => some (String.ofList (accessorChars parents), String.ofList leaf.name)

/-- The first part of a path: its text before the first dot. -/
def top (raw : String) : String := String.ofList (raw.toList.takeWhile (· ≠ '.'))

end Path
end IndexFeed
