import IndexFeed.Text.Basic

/-! Paths of URLs as lists of segments, which are written in percent encoding: bytes as a percent sign and
two hexadecimal digits. The path `/` has one empty segment; the empty path has none. -/
namespace IndexFeed.Url

def upperDigit (n : Nat) : Char := (Nat.digitChar n).toUpper

def encodeByte (byte : UInt8) : List Char :=
  ['%', upperDigit (byte.toNat / 16), upperDigit (byte.toNat % 16)]

/-- Controls and characters beyond the first 128 are encoded wherever they stand. -/
def isForeign (c : Char) : Bool := c.toNat < 0x20 || 0x7F ≤ c.toNat

/-- A character where the set `reserved` has to be encoded too. -/
def encodeChar (reserved : Char → Bool) (c : Char) : List Char :=
  if isForeign c || reserved c then (String.utf8EncodeChar c).flatMap encodeByte else [c]

def encode (reserved : Char → Bool) (text : List Char) : List Char :=
  text.flatMap (encodeChar reserved)

/-- The bytes of a text in which percent signs with two digits stand for a byte each. -/
def decodeBytes : List Char → List UInt8
  | [] => []
  | '%' :: a :: b :: rest =>
    match Text.number? 16 [a, b] with
    | some byte => UInt8.ofNat byte :: decodeBytes rest
    | none => String.utf8EncodeChar '%' ++ decodeBytes (a :: b :: rest)
  | c :: rest => String.utf8EncodeChar c ++ decodeBytes rest

def decode? (text : List Char) : Option (List Char) :=
  (String.fromUTF8? ⟨(decodeBytes text).toArray⟩).map String.toList

/-- A path: its segments, each encoded. -/
abbrev Segments := List (List Char)

namespace Segments

def chars (path : Segments) : List Char := path.flatMap ('/' :: ·)

/-- A segment that stands for the directory it is in. -/
def isSingleDot (segment : List Char) : Bool :=
  segment.map Char.toLower ∈ [['.'], ['%', '2', 'e']]

/-- A segment that stands for the directory above. -/
def isDoubleDot (segment : List Char) : Bool :=
  segment.map Char.toLower ∈ [['.', '.'], ['.', '%', '2', 'e'], ['%', '2', 'e', '.'],
    ['%', '2', 'e', '%', '2', 'e']]

/-- A letter and a colon or a bar: the name of a drive. -/
def isDrive : List Char → Bool
  | [letter, mark] => letter.isAlpha && (mark == ':' || mark == '|')
  | _ => false

/-- The directory above; nothing is above the root or above a drive. -/
def up (path : Segments) : Segments :=
  match path.getLast? with
  | some last => if isDrive last then path else path.dropLast
  | none => path

/-- The path of a directory and a segment in it that is followed by a slash. -/
def enter (directory : Segments) (segment : List Char) : Segments :=
  if isDoubleDot segment then up directory
  else if isSingleDot segment then directory
  else directory ++ [segment]

/-- The path of a directory and a last segment in it. -/
def finish (directory : Segments) (segment : List Char) : Segments :=
  if isDoubleDot segment then up directory ++ [[]]
  else if isSingleDot segment then directory ++ [[]]
  else directory ++ [segment]

/-- The path of segments as they are written, with dots resolved from the left. -/
def resolve (written : List (List Char)) : Segments :=
  finish (written.dropLast.foldl enter []) (written.getLastD [])

/-- Takes away an empty segment at the end, unless it is the only one. -/
def popIfEmpty (path : Segments) : Segments :=
  if 2 ≤ path.length ∧ path.getLast? = some [] then path.dropLast else path

/-- Adds a segment at the end; it takes the place of the empty segment of the root. -/
def append (path : Segments) (segment : List Char) : Segments :=
  finish (if path = [[]] then [] else path) segment

end Segments
end IndexFeed.Url
