import IndexFeed.Json.Basic
import IndexFeed.Number.Basic
import IndexFeed.Text.Basic

/-! Reads a text as JSON: first into the value as it is written, where numerals, escapes and repeated keys are
kept, then into the value it stands for, if its numbers are in range, its escapes are characters and it is
not too deep. -/
namespace IndexFeed.Json

/-- A piece of a written string: a character, or a unit of 16 bits given by its code. -/
inductive Piece where
  | char (c : Char)
  | unit (code : Nat)
  deriving DecidableEq, Repr

/-- A value as it is written. -/
inductive Written where
  | null
  | bool (value : Bool)
  | number (numeral : Numeral)
  | string (pieces : List Piece)
  | array (items : List Written)
  | object (members : List (List Piece × Written))

/-- Containers nest at most this deep. -/
def greatestDepth : Nat := 127

/-- The characters of a written string; none where a surrogate stands alone. -/
def decode? : List Piece → Option (List Char)
  | [] => some []
  | .char c :: rest => (decode? rest).map (c :: ·)
  | .unit code :: rest =>
    if code < 0xD800 ∨ 0xDFFF < code then (decode? rest).map (Char.ofNat code :: ·)
    else if 0xDC00 ≤ code then none
    else
      match rest with
      | .unit low :: rest =>
        if 0xDC00 ≤ low ∧ low ≤ 0xDFFF then
          (decode? rest).map
            (Char.ofNat (0x10000 + (code - 0xD800) * 0x400 + (low - 0xDC00)) :: ·)
        else none
      | _ => none

/-- The string that pieces write. -/
def stringOf? (pieces : List Piece) : Option String := (decode? pieces).map String.ofList

namespace Written

mutual
/-- The JSON value of a written one; `room` more levels of containers are allowed. -/
def value? (room : Nat) : Written → Option Json
  | .null => some .null
  | .bool b => some (.bool b)
  | .number numeral => numeral.value?.map .number
  | .string pieces => (stringOf? pieces).map .string
  | .array items =>
    match room with
    | 0 => none
    | room + 1 => (values? room items).map .array
  | .object members =>
    match room with
    | 0 => none
    | room + 1 => (memberValues? room members).map fun entries => .object (Entries.ofList entries)

def values? (room : Nat) : List Written → Option (List Json)
  | [] => some []
  | x :: rest =>
    match value? room x, values? room rest with
    | some v, some vs => some (v :: vs)
    | _, _ => none

def memberValues? (room : Nat) : List (List Piece × Written) → Option (List (String × Json))
  | [] => some []
  | (key, x) :: rest =>
    match stringOf? key, value? room x, memberValues? room rest with
    | some k, some v, some vs => some ((k, v) :: vs)
    | _, _, _ => none
end

end Written

/-- Why a reader stops. -/
inductive Stop where
  | ended (what : Unfinished)
  | unexpected
  deriving DecidableEq, Repr

/-- A reader takes what it reads from the front of the text and gives back the rest. -/
abbrev Reader (α : Type) := List Char → Except Stop (α × List Char)

def isBlank (c : Char) : Bool := c == ' ' || c == '\t' || c == '\n' || c == '\r'

def skipBlanks (text : List Char) : List Char := text.dropWhile isBlank

def simpleEscape? (c : Char) : Option Char :=
  match c with
  | '"' => some '"'
  | '\\' => some '\\'
  | '/' => some '/'
  | 'b' => some '\x08'
  | 'f' => some '\x0c'
  | 'n' => some '\n'
  | 'r' => some '\r'
  | 't' => some '\t'
  | _ => none

/-- What follows a backslash and a `u` that is not four hexadecimal digits. -/
def codeStop (text : List Char) : Stop :=
  if (text.take 4).all (fun c => (Text.hexDigit? c).isSome) then .ended .string else .unexpected

/-- The rest of a string, after its opening quote. -/
def readPieces : Reader (List Piece)
  | [] => .error (.ended .string)
  | '"' :: rest => .ok ([], rest)
  | '\\' :: rest =>
    match rest with
    | [] => .error (.ended .string)
    | 'u' :: a :: b :: c :: d :: rest =>
      match Text.number? 16 [a, b, c, d] with
      | some code => (readPieces rest).map fun (pieces, rest) => (.unit code :: pieces, rest)
      | none => .error .unexpected
    | 'u' :: rest => .error (codeStop rest)
    | c :: rest =>
      match simpleEscape? c with
      | some e => (readPieces rest).map fun (pieces, rest) => (.char e :: pieces, rest)
      | none => .error .unexpected
  | c :: rest =>
    if c.toNat < 0x20 then .error .unexpected
    else (readPieces rest).map fun (pieces, rest) => (.char c :: pieces, rest)

/-- The digits at the front of the text. -/
def takeDigits (text : List Char) : List Nat × List Char :=
  ((text.takeWhile Char.isDigit).map (fun c => c.toNat - 48), text.dropWhile Char.isDigit)

def readDigits : Reader (List Nat) := fun text =>
  match takeDigits text with
  | ([], []) => .error (.ended .value)
  | ([], _) => .error .unexpected
  | found => .ok found

def readFraction : Reader (Option (List Nat))
  | '.' :: rest => (readDigits rest).map fun (digits, rest) => (some digits, rest)
  | text => .ok (none, text)

/-- The exponent: whether it is negative, and its digits. -/
def readExponent : Reader (Option (Bool × List Nat))
  | c :: rest =>
    if c = 'e' ∨ c = 'E' then
      let (negative, rest) := match rest with
        | '+' :: rest => (false, rest)
        | '-' :: rest => (true, rest)
        | rest => (false, rest)
      (readDigits rest).map fun (digits, rest) => (some (negative, digits), rest)
    else .ok (none, c :: rest)
  | [] => .ok (none, [])

def readNumeral : Reader Numeral := fun text => do
  let (negative, text) := match text with
    | '-' :: rest => (true, rest)
    | text => (false, text)
  let (whole, text) ← readDigits text
  if whole.head? = some 0 ∧ whole ≠ [0] then .error .unexpected
  else
    let (fraction, text) ← readFraction text
    let (exponent, text) ← readExponent text
    return ({ negative, whole, fraction, exponent }, text)

def readWord (value : Written) : (word : List Char) → Reader Written
  | [], text => .ok (value, text)
  | _ :: _, [] => .error (.ended .value)
  | c :: word, d :: text => if c = d then readWord value word text else .error .unexpected

mutual
/-- Reads a value; `fuel` bounds how many values and separators follow one another. -/
def readValue : (fuel : Nat) → Reader Written
  | 0, _ => .error .unexpected
  | fuel + 1, text =>
    match skipBlanks text with
    | [] => .error (.ended .value)
    | '"' :: rest => (readPieces rest).map fun (pieces, rest) => (.string pieces, rest)
    | '[' :: rest =>
      match skipBlanks rest with
      | [] => .error (.ended .list)
      | ']' :: rest => .ok (.array [], rest)
      | rest => (readItems fuel rest).map fun (items, rest) => (.array items, rest)
    | '{' :: rest =>
      match skipBlanks rest with
      | [] => .error (.ended .object)
      | '}' :: rest => .ok (.object [], rest)
      | rest => (readMembers fuel rest).map fun (members, rest) => (.object members, rest)
    | 't' :: rest => readWord (.bool true) ['r', 'u', 'e'] rest
    | 'f' :: rest => readWord (.bool false) ['a', 'l', 's', 'e'] rest
    | 'n' :: rest => readWord .null ['u', 'l', 'l'] rest
    | c :: rest =>
      if c = '-' ∨ c.isDigit then
        (readNumeral (c :: rest)).map fun (numeral, rest) => (.number numeral, rest)
      else .error .unexpected

/-- Reads the items of an array, at least one, and the bracket after them. -/
def readItems : (fuel : Nat) → Reader (List Written)
  | 0, _ => .error .unexpected
  | fuel + 1, text =>
    match readValue fuel text with
    | .error stop => .error stop
    | .ok (item, rest) =>
      match skipBlanks rest with
      | [] => .error (.ended .list)
      | ']' :: rest => .ok ([item], rest)
      | ',' :: rest => (readItems fuel rest).map fun (items, rest) => (item :: items, rest)
      | _ => .error .unexpected

/-- Reads the members of an object, at least one, and the brace after them. -/
def readMembers : (fuel : Nat) → Reader (List (List Piece × Written))
  | 0, _ => .error .unexpected
  | fuel + 1, text =>
    match skipBlanks text with
    | [] => .error (.ended .value)
    | '"' :: rest =>
      match readPieces rest with
      | .error stop => .error stop
      | .ok (key, rest) =>
        match skipBlanks rest with
        | [] => .error (.ended .object)
        | ':' :: rest =>
          match readValue fuel rest with
          | .error stop => .error stop
          | .ok (value, rest) =>
            match skipBlanks rest with
            | [] => .error (.ended .object)
            | '}' :: rest => .ok ([(key, value)], rest)
            | ',' :: rest =>
              (readMembers fuel rest).map fun (members, rest) => ((key, value) :: members, rest)
            | _ => .error .unexpected
        | _ => .error .unexpected
    | _ => .error .unexpected
end

/-- The line and the column, in bytes, at which a text ends. -/
def endOf (text : List Char) : Nat × Nat :=
  let lastLine := text.reverse.takeWhile (· != '\n')
  (text.count '\n' + 1, (String.ofList lastLine).utf8ByteSize)

def Stop.fault (text : List Char) : Stop → Fault
  | .ended what => .unfinished what (endOf text).1 (endOf text).2
  | .unexpected => .unexpected

/-- Reads a whole text into the value as it is written. -/
def Written.read (text : String) : Except Fault Written :=
  let chars := text.toList
  match readValue (2 * chars.length + 2) chars with
  | .error stop => .error (stop.fault chars)
  | .ok (value, rest) => if skipBlanks rest = [] then .ok value else .error .unexpected

def read (text : String) : Except Fault Json := do
  let written ← Written.read text
  match written.value? greatestDepth with
  | some value => .ok value
  | none => .error .unreadable

end IndexFeed.Json
