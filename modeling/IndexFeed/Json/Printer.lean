import IndexFeed.Json.Basic

/-! The two texts of a JSON value: the compact one without blanks and the indented one. -/
namespace IndexFeed.Json

/-- A character inside quotes. -/
def escape (c : Char) : List Char :=
  if c = '"' then ['\\', '"']
  else if c = '\\' then ['\\', '\\']
  else if c = '\x08' then ['\\', 'b']
  else if c = '\x0c' then ['\\', 'f']
  else if c = '\n' then ['\\', 'n']
  else if c = '\r' then ['\\', 'r']
  else if c = '\t' then ['\\', 't']
  else if c.toNat < 0x20 then
    ['\\', 'u', '0', '0', Nat.digitChar (c.toNat / 16), Nat.digitChar (c.toNat % 16)]
  else [c]

def quote (s : String) : List Char := '"' :: s.toList.flatMap escape ++ ['"']

mutual
/-- The compact text, character by character. -/
def chars : Json → List Char
  | .null => ['n', 'u', 'l', 'l']
  | .bool true => ['t', 'r', 'u', 'e']
  | .bool false => ['f', 'a', 'l', 's', 'e']
  | .number n => n.chars
  | .string s => quote s
  | .array items => '[' :: itemChars items ++ [']']
  | .object members => '{' :: memberChars members ++ ['}']

def itemChars : List Json → List Char
  | [] => []
  | [x] => chars x
  | x :: rest => chars x ++ ',' :: itemChars rest

def memberChars : List (String × Json) → List Char
  | [] => []
  | [(k, x)] => quote k ++ ':' :: chars x
  | (k, x) :: rest => quote k ++ ':' :: chars x ++ ',' :: memberChars rest
end

def text (x : Json) : String := String.ofList x.chars

/-- The end of a line and the indentation of the next one. -/
def newline (depth : Nat) : List Char := '\n' :: List.replicate (2 * depth) ' '

mutual
/-- The indented text, character by character; the value stands `depth` levels deep. -/
def prettyChars (depth : Nat) : Json → List Char
  | .array (x :: rest) =>
    '[' :: newline (depth + 1) ++ prettyItems depth (x :: rest) ++ newline depth ++ [']']
  | .object (m :: rest) =>
    '{' :: newline (depth + 1) ++ prettyMembers depth (m :: rest) ++ newline depth ++ ['}']
  | x => x.chars

def prettyItems (depth : Nat) : List Json → List Char
  | [] => []
  | [x] => prettyChars (depth + 1) x
  | x :: rest =>
    prettyChars (depth + 1) x ++ ',' :: newline (depth + 1) ++ prettyItems depth rest

def prettyMembers (depth : Nat) : List (String × Json) → List Char
  | [] => []
  | [(k, x)] => quote k ++ ':' :: ' ' :: prettyChars (depth + 1) x
  | (k, x) :: rest =>
    quote k ++ ':' :: ' ' :: prettyChars (depth + 1) x ++
      ',' :: newline (depth + 1) ++ prettyMembers depth rest
end

/-- The indented text: two blanks a level, and a blank after each colon. -/
def pretty (x : Json) : String := String.ofList (prettyChars 0 x)

end IndexFeed.Json
