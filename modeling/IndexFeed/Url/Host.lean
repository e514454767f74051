import IndexFeed.Url.Segments

/-! Hosts of URLs, and why a text is not one. An IPv4 address is one to four numbers, the last of which
fills the bytes that are left; an IPv6 address is eight pieces of 16 bits, of which two colons leave out
a run of zeros. -/
namespace IndexFeed.Url

/-- Why a text is no URL. -/
inductive Fault where
  | emptyHost
  | invalidName
  | invalidPort
  | invalidIpv4
  | invalidIpv6
  | invalidCharacter
  | noScheme
  deriving DecidableEq, Repr

def Fault.message : Fault → String
  | emptyHost => "empty host"
  | invalidName => "invalid international domain name"
  | invalidPort => "invalid port number"
  | invalidIpv4 => "invalid IPv4 address"
  | invalidIpv6 => "invalid IPv6 address"
  | invalidCharacter => "invalid domain character"
  | noScheme => "relative URL without a base"

namespace Ipv4

/-- A part of an address: decimal, octal after a zero, or hexadecimal after `0x`. -/
def part? : List Char → Option Nat
  | [] => none
  | '0' :: 'x' :: digits | '0' :: 'X' :: digits => Text.number? 16 digits
  | '0' :: d :: digits => Text.number? 8 (d :: digits)
  | digits => Text.number? 10 digits

def parts (name : List Char) : List (List Char) :=
  match (name.splitOn '.').reverse with
  | [] :: last :: rest => (last :: rest).reverse
  | _ => name.splitOn '.'

/-- Whether a name is read as an address: its last part is a number. -/
def isAddress (name : List Char) : Bool :=
  match (parts name).getLast? with
  | none => false
  | some last => (last ≠ [] ∧ last.all Char.isDigit) ∨ (part? last).isSome

/-- The address of its numbers: each but the last is a byte, the last fills the rest. -/
def ofNumbers? (numbers : List Nat) : Option Nat :=
  match numbers.reverse with
  | [] => none
  | last :: others =>
    let bytes := others.reverse
    if 3 < bytes.length ∨ bytes.any (255 < ·) ∨ Nat.pow 256 (4 - bytes.length) ≤ last then none
    else
      let front := bytes.foldl (fun value byte => value * 256 + byte) 0
      some (front * Nat.pow 256 (4 - bytes.length) + last)

def parse (name : List Char) : Except Fault Nat :=
  match ((parts name).mapM part?).bind ofNumbers? with
  | some address => .ok address
  | none => .error .invalidIpv4

def chars (address : Nat) : List Char :=
  let byte (k : Nat) : List Char := Nat.toDigits 10 (address / Nat.pow 256 k % 256)
  byte 3 ++ '.' :: byte 2 ++ '.' :: byte 1 ++ '.' :: byte 0

end Ipv4

namespace Ipv6

/-- A piece: one to four hexadecimal digits. -/
def piece? (digits : List Char) : Option Nat :=
  if digits.length = 0 ∨ 4 < digits.length then none else Text.number? 16 digits

/-- A byte in decimal, without zeros before it. -/
def byte? (digits : List Char) : Option Nat :=
  match digits with
  | [] | '0' :: _ :: _ => none
  | digits => (Text.number? 10 digits).filter (· ≤ 255)

/-- The two pieces that four bytes with dots between them write. -/
def dotted? (text : List Char) : Option (List Nat) :=
  match (text.splitOn '.').mapM byte? with
  | some [a, b, c, d] => some [a * 256 + b, c * 256 + d]
  | _ => none

/-- The pieces of a list of texts; the last one may be four bytes where `dotted` allows it. -/
def pieces? (dotted : Bool) : List (List Char) → Option (List Nat)
  | [] => some []
  | [last] =>
    if dotted ∧ '.' ∈ last then dotted? last else (piece? last).map ([·])
  | text :: rest => do return (← piece? text) :: (← pieces? dotted rest)

/-- The colon-separated texts of one side of the run of zeros. -/
def side (text : List Char) : List (List Char) := if text = [] then [] else text.splitOn ':'

/-- The text before the first two colons and the text after them. -/
def splitAtRun : List Char → Option (List Char × List Char)
  | [] => none
  | ':' :: ':' :: rest => some ([], rest)
  | c :: rest => (splitAtRun rest).map fun (before, after) => (c :: before, after)

/-- The eight pieces of an address. -/
def read? (text : List Char) : Option (List Nat) :=
  match splitAtRun text with
  | none => do
    let pieces ← pieces? true (text.splitOn ':')
    if pieces.length = 8 then some pieces else none
  | some (before, after) => do
    let left ← pieces? false (side before)
    let right ← pieces? true (side after)
    let written := left.length + right.length
    if written ≤ 7 then some (left ++ List.replicate (8 - written) 0 ++ right) else none

def parse (text : List Char) : Except Fault (List Nat) :=
  match read? text with
  | some pieces => .ok pieces
  | none => .error .invalidIpv6

/-- The lengths of the runs of zeros that start at each piece. -/
def runs : List Nat → List Nat
  | [] => []
  | piece :: rest =>
    let following := runs rest
    (if piece = 0 then following.headD 0 + 1 else 0) :: following

def joined (pieces : List Nat) : List Char :=
  List.intercalate [':'] (pieces.map (Nat.toDigits 16))

/-- The address in its shortest form: the first of the longest runs of two or more zeros is left out. -/
def chars (pieces : List Nat) : List Char :=
  let longest := (runs pieces).foldl max 0
  if longest < 2 then joined pieces
  else
    let start := ((runs pieces).takeWhile (· ≠ longest)).length
    joined (pieces.take start) ++ ':' :: ':' :: joined (pieces.drop (start + longest))

end Ipv6

/-- The host of a URL. -/
inductive Host where
  /-- A name; the empty one where there is no host. -/
  | name (text : String)
  | ipv4 (address : Nat)
  | ipv6 (pieces : List Nat)
  deriving DecidableEq, Repr

namespace Host

def none : Host := name ""

def chars : Host → List Char
  | name text => text.toList
  | ipv4 address => Ipv4.chars address
  | ipv6 pieces => '[' :: Ipv6.chars pieces ++ [']']

/-- Characters that no host has. -/
def isForbidden (c : Char) : Bool :=
  c ∈ ['\x00', '\t', '\n', '\r', ' ', '#', '/', ':', '<', '>', '?', '@', '[', '\\', ']', '^', '|']

/-- Characters that no domain name has. -/
def isForbiddenInDomain (c : Char) : Bool :=
  isForbidden c || c == '%' || c.toNat < 0x20 || 0x7F ≤ c.toNat

def bracketed (text : List Char) : Except Fault Host :=
  if text.getLast? = some ']' then (Ipv6.parse text.dropLast).map ipv6
  else .error .invalidIpv6

/-- A host of a scheme that has no rules for hosts. -/
def parseUnruled : List Char → Except Fault Host
  | '[' :: rest => bracketed rest
  | text =>
    if text.any isForbidden then .error .invalidCharacter
    else .ok (name (String.ofList (encode (fun _ => false) text)))

/-- A domain name or an address. Names outside the first 128 characters are not known here. -/
def parse : List Char → Except Fault Host
  | '[' :: rest => bracketed rest
  | text =>
    match decode? text with
    | .none => .error .invalidName
    | some decoded =>
      let domain := decoded.map Char.toLower
      if domain.any isForbiddenInDomain then .error .invalidName
      else if domain = [] then .error .emptyHost
      else if Ipv4.isAddress domain then (Ipv4.parse domain).map ipv4
      else .ok (name (String.ofList domain))

end Host
end IndexFeed.Url
