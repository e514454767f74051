import IndexFeed.Entries
import IndexFeed.Number.Basic

/-! JSON values, and why a text is not read as one. The members of an object keep the order in which they
were written. -/
namespace IndexFeed

/-- A JSON value. Members are a list; that no key is there twice is what `Json.Distinct` says. -/
inductive Json where
  | null
  | bool (value : Bool)
  | number (value : Number)
  | string (value : String)
  | array (items : List Json)
  | object (members : List (String × Json))

namespace Json

mutual
/-- Equality of values, members in order, is decidable. -/
def decEq : (a b : Json) → Decidable (a = b)
  | .null, b => match b with
    | .null => isTrue rfl
    | .bool _ | .number _ | .string _ | .array _ | .object _ => isFalse nofun
  | .bool x, b => match b with
    | .bool y => if h : x = y then isTrue (by rw [h]) else isFalse (by simp [h])
    | .null | .number _ | .string _ | .array _ | .object _ => isFalse nofun
  | .number x, b => match b with
    | .number y => if h : x = y then isTrue (by rw [h]) else isFalse (by simp [h])
    | .null | .bool _ | .string _ | .array _ | .object _ => isFalse nofun
  | .string x, b => match b with
    | .string y => if h : x = y then isTrue (by rw [h]) else isFalse (by simp [h])
    | .null | .bool _ | .number _ | .array _ | .object _ => isFalse nofun
  | .array x, b => match b with
    | .array y => match decEqItems x y with
      | isTrue h => isTrue (by rw [h])
      | isFalse h => isFalse (by simp [h])
    | .null | .bool _ | .number _ | .string _ | .object _ => isFalse nofun
  | .object x, b => match b with
    | .object y => match decEqMembers x y with
      | isTrue h => isTrue (by rw [h])
      | isFalse h => isFalse (by simp [h])
    | .null | .bool _ | .number _ | .string _ | .array _ => isFalse nofun

def decEqItems : (a b : List Json) → Decidable (a = b)
  | [], [] => isTrue rfl
  | [], _ :: _ => isFalse nofun
  | _ :: _, [] => isFalse nofun
  | x :: xs, y :: ys => match decEq x y, decEqItems xs ys with
    | isTrue h, isTrue h' => isTrue (by rw [h, h'])
    | isFalse h, _ => isFalse (by simp [h])
    | _, isFalse h => isFalse (by simp [h])

def decEqMembers : (a b : List (String × Json)) → Decidable (a = b)
  | [], [] => isTrue rfl
  | [], _ :: _ => isFalse nofun
  | _ :: _, [] => isFalse nofun
  | (k, x) :: xs, (l, y) :: ys => match decEq x y, decEqMembers xs ys with
    | isTrue h, isTrue h' =>
      if hk : k = l then isTrue (by rw [h, h', hk]) else isFalse (by simp [hk])
    | isFalse h, _ => isFalse (by simp [h])
    | _, isFalse h => isFalse (by simp [h])
end

instance : DecidableEq Json := decEq

def members? : Json → Option (List (String × Json))
  | .object members => some members
  | _ => none

def isContainer : Json → Bool
  | .array _ | .object _ => true
  | _ => false

/-- The text of a string or of a number: what both can be called by. -/
def name? : Json → Option String
  | .string s => some s
  | .number n => some n.text
  | _ => none

mutual
/-- No object inside the value writes a key twice. -/
def Distinct : Json → Prop
  | .array items => DistinctItems items
  | .object members => (members.map Prod.fst).Nodup ∧ DistinctMembers members
  | _ => True

def DistinctItems : List Json → Prop
  | [] => True
  | x :: rest => Distinct x ∧ DistinctItems rest

def DistinctMembers : List (String × Json) → Prop
  | [] => True
  | (_, x) :: rest => Distinct x ∧ DistinctMembers rest
end

/-- What was being read when the text ended. -/
inductive Unfinished where
  | value
  | string
  | list
  | object
  deriving DecidableEq, Repr

def Unfinished.noun : Unfinished → String
  | .value => "a value"
  | .string => "a string"
  | .list => "a list"
  | .object => "an object"

/-- Why a text is not read. -/
inductive Fault where
  /-- The text ended too early; `line` and `column` are where it ends. -/
  | unfinished (what : Unfinished) (line column : Nat)
  /-- A character stands where the grammar has no place for it. -/
  | unexpected
  /-- A number out of range, a surrogate on its own, or containers nested too deep. -/
  | unreadable
  /-- The value is not of the form that was asked for. -/
  | mismatch
  deriving DecidableEq, Repr

def Fault.message : Fault → String
  | .unfinished what line column =>
    "EOF while parsing " ++ what.noun ++ " at line " ++ toString line ++ " column " ++
      toString column
  | .unexpected => "unexpected character"
  | .unreadable => "value cannot be read"
  | .mismatch => "value has another form"

end Json
end IndexFeed
