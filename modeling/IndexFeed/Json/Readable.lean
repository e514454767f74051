import IndexFeed.Json.Reader

/-! What records are read from: a JSON value, or a value as it is written, whose unread parts then need
no meaning. -/
namespace IndexFeed.Json

/-- A value that a record can be read from. -/
class Readable (α : Type) where
  /-- The JSON value it stands for. -/
  value? : α → Option Json
  /-- Its members, where it is an object; a written object may repeat a key. -/
  members? : α → Option (List (String × α))
  /-- Its items, where it is an array. -/
  items? : α → Option (List α)

instance : Readable Json where
  value? := some
  members? := Json.members?
  items?
    | .array items => some items
    | _ => none

/-- A written value inside which `room` more levels of containers are allowed. -/
structure Node where
  room : Nat
  written : Written

instance : Readable Node where
  value? node := node.written.value? node.room
  members?
    | ⟨room + 1, .object members⟩ =>
      members.mapM fun (key, value) => (stringOf? key).map (·, ⟨room, value⟩)
    | _ => none
  items?
    | ⟨room + 1, .array items⟩ => some (items.map (⟨room, ·⟩))
    | _ => none

variable {α : Type} [Readable α]

def string? (x : α) : Option String :=
  match Readable.value? x with
  | some (.string s) => some s
  | _ => none

def optionalString? (x : α) : Option (Option String) :=
  match Readable.value? x with
  | some (.string s) => some (some s)
  | some .null => some none
  | _ => none

/-- A whole number of 64 bits without a sign. -/
def natural? (x : α) : Option Nat :=
  match Readable.value? x with
  | some (.number (.integer n)) => if 0 ≤ n then some n.toNat else none
  | _ => none

/-- The value of a key that is written once; `default` where it is not written, none where it is
written again. -/
def field? {β : Type} (members : List (String × α)) (key : String) (read : α → Option β)
    (default : Option β) : Option β :=
  match members.filter (fun member => member.1 == key) with
  | [] => default
  | [member] => read member.2
  | _ => none

/-- Reads a whole text by a reader of written values. -/
def readAs {β : Type} (read? : Node → Option β) (text : String) : Except Fault β := do
  let written ← Written.read text
  match read? ⟨greatestDepth, written⟩ with
  | some value => .ok value
  | none => .error .mismatch

end IndexFeed.Json
