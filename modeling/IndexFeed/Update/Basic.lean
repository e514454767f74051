import IndexFeed.Mutator.Compile
import IndexFeed.Settings.Basic
import IndexFeed.Update.Input
import IndexFeed.Update.Interface

/-! Updates of the index: a mutator applied to the documents of a selector, and whole documents. -/
namespace IndexFeed.Update

/-- Where a call writes: its options come before the settings, and the index is asked for first. -/
def place (settings : Settings) (options : WriteOptions) : Except Error Place :=
  match options.index.or settings.index with
  | none => .error (.settings .indexNotSet)
  | some index =>
    match options.type.or settings.type with
    | none => .error (.settings .typeNotSet)
    | some type => .ok { index, type }

/-- The mutator without the fields that the index does not have. -/
def restricted (options : WriteOptions) (m : Mutator) : Mutator :=
  match options.fields with
  | some allowed => m.restrict allowed
  | none => m

/-- Why a mutator without operations is skipped. -/
def emptyReason (options : WriteOptions) : SkipReason :=
  if options.fields.isSome then .noMatchingFields else .emptyUpdate

/-- The ids that a selector names, or those that the lookup finds for it. -/
def idsOf (options : WriteOptions) (selector : Json) : Program interface (Except Error (List String)) :=
  match Selector.ids? selector with
  | some ids => pure (.ok ids)
  | none => if options.lookup then lookup selector else pure (.error (.settings .noLookup))

/-- Runs a script on each document in turn; a failed write does not stop those after it. -/
def runOn (place : Place) (script : String) : List String → Program interface (List Outcome)
  | [] => pure []
  | id :: rest => do
    let target : Target := ⟨place.index, place.type, id⟩
    let result ← send (.update ⟨target, .script script⟩)
    match result with
    | .error e => log (.writeFailed place id e)
    | .ok _ => pure ()
    let outcomes ← runOn place script rest
    return ⟨id, result⟩ :: outcomes

/-- The documents to update: the first one only, unless more are allowed. -/
def chosen (options : WriteOptions) (first : String) (rest : List String) : List String :=
  if options.multi then first :: rest else [first]

/-- Sends a script to the documents of a selector. -/
def dispatch (options : WriteOptions) (place : Place) (script : String) (selector : Json) :
    Program interface (Except Error Report) := do
  match ← idsOf options selector with
  | .error e => return .error e
  | .ok [] =>
    log (.noDocuments place)
    return .ok (.ofSkip .noDocuments)
  | .ok (first :: rest) =>
    if options.multi = false ∧ rest ≠ [] then log (.onlyFirst (rest.length + 1) first)
    let outcomes ← runOn place script (chosen options first rest)
    return .ok ⟨none, some script, outcomes⟩

/-- Applies a mutator to the documents of a selector. The script is complete before any id is asked
for, so that an update with nothing to do reaches neither the lookup nor the index. -/
def applyMutator (settings : Settings) (selector : Json) (m : Mutator) (options : WriteOptions) :
    Program interface (Except Error Report) :=
  match place settings options with
  | .error e => pure (.error e)
  | .ok place =>
    let m := restricted options m
    if m.isEmpty then do
      log (.skipped place (emptyReason options))
      return .ok (.ofSkip (emptyReason options))
    else
      match m.statements with
      | .error e => pure (.error e)
      | .ok statements => do
        let script := Script.text statements
        log (.compiled script m.operations.length statements.length)
        if script = "" then
          log (.emptyScript place)
          return .ok (.ofSkip .emptyUpdate)
        else dispatch options place script selector

/-- The target of a whole document and the members that are written there. -/
def prepare (settings : Settings) (options : WriteOptions) (document : Json) :
    Except Error (Target × Document) := do
  let place ← place settings options
  let members ← Document.ofJson document
  let id ← Document.id members
  let members := match options.fields with
    | some allowed => members.restrict allowed
    | none => members
  return (⟨place.index, place.type, id⟩, members)

def insert (settings : Settings) (document : Json) (options : WriteOptions) :
    Program interface (Except Error Json) :=
  match prepare settings options document with
  | .error e => pure (.error e)
  | .ok (target, members) => send (.index ⟨target, .object members⟩)

def merge (settings : Settings) (document : Json) (options : WriteOptions) :
    Program interface (Except Error Json) :=
  match prepare settings options document with
  | .error e => pure (.error e)
  | .ok (target, members) => send (.update ⟨target, .doc (.object members)⟩)

def search (settings : Settings) (query : Json) (options : WriteOptions) :
    Program interface (Except Error Json) :=
  match place settings options with
  | .error e => pure (.error e)
  | .ok place => send (.search ⟨place.index, place.type, .object [("query", query)]⟩)

end IndexFeed.Update
