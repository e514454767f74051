import IndexFeed.CommandLine.Arguments
import IndexFeed.Http.Node
import IndexFeed.Script.Envelope
import IndexFeed.Update.Basic

/-! What the command line does: it reads its JSON arguments first, then the settings, then acts. -/
namespace IndexFeed.CommandLine

/-- Why a command fails. -/
inductive Failure where
  /-- The argument called `what` is not JSON. -/
  | notJson (what : String) (fault : Json.Fault)
  | inputUnreadable (failure : String)
  | failed (error : Error)

def Failure.message : Failure → String
  | notJson what fault => "invalid " ++ what ++ " JSON: " ++ fault.message
  | inputUnreadable failure => failure
  | failed error => error.message

/-- What a command leaves behind: a value to print, and whether all went well. -/
structure Product where
  value : Json
  isOk : Bool

/-- How a run ends: its status, and what it prints and complains of. -/
structure Exit where
  status : Nat
  output : String
  diagnostics : String
  deriving DecidableEq, Repr

def TargetOptions.writeOptions (target : TargetOptions) (multi : Bool) : WriteOptions where
  index := target.index
  type := target.type
  fields := if target.fields = [] then none else some target.fields
  multi

def outcomeJson (outcome : Outcome) : Json :=
  match outcome.result with
  | .ok _ => .object [("id", .string outcome.id), ("ok", .bool true)]
  | .error e =>
    .object [("id", .string outcome.id), ("ok", .bool false), ("error", .string e.message)]

def reportJson (report : Report) : Json :=
  .object [
    ("skipped", Settings.optional (report.skipped.map SkipReason.name)),
    ("script", Settings.optional report.script),
    ("succeeded", .number (.integer report.succeeded)),
    ("failed", .number (.integer report.failed)),
    ("outcomes", .array (report.outcomes.map outcomeJson))]

def readText (what text : String) : Except Failure Json :=
  match Json.read text with
  | .ok value => .ok value
  | .error fault => .error (.notJson what fault)

/-- The JSON argument called `what`, which stands on the standard input if it is not given. -/
def readArgument (what : String) : Option String → Program Outside.interface (Except Failure Json)
  | some text => pure (readText what text)
  | none => do
    match ← Outside.input with
    | .ok text => return readText what text
    | .error failure => return .error (.inputUnreadable failure)

def logAll : List Event → Program Outside.interface Unit
  | [] => pure ()
  | event :: rest => do
    Outside.log event
    logAll rest

def connect (environment : Environment) (invocation : Invocation) :
    Program Outside.interface (Except Failure (Settings × Http.Node)) := do
  let path := Settings.filePath invocation.directory
  let (settings, events) := Settings.load path (← Outside.file path) environment
  logAll events
  let settings := { settings with host := invocation.host.getD settings.host }
  match Http.Node.ofSettings settings with
  | .ok node => return .ok (settings, node)
  | .error e => return .error (.failed e)

/-- Runs a program of the index on the node of an invocation. -/
def online {α : Type} (environment : Environment) (invocation : Invocation)
    (act : Settings → Program Update.interface (Except Error α)) :
    Program Outside.interface (Except Failure α) := do
  match ← connect environment invocation with
  | .error failure => return .error failure
  | .ok (settings, node) =>
    match ← node.perform (act settings) with
    | .ok result => return .ok result
    | .error e => return .error (.failed e)

/-- The answer of the index to a call with a JSON argument. -/
def call (environment : Environment) (invocation : Invocation) (what : String)
    (argument : Option String) (target : TargetOptions)
    (act : Settings → Json → WriteOptions → Program Update.interface (Except Error Json)) :
    Program Outside.interface (Except Failure Product) := do
  match ← readArgument what argument with
  | .error failure => return .error failure
  | .ok value =>
    let options := target.writeOptions false
    match ← online environment invocation fun settings => act settings value options with
    | .error failure => return .error failure
    | .ok answer => return .ok ⟨answer, true⟩

/-- The selector and the mutator of a partial update; of two faults the first one counts. -/
def readUpdate (selector mutator : String) : Except Failure (Json × Mutator) := do
  let selector ← readText "selector" selector
  let mutator ← readText "mutator" mutator
  match Mutator.ofJson mutator with
  | .ok m => return (selector, m)
  | .error e => throw (.failed e)

def execute (environment : Environment) (invocation : Invocation) :
    Program Outside.interface (Except Failure Product) :=
  match invocation.command with
  | .compile mutator => do
    match ← readArgument "mutator" mutator with
    | .error failure => return .error failure
    | .ok value =>
      match Mutator.ofJson value with
      | .error e => return .error (.failed e)
      | .ok m =>
        match m.statements with
        | .error e => return .error (.failed e)
        | .ok statements =>
          let script := Script.text statements
          Outside.log (.compiled script m.operations.length statements.length)
          return .ok ⟨(Script.Envelope.mk script).toJson, true⟩
  | .partialUpdate selector mutator multi target =>
    match readUpdate selector mutator with
    | .error failure => pure (.error failure)
    | .ok (selector, m) => do
      match ← online environment invocation fun settings =>
        Update.applyMutator settings selector m (target.writeOptions multi) with
      | .error failure => return .error failure
      | .ok report => return .ok ⟨reportJson report, report.failed == 0⟩
  | .insert document target => call environment invocation "document" document target Update.insert
  | .update document target => call environment invocation "document" document target Update.merge
  | .search query target => call environment invocation "query" query target Update.search

/-- What is printed of a command that came to an end. -/
def Exit.ofResult : Except Failure Product → Exit
  | .ok product => ⟨if product.isOk then 0 else 1, product.value.pretty ++ "\n", ""⟩
  | .error failure => ⟨1, "", "Error: " ++ failure.message ++ "\n"⟩

def usage : String :=
  "Usage: [--config-dir DIR] [--host HOST] COMMAND\n\n" ++
  "Commands:\n" ++
  "  compile [MUTATOR]\n" ++
  "  partial-update --selector SELECTOR --mutator MUTATOR [--multi] [TARGET]\n" ++
  "  insert [DOCUMENT] [TARGET]\n" ++
  "  update [DOCUMENT] [TARGET]\n" ++
  "  search [QUERY] [TARGET]\n\n" ++
  "Target: [--index INDEX] [--type TYPE] [--fields FIELD,...]\n" ++
  "An argument that is left out is read from the standard input.\n"

def Refusal.exit : Refusal → Exit
  | .help => ⟨0, CommandLine.usage, ""⟩
  | .usage => ⟨2, "", CommandLine.usage⟩

def directoryVariable : String := "DOCSYNC_CONFIG_DIR"

def run (arguments : List String) (environment : Environment) : Program Outside.interface Exit :=
  match readInvocation arguments (environment directoryVariable) with
  | .error refusal => pure refusal.exit
  | .ok invocation => do return .ofResult (← execute environment invocation)

end IndexFeed.CommandLine
