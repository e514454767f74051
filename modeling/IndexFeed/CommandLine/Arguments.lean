/-! The arguments of the command line. -/
namespace IndexFeed.CommandLine

/-- Where a command writes, as far as its arguments say. -/
structure TargetOptions where
  index : Option String := none
  type : Option String := none
  fields : List String := []
  deriving DecidableEq, Repr

/-- What the arguments ask for. -/
inductive Command where
  | compile (mutator : Option String)
  | partialUpdate (selector mutator : String) (multi : Bool) (target : TargetOptions)
  | insert (document : Option String) (target : TargetOptions)
  | update (document : Option String) (target : TargetOptions)
  | search (query : Option String) (target : TargetOptions)
  deriving DecidableEq, Repr

/-- A command, the directory of its settings, and a host in place of theirs. -/
structure Invocation where
  directory : String
  host : Option String
  command : Command
  deriving DecidableEq, Repr

/-- Why there is no invocation. -/
inductive Refusal where
  | help
  | usage
  deriving DecidableEq, Repr

/-- How an option is given. -/
inductive Arity where
  /-- Without a value, once. -/
  | flag
  /-- With a value, once. -/
  | single
  /-- With a value, any number of times. -/
  | many
  deriving DecidableEq, Repr

/-- What a command accepts: its options and whether a word may stand by itself. -/
structure Grammar where
  options : List (String × Arity)
  hasWord : Bool

/-- The options and words of a command as they were written. -/
structure Given where
  options : List (String × String)
  words : List String
  deriving DecidableEq, Repr

/-- Whether an argument is an option by its look; a single dash is not. -/
def looksLikeOption (argument : List Char) : Bool :=
  argument.head? = some '-' ∧ argument ≠ ['-']

/-- The name of a long option and the value written behind its equals sign. -/
def splitLong (argument : List Char) : String × Option String :=
  (String.ofList (argument.takeWhile (· ≠ '=')),
    if '=' ∈ argument then some (String.ofList ((argument.dropWhile (· ≠ '=')).drop 1)) else none)

def Given.note (given : Given) (arity : Arity) (name value : String) : Except Refusal Given :=
  if arity ≠ .many ∧ (given.options.map Prod.fst).contains name then .error .usage
  else .ok { given with options := given.options ++ [(name, value)] }

def Given.noteWord (grammar : Grammar) (given : Given) (word : String) : Except Refusal Given :=
  if grammar.hasWord ∧ given.words = [] then .ok { given with words := [word] }
  else .error .usage

/-- Notes words after two dashes, whatever they look like. -/
def readWords (grammar : Grammar) (given : Given) : List String → Except Refusal Given
  | [] => .ok given
  | word :: rest => do readWords grammar (← given.noteWord grammar word) rest

/-- Reads the arguments of a command from the left. -/
def readGiven (grammar : Grammar) (given : Given) : List String → Except Refusal Given
  | [] => .ok given
  | argument :: rest =>
    match argument.toList with
    | ['-', '-'] => readWords grammar given rest
    | '-' :: '-' :: long =>
      let (name, attached) := splitLong long
      match grammar.options.lookup name with
      | none => .error (if name = "help" ∧ attached = none then .help else .usage)
      | some .flag =>
        match attached with
        | some _ => .error .usage
        | none => do readGiven grammar (← given.note .flag name "") rest
      | some arity =>
        match attached with
        | some value => do readGiven grammar (← given.note arity name value) rest
        | none =>
          match rest with
          | [] => .error .usage
          | value :: rest =>
            if looksLikeOption value.toList then .error .usage
            else do readGiven grammar (← given.note arity name value) rest
    | '-' :: letter :: _ => .error (if letter = 'h' then .help else .usage)
    | _ => do readGiven grammar (← given.noteWord grammar argument) rest

def Given.option? (given : Given) (name : String) : Option String := given.options.lookup name

/-- Where a command writes; each value of `fields` is a list with commas. -/
def Given.target (given : Given) : TargetOptions where
  index := given.option? "index"
  type := given.option? "type"
  fields := (given.options.filter fun option => option.1 = "fields").flatMap fun option =>
    (option.2.toList.splitOn ',').map String.ofList

def targetOptions : List (String × Arity) :=
  [("index", .single), ("type", .single), ("fields", .many)]

def commandNames : List String := ["compile", "partial-update", "insert", "update", "search", "help"]

/-- What asking for help about something comes to: it is about the program or one of its commands. -/
def readHelp : List String → Refusal
  | [] => .help
  | [topic] => if topic ∈ commandNames then .help else .usage
  | _ => .usage

def readCommand (name : String) (arguments : List String) : Except Refusal Command := do
  let documented (command : Option String → TargetOptions → Command) : Except Refusal Command := do
    let given ← readGiven ⟨targetOptions, true⟩ ⟨[], []⟩ arguments
    return command given.words.head? given.target
  match name with
  | "compile" => return .compile (← readGiven ⟨[], true⟩ ⟨[], []⟩ arguments).words.head?
  | "partial-update" =>
    let options := [("selector", .single), ("mutator", .single), ("multi", .flag)] ++ targetOptions
    let given ← readGiven ⟨options, false⟩ ⟨[], []⟩ arguments
    match given.option? "selector", given.option? "mutator" with
    | some selector, some mutator =>
      return .partialUpdate selector mutator (given.option? "multi").isSome given.target
    | _, _ => throw .usage
  | "insert" => documented .insert
  | "update" => documented .update
  | "search" => documented .search
  | "help" => throw (readHelp arguments)
  | _ => throw .usage

def rootGrammar : Grammar := ⟨[("config-dir", .single), ("host", .single)], false⟩

/-- Splits the arguments before the first one that is neither an option nor the value that the option
before it is `awaiting`. Nothing is a command after two dashes. -/
def splitAtCommand (awaiting : Bool) : List String → List String × List String
  | [] => ([], [])
  | argument :: rest =>
    if argument = "--" then (argument :: rest, [])
    else if looksLikeOption argument.toList then
      let (before, after) :=
        splitAtCommand (argument = "--config-dir" || argument = "--host") rest
      (argument :: before, after)
    else if awaiting then
      let (before, after) := splitAtCommand false rest
      (argument :: before, after)
    else ([], argument :: rest)

/-- Reads the arguments. The directory of the settings may come from the environment; its name is not
empty, which is seen of a given one before the command is read. -/
def readInvocation (arguments : List String) (directoryVariable : Option String) :
    Except Refusal Invocation := do
  let (before, after) := splitAtCommand false arguments
  let given ← readGiven rootGrammar ⟨[], []⟩ before
  if given.option? "config-dir" = some "" then throw .usage
  match after with
  | [] => throw .usage
  | name :: rest =>
    let command ← readCommand name rest
    let directory := (given.option? "config-dir").getD (directoryVariable.getD ".")
    if directory = "" then throw .usage
    return { directory, host := given.option? "host", command }

end IndexFeed.CommandLine
