import IndexFeed.Error

/-! What the library tells its log. -/
namespace IndexFeed

/-- Why an update writes nothing. -/
inductive SkipReason where
  /-- The allow-list leaves no field of the mutator. -/
  | noMatchingFields
  /-- The mutator has no statements. -/
  | emptyUpdate
  /-- The selector matches no documents. -/
  | noDocuments
  deriving DecidableEq, Repr

def SkipReason.name : SkipReason → String
  | noMatchingFields => "NoMatchingFields"
  | emptyUpdate => "EmptyUpdate"
  | noDocuments => "NoDocuments"

/-- Where documents of one kind live. -/
structure Place where
  index : String
  type : String
  deriving DecidableEq, Repr

def Place.text (place : Place) : String := place.index ++ "/" ++ place.type

/-- How grave an event is. -/
inductive Level where
  | debug
  | info
  | warn
  | error
  deriving DecidableEq, Repr

def Level.name : Level → String
  | debug => "DEBUG"
  | info => "INFO"
  | warn => "WARN"
  | error => "ERROR"

/-- What the log is told. -/
inductive Event where
  | compiled (script : String) (operations statements : Nat)
  /-- The mutator has no operations, or none left. -/
  | skipped (place : Place) (reason : SkipReason)
  | emptyScript (place : Place)
  | noDocuments (place : Place)
  /-- More documents matched than may be updated. -/
  | onlyFirst (matched : Nat) (id : String)
  | writeFailed (place : Place) (id : String) (error : Error)
  | settingsRead (path host : String)
  | settingsUnreadable (path : String)
  | settingsMalformed (path : String) (fault : Json.Fault)
  /-- The timeout of the environment is not a number; the default is used. -/
  | timeoutIgnored (variableName raw : String) (used : Nat)
  deriving DecidableEq, Repr

namespace Event

def level : Event → Level
  | compiled .. => .debug
  | skipped .. | emptyScript .. | noDocuments .. | onlyFirst .. | settingsRead .. => .info
  | writeFailed .. | timeoutIgnored .. => .warn
  | settingsUnreadable .. | settingsMalformed .. => .error

def message : Event → String
  | compiled script _ _ => "compiled mutator: " ++ script
  | skipped place reason => "skipping update of " ++ place.text ++ ": " ++ reason.name
  | emptyScript place => "skipping update of " ++ place.text ++ ": empty script"
  | noDocuments place => "skipping update of " ++ place.text ++ ": no matching documents"
  | onlyFirst matched id =>
    toString matched ++ " documents matched without multi, updating only " ++ id
  | writeFailed place id error =>
    "update of " ++ place.text ++ "/" ++ id ++ " failed: " ++ error.message
  | settingsRead path host => "Loaded client config from " ++ path ++ ": host=" ++ host
  | settingsUnreadable path => "Failed to read " ++ path ++ ", using defaults"
  | settingsMalformed path fault =>
    "Failed to parse " ++ path ++ ": " ++ fault.message ++ ", using defaults"
  | timeoutIgnored variableName raw used =>
    "Ignoring invalid " ++ variableName ++ "=" ++ Text.quoted raw ++ ", using " ++ toString used

end Event
end IndexFeed
