import IndexFeed.Event
import IndexFeed.Settings.Basic

/-! Where settings come from: a file, or else the environment. -/
namespace IndexFeed

/-- What is found under the name of a file. -/
inductive Stored where
  | missing
  | unreadable
  | text (content : String)
  deriving DecidableEq, Repr

/-- What is found in a file of these bytes: its text, if they are UTF-8. -/
def Stored.ofBytes (bytes : ByteArray) : Stored :=
  match String.fromUTF8? bytes with
  | some content => text content
  | none => unreadable

/-- The variables of the environment that are set to text. -/
abbrev Environment := String → Option String

/-- The environment where variables are set to these bytes; those that are not UTF-8 are left out. -/
def Environment.ofBytes (values : String → Option ByteArray) : Environment :=
  fun name => (values name).bind String.fromUTF8?

namespace Settings

def fileName : String := "docsync.json"

def hostVariable : String := "DOCSYNC_HOST"

def indexVariable : String := "DOCSYNC_INDEX"

def typeVariable : String := "DOCSYNC_TYPE"

def timeoutVariable : String := "DOCSYNC_TIMEOUT_SECS"

def variableNames : List String := [hostVariable, indexVariable, typeVariable, timeoutVariable]

/-- The value of a variable that is set to more than white space. -/
def textOf? (environment : Environment) (name : String) : Option String :=
  (environment name).filter fun value => Text.trim value ≠ ""

/-- A number of 64 bits: digits, and a plus before them if any. -/
def timeoutOf? (text : List Char) : Option Nat :=
  let digits := match text with
    | '+' :: digits => digits
    | digits => digits
  if digits ≠ [] ∧ digits.all Char.isDigit then
    let value := Nat.ofDigitChars 10 digits 0
    if value < Nat.pow 2 64 then some value else none
  else none

/-- The timeout of the environment; one that is not a number is ignored with a warning. -/
def timeoutFrom (environment : Environment) : Nat × List Event :=
  match textOf? environment timeoutVariable with
  | none => (defaultTimeout, [])
  | some raw =>
    match timeoutOf? (Text.trim raw).toList with
    | some timeout => (timeout, [])
    | none => (defaultTimeout, [.timeoutIgnored timeoutVariable raw defaultTimeout])

/-- The settings that the environment gives, and what the log is told. -/
def fromEnvironment (environment : Environment) : Settings × List Event :=
  let (timeout, events) := timeoutFrom environment
  ({ host := (textOf? environment hostVariable).getD defaultHost
     index := textOf? environment indexVariable
     type := textOf? environment typeVariable
     timeout }, events)

/-- The settings that the file at `path` gives, or else the environment, and what the log is told. -/
def load (path : String) (file : Stored) (environment : Environment) : Settings × List Event :=
  let otherwise (events : List Event) : Settings × List Event :=
    let (settings, more) := fromEnvironment environment
    (settings, events ++ more)
  match file with
  | .missing => otherwise []
  | .unreadable => otherwise [.settingsUnreadable fileName]
  | .text content =>
    match Json.readAs read? content with
    | .ok settings => (settings, [.settingsRead path settings.host])
    | .error fault => otherwise [.settingsMalformed fileName fault]

def filePath (directory : String) : String :=
  if directory = "" ∨ directory.toList.getLast? = some '/' then directory ++ fileName
  else directory ++ "/" ++ fileName

end Settings
end IndexFeed
