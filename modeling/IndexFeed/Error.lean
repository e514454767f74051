import IndexFeed.Http.Message
import IndexFeed.Json.Basic

/-! Everything that can go wrong, by cause, and the wording of each cause. -/
namespace IndexFeed

/-- Why a value is no mutator, or a path no path. -/
inductive MutatorFault where
  | emptyPath
  | emptySegment (path : String)
  | notAnObject
  | fieldsNotAnObject (operator : String)
  | eachNotAlone
  | eachNotAList
  /-- A cause that only its wording tells. -/
  | other (wording : String)
  deriving DecidableEq, Repr

def MutatorFault.message : MutatorFault → String
  | emptyPath => "field path cannot be empty"
  | emptySegment path => "field path '" ++ path ++ "' has an empty segment"
  | notAnObject => "expected a JSON object of operators"
  | fieldsNotAnObject operator => operator ++ " expects an object of field paths"
  | eachNotAlone => "$each cannot be combined with other modifiers"
  | eachNotAList => "$each expects an array"
  | other wording => wording

/-- Why an operator does not take its operand. -/
inductive OperandFault where
  | eachNotSupported
  | nestedContainer
  | notANumber
  | notScalarOrEach
  | notScalarOrList
  | notAnElement
  /-- A cause that only its wording tells. -/
  | other (wording : String)
  deriving DecidableEq, Repr

def OperandFault.message : OperandFault → String
  | eachNotSupported => "$each is not supported here"
  | nestedContainer => "nested objects and arrays have no literal"
  | notANumber => "expected a number"
  | notScalarOrEach => "expected a scalar or an $each list of scalars"
  | notScalarOrList => "expected a list of scalars"
  | notAnElement => "elements must be strings, numbers or booleans"
  | other wording => wording

/-- What the settings lack, or why no node is reached with them. -/
inductive SettingsFault where
  | indexNotSet
  | typeNotSet
  | noLookup
  | emptyHost
  | invalidHost (host reason : String)
  | notABase (url : String)
  /-- A cause that only its wording tells. -/
  | other (wording : String)
  deriving DecidableEq, Repr

def SettingsFault.message : SettingsFault → String
  | indexNotSet => "index is not set"
  | typeNotSet => "type is not set"
  | noLookup => "selector does not name document ids and no id lookup is configured"
  | emptyHost => "host cannot be empty"
  | invalidHost host reason => "invalid host '" ++ host ++ "': " ++ reason
  | notABase url => "host '" ++ url ++ "' cannot be a base URL"
  | other wording => wording

/-- Why a value is no document. -/
inductive DocumentFault where
  | notAnObject
  /-- A cause that only its wording tells. -/
  | other (wording : String)
  deriving DecidableEq, Repr

def DocumentFault.message : DocumentFault → String
  | notAnObject => "document must be an object"
  | other wording => wording

/-- Why there is no JSON value. -/
inductive JsonFault where
  | reading (fault : Json.Fault)
  /-- The body of a successful reply is not JSON. -/
  | replyBody
  /-- A cause that only its wording tells. -/
  | other (wording : String)
  deriving DecidableEq, Repr

def JsonFault.message : JsonFault → String
  | reading fault => fault.message
  | replyBody => "failed to parse response JSON: error decoding response body"
  | other wording => wording

/-- Why something that was asked for is not done. -/
inductive Error where
  | settings (fault : SettingsFault)
  | unsupportedOperator (name : String)
  /-- A path with a positional segment. -/
  | unsupportedPath (path : String)
  | invalidMutator (fault : MutatorFault)
  | invalidOperand (operator field : String) (fault : OperandFault)
  | missingField (name : String)
  | invalidDocument (fault : DocumentFault)
  /-- The write of one document failed, with the wording of the failure. -/
  | writeFailure (id failure : String)
  /-- The index answered with a status other than success. -/
  | http (status : Http.Status) (body : String)
  /-- The index was not reached, or its answer did not arrive. -/
  | transport (failure : String)
  | json (fault : JsonFault)
  deriving DecidableEq, Repr

namespace Error

def message : Error → String
  | settings fault => "Configuration error: " ++ fault.message
  | unsupportedOperator name => "Unsupported operation '" ++ name ++ "' encountered"
  | unsupportedPath path =>
    "Unsupported path '" ++ path ++ "': positional '$' segments cannot be translated"
  | invalidMutator fault => "Invalid mutator: " ++ fault.message
  | invalidOperand operator field fault =>
    "Invalid operand for " ++ operator ++ " on field '" ++ field ++ "': " ++ fault.message
  | missingField name => "Missing required field: " ++ name
  | invalidDocument fault => "Invalid document: " ++ fault.message
  | writeFailure id failure => "Update of document '" ++ id ++ "' failed: " ++ failure
  | http status body => "Index returned " ++ status.text ++ ": " ++ body
  | transport failure => "Transport error: " ++ failure
  | json fault => "JSON error: " ++ fault.message

/-- Whether the same call may succeed later: faults of the way to the index and of the index itself. -/
def isRetryable : Error → Bool
  | transport _ => true
  | http status _ => status == Http.Status.tooManyRequests || status.isServerError
  | _ => false

end Error
end IndexFeed
