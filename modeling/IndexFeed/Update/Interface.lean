import IndexFeed.Event
import IndexFeed.Program
import IndexFeed.Request.Basic

/-! What updates ask of the outside, answers of the index, ids of a lookup and a place for the log, and the
reports of what became of them. -/
namespace IndexFeed

namespace Update

/-- What updates ask of others. -/
inductive Query where
  | send (request : Request)
  | lookup (selector : Json)
  | log (event : Event)

def Answer : Query → Type
  | .send _ => Except Error Json
  | .lookup _ => Except Error (List String)
  | .log _ => Unit

def interface : Interface := ⟨Query, Answer⟩

def send (request : Request) : Program interface (Except Error Json) :=
  Program.query (P := interface) (.send request)

def lookup (selector : Json) : Program interface (Except Error (List String)) :=
  Program.query (P := interface) (.lookup selector)

def log (event : Event) : Program interface Unit := Program.query (P := interface) (.log event)

end Update

/-- What came of writing one document. -/
structure Outcome where
  id : String
  result : Except Error Json

namespace Outcome

def isOk (outcome : Outcome) : Bool :=
  match outcome.result with
  | .ok _ => true
  | .error _ => false

/-- The failure of one write, as an error of the whole update. -/
def failure? (outcome : Outcome) : Option Error :=
  match outcome.result with
  | .ok _ => none
  | .error e => some (.writeFailure outcome.id e.message)

end Outcome

/-- What came of an update. -/
structure Report where
  /-- Why nothing was sent, if nothing was. -/
  skipped : Option SkipReason
  script : Option String
  /-- One outcome for each document written, in the order of the ids. -/
  outcomes : List Outcome

namespace Report

/-- The report of an update that sends nothing. -/
def ofSkip (reason : SkipReason) : Report := ⟨some reason, none, []⟩

def isNoop (report : Report) : Bool := report.outcomes.isEmpty

def succeeded (report : Report) : Nat := (report.outcomes.filter Outcome.isOk).length

def failed (report : Report) : Nat := report.outcomes.length - report.succeeded

def toResult (report : Report) : Except Error Report :=
  match report.outcomes.findSome? Outcome.failure? with
  | some failure => .error failure
  | none => .ok report

end Report
end IndexFeed
