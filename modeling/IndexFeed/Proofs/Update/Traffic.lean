import IndexFeed.Proofs.Course
import IndexFeed.Update.Interface

/-! What a dialogue says to the index and to the lookup, apart from what it tells the log. -/
namespace IndexFeed.Update

open Program (Course)

/-- The index alone: it answers every request, or fails. -/
def indexInterface : Interface := ⟨Request, fun _ => Except Error Json⟩

/-- The lookup alone: it finds the ids of a selector, or fails. -/
def lookupInterface : Interface := ⟨Json, fun _ => Except Error (List String)⟩

variable {σ τ α : Type}

/-- An index and a lookup that know nothing of each other. The log is heard by neither. -/
def together (index : Responder indexInterface σ) (finder : Responder lookupInterface τ) :
    Responder interface (σ × τ) where
  respond
    | (s, t), .send request =>
      let (answer, s) := index.respond s request
      (answer, s, t)
    | (s, t), .lookup selector =>
      let (answer, t) := finder.respond t selector
      (answer, s, t)
    | state, .log _ => ((), state)

def call? : (query : Query) → Answer query → Option (Request × Except Error Json)
  | .send request, answer => some (request, answer)
  | .lookup _, _ | .log _, _ => none

def found? : (query : Query) → Answer query → Option (Json × Except Error (List String))
  | .lookup selector, answer => some (selector, answer)
  | .send _, _ | .log _, _ => none

/-- The requests that were sent, with the answers of the index. -/
def calls (dialogue : Dialogue interface) : List (Request × Except Error Json) :=
  dialogue.filterMap fun ⟨query, answer⟩ => call? query answer

/-- The selectors that were looked up, with what was found. -/
def lookups (dialogue : Dialogue interface) : List (Json × Except Error (List String)) :=
  dialogue.filterMap fun ⟨query, answer⟩ => found? query answer

/-- The requests that were sent. -/
def requests (dialogue : Dialogue interface) : List Request := (calls dialogue).map Prod.fst

@[simp] private theorem calls_nil : calls [] = [] := rfl

@[simp] private theorem lookups_nil : lookups [] = [] := rfl

@[simp] theorem calls_append (first second : Dialogue interface) :
    calls (first ++ second) = calls first ++ calls second := List.filterMap_append

@[simp] theorem lookups_append (first second : Dialogue interface) :
    lookups (first ++ second) = lookups first ++ lookups second := List.filterMap_append

/-- Sending a request is one call and no lookup. -/
theorem course_send {request : Request} {dialogue : Dialogue interface} {answer : Except Error Json}
    (h : Course (send request) dialogue answer) :
    calls dialogue = [(request, answer)] ∧ lookups dialogue = [] := by
  obtain rfl := Program.course_query_iff.mp h
  exact ⟨rfl, rfl⟩

/-- A lookup is no call. -/
theorem course_lookup {selector : Json} {dialogue : Dialogue interface}
    {answer : Except Error (List String)} (h : Course (lookup selector) dialogue answer) :
    calls dialogue = [] ∧ lookups dialogue = [(selector, answer)] := by
  obtain rfl := Program.course_query_iff.mp h
  exact ⟨rfl, rfl⟩

/-- What a program tells the log is neither sent nor looked up. -/
theorem course_log {event : Event} {next : Unit → Program interface α}
    {dialogue : Dialogue interface} {value : α} (h : Course (log event >>= next) dialogue value) :
    ∃ rest, Course (next ()) rest value ∧ calls dialogue = calls rest ∧
      lookups dialogue = lookups rest := by
  obtain ⟨_, first, rest, hf, hn, rfl⟩ := Program.course_bind_iff.mp h
  obtain rfl := Program.course_query_iff.mp hf
  exact ⟨rest, hn, rfl, rfl⟩

/-- The lookup answers the selectors of a run in turn, from the state it was in. -/
theorem lookups_answers (index : Responder indexInterface σ) (finder : Responder lookupInterface τ)
    (s : σ) (t : τ) (program : Program interface α) :
    let dialogue := (program.run (together index finder) (s, t)).2.1
    (lookups dialogue).map Prod.snd = finder.answers t ((lookups dialogue).map Prod.fst) := by
  induction program generalizing s t with
  | done result => rfl
  | ask query next ih =>
    cases query with
    | send request => exact ih (index.respond s request).1 (index.respond s request).2 t
    | lookup selector =>
      exact congrArg (_ :: ·) (ih (finder.respond t selector).1 s (finder.respond t selector).2)
    | log event => exact ih () s t

end IndexFeed.Update
