/-! Programs that ask questions of the outside, one after the other, and go on with the answers. -/
namespace IndexFeed

/-- Questions, and the type of the answer to each. -/
structure Interface where
  Query : Type
  Answer : Query → Type

/-- A finite dialogue: a result, or a question and what follows each answer to it. -/
inductive Program (P : Interface) (α : Type) where
  | done (result : α)
  | ask (query : P.Query) (next : P.Answer query → Program P α)

namespace Program

variable {P Q : Interface} {α β : Type}

def bind (program : Program P α) (next : α → Program P β) : Program P β :=
  match program with
  | done result => next result
  | ask query rest => ask query fun answer => (rest answer).bind next

instance : Monad (Program P) where
  pure := done
  bind := bind

def query (q : P.Query) : Program P (P.Answer q) := ask q done

/-- Answers every question by a program of another interface. -/
def expand (answer : (q : P.Query) → Program Q (P.Answer q)) : Program P α → Program Q α
  | done result => done result
  | ask query next => (answer query).bind fun a => expand answer (next a)

/-- Answers every question by an action. -/
def perform {m : Type → Type} [Monad m] (answer : (q : P.Query) → m (P.Answer q)) :
    Program P α → m α
  | done result => pure result
  | ask query next => do perform answer (next (← answer query))

end Program

/-- A state machine that answers every question. -/
structure Responder (P : Interface) (σ : Type) where
  respond : σ → (query : P.Query) → P.Answer query × σ

abbrev Dialogue (P : Interface) := List ((query : P.Query) × P.Answer query)

namespace Program

variable {P : Interface} {σ α β : Type}

/-- Runs a program against a responder: its result, the dialogue, and the last state. -/
def run (responder : Responder P σ) : σ → Program P α → α × Dialogue P × σ
  | state, done result => (result, [], state)
  | state, ask query next =>
    let (answer, state) := responder.respond state query
    let (result, dialogue, state) := run responder state (next answer)
    (result, ⟨query, answer⟩ :: dialogue, state)

end Program
end IndexFeed
