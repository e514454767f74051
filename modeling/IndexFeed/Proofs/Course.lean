import IndexFeed.Program

/-! The courses a program can take, whoever answers its questions. -/
namespace IndexFeed

/-- The answers to questions of one kind that are asked one after the other. -/
def Responder.answers {Q A σ : Type} (responder : Responder ⟨Q, fun _ => A⟩ σ) : σ → List Q → List A
  | _, [] => []
  | state, query :: rest =>
    let (answer, state) := responder.respond state query
    answer :: responder.answers state rest

namespace Program

variable {P : Interface} {σ α β : Type}

/-- The dialogues in which a program can end with a result. -/
def Course : Program P α → Dialogue P → α → Prop
  | done result, dialogue, value => dialogue = [] ∧ value = result
  | ask query next, dialogue, value =>
    ∃ answer rest, dialogue = ⟨query, answer⟩ :: rest ∧ Course (next answer) rest value

/-- The run of a program against a responder is one of its courses. -/
theorem course_of_run {responder : Responder P σ} {state last : σ} {program : Program P α}
    {value : α} {dialogue : Dialogue P}
    (h : run responder state program = (value, dialogue, last)) :
    Course program dialogue value := by
  induction program generalizing state dialogue with
  | done result =>
    obtain ⟨rfl, rfl, -⟩ := h
    exact ⟨rfl, rfl⟩
  | ask query next ih =>
    obtain ⟨rfl, rfl, -⟩ := h
    exact ⟨_, _, rfl, ih _ rfl⟩

/-- The first question of a run is answered from the state in which the run starts. -/
theorem answer_of_run {responder : Responder P σ} {state last : σ} {program : Program P α}
    {value : α} {query : P.Query} {answer : P.Answer query} {rest : Dialogue P}
    (h : run responder state program = (value, ⟨query, answer⟩ :: rest, last)) :
    answer = (responder.respond state query).1 := by
  cases program with
  | done result =>
    obtain ⟨-, hasked⟩ := Prod.mk.inj h
    exact nomatch (Prod.mk.inj hasked).1
  | ask query' next =>
    obtain ⟨-, hasked⟩ := Prod.mk.inj h
    obtain ⟨hfirst, -⟩ := List.cons.inj (Prod.mk.inj hasked).1
    cases hfirst
    rfl

/-- A program that is done asks nothing. -/
theorem course_pure_iff {a value : α} {dialogue : Dialogue P} :
    Course (pure a : Program P α) dialogue value ↔ dialogue = [] ∧ value = a := Iff.rfl

/-- A question is asked once, and its answer is the result. -/
theorem course_query_iff {q : P.Query} {dialogue : Dialogue P} {answer : P.Answer q} :
    Course (query q) dialogue answer ↔ dialogue = [⟨q, answer⟩] := by
  constructor
  · rintro ⟨_, _, rfl, rfl, rfl⟩
    rfl
  · rintro rfl
    exact ⟨_, _, rfl, rfl, rfl⟩

/-- A course of a program that goes on is a course of it and a course of what follows. -/
theorem course_bind_iff {program : Program P α} {next : α → Program P β}
    {dialogue : Dialogue P} {value : β} :
    Course (program >>= next) dialogue value ↔
      ∃ a first second, Course program first a ∧ Course (next a) second value ∧
        dialogue = first ++ second := by
  change Course (program.bind next) dialogue value ↔ _
  induction program generalizing dialogue with
  | done result =>
    constructor
    · exact fun h => ⟨result, [], dialogue, ⟨rfl, rfl⟩, h, rfl⟩
    · rintro ⟨_, _, _, ⟨rfl, rfl⟩, h, rfl⟩
      exact h
  | ask query rest ih =>
    constructor
    · rintro ⟨answer, _, rfl, h⟩
      obtain ⟨a, first, second, hf, hs, rfl⟩ := (ih answer).mp h
      exact ⟨a, _, second, ⟨answer, first, rfl, hf⟩, hs, rfl⟩
    · rintro ⟨a, _, second, ⟨answer, first, rfl, hf⟩, hs, rfl⟩
      exact ⟨answer, _, rfl, (ih answer).mpr ⟨a, first, second, hf, hs, rfl⟩⟩

variable {Q : Interface}

/-- A dialogue in which each question of another one is answered by a course of its own program. -/
inductive Expands (answer : (q : P.Query) → Program Q (P.Answer q)) :
    Dialogue P → Dialogue Q → Prop where
  | nil : Expands answer [] []
  | cons {query : P.Query} {a : P.Answer query} {rest : Dialogue P} {piece more : Dialogue Q}
    (hanswered : Course (answer query) piece a) (hlater : Expands answer rest more) :
    Expands answer (⟨query, a⟩ :: rest) (piece ++ more)

/-- A course of a program whose questions are answered by programs is one of its own courses, in which
each question is followed by a course of the program that answers it. -/
theorem course_expand {answer : (q : P.Query) → Program Q (P.Answer q)} {program : Program P α}
    {dialogue : Dialogue Q} {value : α} (h : Course (program.expand answer) dialogue value) :
    ∃ inner, Course program inner value ∧ Expands answer inner dialogue := by
  induction program generalizing dialogue with
  | done result =>
    obtain ⟨rfl, rfl⟩ := h
    exact ⟨[], ⟨rfl, rfl⟩, .nil⟩
  | ask query next ih =>
    obtain ⟨a, piece, more, hanswered, honward, rfl⟩ := course_bind_iff.mp h
    obtain ⟨inner, hcourse, hlater⟩ := ih a honward
    exact ⟨⟨query, a⟩ :: inner, ⟨a, inner, rfl, hcourse⟩, .cons hanswered hlater⟩

end Program
end IndexFeed
