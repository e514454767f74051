import IndexFeed.CommandLine.Run
import IndexFeed.Proofs.Http.Exchange

/-! The command for scripts: it calls no one, and answers with the script of the mutator it is given. -/
namespace IndexFeed.CommandLine

open Program (Course course_pure_iff course_query_iff course_bind_iff)
open Outside (exchanges)

variable {environment : Environment} {invocation : Invocation} {dialogue : Dialogue Outside.interface}

/-- An argument is given or asked for from the standard input. -/
theorem readArgument_course {what : String} {argument : Option String} {given : Except Failure Json}
    (h : Course (readArgument what argument) dialogue given) : exchanges dialogue = [] := by
  cases argument with
  | some text =>
    obtain ⟨rfl, -⟩ := course_pure_iff.mp h
    rfl
  | none =>
    obtain ⟨typed, asked, last, ha, htail, rfl⟩ := course_bind_iff.mp h
    obtain rfl := course_query_iff.mp ha
    cases typed with
    | ok text =>
      obtain ⟨rfl, -⟩ := course_pure_iff.mp htail
      rfl
    | error failure =>
      obtain ⟨rfl, -⟩ := course_pure_iff.mp htail
      rfl

/-- The command tells the first thing that is wrong, with the text of its argument, with the form of
the mutator, or with what cannot be translated; it gives the script where nothing is. -/
theorem compile_course {argument : Option String} (hcommand : invocation.command = .compile argument)
    {result : Except Failure Product} (h : Course (execute environment invocation) dialogue result) :
    ∃ given asked told, Course (readArgument "mutator" argument) asked given ∧
      dialogue = asked ++ told ∧ exchanges dialogue = [] ∧
      result = given.bind fun value =>
        ((Mutator.scriptOfJson value).map fun script =>
          ⟨(Script.Envelope.mk script).toJson, true⟩).mapError Failure.failed := by
  rw [execute, hcommand] at h
  obtain ⟨given, asked, told, ha, hnext, rfl⟩ := course_bind_iff.mp h
  refine ⟨given, asked, told, ha, rfl, ?_⟩
  rw [Outside.exchanges_append, readArgument_course ha, List.nil_append]
  cases given with
  | error failure =>
    obtain ⟨rfl, rfl⟩ := course_pure_iff.mp hnext
    exact ⟨rfl, rfl⟩
  | ok value =>
    dsimp only [Except.bind]
    rw [Mutator.scriptOfJson]
    dsimp only at hnext
    cases hread : Mutator.ofJson value with
    | error e =>
      rw [hread] at hnext
      obtain ⟨rfl, rfl⟩ := course_pure_iff.mp hnext
      exact ⟨rfl, rfl⟩
    | ok m =>
      rw [hread] at hnext
      dsimp only at hnext
      rw [Except.bind, Mutator.script]
      cases hmade : m.statements with
      | error e =>
        rw [hmade] at hnext
        obtain ⟨rfl, rfl⟩ := course_pure_iff.mp hnext
        exact ⟨rfl, rfl⟩
      | ok ss =>
        rw [hmade] at hnext
        obtain ⟨_, logged, last, hl, htail, rfl⟩ := course_bind_iff.mp hnext
        obtain rfl := course_query_iff.mp hl
        obtain ⟨rfl, rfl⟩ := course_pure_iff.mp htail
        exact ⟨rfl, rfl⟩

end IndexFeed.CommandLine
