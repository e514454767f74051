import IndexFeed.Proofs.Update.Dispatch

/-! Partial updates against any index and any lookup: what they send, and when they send nothing. -/
namespace IndexFeed.Update

open Program (course_of_run)

variable {σ τ : Type} {settings : Settings} {options : WriteOptions} {selector : Json}
  {m : Mutator} {place : Place} {script : String} {found : Except Error (List String)}
  {sent sent' : List (Request × Except Error Json)}
  {asked asked' : List (Json × Except Error (List String))} {result result' : Except Error Report}

/-- The ids of an update come from its selector, or from the lookup when it is asked first. -/
theorem Resolved.source {finder : Responder lookupInterface τ} {t : τ} {ids : List String}
    (h : Resolved options selector asked (.ok ids))
    (hanswered : asked.map Prod.snd = finder.answers t (asked.map Prod.fst)) :
    Selector.ids? selector = some ids ∨
      Selector.ids? selector = none ∧ options.lookup = true ∧
        (finder.respond t selector).1 = .ok ids := by
  cases h with
  | named h => exact .inl h
  | found h henabled => exact .inr ⟨h, henabled, (List.cons.inj hanswered).1.symm⟩

/-- The ids of a selector, where the lookup would give a certain answer. -/
def idsGiven (options : WriteOptions) (selector : Json) (answer : Except Error (List String)) :
    Except Error (List String) :=
  match Selector.ids? selector with
  | some ids => .ok ids
  | none => if options.lookup then answer else .error (.settings .noLookup)

private theorem Resolved.found_eq {finder : Responder lookupInterface τ} {t : τ}
    (h : Resolved options selector asked found)
    (hanswered : asked.map Prod.snd = finder.answers t (asked.map Prod.fst)) :
    found = idsGiven options selector (finder.respond t selector).1 := by
  cases h with
  | named hs => simp [idsGiven, hs]
  | found hs henabled =>
    simp only [idsGiven, hs, henabled]
    exact (List.cons.inj hanswered).1
  | unnamed hs hdisabled => simp [idsGiven, hs, hdisabled]

/-- An update is ready for one place and one script only. -/
theorem Ready.unique {place' : Place} {script' : String} (h : Ready settings options m place script)
    (h' : Ready settings options m place' script') : place = place' ∧ script = script' :=
  ⟨Except.ok.inj (h.place_eq.symm.trans h'.place_eq),
    Except.ok.inj (h.script_eq.symm.trans h'.script_eq)⟩

/-- What is sent for the ids that were found does not depend on any answer of the index. -/
theorem Dispatched.requests_eq (h : Dispatched options place script found sent result) :
    sent.map Prod.fst = (limited options (found.toOption.getD [])).map (order place script) := by
  cases h with
  | failed e => simp [limited, Except.toOption]
  | noDocuments => simp [limited, Except.toOption]
  | @sent ids outcomes hid heach =>
    change _ = (limited options ids).map (order place script)
    rw [← heach, List.map_map, List.map_map]
    rfl

private theorem Applied.requests_eq {finder : Responder lookupInterface τ} {t : τ}
    (h : Applied settings options selector m sent asked result)
    (h' : Applied settings options selector m sent' asked' result')
    (hanswered : asked.map Prod.snd = finder.answers t (asked.map Prod.fst))
    (hanswered' : asked'.map Prod.snd = finder.answers t (asked'.map Prod.fst)) :
    sent.map Prod.fst = sent'.map Prod.fst := by
  cases h with
  | refused hunready e =>
    cases h' with
    | refused _ e' => rfl
    | idle _ reason => rfl
    | dispatched hready _ _ => exact absurd hready (hunready _ _)
  | idle hunready reason =>
    cases h' with
    | refused _ e => rfl
    | idle _ reason' => rfl
    | dispatched hready _ _ => exact absurd hready (hunready _ _)
  | dispatched hready hresolved hdispatched =>
    cases h' with
    | refused hunready e => exact absurd hready (hunready _ _)
    | idle hunready reason => exact absurd hready (hunready _ _)
    | dispatched hready' hresolved' hdispatched' =>
      obtain ⟨rfl, rfl⟩ := hready.unique hready'
      rw [hdispatched.requests_eq, hdispatched'.requests_eq, hresolved.found_eq hanswered,
        hresolved'.found_eq hanswered']

/-- An update that is skipped or fails as a whole has sent nothing. -/
theorem Applied.silent (h : Applied settings options selector m sent asked result)
    (hr : ∀ report, result = .ok report → report.skipped ≠ none) : sent = [] := by
  cases h with
  | refused hunready e => rfl
  | idle hunready reason => rfl
  | dispatched hready hresolved hdispatched =>
    cases hdispatched with
    | failed e => rfl
    | noDocuments => rfl
    | sent hid heach => exact absurd rfl (hr _ rfl)

/-- A report has outcomes and a script, or else a reason why it has neither. -/
theorem Applied.consistent {report : Report}
    (h : Applied settings options selector m sent asked (.ok report)) :
    (report.skipped ≠ none ↔ report.script = none) ∧
      (report.script = none ↔ report.outcomes = []) ∧ report.script ≠ some "" := by
  cases h with
  | idle hunready reason => simp [Report.ofSkip]
  | dispatched hready hresolved hdispatched =>
    cases hdispatched with
    | noDocuments => simp [Report.ofSkip]
    | @sent ids outcomes hid heach =>
      have hfilled : outcomes ≠ [] := by
        rintro rfl
        cases ids with
        | nil => exact hid rfl
        | cons first rest => cases hm : options.multi <;> simp [limited, hm] at heach
      simp [hfilled, hready.nonempty]

/-- The lookup is asked for the selector, and only by an update that cannot do without. -/
theorem Applied.asked_eq (h : Applied settings options selector m sent asked result) :
    asked = [] ∨ ∃ place script answer, asked = [(selector, answer)] ∧
      Ready settings options m place script ∧ Selector.ids? selector = none := by
  cases h with
  | refused hunready e => exact .inl rfl
  | idle hunready reason => exact .inl rfl
  | dispatched hready hresolved hdispatched =>
    cases hresolved with
    | named hs => exact .inl rfl
    | found hs henabled => exact .inr ⟨_, _, _, rfl, hready, hs⟩
    | unnamed hs hdisabled => exact .inl rfl

/-- An update that fails or is skipped sends nothing. Ids are looked up once at most, and only when
everything else is known. -/
theorem applyMutator_touches_nothing (responder : Responder interface σ) (state : σ)
    (settings : Settings) (selector : Json) (m : Mutator) (options : WriteOptions) :
    let run := (applyMutator settings selector m options).run responder state
    (∀ e, run.1 = .error e → requests run.2.1 = []) ∧
    (∀ report, run.1 = .ok report →
      (report.skipped ≠ none → requests run.2.1 = []) ∧
      (report.skipped ≠ none ↔ report.script = none) ∧
      (report.script = none ↔ report.outcomes = []) ∧ report.script ≠ some "") ∧
    (lookups run.2.1 = [] ∨ ∃ place script answer, lookups run.2.1 = [(selector, answer)] ∧
      Ready settings options m place script ∧ Selector.ids? selector = none) := by
  intro run
  have happlied := applyMutator_course (course_of_run (rfl : run = (run.1, run.2.1, run.2.2)))
  refine ⟨?_, ?_, happlied.asked_eq⟩
  · intro e hran
    rw [hran] at happlied
    have hsilent := happlied.silent fun _ h => nomatch h
    rw [requests, hsilent, List.map_nil]
  · intro report hran
    rw [hran] at happlied
    refine ⟨fun hs => ?_, happlied.consistent⟩
    have hsilent := happlied.silent fun _ h => Except.ok.inj h ▸ hs
    rw [requests, hsilent, List.map_nil]

end IndexFeed.Update
