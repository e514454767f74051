import IndexFeed.Proofs.Traverse
import IndexFeed.Proofs.Update.Traffic
import IndexFeed.Update.Basic

/-! The courses of a partial update: what it looks up, what it sends, and what it reports. -/
namespace IndexFeed.Update

open Program (Course course_pure_iff course_bind_iff)

/-- The update that runs a script on one document. -/
def order (place : Place) (script id : String) : Request :=
  .update ⟨⟨place.index, place.type, id⟩, .script script⟩

/-- The ids to write to, out of those that were found. -/
def limited (options : WriteOptions) (ids : List String) : List String :=
  if options.multi then ids else ids.take 1

private theorem chosen_eq (options : WriteOptions) (first : String) (rest : List String) :
    chosen options first rest = limited options (first :: rest) := by
  cases h : options.multi <;> simp [chosen, limited, h]

/-- Everything an update needs before it asks for ids. -/
structure Ready (settings : Settings) (options : WriteOptions) (m : Mutator) (place : Place)
    (script : String) : Prop where
  place_eq : Update.place settings options = .ok place
  operations : (restricted options m).isEmpty = false
  script_eq : (restricted options m).script = .ok script
  nonempty : script ≠ ""

/-- The ids of a selector, with what was looked up for them. -/
inductive Resolved (options : WriteOptions) (selector : Json) :
    List (Json × Except Error (List String)) → Except Error (List String) → Prop where
  | named {ids : List String} (h : Selector.ids? selector = some ids) :
    Resolved options selector [] (.ok ids)
  | found {answer : Except Error (List String)} (h : Selector.ids? selector = none)
    (henabled : options.lookup = true) : Resolved options selector [(selector, answer)] answer
  | unnamed (h : Selector.ids? selector = none) (hdisabled : options.lookup = false) :
    Resolved options selector [] (.error (.settings .noLookup))

variable {settings : Settings} {options : WriteOptions} {selector : Json} {m : Mutator}
  {place : Place} {script : String} {dialogue : Dialogue interface}

private theorem idsOf_course {found : Except Error (List String)}
    (h : Course (idsOf options selector) dialogue found) :
    calls dialogue = [] ∧ Resolved options selector (lookups dialogue) found := by
  unfold idsOf at h
  split at h
  · next ids hs =>
    obtain ⟨rfl, rfl⟩ := course_pure_iff.mp h
    exact ⟨rfl, .named hs⟩
  · next hs =>
    split at h
    · next henabled =>
      obtain ⟨hc, hl⟩ := course_lookup h
      rw [hl]
      exact ⟨hc, .found hs henabled⟩
    · next hdisabled =>
      obtain ⟨rfl, rfl⟩ := course_pure_iff.mp h
      exact ⟨rfl, .unnamed hs (by simpa using hdisabled)⟩

/-- One write: its document is written once, and those after it whatever the answer is. -/
theorem runOn_cons {id : String} {rest : List String} {outcomes : List Outcome}
    (h : Course (runOn place script (id :: rest)) dialogue outcomes) :
    ∃ result later onward, Course (runOn place script rest) onward later ∧
      outcomes = ⟨id, result⟩ :: later ∧ lookups dialogue = lookups onward ∧
      calls dialogue = (order place script id, result) :: calls onward := by
  unfold runOn at h
  obtain ⟨result, sent, _, hs, hnext, rfl⟩ := course_bind_iff.mp h
  obtain ⟨hsc, hsl⟩ := course_send hs
  cases result with
  | error e =>
    obtain ⟨tail, ht, hlc, hll⟩ := course_log hnext
    obtain ⟨later, onward, _, ho, hlast, rfl⟩ := course_bind_iff.mp ht
    obtain ⟨rfl, rfl⟩ := course_pure_iff.mp hlast
    exact ⟨.error e, later, onward, ho, rfl, by simp [hsl, hll], by simp [hsc, hlc, order]⟩
  | ok answer =>
    obtain ⟨later, onward, _, ho, hlast, rfl⟩ := course_bind_iff.mp hnext
    obtain ⟨rfl, rfl⟩ := course_pure_iff.mp hlast
    exact ⟨.ok answer, later, onward, ho, rfl, by simp [hsl], by simp [hsc, order]⟩

/-- All writes: one for each id in turn, with the answer it got. -/
theorem runOn_course {ids : List String} {outcomes : List Outcome}
    (h : Course (runOn place script ids) dialogue outcomes) :
    outcomes.map Outcome.id = ids ∧ lookups dialogue = [] ∧
      calls dialogue = outcomes.map fun outcome => (order place script outcome.id, outcome.result) := by
  induction ids generalizing dialogue outcomes with
  | nil =>
    obtain ⟨rfl, rfl⟩ := course_pure_iff.mp h
    exact ⟨rfl, rfl, rfl⟩
  | cons id rest ih =>
    obtain ⟨result, later, onward, ho, rfl, hl, hc⟩ := runOn_cons h
    obtain ⟨hid, hol, hoc⟩ := ih ho
    exact ⟨by simp [hid], hl.trans hol, by simp [hc, hoc]⟩

/-- What becomes of an update once its ids are known. -/
inductive Dispatched (options : WriteOptions) (place : Place) (script : String) :
    Except Error (List String) → List (Request × Except Error Json) → Except Error Report → Prop where
  | failed (e : Error) : Dispatched options place script (.error e) [] (.error e)
  | noDocuments : Dispatched options place script (.ok []) [] (.ok (.ofSkip .noDocuments))
  | sent {ids : List String} {outcomes : List Outcome} (hid : ids ≠ [])
    (heach : outcomes.map Outcome.id = limited options ids) :
    Dispatched options place script (.ok ids)
      (outcomes.map fun outcome => (order place script outcome.id, outcome.result))
      (.ok ⟨none, some script, outcomes⟩)

private theorem sending_course {first : String} {rest : List String} {result : Except Error Report}
    (h : Course (runOn place script (chosen options first rest) >>= fun outcomes =>
      pure (.ok ⟨none, some script, outcomes⟩)) dialogue result) :
    lookups dialogue = [] ∧
      Dispatched options place script (.ok (first :: rest)) (calls dialogue) result := by
  obtain ⟨outcomes, written, _, hw, hlast, rfl⟩ := course_bind_iff.mp h
  obtain ⟨rfl, rfl⟩ := course_pure_iff.mp hlast
  obtain ⟨hid, hl, hc⟩ := runOn_course hw
  rw [List.append_nil, hl, hc]
  exact ⟨rfl, .sent (List.cons_ne_nil _ _) (hid.trans (chosen_eq _ _ _))⟩

private theorem dispatch_course {result : Except Error Report}
    (h : Course (dispatch options place script selector) dialogue result) :
    ∃ found, Resolved options selector (lookups dialogue) found ∧
      Dispatched options place script found (calls dialogue) result := by
  unfold dispatch at h
  obtain ⟨found, asked, _, ha, hnext, rfl⟩ := course_bind_iff.mp h
  obtain ⟨hac, hr⟩ := idsOf_course ha
  refine ⟨found, ?_⟩
  match found with
  | .error e =>
    obtain ⟨rfl, rfl⟩ := course_pure_iff.mp hnext
    simpa [hac] using ⟨hr, Dispatched.failed e⟩
  | .ok [] =>
    obtain ⟨_, hlast, hlc, hll⟩ := course_log hnext
    obtain ⟨rfl, rfl⟩ := course_pure_iff.mp hlast
    simpa [hac, hlc, hll] using ⟨hr, Dispatched.noDocuments⟩
  | .ok (first :: rest) =>
    dsimp only at hnext
    split at hnext
    · obtain ⟨_, hlast, hlc, hll⟩ := course_log hnext
      obtain ⟨hsl, hs⟩ := sending_course hlast
      simpa [hac, hlc, hll, hsl] using ⟨hr, hs⟩
    · obtain ⟨hsl, hs⟩ := sending_course hnext
      simpa [hac, hsl] using ⟨hr, hs⟩

private theorem script_of_ok {statements : List Script.Statement} (h : m.statements = .ok statements) :
    m.script = .ok (Script.text statements) := by
  rw [Mutator.script, h]
  rfl

private theorem script_of_error {e : Error} (h : m.statements = .error e) : m.script = .error e := by
  rw [Mutator.script, h]
  rfl

/-- What a partial update sends, looks up and gives. -/
inductive Applied (settings : Settings) (options : WriteOptions) (selector : Json) (m : Mutator) :
    List (Request × Except Error Json) → List (Json × Except Error (List String)) →
      Except Error Report → Prop where
  | refused (hunready : ∀ place script, ¬ Ready settings options m place script) (e : Error) :
    Applied settings options selector m [] [] (.error e)
  | idle (hunready : ∀ place script, ¬ Ready settings options m place script) (reason : SkipReason) :
    Applied settings options selector m [] [] (.ok (.ofSkip reason))
  | dispatched {place : Place} {script : String} {sent : List (Request × Except Error Json)}
    {asked : List (Json × Except Error (List String))} {found : Except Error (List String)}
    {result : Except Error Report} (hready : Ready settings options m place script)
    (hresolved : Resolved options selector asked found)
    (hdispatched : Dispatched options place script found sent result) :
    Applied settings options selector m sent asked result

/-- Every course of a partial update is one that the relation of its parts allows. -/
theorem applyMutator_course {result : Except Error Report}
    (h : Course (applyMutator settings selector m options) dialogue result) :
    Applied settings options selector m (calls dialogue) (lookups dialogue) result := by
  unfold applyMutator at h
  split at h
  · next e hp =>
    obtain ⟨rfl, rfl⟩ := course_pure_iff.mp h
    exact .refused (fun _ _ hready => nomatch hp.symm.trans hready.place_eq) e
  · next place hp =>
    dsimp only at h
    split at h
    · next hempty =>
      obtain ⟨_, hlast, hc, hl⟩ := course_log h
      obtain ⟨rfl, rfl⟩ := course_pure_iff.mp hlast
      rw [hc, hl]
      exact .idle (fun _ _ hready => nomatch hempty.symm.trans hready.operations) _
    · next hoperations =>
      split at h
      · next e hs =>
        obtain ⟨rfl, rfl⟩ := course_pure_iff.mp h
        refine .refused (fun _ _ hready => ?_) e
        exact nomatch (script_of_error hs).symm.trans hready.script_eq
      · next statements hs =>
        have hm := script_of_ok hs
        obtain ⟨_, htail, hc, hl⟩ := course_log h
        rw [hc, hl]
        split at htail
        · next hblank =>
          obtain ⟨_, hlast, hc', hl'⟩ := course_log htail
          obtain ⟨rfl, rfl⟩ := course_pure_iff.mp hlast
          rw [hc', hl']
          refine .idle (fun _ _ hready => hready.nonempty ?_) _
          rw [← hblank]
          exact (Except.ok.inj (hm.symm.trans hready.script_eq)).symm
        · next hwritten =>
          obtain ⟨found, hr, hd⟩ := dispatch_course htail
          exact .dispatched ⟨hp, by simpa using hoperations, hm, hwritten⟩ hr hd

end IndexFeed.Update
