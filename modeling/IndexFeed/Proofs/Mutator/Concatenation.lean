import IndexFeed.Proofs.Mutator.Elements
import IndexFeed.Proofs.Mutator.Order

/-! Mutators one after the other: a semicolon stands between their scripts, and none beside a script
without statements. -/
namespace IndexFeed
open Script (Statement)

namespace Script

/-- A script is the texts of its statements with a semicolon between each two. -/
theorem text_eq_intercalate (ss : List Statement) :
    text ss = ";".intercalate (ss.map Statement.text) := by
  have htexts : (ss.map Statement.text).map String.toList = ss.map Statement.chars := by
    simp [Statement.text, Function.comp_def]
  rw [← String.toList_inj, String.toList_intercalate, htexts, text, String.toList_ofList]
  rfl

private theorem text_eq_empty_iff {ss : List Statement} : text ss = "" ↔ ss = [] := by
  constructor
  · intro hempty
    by_contra hstatement
    apply chars_ne_nil hstatement
    rw [← String.toList_ofList (l := chars ss), ← text, hempty]
    rfl
  · rintro rfl
    rfl

private theorem text_append {ss more : List Statement} (h : ss ≠ []) (h' : more ≠ []) :
    text (ss ++ more) = text ss ++ ";" ++ text more := by
  rw [text_eq_intercalate, text_eq_intercalate, text_eq_intercalate, List.map_append]
  exact String.intercalate_append_of_ne_nil (by simpa using h) (by simpa using h')

end Script

namespace Operator

private theorem elements_eq_nil_iff {operator : Operator} {operand : Operand} :
    operator.elements operand = .ok [] ↔ operand = operator.listing [] := by
  rw [elements, listing]
  split <;> cases operand <;> simp [Operand.scalarOrList, Operand.scalarOrEach]

private theorem changes_eq_nil_iff {operator : Operator} (hitemizes : operator ∈ itemizing)
    {field : List Segment} {texts : List String} : operator.changes field texts = [] ↔ texts = [] := by
  cases operator with
  | set | unset | inc => exact absurd hitemizes (by decide)
  | push | pull | pullAll => exact List.map_eq_nil_iff
  | addToSet => cases texts <;> simp [changes, additions]

end Operator

namespace Entry

/-- An operator that goes through elements, and a list without any. -/
def IsIdle (entry : Entry) : Prop :=
  entry.operator ∈ [Operator.push, .pull, .addToSet] ∧ entry.operand = .each [] ∨
    entry.operator = .pullAll ∧ entry.operand = .array []

instance : DecidablePred IsIdle := fun _ => inferInstanceAs (Decidable (_ ∨ _))

private theorem isIdle_iff {entry : Entry} :
    entry.IsIdle ↔ entry.operator ∈ Operator.itemizing ∧ entry.operand = entry.operator.listing [] := by
  obtain ⟨operator, field, operand⟩ := entry
  cases operator <;> simp [IsIdle, Operator.itemizing, Operator.listing]

end Entry

/-- An operator makes no statements of a field just where it goes through no elements. -/
theorem Operator.effect_eq_nil_iff {operator : Operator} {path : Path} {operand : Operand} :
    operator.effect path operand = .ok [] ↔
      operator ∈ itemizing ∧ operand = operator.listing [] := by
  by_cases hitemizes : operator ∈ itemizing
  · rw [effect_eq hitemizes, bind_eq_ok_iff, ← elements_eq_nil_iff]
    simp only [map_eq_ok_iff, changes_eq_nil_iff hitemizes, exists_eq_right,
      Operand.elementTexts_eq_nil_iff, hitemizes, true_and]
  · -- Every other operator makes one statement where it makes any.
    refine iff_of_false (fun hnothing => ?_) fun hidle => hitemizes hidle.1
    cases operator with
    | push | pull | pullAll | addToSet => exact hitemizes (by decide)
    | unset => cases hnothing
    | set =>
      obtain ⟨value, -, hmade⟩ := effect_set_eq_ok hnothing
      cases hmade
    | inc =>
      obtain ⟨n, -, hmade⟩ := effect_inc_eq_ok hnothing
      cases hmade

private theorem Entry.statements_eq_nil_iff {entry : Entry} :
    entry.statements = .ok [] ↔ entry.statements.isOk = true ∧ entry.IsIdle := by
  rw [isIdle_iff, isOk_iff, statements]
  simp only [Operator.statements_eq_ok_iff, Operator.effect_eq_nil_iff]
  constructor
  · rintro ⟨path, hread, hidle⟩
    exact ⟨⟨[], path, hread, Operator.effect_eq_nil_iff.mpr hidle⟩, hidle⟩
  · rintro ⟨⟨ss, path, hread, -⟩, hidle⟩
    exact ⟨path, hread, hidle⟩

namespace Mutator

variable {m m' : Mutator}

/-- A mutator that is translated has no statements where all its entries are idle. -/
theorem statements_eq_nil_iff {ss : List Statement} (h : m.statements = .ok ss) :
    ss = [] ↔ ∀ entry ∈ m.entries, entry.IsIdle := by
  rw [statements_eq_collect] at h
  have htranslated : ∀ entry ∈ m.entries, entry.statements.isOk = true := by
    rw [← List.all_eq_true, ← isOk_collect, h]
    rfl
  have hnothing : collect Entry.statements m.entries = .ok [] ↔ ss = [] := by
    rw [h, Except.ok.injEq]
  rw [← hnothing, collect_eq_nil_iff]
  refine forall₂_congr fun entry hmem => ?_
  rw [Entry.statements_eq_nil_iff, and_iff_right (htranslated entry hmem)]

/-- Operations of other operators are pushed behind those that are there. -/
theorem operations_pushAll_of_disjoint (hreachable : m.Reachable) (hreachable' : m'.Reachable)
    (hapart : m.operators.Disjoint m'.operators) :
    (m.pushAll m'.operations).operations = m.operations ++ m'.operations := by
  rw [operations_pushAll]
  apply Entries.foldl_put
  rw [List.map_append]
  exact hreachable.keyed.operators.append hreachable'.keyed.operators hapart

/-- The script of a mutator whose operations are those of two others. -/
theorem script_of_append {first second : String} {both : Mutator} (h : m.script = .ok first)
    (h' : m'.script = .ok second) (hoperations : both.operations = m.operations ++ m'.operations) :
    both.script =
      .ok (if first = "" then second else if second = "" then first else first ++ ";" ++ second) := by
  obtain ⟨ss, hmade, rfl⟩ := map_eq_ok_iff.mp h
  obtain ⟨more, hmade', rfl⟩ := map_eq_ok_iff.mp h'
  have hjoined : both.statements = .ok (ss ++ more) := by
    rw [statements, hoperations]
    exact collect_append_eq_ok_iff.mpr ⟨ss, more, hmade, hmade', rfl⟩
  rw [script, hjoined]
  refine congrArg Except.ok ?_
  simp only [Script.text_eq_empty_iff]
  split
  · next hnone => rw [hnone, List.nil_append]
  · next hfirst =>
    split
    · next hnone => rw [hnone, List.append_nil]
    · next hsecond => exact Script.text_append hfirst hsecond

/-- Mutators without a common operator are translated one after the other. A semicolon stands between
their scripts where both have one, and nothing is added to one script beside an empty one. The fields of
an operation can be cut anywhere, and its statements are those of the two parts. A script is empty just
where there is no statement at all, and so where all that is asked for is to go through empty lists. -/
theorem script_compositional :
    (∀ {m m' : Mutator} {first second : String}, m.Reachable → m'.Reachable →
      m.operators.Disjoint m'.operators → m.script = .ok first → m'.script = .ok second →
      (m.pushAll m'.operations).operations = m.operations ++ m'.operations ∧
      (m.pushAll m'.operations).script =
        .ok (if first = "" then second else if second = "" then first else first ++ ";" ++ second)) ∧
    (∀ (operator : Operator) (fields more : Fields) (ss : List Statement),
      Operation.statements (operator, fields ++ more) = .ok ss ↔ ∃ first second,
        Operation.statements (operator, fields) = .ok first ∧
        Operation.statements (operator, more) = .ok second ∧ ss = first ++ second) ∧
    ∀ {m : Mutator} {script : String}, m.script = .ok script →
      (script = "" ↔ m.statements = .ok []) ∧ (script = "" ↔ ∀ entry ∈ m.entries, entry.IsIdle) := by
  refine ⟨?_, fun operator fields more ss => collect_append_eq_ok_iff, ?_⟩
  · intro m m' first second hreachable hreachable' hapart h h'
    have hoperations := operations_pushAll_of_disjoint hreachable hreachable' hapart
    exact ⟨hoperations, script_of_append h h' hoperations⟩
  · intro m script h
    obtain ⟨ss, hmade, rfl⟩ := map_eq_ok_iff.mp h
    rw [Script.text_eq_empty_iff, hmade, Except.ok.injEq]
    exact ⟨Iff.rfl, statements_eq_nil_iff hmade⟩

private def naming : Mutator :=
  (empty.push (.set, [("name", .scalar (.string "Ann"))])).push (.push, [("tags", .each [])])

private def pulling : Mutator :=
  ((empty.push (.pullAll, [("tags", .array [])])).push (.addToSet, [])).push
    (.pull, [("tags", .each [.string ";", .bool true])])

private def idling : Mutator := (empty.push (.pullAll, [("tags", .array [])])).push (.inc, [])

/-- Two mutators whose scripts are joined by one semicolon, and one that adds nothing. -/
theorem names_and_pulls_joined :
    let name := "ctx._source.name = \"Ann\""
    let pulls := "ctx._source.tags-=\";\";ctx._source.tags-=\"true\""
    naming.Reachable ∧ pulling.Reachable ∧ idling.Reachable ∧
    naming.operators.Disjoint pulling.operators ∧ naming.operators.Disjoint idling.operators ∧
    naming.script = .ok name ∧ pulling.script = .ok pulls ∧ idling.script = .ok "" ∧
    (naming.pushAll pulling.operations).script = .ok (name ++ ";" ++ pulls) ∧
    (naming.pushAll idling.operations).script = .ok name ∧
    ∀ entry ∈ idling.entries, entry.IsIdle := by
  intro name pulls
  have hnamed : naming.Reachable :=
    (Built.empty.push (by decide) (by simp)).push (by decide) (by simp)
  have hpulled : pulling.Reachable :=
    ((Built.empty.push (by decide) (by simp)).push (by decide) (by simp)).push (by decide) (by simp)
  have hidled : idling.Reachable :=
    (Built.empty.push (by decide) (by simp)).push (by decide) (by simp)
  have hapart : naming.operators.Disjoint pulling.operators := List.disjoint_left.mpr (by decide)
  have hapart' : naming.operators.Disjoint idling.operators := List.disjoint_left.mpr (by decide)
  have hfirst : naming.script = .ok name := by decide +kernel
  have hsecond : pulling.script = .ok pulls := by decide +kernel
  have hnone : idling.script = .ok "" := by decide +kernel
  obtain ⟨hcompose, -, hempty⟩ := script_compositional
  refine ⟨hnamed, hpulled, hidled, hapart, hapart', hfirst, hsecond, hnone, ?_, ?_,
    (hempty hnone).2.mp rfl⟩
  · exact (hcompose hnamed hpulled hapart hfirst hsecond).2
  · exact (hcompose hnamed hidled hapart' hfirst hnone).2

end Mutator
end IndexFeed
