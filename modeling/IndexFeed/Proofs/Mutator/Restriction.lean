import IndexFeed.Proofs.Mutator.Acceptance
import IndexFeed.Proofs.Mutator.History

/-! Restricted mutators: they keep the allowed entries, and are translated as these are. -/
namespace IndexFeed
open Script (Literal Scalar Statement)

private theorem Operation.entries_restrict (operation : Operation) (allowed : List String) :
    (operation.restrict allowed).entries = operation.entries.filter (Entry.isAllowed allowed) := by
  rw [Operation.entries, Operation.entries, List.filter_map]
  rfl

namespace Mutator

variable {m : Mutator}

/-- A restriction keeps the entries whose top part is allowed, in their order. -/
theorem entries_restrict (h : (m.operations.map Prod.fst).Nodup) (allowed : List String) :
    (m.restrict allowed).entries = m.entries.filter (Entry.isAllowed allowed) := by
  -- An operation that is left without fields has no entries, so that it can be left out or kept.
  have hemptied (operations : List Operation) :
      (operations.filter fun kept => !kept.2.isEmpty).flatMap Operation.entries =
        operations.flatMap Operation.entries := by
    induction operations with
    | nil => rfl
    | cons operation rest ih =>
      obtain ⟨operator, fields⟩ := operation
      cases fields with
      | nil => exact ih
      | cons field fields => exact congrArg (_ ++ ·) ih
  rw [entries, operations_restrict h, hemptied, List.flatMap_map, entries, List.filter_flatMap]
  exact congrArg (List.flatMap · m.operations) (funext (Operation.entries_restrict · allowed))

private theorem entries_of_operator {operation : Operation} {rest : List Operation}
    (honce : operation.1 ∉ rest.map Prod.fst) :
    let entries := operation.entries ++ rest.flatMap Operation.entries
    entries.filter (·.operator = operation.1) = operation.entries ∧
      entries.filter (·.operator ≠ operation.1) = rest.flatMap Operation.entries := by
  have hown : ∀ entry ∈ operation.entries, entry.operator = operation.1 := by
    intro entry hin
    obtain ⟨field, -, rfl⟩ := List.mem_map.mp hin
    rfl
  have hother : ∀ entry ∈ rest.flatMap Operation.entries, entry.operator ≠ operation.1 := by
    intro entry hin hsame
    obtain ⟨later, hmem, hwithin⟩ := List.mem_flatMap.mp hin
    obtain ⟨field, -, rfl⟩ := List.mem_map.mp hwithin
    exact honce (hsame ▸ List.mem_map_of_mem hmem)
  constructor
  · rw [List.filter_append, List.filter_eq_self.mpr (by simpa using hown),
      List.filter_eq_nil_iff.mpr (by simpa using hother), List.append_nil]
  · rw [List.filter_append, List.filter_eq_nil_iff.mpr (by simpa using hown),
      List.filter_eq_self.mpr (by simpa using hother), List.nil_append]

private theorem fields_of_entries (operation : Operation) :
    operation.entries.map (fun entry => (entry.field, entry.operand)) = operation.2 := by
  simp [Operation.entries, Function.comp_def]

private theorem first_operator {operation : Operation} (hfull : operation.2 ≠ []) (more : List Entry) :
    (operation.entries ++ more).head?.map Entry.operator = some operation.1 := by
  obtain ⟨operator, _ | ⟨field, fields⟩⟩ := operation
  · exact absurd rfl hfull
  · rfl

/-- Operations with an operator each, none of them without fields, are known by their entries. -/
theorem operations_eq_of_entries {operations operations' : List Operation}
    (honce : (operations.map Prod.fst).Nodup) (honce' : (operations'.map Prod.fst).Nodup)
    (hfull : ∀ operation ∈ operations, operation.2 ≠ [])
    (hfull' : ∀ operation ∈ operations', operation.2 ≠ [])
    (hsame : operations.flatMap Operation.entries = operations'.flatMap Operation.entries) :
    operations = operations' := by
  induction operations generalizing operations' with
  | nil =>
    cases operations' with
    | nil => rfl
    | cons operation' rest' =>
      have hfirst := first_operator (hfull' _ List.mem_cons_self) (rest'.flatMap Operation.entries)
      rw [← List.flatMap_cons, ← hsame] at hfirst
      exact nomatch hfirst
  | cons operation rest ih =>
    have hfirst := first_operator (hfull _ List.mem_cons_self) (rest.flatMap Operation.entries)
    rw [← List.flatMap_cons, hsame] at hfirst
    cases operations' with
    | nil => exact nomatch hfirst
    | cons operation' rest' =>
      have hfirst' := first_operator (hfull' _ List.mem_cons_self) (rest'.flatMap Operation.entries)
      have hoperator : operation'.1 = operation.1 := Option.some.inj (hfirst'.symm.trans hfirst)
      -- The entries of the first operator are one operation, the others are those after it.
      obtain ⟨hfresh, honce⟩ := List.nodup_cons.mp honce
      obtain ⟨hfresh', honce'⟩ := List.nodup_cons.mp honce'
      obtain ⟨hown, hothers⟩ := entries_of_operator hfresh
      obtain ⟨hown', hothers'⟩ := entries_of_operator hfresh'
      rw [List.flatMap_cons, List.flatMap_cons] at hsame
      rw [hoperator, ← hsame, hown] at hown'
      rw [hoperator, ← hsame, hothers] at hothers'
      have hfields : operation.2 = operation'.2 := by
        rw [← fields_of_entries operation, hown', fields_of_entries]
      obtain ⟨-, hfull⟩ := List.forall_mem_cons.mp hfull
      obtain ⟨-, hfull'⟩ := List.forall_mem_cons.mp hfull'
      rw [ih honce honce' hfull hfull' hothers', Prod.ext hoperator.symm hfields]

/-- An operation that is left without fields is not kept. -/
theorem full_restrict (h : (m.operations.map Prod.fst).Nodup) (allowed : List String) :
    ∀ operation ∈ (m.restrict allowed).operations, operation.2 ≠ [] := by
  intro operation hmem
  rw [operations_restrict h] at hmem
  simpa using List.of_mem_filter hmem

/-- A restriction is known by the entries that it keeps. -/
theorem restrict_eq_of_entries {m m' : Mutator} (hreachable : m.Reachable) (hreachable' : m'.Reachable)
    {allowed allowed' : List String} (hsame : m.entries.filter (Entry.isAllowed allowed) =
      m'.entries.filter (Entry.isAllowed allowed')) : m.restrict allowed = m'.restrict allowed' := by
  have honce := hreachable.keyed.operators
  have honce' := hreachable'.keyed.operators
  rw [← entries_restrict honce, ← entries_restrict honce'] at hsame
  have hoperations := operations_eq_of_entries (hreachable.keyed.restrict allowed).operators
    (hreachable'.keyed.restrict allowed').operators (full_restrict honce allowed)
    (full_restrict honce' allowed') hsame
  exact congrArg Mutator.mk hoperations

/-- A restricted mutator is translated as if the entries that are not allowed had never been written:
it fails as the first allowed entry does that fails on its own, and otherwise its script has the
statements of each allowed entry, one after the other. These are the statements of the whole mutator,
where it has any, without those of the other entries. -/
theorem statements_restrict (m : Mutator) (hreachable : m.Reachable) (allowed : List String) :
    (∀ e, (m.restrict allowed).script = .error e ↔ ∃ entry,
      m.entries.find? (fun entry => entry.isAllowed allowed && !entry.alone.isOk) = some entry ∧
        entry.alone = .error e) ∧
    (∀ ss, (m.restrict allowed).statements = .ok ss ↔ ∃ traced,
      Traces Entry.alone (m.entries.filter (Entry.isAllowed allowed)) traced ∧
        ss = traced.flatMap Prod.snd) ∧
    (∀ text, (m.restrict allowed).script = .ok text ↔ ∃ traced,
      Traces Entry.alone (m.entries.filter (Entry.isAllowed allowed)) traced ∧
        text = Script.text (traced.flatMap Prod.snd)) ∧
    ∀ ss, m.statements = .ok ss → ∃ traced,
      Traces Entry.alone m.entries traced ∧ ss = traced.flatMap Prod.snd ∧
        (m.restrict allowed).statements =
          .ok ((traced.filter fun part => part.1.isAllowed allowed).flatMap Prod.snd) := by
  have halone : Entry.alone = Entry.statements := funext Entry.alone_eq_statements
  have hkept := entries_restrict hreachable.keyed.operators allowed
  rw [script, statements_eq_collect, statements_eq_collect, hkept, halone]
  refine ⟨fun e => ?_, fun ss => collect_eq_ok_iff, fun text => ?_, fun ss h => ?_⟩
  · rw [map_eq_error_iff, collect_eq_error_iff, List.find?_filter]
    simp only [Bool.decide_and, Bool.decide_eq_true]
  · rw [map_eq_ok_iff]
    constructor
    · rintro ⟨ss, hss, rfl⟩
      obtain ⟨traced, htraces, rfl⟩ := collect_eq_ok_iff.mp hss
      exact ⟨traced, htraces, rfl⟩
    · rintro ⟨traced, htraces, rfl⟩
      exact ⟨_, collect_eq_ok_iff.mpr ⟨traced, htraces, rfl⟩, rfl⟩
  · obtain ⟨traced, htraces, rfl⟩ := collect_eq_ok_iff.mp h
    exact ⟨traced, htraces, rfl, collect_eq_ok_iff.mpr ⟨_, htraces.filter _, rfl⟩⟩

private def writing (secret : String) : Mutator :=
  (empty.push (.set, [("name", .scalar (.string "Ann")), (secret, .scalar .null)])).push
    (.push, [("name.tags", .each [.bool true])])

private theorem writing_reachable {secret : String} (hother : secret ≠ "name") :
    (writing secret).Reachable := by
  refine (Built.empty.push ?_ fun _ _ => trivial).push (by simp) fun _ _ => trivial
  simpa using hother.symm

/-- A field that cannot be translated, and one that can, leave no trace where they are not allowed. -/
theorem restriction_forgets_secret :
    let named : Statement := .assign [.key "name"] (.scalar (.string "Ann"))
    let hidden : Statement := .assign [.key "secret"] (.scalar .null)
    let tagged : Statement := .append [.key "name", .key "tags"] "true"
    (writing "secret.$").Reachable ∧ (writing "secret.$").script = .error (.unsupportedPath "secret.$") ∧
    ((writing "secret.$").restrict ["name"]).statements = .ok [named, tagged] ∧
    (writing "secret").Reachable ∧ (writing "secret").statements = .ok [named, hidden, tagged] ∧
    ∃ traced, Traces Entry.alone (writing "secret").entries traced ∧
      [named, hidden, tagged] = traced.flatMap Prod.snd ∧
      ((writing "secret").restrict ["name"]).statements =
        .ok ((traced.filter fun part => part.1.isAllowed ["name"]).flatMap Prod.snd) := by
  intro named hidden tagged
  have hrefused : (writing "secret.$").Reachable := writing_reachable (by decide)
  have hmade : (writing "secret").Reachable := writing_reachable (by decide)
  have htranslated : (writing "secret").statements = .ok [named, hidden, tagged] := rfl
  refine ⟨hrefused, rfl, ?_, hmade, htranslated, ?_⟩
  · have hfirst : Entry.alone ⟨.set, "name", .scalar (.string "Ann")⟩ = .ok [named] := rfl
    have hsecond : Entry.alone ⟨.push, "name.tags", .each [.bool true]⟩ = .ok [tagged] := rfl
    exact ((statements_restrict _ hrefused ["name"]).2.1 _).mpr
      ⟨[(_, [named]), (_, [tagged])], ⟨rfl, by simp [hfirst, hsecond]⟩, rfl⟩
  · exact (statements_restrict _ hmade ["name"]).2.2.2 _ htranslated

end Mutator
end IndexFeed
