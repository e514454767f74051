import IndexFeed.Proofs.Path.Parts
import IndexFeed.Proofs.Script.LiteralText

/-! What the statements of a mutator are made of: a path that was written and texts of its operand. -/
namespace IndexFeed
open Script (Literal Scalar Statement)

namespace Script.Statement

/-- The segments that lead to what a statement changes; for a removal, to the container. -/
def field : Statement → List Segment
  | assign field _ | increase field _ | append field _ | subtract field _ | addFirst field _
  | addNext field _ => field
  | remove container _ => container

/-- The numerals in a statement are written in the characters of numbers. -/
def SpellsNumbers : Statement → Prop
  | assign _ value => value.SpellsNumbers
  | increase _ amount => (Scalar.numeral amount).SpellsNumbers
  | _ => True

private theorem chars_ne_nil (statement : Statement) : statement.chars ≠ [] := by
  have hstarts : ∃ c rest, statement.chars = c :: rest := by cases statement <;> exact ⟨_, _, rfl⟩
  obtain ⟨c, rest, he⟩ := hstarts
  simp [he]

end Script.Statement

/-- Only the script of no statements is empty. -/
theorem Script.chars_ne_nil {statements : List Statement} (h : statements ≠ []) :
    Script.chars statements ≠ [] := by
  obtain ⟨s, rest, rfl⟩ := List.exists_cons_of_ne_nil h
  cases rest with
  | nil => simpa [Script.chars] using s.chars_ne_nil
  | cons s' rest => simp [Script.chars]

private theorem Path.field_removal (path : Path) : path.removal.field = path.parents := by
  unfold Path.removal
  split
  · next h => simp [Statement.field, h]
  · next h _ =>
    have hn : path.segments = [] := List.getLast?_eq_none_iff.mp h
    simp [Statement.field, Path.parents, hn]
  · rfl

private theorem Path.spellsNumbers_removal (path : Path) : path.removal.SpellsNumbers := by
  unfold Path.removal
  split <;> trivial

namespace Operator

/-- The segments of a path that an operator's statements go through: all but the last for a removal. -/
def reached (operator : Operator) (path : Path) : List Segment :=
  if operator = unset then path.parents else path.segments

/-- Statements go through segments of their path only. -/
theorem reached_subset (operator : Operator) (path : Path) : operator.reached path ⊆ path.segments := by
  unfold reached
  split
  · exact List.dropLast_subset _
  · exact List.Subset.refl _

private theorem mem_additions {segments : List Segment} {texts : List String} {s : Statement}
    (h : s ∈ additions segments texts) : s.SpellsNumbers ∧ s.field = segments := by
  cases texts with
  | nil => simp [additions] at h
  | cons text rest =>
    rcases List.mem_cons.mp h with rfl | h
    · exact ⟨trivial, rfl⟩
    · obtain ⟨_, -, rfl⟩ := List.mem_map.mp h
      exact ⟨trivial, rfl⟩

/-- Setting a field assigns the literal of its operand. -/
theorem effect_set_eq_ok {path : Path} {operand : Operand} {ss : List Statement}
    (h : set.effect path operand = .ok ss) :
    ∃ value, Literal.ofJson? operand.toJson = some value ∧ ss = [.assign path.segments value] := by
  simp only [effect] at h
  split at h
  · simp at h
  · split at h
    · simp at h
    · next value hv => exact ⟨value, hv, (Except.ok.inj h).symm⟩

/-- Increasing a field takes one number. -/
theorem effect_inc_eq_ok {path : Path} {operand : Operand} {ss : List Statement}
    (h : inc.effect path operand = .ok ss) :
    ∃ n, operand = .scalar (.number n) ∧ ss = [.increase path.segments n.text] := by
  simp only [effect] at h
  split at h
  · next n => exact ⟨n, rfl, (Except.ok.inj h).symm⟩
  · simp at h

/-- Statements reach what their field names, and their numerals are those of numbers. -/
theorem of_mem_effect {operator : Operator} {path : Path} {operand : Operand} {ss : List Statement}
    (h : operator.effect path operand = .ok ss) {s : Statement} (hs : s ∈ ss) :
    s.SpellsNumbers ∧ s.field = operator.reached path := by
  cases operator with
  | set =>
    obtain ⟨value, hv, rfl⟩ := effect_set_eq_ok h
    rw [List.mem_singleton.mp hs]
    exact ⟨Literal.spellsNumbers_of_ofJson hv, rfl⟩
  | unset =>
    obtain rfl := Except.ok.inj h
    rw [List.mem_singleton.mp hs]
    exact ⟨path.spellsNumbers_removal, path.field_removal⟩
  | inc =>
    obtain ⟨n, -, rfl⟩ := effect_inc_eq_ok h
    rw [List.mem_singleton.mp hs]
    exact ⟨Scalar.spellsNumbers_text n, rfl⟩
  | push | pull | pullAll =>
    obtain ⟨items, -, h⟩ := bind_eq_ok_iff.mp h
    obtain ⟨texts, -, h⟩ := bind_eq_ok_iff.mp h
    obtain rfl := Except.ok.inj h
    obtain ⟨text, -, rfl⟩ := List.mem_map.mp hs
    exact ⟨trivial, rfl⟩
  | addToSet =>
    obtain ⟨items, -, h⟩ := bind_eq_ok_iff.mp h
    obtain ⟨texts, -, h⟩ := bind_eq_ok_iff.mp h
    obtain rfl := Except.ok.inj h
    exact mem_additions hs

/-- A field has statements where its path is read and its operand fits. -/
theorem statements_eq_ok_iff {operator : Operator} {field : String} {operand : Operand}
    {ss : List Statement} :
    operator.statements field operand = .ok ss ↔
      ∃ path, Path.parse field = .ok path ∧ operator.effect path operand = .ok ss := by
  unfold statements
  cases Path.parse field with
  | error e => simp
  | ok path => cases he : operator.effect path operand <;> simp [he]

end Operator

namespace Mutator

/-- The paths that are written in a mutator. -/
def paths (m : Mutator) : List String := m.operations.flatMap fun operation => operation.2.map Prod.fst

/-- Every statement of a mutator goes through the segments of a path that is written in it. -/
theorem of_mem_statements {m : Mutator} {ss : List Statement} (h : m.statements = .ok ss)
    {s : Statement} (hs : s ∈ ss) :
    s.SpellsNumbers ∧ ∃ raw ∈ m.paths, ∃ operator path, Path.parse raw = .ok path ∧
      s.field = Operator.reached operator path := by
  obtain ⟨operation, ho, ss', h', hs'⟩ := exists_of_mem_collect h hs
  obtain ⟨⟨raw, operand⟩, hf, ss'', h'', hs''⟩ := exists_of_mem_collect h' hs'
  obtain ⟨path, hp, he⟩ := Operator.statements_eq_ok_iff.mp h''
  obtain ⟨hproper, hfield⟩ := Operator.of_mem_effect he hs''
  have hraw : raw ∈ m.paths :=
    List.mem_flatMap.mpr ⟨operation, ho, List.mem_map.mpr ⟨(raw, operand), hf, rfl⟩⟩
  exact ⟨hproper, raw, hraw, operation.1, path, hp, hfield⟩

end Mutator
end IndexFeed
