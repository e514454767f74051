import IndexFeed.Proofs.Text.Cut
import IndexFeed.Proofs.Traverse

/-! Paths that are read: a segment for each part, and no part that is empty or positional. -/
namespace IndexFeed.Path

/-- A part that is a segment: neither empty nor positional. -/
def WritesSegment (part : List Char) : Prop := part ≠ [] ∧ part ≠ positional

instance : DecidablePred WritesSegment := fun _ => inferInstanceAs (Decidable (_ ∧ _))

/-- The leftmost part for which a path is refused. -/
def flaw? (raw : String) : Option (List Char) := (parts raw).find? fun part => ¬ WritesSegment part

/-- What is said of a path with such a part. -/
def refusal (raw : String) (part : List Char) : Error :=
  if part = positional then .unsupportedPath raw
  else .invalidMutator (if raw = "" then .emptyPath else .emptySegment raw)

private theorem flaw?_eq_none_iff {raw : String} :
    flaw? raw = none ↔ ∀ part ∈ parts raw, WritesSegment part := by
  simp [flaw?]

/-- A path has no flaw where all of its parts write segments. -/
theorem all_writesSegment (raw : String) : (parts raw).all (WritesSegment ·) = (flaw? raw).isNone := by
  rw [Bool.eq_iff_iff, Option.isNone_iff_eq_none, flaw?_eq_none_iff]
  simp

private theorem segmentsOf_eq {raw : String} (hgiven : raw ≠ "") (ps : List (List Char)) :
    segmentsOf raw ps =
      match ps.find? fun part => ¬ WritesSegment part with
      | none => .ok (ps.map Segment.ofPart)
      | some part => .error (refusal raw part) := by
  induction ps with
  | nil => rfl
  | cons part ps ih =>
    rw [segmentsOf, List.find?_cons]
    by_cases hp : part = positional
    · have hflawed : ¬ WritesSegment part := fun hwrites => hwrites.2 hp
      rw [if_pos hp, decide_eq_true hflawed]
      exact congrArg Except.error (if_pos hp).symm
    · by_cases he : part = []
      · have hflawed : ¬ WritesSegment part := fun hwrites => hwrites.1 he
        rw [if_neg hp, if_pos he, decide_eq_true hflawed]
        change _ = Except.error (refusal raw part)
        rw [refusal, if_neg hp, if_neg hgiven]
      · rw [if_neg hp, if_neg he, ih, decide_eq_false (not_not_intro ⟨he, hp⟩)]
        cases ps.find? fun part => ¬ WritesSegment part <;> rfl

/-- The leftmost part that writes no segment decides what is said of a path. -/
theorem parse_eq (raw : String) :
    parse raw =
      match flaw? raw with
      | none => .ok ⟨raw, (parts raw).map Segment.ofPart⟩
      | some part => .error (refusal raw part) := by
  rw [parse]
  split
  · next hempty =>
    subst hempty
    rfl
  · next hgiven =>
    rw [segmentsOf_eq hgiven, ← flaw?]
    cases flaw? raw <;> rfl

/-- A path is read where each of its parts writes a segment, part by part. -/
theorem parse_eq_ok_iff {raw : String} {path : Path} :
    parse raw = .ok path ↔
      (∀ part ∈ parts raw, WritesSegment part) ∧ path = ⟨raw, (parts raw).map Segment.ofPart⟩ := by
  rw [parse_eq, ← flaw?_eq_none_iff]
  cases flaw? raw with
  | none => simp [eq_comm]
  | some part => simp

/-- A path that is read has a segment for each part. -/
theorem segments_of_parse {raw : String} {path : Path} (h : parse raw = .ok path) :
    path.segments = (parts raw).map Segment.ofPart := by
  rw [(parse_eq_ok_iff.mp h).2]

/-- The parts with dots between them are the path again. -/
theorem intercalate_parts (raw : String) : List.intercalate ['.'] (parts raw) = raw.toList :=
  List.intercalate_splitOn '.'

/-- No part has a dot in it. -/
theorem dot_notMem_parts (raw : String) : ∀ part ∈ parts raw, '.' ∉ part :=
  fun _ hmem => Text.notMem_of_mem_splitOn hmem

private theorem mem_intercalate {sep : Char} {ps : List (List Char)} {part : List Char}
    (h : part ∈ ps) {c : Char} (hc : c ∈ part) : c ∈ List.intercalate [sep] ps := by
  induction ps with
  | nil => simp at h
  | cons p ps ih =>
    cases ps with
    | nil => simpa [List.mem_singleton.mp h] using hc
    | cons q ps =>
      rw [List.intercalate_cons_cons, List.append_assoc]
      rcases List.mem_cons.mp h with rfl | h
      · exact List.mem_append_left _ hc
      · exact List.mem_append_right _ (List.mem_append_right _ (ih h))

theorem mem_of_mem_parts {raw : String} {part : List Char} (h : part ∈ parts raw) {c : Char}
    (hc : c ∈ part) : c ∈ raw.toList := by
  rw [← intercalate_parts raw]
  exact mem_intercalate h hc

end IndexFeed.Path
