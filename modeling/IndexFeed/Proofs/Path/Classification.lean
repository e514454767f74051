import Mathlib.Data.List.Forall2
import IndexFeed.Proofs.Number.Digits
import IndexFeed.Proofs.Path.Parts

/-! What is read of a text as a path: which texts are paths, and what each part of one stands for. -/
namespace IndexFeed

namespace Segment

/-- A part of a path that has digits only and a number below 2 ^ 64. -/
def IsPosition (part : List Char) : Prop :=
  (∀ c ∈ part, '0' ≤ c ∧ c ≤ '9') ∧ Text.decimal part < 2 ^ 64

/-- What a part of a path stands for: its number where it is a position, and otherwise itself. -/
inductive StandsFor (part : List Char) : Segment → Prop where
  | index (hposition : IsPosition part) : StandsFor part (.index (Text.decimal part))
  | key (hother : ¬ IsPosition part) : StandsFor part (.key (String.ofList part))

/-- A part stands for the segment that it is read as, and for no other. -/
theorem standsFor_iff {part : List Char} {segment : Segment} :
    StandsFor part segment ↔ segment = ofPart part := by
  have hposition : (part.all Char.isDigit = true ∧ Nat.ofDigitChars 10 part 0 < indexLimit) ↔
      IsPosition part := by
    rw [List.all_eq_true, Text.ofDigitChars_eq_decimal]
    simp only [Text.isDigit_iff]
    rfl
  rw [ofPart, Text.ofDigitChars_eq_decimal]
  rw [Text.ofDigitChars_eq_decimal] at hposition
  split
  · next hdigits =>
    constructor
    · intro hstands
      cases hstands with
      | index => rfl
      | key hother => exact absurd (hposition.mp hdigits) hother
    · rintro rfl
      exact .index (hposition.mp hdigits)
  · next hother =>
    constructor
    · intro hstands
      cases hstands with
      | index hdigits => exact absurd (hposition.mpr hdigits) hother
      | key => rfl
    · rintro rfl
      exact .key fun hdigits => hother (hposition.mpr hdigits)

private theorem forall₂_standsFor_iff {ps : List (List Char)} {segments : List Segment} :
    List.Forall₂ StandsFor ps segments ↔ segments = ps.map ofPart := by
  have hsame : StandsFor = fun part segment => ofPart part = segment := by
    funext part segment
    exact propext (standsFor_iff.trans eq_comm)
  rw [hsame, eq_comm, ← List.forall₂_eq_eq_eq, List.forall₂_map_left_iff]

end Segment

namespace Path

/-- A text cut at its dots: the pieces have none, and with a dot between each two they are the text. -/
def IsCut (raw : String) (ps : List (List Char)) : Prop :=
  ps ≠ [] ∧ (∀ part ∈ ps, '.' ∉ part) ∧ List.intercalate ['.'] ps = raw.toList

private theorem isCut_iff {raw : String} {ps : List (List Char)} : IsCut raw ps ↔ ps = parts raw := by
  constructor
  · rintro ⟨hpart, hundotted, hwhole⟩
    rw [parts, ← hwhole]
    exact (List.splitOn_intercalate '.' hundotted hpart).symm
  · rintro rfl
    exact ⟨List.splitOn_ne_nil '.' _, dot_notMem_parts raw, intercalate_parts raw⟩

/-- The leftmost part that writes no segment is empty or positional, and all parts before it write one. -/
theorem flaw?_eq_some_iff {raw : String} {part : List Char} :
    flaw? raw = some part ↔ (part = positional ∨ part = []) ∧ ∃ before after,
      parts raw = before ++ part :: after ∧ ∀ earlier ∈ before, WritesSegment earlier := by
  have hbad : decide (¬ WritesSegment part) = true ↔ part = positional ∨ part = [] := by
    rw [decide_eq_true_eq, WritesSegment, not_and_or, not_not, not_not, or_comm]
  have hgood (earlier : List Char) :
      (!decide (¬ WritesSegment earlier)) = true ↔ WritesSegment earlier := by simp
  rw [flaw?, List.find?_eq_some_iff_append, hbad]
  simp only [hgood]

private theorem refusal_eq_iff {raw : String} (hgiven : raw ≠ "") {part : List Char}
    (hflawed : part = positional ∨ part = []) {e : Error} :
    refusal raw part = e ↔ part = positional ∧ e = .unsupportedPath raw ∨
      part = [] ∧ e = .invalidMutator (.emptySegment raw) := by
  rcases hflawed with rfl | rfl
  · simp [refusal, positional, eq_comm]
  · simp [refusal, positional, hgiven, eq_comm]

/-- A text is a path where it is not empty and none of its parts, cut at the dots, is empty or
positional. Its segments are then what the parts stand for, one after the other. In any other text that
is not empty the leftmost such part decides what is told of it. -/
theorem parse_classifies (raw : String) :
    (∀ ps, IsCut raw ps ↔ ps = parts raw) ∧
    ((∃ path, parse raw = .ok path) ↔ raw ≠ "" ∧ ∀ part ∈ parts raw, part ≠ [] ∧ part ≠ ['$']) ∧
    (∀ path, parse raw = .ok path →
      path.raw = raw ∧ List.Forall₂ Segment.StandsFor (parts raw) path.segments) ∧
    (raw = "" → parse raw = .error (.invalidMutator .emptyPath)) ∧
    (raw ≠ "" → ∀ e, parse raw = .error e ↔ ∃ before part after,
      parts raw = before ++ part :: after ∧ (∀ earlier ∈ before, earlier ≠ [] ∧ earlier ≠ ['$']) ∧
      (part = ['$'] ∧ e = .unsupportedPath raw ∨
        part = [] ∧ e = .invalidMutator (.emptySegment raw))) := by
  refine ⟨fun ps => isCut_iff, ?_, fun path hread => ?_, ?_, fun hgiven e => ?_⟩
  · simp only [parse_eq_ok_iff, exists_and_left, exists_eq, and_true]
    refine ⟨fun hwrites => ⟨?_, hwrites⟩, fun h => h.2⟩
    rintro rfl
    exact absurd hwrites (by decide)
  · obtain ⟨-, rfl⟩ := parse_eq_ok_iff.mp hread
    exact ⟨rfl, Segment.forall₂_standsFor_iff.mpr rfl⟩
  · rintro rfl
    rfl
  · have htold : parse raw = .error e ↔ ∃ part, flaw? raw = some part ∧ refusal raw part = e := by
      rw [parse_eq]
      cases flaw? raw <;> simp
    rw [htold]
    constructor
    · rintro ⟨part, hleftmost, hrefused⟩
      obtain ⟨hflawed, before, after, hcut, hwrites⟩ := flaw?_eq_some_iff.mp hleftmost
      exact ⟨before, part, after, hcut, hwrites, (refusal_eq_iff hgiven hflawed).mp hrefused⟩
    · rintro ⟨before, part, after, hcut, hwrites, hrefused⟩
      have hflawed : part = positional ∨ part = [] := hrefused.imp And.left And.left
      exact ⟨part, flaw?_eq_some_iff.mpr ⟨hflawed, before, after, hcut, hwrites⟩,
        (refusal_eq_iff hgiven hflawed).mpr hrefused⟩

/-- A path with zeros in front, the numbers next to the bound, foreign digits and a dollar in a key. -/
theorem parts_of_each_kind :
    let raw := "007.18446744073709551615.18446744073709551616.٣.a$"
    let segments := [.index 7, .index 18446744073709551615, .key "18446744073709551616", .key "٣",
      .key "a$"]
    parse raw = .ok ⟨raw, segments⟩ ∧ List.Forall₂ Segment.StandsFor (parts raw) segments ∧
    "a.$." ≠ "" ∧ parse "a.$." = .error (.unsupportedPath "a.$.") ∧
    "a..$" ≠ "" ∧ parse "a..$" = .error (.invalidMutator (.emptySegment "a..$")) ∧
    parse "" = .error (.invalidMutator .emptyPath) := by
  intro raw segments
  have hread : parse raw = .ok ⟨raw, segments⟩ := by decide +kernel
  have hgiven : "a.$." ≠ "" ∧ "a..$" ≠ "" := by decide
  have hcut : parts "a.$." = [['a']] ++ ['$'] :: [[]] := by decide +kernel
  have hcut' : parts "a..$" = [['a']] ++ [] :: [['$']] := by decide +kernel
  obtain ⟨-, -, hstand, -, -⟩ := parse_classifies raw
  obtain ⟨-, -, -, -, htold⟩ := parse_classifies "a.$."
  obtain ⟨-, -, -, -, htold'⟩ := parse_classifies "a..$"
  obtain ⟨-, -, -, hempty, -⟩ := parse_classifies ""
  refine ⟨hread, (hstand _ hread).2, hgiven.1, ?_, hgiven.2, ?_, hempty rfl⟩
  · exact (htold hgiven.1 _).mpr ⟨_, _, _, hcut, by decide, .inl ⟨rfl, rfl⟩⟩
  · exact (htold' hgiven.2 _).mpr ⟨_, _, _, hcut', by decide, .inr ⟨rfl, rfl⟩⟩

end Path
end IndexFeed
