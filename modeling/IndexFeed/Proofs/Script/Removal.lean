import Mathlib.Data.List.Chain
import IndexFeed.Proofs.Script.Unquote

/-! Removals read from their end: the last literal of one is what is removed, whatever comes before. -/
namespace IndexFeed.Script

private structure Escaped (text : List Char) : Prop where
  inside : text.IsChain fun before c => c = '"' → before = '\\'
  first : text.head? ≠ some '"'

private theorem Escaped.append {a b : List Char} (ha : Escaped a) (hb : Escaped b) :
    Escaped (a ++ b) := by
  constructor
  · refine List.isChain_append.mpr ⟨ha.inside, hb.inside, ?_⟩
    rintro before - c hstarts rfl
    exact absurd hstarts hb.first
  · cases a with
    | nil => exact hb.first
    | cons c a => exact ha.first

private theorem escaped_escape (c : Char) : Escaped (escape c) := by
  have hform := escape_cases c
  generalize escape c = written at hform ⊢
  cases hform with
  | letter hmeant => exact ⟨by simp, by simp⟩
  | number hcontrol => exact ⟨by simp, by simp⟩
  | itself hallowed =>
    exact ⟨List.isChain_singleton _, by simpa using (of_bare hallowed).1⟩

private theorem escaped_body (text : List Char) : Escaped (text.flatMap escape) := by
  induction text with
  | nil => exact ⟨List.isChain_nil, by simp⟩
  | cons c text ih => exact (escaped_escape c).append ih

private theorem quote_ne_append_quote (a b : List Char) (skipped : List Char) :
    quote a ≠ skipped ++ '(' :: quote b := by
  intro h
  have hclosed : ('"' :: a.flatMap escape) ++ ['"'] =
      (skipped ++ '(' :: '"' :: b.flatMap escape) ++ ['"'] := by
    simpa [quote] using h
  have hbody := List.append_cancel_right hclosed
  cases skipped with
  | nil => exact absurd (List.cons.inj hbody).1 (by decide)
  | cons first skipped =>
    -- The quote that opens the second literal would stand in the first one without a backslash.
    have hin := (escaped_body a).inside
    rw [(List.cons.inj hbody).2] at hin
    have hbare : ['(', '"'] <:+: skipped ++ '(' :: '"' :: b.flatMap escape :=
      ⟨skipped, b.flatMap escape, by simp⟩
    simpa using hin.infix hbare

/-- A literal behind a parenthesis at the end of a text can be told apart from what comes before it,
whatever that is. -/
theorem append_quote_inj {a b : String} {x y : List Char}
    (h : x ++ '(' :: quote a.toList = y ++ '(' :: quote b.toList) : x = y ∧ a = b := by
  have hsame {a b : String} {skipped : List Char}
      (h : '(' :: quote a.toList = skipped ++ '(' :: quote b.toList) : skipped = [] ∧ a = b := by
    cases skipped with
    | nil =>
      have hquotes : quote a.toList ++ [] = quote b.toList ++ [] := by simpa using h
      exact ⟨rfl, (quote_append_inj hquotes).1⟩
    | cons first skipped => exact absurd (List.cons.inj h).2 (quote_ne_append_quote _ _ skipped)
  rcases List.append_eq_append_iff.mp h with ⟨skipped, rfl, hends⟩ | ⟨skipped, rfl, hends⟩
  · obtain ⟨rfl, rfl⟩ := hsame hends
    exact ⟨(List.append_nil x).symm, rfl⟩
  · obtain ⟨rfl, rfl⟩ := hsame hends
    exact ⟨List.append_nil y, rfl⟩

/-- The text of a removal shows the expression of the container and what is removed from it. -/
theorem Statement.remove_chars_inj {container other : List Segment} {leaf leaf' : String}
    (h : (remove container leaf).chars = (remove other leaf').chars) :
    Path.accessorChars container = Path.accessorChars other ∧ leaf = leaf' := by
  have hsplit (container : List Segment) (leaf : String) : (remove container leaf).chars =
      (Path.accessorChars container ++ ".remove".toList) ++ '(' :: quote leaf.toList ++ [')'] := by
    change Path.accessorChars container ++ ".remove(".toList ++ quote leaf.toList ++ [')'] = _
    simp
  rw [hsplit, hsplit] at h
  obtain ⟨hbefore, rfl⟩ := append_quote_inj (List.append_cancel_right h)
  exact ⟨List.append_cancel_right hbefore, rfl⟩

end IndexFeed.Script
