import Mathlib.Data.List.Basic
import Mathlib.Data.List.TakeWhile
import IndexFeed.Text.Basic

/-! Text that is cut: into pieces at a separator, and at its ends where it is trimmed. -/
namespace IndexFeed.Text

/-- No piece has a character in it at which the text is cut. -/
theorem splitOnP_uncut (cuts : Char → Bool) (text : List Char) :
    ∀ piece ∈ text.splitOnP cuts, ∀ c ∈ piece, cuts c = false := by
  induction text with
  | nil => simp [List.splitOnP_nil]
  | cons c text ih =>
    rw [List.splitOnP_cons_eq_if_modifyHead]
    split
    · exact List.forall_mem_cons.mpr ⟨fun _ hmem => absurd hmem List.not_mem_nil, ih⟩
    · next huncut =>
      obtain ⟨piece, pieces, hcut⟩ := List.exists_cons_of_ne_nil (List.splitOnP_ne_nil cuts text)
      rw [hcut] at ih ⊢
      obtain ⟨hfirst, hlater⟩ := List.forall_mem_cons.mp ih
      have hlonger : ∀ d ∈ c :: piece, cuts d = false :=
        List.forall_mem_cons.mpr ⟨Bool.eq_false_iff.mpr huncut, hfirst⟩
      exact List.forall_mem_cons.mpr ⟨hlonger, hlater⟩

/-- No piece has the separator in it. -/
theorem notMem_of_mem_splitOn {c : Char} {text piece : List Char} (h : piece ∈ text.splitOn c) :
    c ∉ piece := by
  rw [List.splitOn_eq_splitOnP] at h
  intro hmem
  exact absurd (splitOnP_uncut _ text piece h c hmem) (by simp)

variable {drop : Char → Bool} {text before middle after : List Char}

/-- What is trimmed away stands before and after what is left, and all of it is to be dropped. -/
theorem exists_trimBy (drop : Char → Bool) (text : List Char) :
    ∃ before after, text = before ++ trimBy drop text ++ after ∧
      (∀ c ∈ before, drop c = true) ∧ ∀ c ∈ after, drop c = true := by
  have hfront := List.takeWhile_append_dropWhile (p := drop) (l := text)
  have hback := List.takeWhile_append_dropWhile (p := drop) (l := (text.dropWhile drop).reverse)
  refine ⟨text.takeWhile drop, ((text.dropWhile drop).reverse.takeWhile drop).reverse, ?_, ?_, ?_⟩
  · rw [List.append_assoc, trimBy, ← List.reverse_append, hback, List.reverse_reverse, hfront]
  · exact fun c hmem => List.mem_takeWhile_imp hmem
  · exact fun c hmem => List.mem_takeWhile_imp (List.mem_reverse.mp hmem)

private theorem dropWhile_kept (hgiven : middle ≠ []) (hkept : ∀ c ∈ middle, drop c = false)
    (after : List Char) : (middle ++ after).dropWhile drop = middle ++ after := by
  obtain ⟨c, middle, rfl⟩ := List.exists_cons_of_ne_nil hgiven
  exact List.dropWhile_cons_of_neg (by simp [hkept c List.mem_cons_self])

/-- Text with something to keep at its two ends is found again between what is dropped. -/
theorem trimBy_append (hdropped : ∀ c ∈ before, drop c = true) (hdropped' : ∀ c ∈ after, drop c = true)
    (hgiven : middle ≠ []) (hkept : ∀ c ∈ middle, drop c = false) :
    trimBy drop (before ++ middle ++ after) = middle := by
  have hback : ∀ c ∈ after.reverse, drop c = true := fun c hmem => hdropped' c (List.mem_reverse.mp hmem)
  have hkeep : ∀ c ∈ middle.reverse, drop c = false := fun c hmem => hkept c (List.mem_reverse.mp hmem)
  have hturned := dropWhile_kept (mt List.reverse_eq_nil_iff.mp hgiven) hkeep []
  rw [List.append_nil] at hturned
  rw [trimBy, List.append_assoc, List.dropWhile_append_of_pos hdropped, dropWhile_kept hgiven hkept,
    List.reverse_append, List.dropWhile_append_of_pos hback, hturned, List.reverse_reverse]

/-- Nothing is left of a text if all of it is to be dropped. -/
theorem trimBy_eq_nil_iff : trimBy drop text = [] ↔ ∀ c ∈ text, drop c = true := by
  constructor
  · intro hnothing
    obtain ⟨before, after, hwhole, hdropped, hdropped'⟩ := exists_trimBy drop text
    rw [hnothing, List.append_nil] at hwhole
    rw [hwhole]
    exact List.forall_mem_append.mpr ⟨hdropped, hdropped'⟩
  · intro hdropped
    rw [trimBy, List.dropWhile_eq_nil_iff.mpr hdropped]
    rfl

end IndexFeed.Text
