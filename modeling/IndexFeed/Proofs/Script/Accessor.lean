import IndexFeed.Proofs.Path.Parts
import IndexFeed.Proofs.Text.Delimited

/-! The expressions that reach fields: where keys avoid dots and brackets, an expression shows its
segments. -/
namespace IndexFeed
open Text (Delimited Stops stops_cons)

/-- The characters of words: ASCII letters, digits and the underscore. -/
def Text.isWord (c : Char) : Bool := c.isAlphanum || c == '_'

/-- The characters with which an expression goes on whose keys are of a class: those of the class, a dot
and an opening bracket. -/
def Text.continues (p : Char → Bool) (c : Char) : Bool := p c || c == '.' || c == '['

/-- The characters with which an expression goes on: those of words, a dot and an opening bracket. -/
def Text.goesOn (c : Char) : Bool := isWord c || c == '.' || c == '['

namespace Segment

/-- A key that is a word. Positions are digits in brackets and need no condition. -/
def IsWord : Segment → Prop
  | key name => name.toList ≠ [] ∧ ∀ c ∈ name.toList, Text.isWord c = true
  | index _ => True

/-- A key whose characters are of a class. Positions need no condition. -/
def Within (p : Char → Bool) : Segment → Prop
  | key name => ∀ c ∈ name.toList, p c = true
  | index _ => True

private theorem IsWord.within {segment : Segment} (h : segment.IsWord) : segment.Within Text.isWord := by
  cases segment with
  | key name => exact h.2
  | index _ => trivial

private theorem digits_delimited : Delimited (fun _ => True) (Stops Char.isDigit) (Nat.toDigits 10) := by
  have hdigits (n : Nat) : ∀ c ∈ Nat.toDigits 10 n, c.isDigit = true :=
    fun _ hc => Nat.isDigit_of_mem_toDigits (by decide) (by decide) hc
  intro a b t u _ _ ht hu h
  obtain ⟨he, hr⟩ := Text.delimited_run Char.isDigit _ _ t u (hdigits a) (hdigits b) ht hu h
  exact ⟨by rw [← Nat.ofDigitChars_ten_toDigits (n := a), he, Nat.ofDigitChars_ten_toDigits], hr⟩

variable {p : Char → Bool}

private theorem delimited_access (p : Char → Bool) : Delimited (Within p) (Stops p) access := by
  intro a b t u ha hb ht hu h
  cases a with
  | key name =>
    cases b with
    | key other =>
      obtain ⟨he, hr⟩ := Text.delimited_run p _ _ t u ha hb ht hu (List.cons.inj h).2
      exact ⟨by rw [String.toList_inj.mp he], hr⟩
    | index n => simp [access] at h
  | index m =>
    cases b with
    | key other => simp [access] at h
    | index n =>
      have hbracket (t : List Char) : Stops Char.isDigit (']' :: t) := stops_cons.mpr (by decide)
      have hd : Nat.toDigits 10 m ++ ']' :: t = Nat.toDigits 10 n ++ ']' :: u := by
        simpa [access] using h
      obtain ⟨rfl, hr⟩ := digits_delimited m n _ _ trivial trivial (hbracket t) (hbracket u) hd
      exact ⟨rfl, (List.cons.inj hr).2⟩

/-- Every segment starts with a dot or a bracket. -/
theorem access_head (segment : Segment) :
    ∃ c rest, segment.access = c :: rest ∧ (c = '.' ∨ c = '[') := by
  cases segment with
  | key name => exact ⟨'.', _, rfl, .inl rfl⟩
  | index n => exact ⟨'[', _, rfl, .inr rfl⟩

private theorem stops_accesses (hdot : p '.' = false) (hbracket : p '[' = false)
    (segments : List Segment) {t : List Char} (ht : Stops (Text.continues p) t) :
    Stops p (segments.flatMap access ++ t) := by
  cases segments with
  | nil =>
    intro c hc
    have := ht c hc
    simp_all [Text.continues]
  | cons segment segments =>
    obtain ⟨c, rest, he, rfl | rfl⟩ := segment.access_head
    · simp [he, stops_cons, hdot]
    · simp [he, stops_cons, hbracket]

/-- Segments one after the other, where no key has a dot or a bracket. -/
theorem delimited_accesses (hdot : p '.' = false) (hbracket : p '[' = false) :
    Delimited (fun segments : List Segment => ∀ segment ∈ segments, segment.Within p)
      (Stops (Text.continues p)) (fun segments => segments.flatMap access) := by
  have hstarts (segment : Segment) (rest : List Char) {t : List Char} (ht : Stops (Text.continues p) t) :
      segment.access ++ rest ≠ t := by
    rintro rfl
    obtain ⟨c, rest', he, rfl | rfl⟩ := segment.access_head <;>
      simp [he, stops_cons, Text.continues] at ht
  intro xs
  induction xs with
  | nil =>
    intro ys t u _ _ ht _ h
    cases ys with
    | nil => exact ⟨rfl, h⟩
    | cons y ys => exact absurd (by simpa using h.symm) (hstarts y (ys.flatMap access ++ u) ht)
  | cons x xs ih =>
    intro ys t u hx hy ht hu h
    cases ys with
    | nil => exact absurd (by simpa using h) (hstarts x (xs.flatMap access ++ t) hu)
    | cons y ys =>
      simp only [List.flatMap_cons, List.append_assoc] at h
      obtain ⟨rfl, hr⟩ := delimited_access p x y _ _ (hx x (by simp)) (hy y (by simp))
        (stops_accesses hdot hbracket xs ht) (stops_accesses hdot hbracket ys hu) h
      obtain ⟨rfl, he⟩ := ih ys t u (fun s hs => hx s (by simp [hs])) (fun s hs => hy s (by simp [hs]))
        ht hu hr
      exact ⟨rfl, he⟩

end Segment

namespace Path

/-- A path whose parts are words. -/
def OnlyWords (raw : String) : Prop := ∀ part ∈ parts raw, ∀ c ∈ part, Text.isWord c = true

instance (raw : String) : Decidable (OnlyWords raw) :=
  decidable_of_decidable_of_iff
    (by simp [OnlyWords] : (parts raw).all (fun part => part.all Text.isWord) = true ↔ OnlyWords raw)

/-- An expression shows its segments, unless what follows it could be part of it. -/
theorem delimited_accessor : Delimited (fun segments => ∀ segment ∈ segments, segment.IsWord)
    (Stops Text.goesOn) accessorChars := by
  intro a b t u ha hb ht hu h
  simp only [accessorChars, List.append_assoc, List.append_cancel_left_eq] at h
  exact Segment.delimited_accesses rfl rfl a b t u (fun segment hs => (ha segment hs).within)
    (fun segment hs => (hb segment hs).within) ht hu h

end Path
end IndexFeed
