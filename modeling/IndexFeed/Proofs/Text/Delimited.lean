import IndexFeed.Json.Basic

/-! Texts that can be told apart from whatever follows them, alone and in lists with a separator. -/
namespace IndexFeed.Text

/-- A text that is empty or starts with a character outside a class. -/
def Stops (p : Char → Bool) (t : List Char) : Prop := ∀ c ∈ t.head?, p c = false

/-- The texts of two values, each with something after it, agree only if the values and what comes
after them do. The values are those in `P`, and what comes after them is one of `F`. -/
def Delimited {α : Type} (P : α → Prop) (F : List Char → Prop) (f : α → List Char) : Prop :=
  ∀ a b t u, P a → P b → F t → F u → f a ++ t = f b ++ u → a = b ∧ t = u

theorem stops_nil (p : Char → Bool) : Stops p [] := by simp [Stops]

/-- The first character decides where a run stops. -/
theorem stops_cons {p : Char → Bool} {c : Char} {t : List Char} : Stops p (c :: t) ↔ p c = false := by
  simp [Stops]

/-- A run of characters of a class ends where the next one is outside it. -/
theorem delimited_run (p : Char → Bool) :
    Delimited (fun run => ∀ c ∈ run, p c = true) (Stops p) (fun run : List Char => run) := by
  have htaken (run rest : List Char) (hr : ∀ c ∈ run, p c = true) (hs : Stops p rest) :
      (run ++ rest).takeWhile p = run := by
    rw [List.takeWhile_append_of_pos hr]
    cases rest with
    | nil => simp
    | cons c rest => simp [stops_cons.mp hs]
  intro a b t u ha hb ht hu h
  have he : a = b := by rw [← htaken a t ha ht, h, htaken b u hb hu]
  exact ⟨he, List.append_cancel_left (he ▸ h)⟩

variable {α : Type} {P : α → Prop} {F : List Char → Prop} {f : α → List Char}

/-- Values with a separator between each two: what follows the last one is not the separator. -/
theorem Delimited.intercalate (hf : Delimited P F f) (sep : Char) (hsep : ∀ t, F (sep :: t)) :
    Delimited (fun xs => xs ≠ [] ∧ ∀ x ∈ xs, P x) (fun t => F t ∧ t.head? ≠ some sep)
      (fun xs => List.intercalate [sep] (xs.map f)) := by
  intro xs
  induction xs with
  | nil => exact fun _ _ _ h => absurd rfl h.1
  | cons x xs ih =>
    intro ys t u hx hy ht hu h
    obtain ⟨y, ys, rfl⟩ := List.exists_cons_of_ne_nil hy.1
    have hpx := hx.2 x (by simp)
    have hpy := hy.2 y (by simp)
    cases xs with
    | nil =>
      cases ys with
      | nil =>
        obtain ⟨rfl, he⟩ := hf x y t u hpx hpy ht.1 hu.1 (by simpa using h)
        exact ⟨rfl, he⟩
      | cons y' ys =>
        obtain ⟨-, he⟩ := hf x y t _ hpx hpy ht.1 (hsep _) (by simpa using h)
        exact absurd (by rw [he]; rfl) ht.2
    | cons x' xs =>
      cases ys with
      | nil =>
        obtain ⟨-, he⟩ := hf x y _ u hpx hpy (hsep _) hu.1 (by simpa using h)
        exact absurd (by rw [← he]; rfl) hu.2
      | cons y' ys =>
        obtain ⟨rfl, he⟩ := hf x y _ _ hpx hpy (hsep _) (hsep _) (by simpa using h)
        have hrest := List.cons.inj he
        obtain ⟨hl, hr⟩ := ih (y' :: ys) t u ⟨by simp, fun z hz => hx.2 z (by simp [hz])⟩
          ⟨by simp, fun z hz => hy.2 z (by simp [hz])⟩ ht hu hrest.2
        exact ⟨by rw [hl], hr⟩

/-- What comes after the first of several values, when a character closes the list. -/
theorem intercalate_first (f : α → List Char) (sep close : Char) (x : α) (xs : List α) (t : List Char) :
    ∃ c rest, (c = sep ∨ c = close) ∧
      List.intercalate [sep] ((x :: xs).map f) ++ close :: t = f x ++ c :: rest := by
  cases xs with
  | nil => exact ⟨close, t, .inr rfl, by simp⟩
  | cons y ys => exact ⟨sep, List.intercalate [sep] ((y :: ys).map f) ++ close :: t, .inl rfl, by simp⟩

/-- A list with separators, closed by a character that none of its values starts with. -/
theorem Delimited.enclosed (hf : Delimited P F f) (sep close : Char) (hsep : ∀ t, F (sep :: t))
    (hclose : ∀ t, F (close :: t)) (hne : close ≠ sep)
    (hstart : ∀ a t, P a → (f a ++ t).head? ≠ some close) :
    Delimited (fun xs : List α => ∀ x ∈ xs, P x) (fun _ => True)
      (fun xs => List.intercalate [sep] (xs.map f) ++ [close]) := by
  intro xs ys t u hx hy _ _ h
  simp only [List.append_assoc, List.singleton_append] at h
  cases xs with
  | nil =>
    cases ys with
    | nil => simpa using h
    | cons y ys =>
      obtain ⟨c, rest, -, he⟩ := intercalate_first f sep close y ys u
      exact absurd (by rw [← he, ← h]; rfl) (hstart y (c :: rest) (hy y (by simp)))
  | cons x xs =>
    cases ys with
    | nil =>
      obtain ⟨c, rest, -, he⟩ := intercalate_first f sep close x xs t
      exact absurd (by rw [← he, h]; rfl) (hstart x (c :: rest) (hx x (by simp)))
    | cons y ys =>
      have hfollows (rest : List Char) : F (close :: rest) ∧ (close :: rest).head? ≠ some sep :=
        ⟨hclose rest, by simpa using hne⟩
      obtain ⟨hl, hr⟩ := hf.intercalate sep hsep _ _ _ _ ⟨by simp, hx⟩ ⟨by simp, hy⟩ (hfollows t)
        (hfollows u) h
      exact ⟨hl, (List.cons.inj hr).2⟩

end IndexFeed.Text
