import IndexFeed.Proofs.Mutator.Effect
import IndexFeed.Proofs.Script.Accessor

/-! Scripts have one reading: where all keys are words, the text of a script shows its statements. -/
namespace IndexFeed
open Script (Statement)
open Text (Delimited Stops stops_cons)

namespace Script.Statement

/-- The keys on the way to what a statement changes are words. -/
def OnlyWords (statement : Statement) : Prop := ∀ segment ∈ statement.field, segment.IsWord

/-- Whether a statement starts with a condition. -/
def guarded : Statement → Bool
  | addFirst .. | addNext .. => true
  | _ => false

/-- The segments of the first expression in a statement; the name of a method counts as a key. -/
def subject : Statement → List Segment
  | assign field _ | increase field _ | append field _ | subtract field _ | addFirst field _ => field
  | remove container _ => container ++ [.key "remove"]
  | addNext field _ => field ++ [.key "contains"]

private def making (list element : List Char) : List Char :=
  " \x7b  ".toList ++ list ++ " = [".toList ++ element ++ "];\x7d else ".toList ++
    addUnlessThere list element

private def adding (list element : List Char) : List Char :=
  ") \x7b  ".toList ++ list ++ " += ".toList ++ element ++ [';', '\x7d']

private def predicate : Statement → List Char
  | assign _ value => ' ' :: '=' :: ' ' :: value.chars
  | remove _ leaf => '(' :: (quote leaf.toList ++ [')'])
  | increase _ amount => '+' :: '=' :: amount.toList
  | append _ element => '+' :: '=' :: quote element.toList
  | subtract _ element => '-' :: '=' :: quote element.toList
  | addFirst field element => ')' :: making (Path.accessorChars field) (quote element.toList)
  | addNext field element =>
    '(' :: (quote element.toList ++ ')' :: adding (Path.accessorChars field) (quote element.toList))

private def opening (guarded : Bool) : List Char := if guarded then ['i', 'f', ' ', '(', '!'] else []

private theorem accessorChars_key (field : List Segment) (name : String) :
    Path.accessorChars (field ++ [.key name]) = Path.accessorChars field ++ '.' :: name.toList := by
  simp [Path.accessorChars, Segment.access]

private theorem chars_eq (statement : Statement) :
    statement.chars = opening statement.guarded ++ Path.accessorChars statement.subject ++
      statement.predicate := by
  cases statement with
  | assign field value =>
    change Path.accessorChars field ++ " = ".toList ++ value.chars = _
    simp [opening, guarded, subject, predicate]
  | remove container leaf =>
    change Path.accessorChars container ++ ".remove(".toList ++ quote leaf.toList ++ [')'] = _
    simp [opening, guarded, subject, predicate, accessorChars_key]
  | increase field amount =>
    change Path.accessorChars field ++ "+=".toList ++ amount.toList = _
    simp [opening, guarded, subject, predicate]
  | append field element =>
    change Path.accessorChars field ++ "+=".toList ++ quote element.toList = _
    simp [opening, guarded, subject, predicate]
  | subtract field element =>
    change Path.accessorChars field ++ "-=".toList ++ quote element.toList = _
    simp [opening, guarded, subject, predicate]
  | addFirst field element =>
    change "if (!".toList ++ Path.accessorChars field ++ ") \x7b  ".toList ++
      Path.accessorChars field ++ " = [".toList ++ quote element.toList ++
      "];\x7d else ".toList ++ addUnlessThere (Path.accessorChars field) (quote element.toList) = _
    simp only [opening, guarded, subject, predicate]
    unfold making
    simp
  | addNext field element =>
    change addUnlessThere (Path.accessorChars field) (quote element.toList) = _
    simp only [opening, guarded, subject, predicate]
    unfold addUnlessThere adding
    simp [accessorChars_key]

private theorem stops_predicate (statement : Statement) (t : List Char) :
    Stops Text.goesOn (statement.predicate ++ t) := by
  cases statement <;> exact stops_cons.mpr (by decide)

private theorem isWord_subject {statement : Statement} (h : statement.OnlyWords) :
    ∀ segment ∈ statement.subject, segment.IsWord := by
  have hmethods : ∀ name ∈ ["remove", "contains"], (Segment.key name).IsWord := by
    intro name hn
    simp only [List.mem_cons, List.not_mem_nil, or_false] at hn
    rcases hn with rfl | rfl <;> exact ⟨by decide, List.all_eq_true.mp (by decide)⟩
  intro segment hs
  cases statement with
  | remove container leaf =>
    rcases List.mem_append.mp hs with hs | hs
    · exact h segment hs
    · rw [List.mem_singleton.mp hs]
      exact hmethods "remove" (by simp)
  | addNext field element =>
    rcases List.mem_append.mp hs with hs | hs
    · exact h segment hs
    · rw [List.mem_singleton.mp hs]
      exact hmethods "contains" (by simp)
  | _ => exact h segment hs

private theorem subject_eq {a b : Statement} {t u : List Char} (ha : a.OnlyWords) (hb : b.OnlyWords)
    (h : a.chars ++ t = b.chars ++ u) :
    a.guarded = b.guarded ∧ a.subject = b.subject ∧ a.predicate ++ t = b.predicate ++ u := by
  have hroot (segments : List Segment) : ∃ rest, Path.accessorChars segments = 'c' :: rest := ⟨_, rfl⟩
  rw [chars_eq, chars_eq] at h
  simp only [List.append_assoc] at h
  have hg : a.guarded = b.guarded := by
    obtain ⟨r, hr⟩ := hroot a.subject
    obtain ⟨s, hs⟩ := hroot b.subject
    cases hga : a.guarded <;> cases hgb : b.guarded <;> simp_all [opening]
  rw [hg, List.append_cancel_left_eq] at h
  obtain ⟨hs, hp⟩ := Path.delimited_accessor _ _ _ _ (isWord_subject ha) (isWord_subject hb)
    (stops_predicate a t) (stops_predicate b u) h
  exact ⟨hg, hs, hp⟩

private theorem repeating_quote (before : List Char) (following : String → List Char) {a b : String}
    {t u : List Char} (h : before ++ (quote a.toList ++ following a) ++ t =
      before ++ (quote b.toList ++ following b) ++ u) : a = b ∧ t = u := by
  have hq := h
  simp only [List.append_assoc, List.append_cancel_left_eq] at hq
  obtain ⟨rfl, -⟩ := quote_append_inj hq
  exact ⟨rfl, List.append_cancel_left h⟩

private theorem making_eq (list : List Char) (element : String) :
    making list (quote element.toList) = (" \x7b  ".toList ++ list ++ " = [".toList) ++
      (quote element.toList ++ ("];\x7d else ".toList ++ addUnlessThere list (quote element.toList))) := by
  unfold making
  simp

/-- Statements can be told apart from what follows them, unless that goes on like a number. -/
theorem delimited_chars :
    Delimited (fun statement => statement.SpellsNumbers ∧ statement.OnlyWords)
      (Stops Number.inText) chars := by
  intro a b t u ⟨hspellsA, hwordsA⟩ ⟨hspellsB, hwordsB⟩ ht hu h
  obtain ⟨hg, hs, hp⟩ := subject_eq hwordsA hwordsB h
  cases a with
  | assign field value =>
    cases b with
    | assign other value' =>
      obtain rfl : field = other := hs
      obtain ⟨rfl, he⟩ := Literal.delimited_chars value value' t u hspellsA hspellsB ht hu
        (by simpa [predicate] using hp)
      exact ⟨rfl, he⟩
    | _ => simp [predicate] at hp
  | remove container leaf =>
    cases b with
    | remove other leaf' =>
      obtain rfl : container = other := List.append_cancel_right hs
      have hq : quote leaf.toList ++ ')' :: t = quote leaf'.toList ++ ')' :: u := by
        simpa [predicate] using hp
      obtain ⟨rfl, hr⟩ := quote_append_inj hq
      exact ⟨rfl, (List.cons.inj hr).2⟩
    | addNext => simp [guarded] at hg
    | _ => simp [predicate] at hp
  | increase field amount =>
    cases b with
    | increase other amount' =>
      obtain rfl : field = other := hs
      obtain ⟨he, hr⟩ := Scalar.delimited_chars (.numeral amount) (.numeral amount') t u hspellsA hspellsB
        ht hu (by simpa [predicate, Scalar.chars] using hp)
      exact ⟨by rw [Scalar.numeral.inj he], hr⟩
    | append other element =>
      have he := (Scalar.delimited_chars (.numeral amount) (.string element) t u hspellsA trivial ht hu
        (by simpa [predicate, Scalar.chars] using hp)).1
      cases he
    | _ => simp [predicate] at hp
  | append field element =>
    cases b with
    | append other element' =>
      obtain rfl : field = other := hs
      have hq : quote element.toList ++ t = quote element'.toList ++ u := by
        simpa [predicate] using hp
      obtain ⟨rfl, hr⟩ := quote_append_inj hq
      exact ⟨rfl, hr⟩
    | increase other amount =>
      have he := (Scalar.delimited_chars (.string element) (.numeral amount) t u trivial hspellsB ht hu
        (by simpa [predicate, Scalar.chars] using hp)).1
      cases he
    | _ => simp [predicate] at hp
  | subtract field element =>
    cases b with
    | subtract other element' =>
      obtain rfl : field = other := hs
      have hq : quote element.toList ++ t = quote element'.toList ++ u := by
        simpa [predicate] using hp
      obtain ⟨rfl, hr⟩ := quote_append_inj hq
      exact ⟨rfl, hr⟩
    | _ => simp [predicate] at hp
  | addFirst field element =>
    cases b with
    | addFirst other element' =>
      obtain rfl : field = other := hs
      have hq := (List.cons.inj hp).2
      rw [making_eq, making_eq] at hq
      obtain ⟨rfl, hr⟩ :=
        repeating_quote _ (fun element => _ ++ addUnlessThere _ (quote element.toList)) hq
      exact ⟨rfl, hr⟩
    | _ => simp [predicate] at hp
  | addNext field element =>
    cases b with
    | addNext other element' =>
      obtain rfl : field = other := List.append_cancel_right hs
      have hq := (List.cons.inj hp).2
      obtain ⟨rfl, hr⟩ := repeating_quote [] (fun element => ')' :: adding _ (quote element.toList)) hq
      exact ⟨rfl, hr⟩
    | remove => simp [guarded] at hg
    | _ => simp [predicate] at hp

end Script.Statement

namespace Script

end Script

namespace Mutator

/-- A mutator whose paths consist of words. -/
def OnlyWords (m : Mutator) : Prop := ∀ raw ∈ m.paths, Path.OnlyWords raw

end Mutator
end IndexFeed
