import IndexFeed.Proofs.Number.Alphabet
import IndexFeed.Proofs.Script.Unquote
import IndexFeed.Proofs.Text.Delimited
import IndexFeed.Proofs.Traverse

/-! The texts of literals: each literal ends where its text does, whatever is written after it. -/
namespace IndexFeed.Script
open Text (Delimited Stops stops_cons)

/-- A numeral is written in the characters of numbers. -/
def Scalar.SpellsNumbers : Scalar → Prop
  | numeral text => text.toList ≠ [] ∧ ∀ c ∈ text.toList, Number.inText c = true
  | _ => True

/-- All numerals in a literal are written in the characters of numbers. -/
def Literal.SpellsNumbers : Literal → Prop
  | scalar value => value.SpellsNumbers
  | list items => ∀ item ∈ items, item.SpellsNumbers
  | map entries => ∀ entry ∈ entries, entry.2.SpellsNumbers

/-- A number's text is a numeral. -/
theorem Scalar.spellsNumbers_text (n : Number) : (numeral n.text).SpellsNumbers := by
  simp only [SpellsNumbers, Number.text, String.toList_ofList]
  exact ⟨n.chars_ne_nil, n.inText_chars⟩

namespace Scalar

private theorem spellsNumbers_of_ofJson {x : Json} {value : Scalar} (h : ofJson? x = some value) :
    value.SpellsNumbers := by
  cases x <;> simp only [ofJson?, Option.some.injEq, reduceCtorEq] at h <;> subst h
  case number n => exact spellsNumbers_text n
  all_goals trivial

private theorem numeral_head {text : String} (hp : (numeral text).SpellsNumbers) {c : Char}
    {t u : List Char} (h : text.toList ++ t = c :: u) : Number.inText c = true := by
  obtain ⟨hne, hc⟩ := hp
  obtain ⟨d, rest, he⟩ := List.exists_cons_of_ne_nil hne
  rw [he, List.cons_append] at h
  rw [← (List.cons.inj h).1]
  exact hc d (by simp [he])

/-- The marks of lists and maps start no scalar. -/
theorem head_chars {value : Scalar} (hp : value.SpellsNumbers) {c : Char} {t u : List Char}
    (h : value.chars ++ t = c :: u) : c ∉ ['[', ']', ':', ','] := by
  cases value with
  | null => rw [← (List.cons.inj h).1]; decide
  | bool value => cases value <;> rw [← (List.cons.inj h).1] <;> decide
  | numeral text =>
    have hmarks : ∀ c ∈ ['[', ']', ':', ','], Number.inText c = false := by simp [Number.inText]
    intro hm
    exact absurd (numeral_head hp h) (by simp [hmarks c hm])
  | string text => rw [← (List.cons.inj h).1]; decide

private theorem not_numeral {text : String} (hp : (numeral text).SpellsNumbers) {c : Char}
    (hc : Number.inText c = false) {t u : List Char} : text.toList ++ t ≠ c :: u := by
  intro h
  exact absurd (numeral_head hp h) (by simp [hc])

/-- Scalars can be told apart from what follows them, unless that goes on like a number. -/
theorem delimited_chars : Delimited SpellsNumbers (Stops Number.inText) chars := by
  have hletters : ∀ c ∈ ['n', 't', 'f', '"'], Number.inText c = false := by simp [Number.inText]
  intro a b t u ha hb ht hu h
  cases a with
  | numeral x =>
    cases b with
    | numeral y =>
      obtain ⟨he, hr⟩ := Text.delimited_run Number.inText _ _ t u ha.2 hb.2 ht hu h
      exact ⟨by rw [String.toList_inj.mp he], hr⟩
    | null => exact absurd h (not_numeral ha (hletters 'n' (by simp)))
    | bool y => cases y <;> exact absurd h (not_numeral ha (hletters _ (by simp)))
    | string y => exact absurd h (not_numeral ha (hletters '"' (by simp)))
  | string x =>
    cases b with
    | string y =>
      obtain ⟨rfl, hr⟩ := quote_append_inj h
      exact ⟨rfl, hr⟩
    | numeral y => exact absurd h.symm (not_numeral hb (hletters '"' (by simp)))
    | null => simp [chars, quote] at h
    | bool y => cases y <;> simp [chars, quote] at h
  | null =>
    cases b with
    | null => exact ⟨rfl, List.append_cancel_left h⟩
    | numeral y => exact absurd h.symm (not_numeral hb (hletters 'n' (by simp)))
    | bool y => cases y <;> simp [chars] at h
    | string y => simp [chars, quote] at h
  | bool x =>
    cases b with
    | bool y => cases x <;> cases y <;> simp_all [chars]
    | numeral y => cases x <;> exact absurd h.symm (not_numeral hb (hletters _ (by simp)))
    | null => cases x <;> simp [chars] at h
    | string y => cases x <;> simp [chars, quote] at h

end Scalar

namespace Literal

/-- The numerals in the literal of a value are texts of numbers. -/
theorem spellsNumbers_of_ofJson {x : Json} {literal : Literal} (h : ofJson? x = some literal) :
    literal.SpellsNumbers := by
  cases x with
  | array items =>
    obtain ⟨values, hv, rfl⟩ := Option.map_eq_some_iff.mp h
    intro value hm
    obtain ⟨item, -, hi⟩ := exists_of_mem_mapM hv hm
    exact Scalar.spellsNumbers_of_ofJson hi
  | object members =>
    obtain ⟨entries, he, rfl⟩ := Option.map_eq_some_iff.mp h
    intro entry hm
    obtain ⟨member, -, hi⟩ := exists_of_mem_mapM he hm
    obtain ⟨value, hv, rfl⟩ := Option.map_eq_some_iff.mp hi
    exact Scalar.spellsNumbers_of_ofJson hv
  | null | bool _ | number _ | string _ =>
    simp only [ofJson?] at h
    obtain ⟨value, hv, rfl⟩ := Option.map_eq_some_iff.mp h
    exact Scalar.spellsNumbers_of_ofJson hv

private def entryChars (entry : String × Scalar) : List Char :=
  quote entry.1.toList ++ ':' :: entry.2.chars

private theorem list_append (items : List Scalar) (t : List Char) :
    chars (list items) ++ t = '[' :: (List.intercalate [','] (items.map Scalar.chars) ++ ']' :: t) := by
  simp [chars, commas]

private theorem map_append (entry : String × Scalar) (rest : List (String × Scalar)) (t : List Char) :
    chars (map (entry :: rest)) ++ t =
      '[' :: (List.intercalate [','] ((entry :: rest).map entryChars) ++ ']' :: t) := by
  rw [show chars (map (entry :: rest)) =
    '[' :: commas ((entry :: rest).map entryChars) ++ [']'] from rfl]
  simp [commas]

private theorem delimited_entry :
    Delimited (fun entry => entry.2.SpellsNumbers) (Stops Number.inText) entryChars := by
  intro (k, x) (l, y) t u hx hy ht hu h
  simp only [entryChars, List.append_assoc, List.cons_append] at h
  obtain ⟨rfl, hr⟩ := quote_append_inj h
  obtain ⟨rfl, he⟩ := Scalar.delimited_chars x y t u hx hy ht hu (List.cons.inj hr).2
  exact ⟨rfl, he⟩

private theorem stops_comma (t : List Char) : Stops Number.inText (',' :: t) :=
  stops_cons.mpr (by decide)

private theorem stops_bracket (t : List Char) : Stops Number.inText (']' :: t) :=
  stops_cons.mpr (by decide)

private theorem items_delimited : Delimited (fun items : List Scalar => ∀ item ∈ items, item.SpellsNumbers)
    (fun _ => True) (fun items => List.intercalate [','] (items.map Scalar.chars) ++ [']']) := by
  refine Scalar.delimited_chars.enclosed ',' ']' stops_comma stops_bracket (by decide) ?_
  intro value t hp h
  obtain ⟨rest, he⟩ := List.head?_eq_some_iff.mp h
  exact absurd (by simp) (Scalar.head_chars hp he)

private theorem entries_delimited :
    Delimited (fun entries : List (String × Scalar) => ∀ entry ∈ entries, entry.2.SpellsNumbers)
      (fun _ => True) (fun entries => List.intercalate [','] (entries.map entryChars) ++ [']']) := by
  refine delimited_entry.enclosed ',' ']' stops_comma stops_bracket (by decide) ?_
  intro entry t _ h
  simp [entryChars, quote] at h

private theorem list_ne_map {items : List Scalar} (hp : ∀ item ∈ items, item.SpellsNumbers)
    (entries : List (String × Scalar)) (t u : List Char) :
    chars (list items) ++ t ≠ chars (map entries) ++ u := by
  have hcolon (t : List Char) : Stops Number.inText (':' :: t) := stops_cons.mpr (by decide)
  intro h
  rw [list_append] at h
  cases entries with
  | nil =>
    have hm := (List.cons.inj h).2
    cases items with
    | nil => simp at hm
    | cons item items =>
      obtain ⟨c, rest, -, he⟩ := Text.intercalate_first Scalar.chars ',' ']' item items t
      exact absurd (by simp) (Scalar.head_chars (hp item (by simp)) (he.symm.trans hm))
  | cons entry entries =>
    rw [map_append] at h
    obtain ⟨d, follows, -, hf⟩ := Text.intercalate_first entryChars ',' ']' entry entries u
    have hm := (List.cons.inj h).2.trans hf
    rw [entryChars, List.append_assoc, List.cons_append] at hm
    cases items with
    | nil => simp [quote] at hm
    | cons item items =>
      obtain ⟨c, rest, hc, he⟩ := Text.intercalate_first Scalar.chars ',' ']' item items t
      have hstops : Stops Number.inText (c :: rest) := by
        rcases hc with rfl | rfl
        · exact stops_comma rest
        · exact stops_bracket rest
      -- The first item would be the first key; what comes after them differs.
      obtain ⟨-, hr⟩ := Scalar.delimited_chars item (.string entry.1) _ _ (hp item (by simp)) trivial
        hstops (hcolon _) (he.symm.trans hm)
      rcases hc with rfl | rfl <;> simp at hr

private theorem maps_delimited (es fs : List (String × Scalar)) (t u : List Char)
    (he : ∀ entry ∈ es, entry.2.SpellsNumbers) (hf : ∀ entry ∈ fs, entry.2.SpellsNumbers)
    (h : chars (map es) ++ t = chars (map fs) ++ u) : es = fs ∧ t = u := by
  have hcolon (entry : String × Scalar) (entries : List (String × Scalar)) (t u : List Char) :
      chars (map []) ++ t ≠ chars (map (entry :: entries)) ++ u := by
    rw [map_append]
    obtain ⟨d, follows, -, hf⟩ := Text.intercalate_first entryChars ',' ']' entry entries u
    rw [hf]
    simp [chars, entryChars, quote]
  cases es with
  | nil =>
    cases fs with
    | nil => exact ⟨rfl, List.append_cancel_left h⟩
    | cons entry fs => exact absurd h (hcolon entry fs t u)
  | cons entry es =>
    cases fs with
    | nil => exact absurd h.symm (hcolon entry es u t)
    | cons other fs =>
      rw [map_append, map_append] at h
      exact entries_delimited _ _ t u he hf trivial trivial (by simpa using h)

private theorem scalar_ne_bracket {value : Scalar} (hp : value.SpellsNumbers) (t u : List Char) :
    value.chars ++ t ≠ '[' :: u :=
  fun h => absurd (by simp) (Scalar.head_chars hp h)

private theorem map_head (entries : List (String × Scalar)) (t : List Char) :
    ∃ rest, chars (map entries) ++ t = '[' :: rest := by
  cases entries with
  | nil => exact ⟨_, rfl⟩
  | cons entry entries => exact ⟨_, map_append entry entries t⟩

/-- Literals can be told apart from what follows them, unless that goes on like a number. -/
theorem delimited_chars : Delimited SpellsNumbers (Stops Number.inText) chars := by
  intro a b t u ha hb ht hu h
  cases a with
  | scalar x =>
    cases b with
    | scalar y =>
      obtain ⟨rfl, he⟩ := Scalar.delimited_chars x y t u ha hb ht hu h
      exact ⟨rfl, he⟩
    | list ys => exact absurd (h.trans (list_append ys u)) (scalar_ne_bracket ha t _)
    | map fs =>
      obtain ⟨rest, hf⟩ := map_head fs u
      exact absurd (h.trans hf) (scalar_ne_bracket ha t rest)
  | list xs =>
    cases b with
    | scalar y => exact absurd (h.symm.trans (list_append xs t)) (scalar_ne_bracket hb u _)
    | list ys =>
      rw [list_append, list_append] at h
      obtain ⟨rfl, he⟩ := items_delimited xs ys t u ha hb trivial trivial (by simpa using h)
      exact ⟨rfl, he⟩
    | map fs => exact absurd h (list_ne_map ha fs t u)
  | map es =>
    cases b with
    | scalar y =>
      obtain ⟨rest, he⟩ := map_head es t
      exact absurd (h.symm.trans he) (scalar_ne_bracket hb u rest)
    | list ys => exact absurd h.symm (list_ne_map hb es u t)
    | map fs =>
      obtain ⟨rfl, he⟩ := maps_delimited es fs t u ha hb h
      exact ⟨rfl, he⟩

end Literal
end IndexFeed.Script
