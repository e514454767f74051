import Mathlib.Data.List.Forall2
import IndexFeed.Proofs.Mutator.Acceptance
import IndexFeed.Proofs.Script.LiteralText

/-! Literals and their values: which values have a literal, and which values share one. A text that starts
with a literal shows the value of the literal, and where the literal ends. -/
namespace IndexFeed
open Text (Stops)

namespace Json

/-- The values that a container holds; other values hold none. -/
def parts : Json → List Json
  | array items => items
  | object members => members.map Prod.snd
  | _ => []

/-- Equality of values whose numbers are known by their texts. Members stand in one order, each under
the same key. -/
inductive Alike : Json → Json → Prop
  | null : Alike null null
  | bool (value : Bool) : Alike (bool value) (bool value)
  | number {m n : Number} (htext : m.text = n.text) : Alike (number m) (number n)
  | string (value : String) : Alike (string value) (string value)
  | array {xs ys : List Json} (hitems : List.Forall₂ Alike xs ys) : Alike (array xs) (array ys)
  | object {xs ys : List (String × Json)} (hkeys : xs.map Prod.fst = ys.map Prod.fst)
      (hvalues : List.Forall₂ Alike (xs.map Prod.snd) (ys.map Prod.snd)) :
      Alike (object xs) (object ys)

private theorem isFlat_eq_false_iff (value : Json) :
    value.isFlat = false ↔ ∃ part ∈ value.parts, part.isContainer = true := by
  have hflat : value.isFlat = value.parts.all fun part => !part.isContainer := by
    cases value with
    | object members =>
      rw [parts, List.all_map]
      rfl
    | _ => rfl
  simp [hflat]

end Json

namespace Script

namespace Scalar

/-- Alike values are one scalar, or none of them is a scalar. -/
theorem ofJson_eq_of_alike {x y : Json} (h : x.Alike y) : ofJson? x = ofJson? y := by
  cases h with
  | number htext => rw [ofJson?, ofJson?, htext]
  | null | bool _ | string _ | array _ | object _ _ => rfl

/-- A scalar shows its value. -/
theorem alike_of_ofJson {x y : Json} {value : Scalar} (hx : ofJson? x = some value)
    (hy : ofJson? y = some value) : x.Alike y := by
  have hsame : ofJson? y = ofJson? x := hy.trans hx.symm
  cases x with
  | null =>
    cases y with
    | null => exact .null
    | _ => exact nomatch hsame
  | bool b =>
    cases y with
    | bool c =>
      obtain rfl := Scalar.bool.inj (Option.some.inj hsame)
      exact .bool c
    | _ => exact nomatch hsame
  | number m =>
    cases y with
    | number n => exact .number (Scalar.numeral.inj (Option.some.inj hsame)).symm
    | _ => exact nomatch hsame
  | string s =>
    cases y with
    | string t =>
      obtain rfl := Scalar.string.inj (Option.some.inj hsame)
      exact .string t
    | _ => exact nomatch hsame
  | array _ | object _ => exact nomatch hx

end Scalar

namespace Literal

variable {v w : Json}

private theorem ofJson_eq_scalar_iff {value : Scalar} :
    ofJson? v = some (scalar value) ↔ Scalar.ofJson? v = some value := by
  cases v <;> simp [ofJson?, Scalar.ofJson?]

private theorem ofJson_eq_list_iff {items : List Scalar} :
    ofJson? v = some (list items) ↔ ∃ xs, v = .array xs ∧ xs.mapM Scalar.ofJson? = some items := by
  cases v <;> simp [ofJson?]

private theorem ofJson_eq_map_iff {entries : List (String × Scalar)} :
    ofJson? v = some (map entries) ↔
      ∃ members, v = .object members ∧ members.map Prod.fst = entries.map Prod.fst ∧
        (members.map Prod.snd).mapM Scalar.ofJson? = some (entries.map Prod.snd) := by
  simp only [← mapM_values_eq_some_iff]
  cases v <;> simp [ofJson?]

/-- Alike values have one literal, or none. -/
theorem ofJson_eq_of_alike (h : v.Alike w) : ofJson? v = ofJson? w := by
  cases h with
  | number htext => exact congrArg (Option.map scalar) (Scalar.ofJson_eq_of_alike (.number htext))
  | array hitems => rw [ofJson?, ofJson?, mapM_eq_of_forall₂ hitems fun _ _ => Scalar.ofJson_eq_of_alike]
  | object hkeys hvalues =>
    rw [ofJson?, ofJson?]
    apply congrArg (Option.map map)
    -- The keys and the values agree as lists, so the two walks are compared by what they give.
    apply Option.ext
    intro entries
    rw [mapM_values_eq_some_iff, mapM_values_eq_some_iff, hkeys,
      mapM_eq_of_forall₂ hvalues fun _ _ => Scalar.ofJson_eq_of_alike]
  | null | bool _ | string _ => rfl

/-- A literal shows its value. -/
theorem alike_of_ofJson {literal : Literal} (hv : ofJson? v = some literal)
    (hw : ofJson? w = some literal) : v.Alike w := by
  cases literal with
  | scalar value =>
    exact Scalar.alike_of_ofJson (ofJson_eq_scalar_iff.mp hv) (ofJson_eq_scalar_iff.mp hw)
  | list items =>
    obtain ⟨xs, rfl, hx⟩ := ofJson_eq_list_iff.mp hv
    obtain ⟨ys, rfl, hy⟩ := ofJson_eq_list_iff.mp hw
    exact .array (forall₂_of_mapM_eq_some hx hy fun _ _ _ => Scalar.alike_of_ofJson)
  | map entries =>
    obtain ⟨xs, rfl, hkeys, hx⟩ := ofJson_eq_map_iff.mp hv
    obtain ⟨ys, rfl, hkeys', hy⟩ := ofJson_eq_map_iff.mp hw
    exact .object (hkeys.trans hkeys'.symm)
      (forall₂_of_mapM_eq_some hx hy fun _ _ _ => Scalar.alike_of_ofJson)

/-- Two literals with something after each of them make one text only if they are one literal. -/
theorem text_append_inj {a b : Literal} (ha : a.SpellsNumbers) (hb : b.SpellsNumbers) {t u : String}
    (ht : Stops Number.inText t.toList) (hu : Stops Number.inText u.toList)
    (h : a.text ++ t = b.text ++ u) : a = b ∧ t = u := by
  have hchars : a.chars ++ t.toList = b.chars ++ u.toList := by
    simpa [text] using congrArg String.toList h
  obtain ⟨hsame, hrest⟩ := delimited_chars a b t.toList u.toList ha hb ht hu hchars
  exact ⟨hsame, String.toList_inj.mp hrest⟩

end Literal

/-- Just the containers that hold a container have no literal. Literals in front of other text that does
not go on like a number make one text exactly where their values are alike and the other texts the same. -/
theorem literal_shows_value (v : Json) :
    (Literal.ofJson? v = none ↔ ∃ part ∈ v.parts, part.isContainer = true) ∧
    ∀ (w : Json) (a b : Literal) (t u : String),
      Literal.ofJson? v = some a → Literal.ofJson? w = some b →
      Stops Number.inText t.toList → Stops Number.inText u.toList →
      (a.text ++ t = b.text ++ u ↔ v.Alike w ∧ t = u) := by
  refine ⟨?_, ?_⟩
  · rw [← Json.isFlat_eq_false_iff, ← Literal.isSome_ofJson?, Option.isSome_eq_false_iff,
      Option.isNone_iff_eq_none]
  · intro w a b t u hv hw ht hu
    constructor
    · intro hsame
      obtain ⟨rfl, hrest⟩ := Literal.text_append_inj (Literal.spellsNumbers_of_ofJson hv)
        (Literal.spellsNumbers_of_ofJson hw) ht hu hsame
      exact ⟨Literal.alike_of_ofJson hv hw, hrest⟩
    · rintro ⟨halike, rfl⟩
      rw [Literal.ofJson_eq_of_alike halike, hw] at hv
      rw [Option.some.inj hv]

/-- A map and a list whose texts differ in one character only. -/
theorem map_is_told_from_list :
    let map : Json := .object [("a\",", .number (.integer (-5)))]
    let list : Json := .array [.string "a\",", .number (.integer (-5))]
    ∃ a b, Literal.ofJson? map = some a ∧ Literal.ofJson? list = some b ∧
      a.text = "[\"a\\\",\":-5]" ∧ b.text = "[\"a\\\",\",-5]" ∧
      Stops Number.inText ";".toList ∧ Stops Number.inText "".toList ∧
      map.Alike map ∧ a.text ++ ";" ≠ b.text ++ "" := by
  intro map list
  have hseparated : Stops Number.inText ";".toList := Text.stops_cons.mpr rfl
  have hnothing : Stops Number.inText "".toList := Text.stops_nil Number.inText
  obtain ⟨-, hshows⟩ := literal_shows_value map
  refine ⟨_, _, rfl, rfl, rfl, rfl, hseparated, hnothing, ?_, ?_⟩
  · exact ((hshows map _ _ ";" ";" rfl rfl hseparated hseparated).mp rfl).1
  · intro hsame
    have halike : Json.Alike (.object _) (.array _) :=
      ((hshows list _ _ ";" "" rfl rfl hseparated hnothing).mp hsame).1
    exact nomatch halike

end Script
end IndexFeed
