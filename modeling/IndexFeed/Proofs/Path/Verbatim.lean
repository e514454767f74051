import IndexFeed.Proofs.Number.Digits
import IndexFeed.Proofs.Script.Accessor
import IndexFeed.Proofs.Script.Removal

/-! Paths written out again from their segments, and what reading them loses: zeros before a position. -/
namespace IndexFeed
open Script (Statement quote unquote?)

namespace Segment

/-- A part that is read as a position and starts with a zero that its decimal does not have. -/
def Padded (part : List Char) : Prop :=
  (part.all Char.isDigit ∧ Nat.ofDigitChars 10 part 0 < indexLimit) ∧
    part.head? = some '0' ∧ part ≠ ['0']

instance : DecidablePred Padded := fun _ => inferInstanceAs (Decidable (_ ∧ _))

/-- The segment of a part is called what the part says, unless zeros were left out. -/
theorem name_ofPart_eq_iff {part : List Char} (hgiven : part ≠ []) :
    (ofPart part).name = part ↔ ¬ Padded part := by
  rw [ofPart, Padded]
  split
  · next hposition =>
    have hdigits : ∀ c ∈ part, c.isDigit = true := List.all_eq_true.mp hposition.1
    rw [name, Text.toDigits_ofDigitChars hdigits, Text.withoutZeros_eq_self_iff hgiven]
    exact not_congr (and_iff_right hposition).symm
  · next hother => exact iff_of_true String.toList_ofList fun hpadded => hother hpadded.1

end Segment

namespace Path

/-- Segments written as a path: their names with a dot between each two. -/
def dotted (segments : List Segment) : List Char :=
  List.intercalate ['.'] (segments.map Segment.name)

/-- No position in the path has zeros before it. -/
def Verbatim (raw : String) : Prop := ∀ part ∈ parts raw, ¬ Segment.Padded part

instance : DecidablePred Verbatim := fun raw => inferInstanceAs (Decidable (∀ part ∈ parts raw, _))

/-- The last part of a path. -/
def lastPart (raw : String) : List Char := (parts raw).getLast (List.splitOn_ne_nil '.' _)

private theorem dot_notMem_name {part : List Char} (h : '.' ∉ part) :
    '.' ∉ (Segment.ofPart part).name := by
  rw [Segment.ofPart]
  split
  · intro hmem
    exact absurd (Nat.isDigit_of_mem_toDigits (by decide) (by decide) hmem) (by decide)
  · simpa [Segment.name] using h

variable {raw other : String} {path path' : Path}

/-- The names of the segments are the parts of the path where it is verbatim. -/
theorem names_eq_parts_iff (hread : parse raw = .ok path) :
    path.segments.map Segment.name = parts raw ↔ Verbatim raw := by
  have hnamed : path.segments.map Segment.name =
      (parts raw).map fun part => (Segment.ofPart part).name := by
    rw [segments_of_parse hread, List.map_map]
    rfl
  rw [hnamed]
  nth_rewrite 2 [← List.map_id (parts raw)]
  rw [List.map_inj_left]
  have hwrites := (parse_eq_ok_iff.mp hread).1
  exact forall₂_congr fun part hin => Segment.name_ofPart_eq_iff (hwrites part hin).1

/-- A path is its segments written out again where no zeros were left out. -/
theorem dotted_eq_iff (hread : parse raw = .ok path) :
    dotted path.segments = raw.toList ↔ Verbatim raw := by
  rw [← names_eq_parts_iff hread]
  constructor
  · intro hsame
    -- Names have no dots in them, so the text can be cut into the names as it is cut into the parts.
    have hundotted : ∀ name ∈ path.segments.map Segment.name, '.' ∉ name := by
      rw [segments_of_parse hread, List.map_map]
      intro name hmem
      obtain ⟨part, hin, rfl⟩ := List.mem_map.mp hmem
      exact dot_notMem_name (dot_notMem_parts raw part hin)
    have hname : path.segments.map Segment.name ≠ [] := by
      rw [segments_of_parse hread]
      simp [parts]
    rw [parts, ← hsame]
    exact (List.splitOn_intercalate '.' hundotted hname).symm
  · intro hsame
    rw [dotted, hsame, intercalate_parts]

/-- What a path says of the field that a removal takes away: its last part, in which a position behind
other parts has no zeros before it. -/
def removedName (raw : String) : List Char :=
  if (parts raw).length = 1 then lastPart raw else (Segment.ofPart (lastPart raw)).name

private theorem dropLast_append_lastPart (raw : String) :
    (parts raw).dropLast ++ [lastPart raw] = parts raw :=
  List.dropLast_append_getLast _

/-- The removal of a field names it in its container. -/
theorem removal_eq (hread : parse raw = .ok path) :
    path.removal = .remove path.parents (String.ofList (removedName raw)) := by
  have hcut := dropLast_append_lastPart raw
  have hwhole := intercalate_parts raw
  obtain ⟨-, rfl⟩ := parse_eq_ok_iff.mp hread
  rw [removal, parents, removedName]
  rw [← hcut] at hwhole ⊢
  generalize (parts raw).dropLast = before at hwhole ⊢
  rw [List.map_append, List.map_singleton, List.dropLast_concat, List.getLast?_concat]
  cases before with
  | nil =>
    have halone : String.ofList (lastPart raw) = raw := by
      rw [← String.toList_inj, String.toList_ofList, ← hwhole]
      simp
    simp [halone]
  | cons first before => simp

/-- The name of the removed field is the last part of the path, unless it is a position behind other
parts from which zeros were left out. -/
theorem removedName_eq_iff (hread : parse raw = .ok path) :
    removedName raw = lastPart raw ↔ (parts raw).length = 1 ∨ ¬ Segment.Padded (lastPart raw) := by
  have hgiven : lastPart raw ≠ [] :=
    ((parse_eq_ok_iff.mp hread).1 _ (List.getLast_mem (List.splitOn_ne_nil '.' _))).1
  rw [removedName]
  split
  · next hsingle => exact iff_of_true rfl (.inl hsingle)
  · next hseveral =>
    rw [Segment.name_ofPart_eq_iff hgiven]
    exact (or_iff_right hseveral).symm

/-- A path without opening brackets: no key in it looks like a key with a position. -/
def Unbracketed (raw : String) : Prop := '[' ∉ raw.toList

instance : DecidablePred Unbracketed := fun raw => inferInstanceAs (Decidable ('[' ∉ raw.toList))

private def inKey (c : Char) : Bool := c != '.' && c != '['

private theorem within_segments (hread : parse raw = .ok path) (hplain : Unbracketed raw) :
    ∀ segment ∈ path.segments, segment.Within inKey := by
  intro segment hmem
  rw [segments_of_parse hread] at hmem
  obtain ⟨part, hin, rfl⟩ := List.mem_map.mp hmem
  rw [Segment.ofPart]
  split
  · trivial
  · intro c hc
    rw [String.toList_ofList] at hc
    have hdot : c ≠ '.' := fun hsame => dot_notMem_parts raw part hin (hsame ▸ hc)
    have hbracket : c ≠ '[' := fun hsame => hplain (hsame ▸ mem_of_mem_parts hin hc)
    simp [inKey, hdot, hbracket]

private theorem segments_eq_of_accessor {segments others : List Segment}
    (h : ∀ segment ∈ segments, segment.Within inKey) (h' : ∀ segment ∈ others, segment.Within inKey)
    (hsame : accessorChars segments = accessorChars others) : segments = others := by
  have haccesses : segments.flatMap Segment.access ++ [] = others.flatMap Segment.access ++ [] := by
    simpa [accessorChars] using hsame
  exact (Segment.delimited_accesses rfl rfl _ _ _ _ h h' (Text.stops_nil _) (Text.stops_nil _) haccesses).1

private theorem parts_inj (hsame : parts raw = parts other) : raw = other := by
  rw [← String.toList_inj, ← intercalate_parts raw, hsame, intercalate_parts]

private theorem eq_of_accessor (hread : parse raw = .ok path) (hread' : parse other = .ok path')
    (hverbatim : Verbatim raw) (hverbatim' : Verbatim other) (hplain : Unbracketed raw)
    (hplain' : Unbracketed other) (hsame : path.accessor = path'.accessor) : raw = other := by
  have hsegments := segments_eq_of_accessor (within_segments hread hplain) (within_segments hread' hplain')
    (String.ofList_inj.mp hsame)
  apply parts_inj
  rw [← (names_eq_parts_iff hread).mpr hverbatim, hsegments, (names_eq_parts_iff hread').mpr hverbatim']

private theorem eq_of_removal (hread : parse raw = .ok path) (hread' : parse other = .ok path')
    (hverbatim : Verbatim raw) (hverbatim' : Verbatim other) (hplain : Unbracketed raw)
    (hplain' : Unbracketed other) (hsame : path.removal.text = path'.removal.text) : raw = other := by
  have hchars : path.removal.chars = path'.removal.chars := String.ofList_inj.mp hsame
  rw [removal_eq hread, removal_eq hread'] at hchars
  obtain ⟨hcontainers, hleaves⟩ := Statement.remove_chars_inj hchars
  have hparents : path.parents = path'.parents :=
    segments_eq_of_accessor
      (fun segment hmem => within_segments hread hplain segment (List.dropLast_subset _ hmem))
      (fun segment hmem => within_segments hread' hplain' segment (List.dropLast_subset _ hmem))
      hcontainers
  have hbefore : (parts raw).dropLast = (parts other).dropLast := by
    rw [← (names_eq_parts_iff hread).mpr hverbatim, ← (names_eq_parts_iff hread').mpr hverbatim',
      ← List.map_dropLast, ← List.map_dropLast]
    exact congrArg _ hparents
  have hlast : lastPart raw = lastPart other := by
    have hunpadded {raw : String} (hverbatim : Verbatim raw) : ¬ Segment.Padded (lastPart raw) :=
      hverbatim _ (List.getLast_mem _)
    rw [← (removedName_eq_iff hread).mpr (.inr (hunpadded hverbatim)),
      ← (removedName_eq_iff hread').mpr (.inr (hunpadded hverbatim'))]
    exact String.ofList_inj.mp hleaves
  apply parts_inj
  rw [← dropLast_append_lastPart raw, hbefore, hlast, dropLast_append_lastPart]

/-- Reading a path loses the zeros that are written before its positions, and nothing else. A removal
names the last part of its path, but for such zeros where the part is behind others. Paths without
them, and without brackets in their keys, never reach one field or remove one field. -/
theorem parse_verbatim {raw : String} {path : Path} (hread : parse raw = .ok path) :
    (dotted path.segments = raw.toList ↔ Verbatim raw) ∧
    (∀ operand, ∃ statement container argument name,
      Operator.unset.statements raw operand = .ok [statement] ∧
      statement.chars = accessorChars container ++ ".remove(".toList ++ argument ++ [')'] ∧
      unquote? argument = some (name, []) ∧
      (name = lastPart raw ↔ (parts raw).length = 1 ∨ ¬ Segment.Padded (lastPart raw))) ∧
    ∀ {other : String} {path' : Path}, parse other = .ok path' → Verbatim raw → Verbatim other →
      Unbracketed raw → Unbracketed other → raw ≠ other →
        path.accessor ≠ path'.accessor ∧ path.removal.text ≠ path'.removal.text := by
  refine ⟨dotted_eq_iff hread, fun operand => ?_, ?_⟩
  · have hemitted : Operator.unset.statements raw operand =
        .ok [.remove path.parents (String.ofList (removedName raw))] := by
      simp [Operator.statements, hread, Operator.effect, removal_eq hread]
    refine ⟨_, path.parents, quote (String.ofList (removedName raw)).toList, removedName raw, hemitted,
      rfl, ?_, removedName_eq_iff hread⟩
    rw [← List.append_nil (quote _), Script.unquote_quote, String.toList_ofList]
  · intro other path' hread' hverbatim hverbatim' hplain hplain' hdiffer
    exact ⟨fun hsame => hdiffer (eq_of_accessor hread hread' hverbatim hverbatim' hplain hplain' hsame),
      fun hsame => hdiffer (eq_of_removal hread hread' hverbatim hverbatim' hplain hplain' hsame)⟩

/-- A number out of range is a key, with the zeros in front of it. -/
theorem long_numbers_are_verbatim :
    let raw := "a.0.018446744073709551616"
    let other := "a.0.18446744073709551616"
    ∃ path path', parse raw = .ok path ∧ parse other = .ok path' ∧ Verbatim raw ∧ Verbatim other ∧
      Unbracketed raw ∧ Unbracketed other ∧ raw ≠ other ∧ dotted path.segments = raw.toList ∧
      path.accessor ≠ path'.accessor ∧ path.removal.text ≠ path'.removal.text := by
  intro raw other
  have hverbatim : Verbatim raw ∧ Verbatim other := by decide +kernel
  have hplain : Unbracketed raw ∧ Unbracketed other := by decide +kernel
  have hdiffer : raw ≠ other := by decide
  have hwrites : (∀ part ∈ parts raw, WritesSegment part) ∧ ∀ part ∈ parts other, WritesSegment part := by
    decide +kernel
  have hread := parse_eq_ok_iff.mpr ⟨hwrites.1, rfl⟩
  have hread' := parse_eq_ok_iff.mpr ⟨hwrites.2, rfl⟩
  obtain ⟨hwritten, -, hapart⟩ := parse_verbatim hread
  exact ⟨_, _, hread, hread', hverbatim.1, hverbatim.2, hplain.1, hplain.2, hdiffer,
    hwritten.mpr hverbatim.1, hapart hread' hverbatim.1 hverbatim.2 hplain.1 hplain.2 hdiffer⟩

/-- Zeros before a position are lost: the removal of the entry "007" of a container takes away its entry
"7", as the removal of that entry does. A field of the document is removed by its own name. A key with a
bracket is reached as the position in a list that it looks like. -/
theorem zeros_are_lost :
    (∃ path, parse "codes.007" = .ok path ∧ dotted path.segments = "codes.7".toList) ∧
    "codes.7" ≠ "codes.007" ∧
    Operator.unset.statements "codes.007" (.scalar .null) = .ok [.remove [.key "codes"] "7"] ∧
    Operator.unset.statements "codes.7" (.scalar .null) = .ok [.remove [.key "codes"] "7"] ∧
    Operator.unset.statements "007" (.scalar .null) = .ok [.remove [] "007"] ∧
    ∃ path path', parse "codes[7]" = .ok path ∧ parse "codes.7" = .ok path' ∧
      path.accessor = path'.accessor :=
  ⟨⟨_, rfl, by decide⟩, by decide, rfl, rfl, rfl, _, _, rfl, rfl, by decide⟩

end Path
end IndexFeed
