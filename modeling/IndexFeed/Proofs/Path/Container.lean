import IndexFeed.Proofs.Mutator.Effect

/-! The container of a field is the path without its last part, for a removal as for all other
statements. -/
namespace IndexFeed
open Script (quote)

/-- A part is read as itself or as a position. -/
theorem Segment.ofPart_cases (part : List Char) :
    ofPart part = .key (String.ofList part) ∨ ∃ position, ofPart part = .index position := by
  rw [ofPart]
  split
  · exact .inr ⟨_, rfl⟩
  · exact .inl rfl

namespace Path

private theorem parts_dot (before last : String) :
    parts (before ++ "." ++ last) = parts before ++ parts last := by
  have hcut : (before ++ "." ++ last).toList = before.toList ++ '.' :: last.toList := by simp
  rw [parts, hcut, List.splitOn_append_cons_self]
  rfl

private theorem parts_of_undotted {raw : String} (hundotted : '.' ∉ raw.toList) :
    parts raw = [raw.toList] :=
  List.splitOn_eq_singleton hundotted

variable {raw before last : String} {path : Path}

/-- A path with a dot is read where both sides of the dot are. -/
theorem parse_dot_eq_ok_iff :
    parse (before ++ "." ++ last) = .ok path ↔ ∃ container leaf,
      parse before = .ok container ∧ parse last = .ok leaf ∧
        path = ⟨before ++ "." ++ last, container.segments ++ leaf.segments⟩ := by
  simp only [parse_eq_ok_iff, parts_dot, List.forall_mem_append, List.map_append]
  constructor
  · rintro ⟨⟨hwrites, hwrites'⟩, rfl⟩
    exact ⟨_, _, ⟨hwrites, rfl⟩, ⟨hwrites', rfl⟩, rfl⟩
  · rintro ⟨_, _, ⟨hwrites, rfl⟩, ⟨hwrites', rfl⟩, rfl⟩
    exact ⟨⟨hwrites, hwrites'⟩, rfl⟩

private theorem segments_ne_nil (hread : parse raw = .ok path) : path.segments ≠ [] := by
  rw [segments_of_parse hread]
  simp [parts]

/-- A text without dots that is read is one segment. -/
theorem parse_undotted (hundotted : '.' ∉ last.toList) {leaf : Path} (hread : parse last = .ok leaf) :
    leaf = ⟨last, [Segment.ofPart last.toList]⟩ := by
  rw [(parse_eq_ok_iff.mp hread).2, parts_of_undotted hundotted]
  rfl

/-- Only a path without dots has the document itself for its container. -/
theorem parents_eq_nil_iff (hread : parse raw = .ok path) : path.parents = [] ↔ '.' ∉ raw.toList := by
  constructor
  · intro halone hdot
    obtain ⟨before, last, hcut⟩ := List.append_of_mem hdot
    have hdotted : raw = String.ofList before ++ "." ++ String.ofList last := by
      rw [← String.toList_inj, hcut]
      simp
    subst hdotted
    obtain ⟨container, leaf, hgiven, hgiven', rfl⟩ := parse_dot_eq_ok_iff.mp hread
    rw [parents, List.dropLast_append_of_ne_nil (segments_ne_nil hgiven')] at halone
    exact segments_ne_nil hgiven (List.append_eq_nil_iff.mp halone).1
  · intro hundotted
    rw [parse_undotted hundotted hread]
    rfl

private theorem splitLeaf_eq_none_iff (hread : parse raw = .ok path) :
    path.splitLeaf = none ↔ '.' ∉ raw.toList := by
  have hlast := List.getLast?_eq_some_getLast (segments_ne_nil hread)
  rw [← parents_eq_nil_iff hread, splitLeaf, hlast]
  cases path.parents <;> simp

/-- Behind the segments of a container, the last segment is the leaf that is split off and removed. -/
theorem leaf_concat {container : List Segment} (hsegment : container ≠ []) (raw : String)
    (leaf : Segment) :
    (Path.mk raw (container ++ [leaf])).splitLeaf =
        some (String.ofList (accessorChars container), String.ofList leaf.name) ∧
      (Path.mk raw (container ++ [leaf])).removal = .remove container (String.ofList leaf.name) := by
  obtain ⟨first, rest, rfl⟩ := List.exists_cons_of_ne_nil hsegment
  rw [splitLeaf, removal, parents, List.dropLast_concat, List.getLast?_concat]
  exact ⟨rfl, rfl⟩

private theorem accessor_concat (container : Path) (leaf : Segment) :
    (Path.mk raw (container.segments ++ [leaf])).accessor =
      container.accessor ++ String.ofList leaf.access := by
  simp [accessor, accessorChars, String.append_assoc]

/-- A path is its container, a path as well, and behind the last dot a leaf. Splitting it gives the
expression of the container, which the expression of the field goes on from, by the key or the position
of the leaf, and from which a removal takes the leaf away. Only a path without dots is not split. -/
theorem splitLeaf_container {raw : String} {path : Path} (hread : parse raw = .ok path) :
    (path.splitLeaf = none ↔ '.' ∉ raw.toList) ∧
    ∀ before last : String, raw = before ++ "." ++ last → '.' ∉ last.toList →
      ∃ container leaf, parse before = .ok container ∧
        path.splitLeaf = some (container.accessor, leaf) ∧
        (parse last = .ok ⟨last, [.key leaf]⟩ ∧ leaf = last ∧
            path.accessor = container.accessor ++ "." ++ leaf ∨
          ∃ position : Nat, parse last = .ok ⟨last, [.index position]⟩ ∧ leaf = toString position ∧
            path.accessor = container.accessor ++ "[" ++ leaf ++ "]") ∧
        ∀ operand, ∃ statement, Operator.unset.statements raw operand = .ok [statement] ∧
          statement.chars =
            container.accessor.toList ++ ".remove(".toList ++ quote leaf.toList ++ [')'] := by
  refine ⟨splitLeaf_eq_none_iff hread, ?_⟩
  rintro before last rfl hundotted
  obtain ⟨container, leaf, hgiven, hgiven', rfl⟩ := parse_dot_eq_ok_iff.mp hread
  obtain rfl := parse_undotted hundotted hgiven'
  obtain ⟨hsplit, hremoval⟩ := leaf_concat (segments_ne_nil hgiven)
    (before ++ "." ++ last) (Segment.ofPart last.toList)
  have hemitted (operand : Operand) : Operator.unset.statements (before ++ "." ++ last) operand =
      .ok [.remove container.segments (String.ofList (Segment.ofPart last.toList).name)] :=
    Operator.statements_eq_ok_iff.mpr ⟨_, hread, congrArg (Except.ok [·]) hremoval⟩
  refine ⟨container, _, hgiven, hsplit, ?_, fun operand => ⟨_, hemitted operand, ?_⟩⟩
  · rw [hgiven', accessor_concat]
    rcases Segment.ofPart_cases last.toList with hkey | ⟨position, hindex⟩
    · rw [hkey]
      refine .inl ⟨?_, ?_, ?_⟩
      · simp [Segment.name]
      · simp [Segment.name]
      · simp [Segment.access, Segment.name, String.append_assoc]
    · rw [hindex]
      refine .inr ⟨position, rfl, rfl, ?_⟩
      simp [Segment.access, Segment.name, String.append_assoc]
  · rw [accessor, String.toList_ofList]
    rfl

/-- A position is named by its decimal, without the zero it was written with. -/
theorem position_in_ratings :
    let raw := "ratings.03"
    raw = "ratings" ++ "." ++ "03" ∧ '.' ∉ "03".toList ∧
    ∃ path container, parse raw = .ok path ∧ parse "ratings" = .ok container ∧
      parse "03" = .ok ⟨"03", [.index 3]⟩ ∧ path.splitLeaf = some (container.accessor, "3") ∧
      path.accessor = container.accessor ++ "[" ++ "3" ++ "]" := by
  intro raw
  have hcut : raw = "ratings" ++ "." ++ "03" := rfl
  have hundotted : '.' ∉ "03".toList := by decide
  have hindex : parse "03" = .ok ⟨"03", [.index 3]⟩ := rfl
  have hwrites : ∀ part ∈ parts raw, WritesSegment part := by decide
  have hread := parse_eq_ok_iff.mpr ⟨hwrites, rfl⟩
  obtain ⟨container, leaf, hgiven, hsplit, hkey | ⟨position, hindex', hnamed, hreached⟩, -⟩ :=
    (splitLeaf_container hread).2 _ _ hcut hundotted
  · obtain ⟨hkey, -⟩ := hkey
    rw [hindex] at hkey
    exact nomatch hkey
  · rw [hindex] at hindex'
    obtain rfl : 3 = position := by simpa using hindex'
    obtain rfl : leaf = "3" := hnamed
    exact ⟨hcut, hundotted, _, container, hread, hgiven, hindex, hsplit, hreached⟩

end Path
end IndexFeed
