import IndexFeed.Proofs.Url.Percent
import IndexFeed.Url.Basic

/-! Segments added to a path: which of them can be told apart in the URL. -/
namespace IndexFeed.Url

/-- Whether a segment stands for a directory once its tabs and line ends are dropped. -/
def IsDotted (segment : String) : Prop :=
  visible segment.toList = ['.'] ∨ visible segment.toList = ['.', '.']

instance (segment : String) : Decidable (IsDotted segment) :=
  inferInstanceAs (Decidable (_ ∨ _))

private theorem of_toLower {c d : Char} (hlower : c.toLower = d) :
    c = d ∨ (65 ≤ c.toNat ∧ c.toNat ≤ 90 ∧ d.toNat = c.toNat + 32) := by
  subst hlower
  unfold Char.toLower
  split
  · next hupper =>
    have hlow : 65 ≤ c.val.toNat := UInt32.le_iff_toNat_le.mp hupper.1
    have hhigh : c.val.toNat ≤ 90 := UInt32.le_iff_toNat_le.mp hupper.2
    have hmoved : (c.val + 32).toNat = c.val.toNat + 32 := by
      rw [UInt32.toNat_add]
      exact Nat.mod_eq_of_lt (by change c.val.toNat + 32 < 2 ^ 32; omega)
    exact .inr ⟨hlow, hhigh, hmoved⟩
  · exact .inl rfl

private theorem eq_of_toLower {c d : Char} (hlower : c.toLower = d) (hbelow : d.toNat < 97) : c = d := by
  rcases of_toLower hlower with hsame | ⟨hlow, -, hmoved⟩
  · exact hsame
  · omega

private theorem e_of_toLower {c : Char} (hlower : c.toLower = 'e') : c = 'e' ∨ c = 'E' := by
  rcases of_toLower hlower with hsame | ⟨-, -, hmoved⟩
  · exact .inl hsame
  · refine .inr (Char.toNat_inj.mp ?_)
    change 101 = c.toNat + 32 at hmoved
    change c.toNat = 69
    omega

private theorem decodeBytes_dot {dot : List Char}
    (h : dot.map Char.toLower = ['.'] ∨ dot.map Char.toLower = ['%', '2', 'e']) (rest : List Char) :
    decodeBytes (dot ++ rest) = 46 :: decodeBytes rest := by
  rcases h with h | h
  · obtain ⟨c, _, rfl, hc, h⟩ := List.map_eq_cons_iff.mp h
    obtain rfl := List.map_eq_nil_iff.mp h
    rw [eq_of_toLower hc (by decide)]
    exact decodeBytes_cons (by decide) rest
  · obtain ⟨c, _, rfl, hc, h⟩ := List.map_eq_cons_iff.mp h
    obtain ⟨d, _, rfl, hd, h⟩ := List.map_eq_cons_iff.mp h
    obtain ⟨e, _, rfl, he, h⟩ := List.map_eq_cons_iff.mp h
    obtain rfl := List.map_eq_nil_iff.mp h
    rw [eq_of_toLower hc (by decide), eq_of_toLower hd (by decide)]
    rcases e_of_toLower he with rfl | rfl <;> rfl

private theorem decodeBytes_singleDot {text : List Char} (h : Segments.isSingleDot text = true) :
    decodeBytes text = [46] := by
  have hform : text.map Char.toLower = ['.'] ∨ text.map Char.toLower = ['%', '2', 'e'] := by
    simpa [Segments.isSingleDot] using h
  simpa [decodeBytes] using decodeBytes_dot hform []

private theorem decodeBytes_doubleDot {text : List Char} (h : Segments.isDoubleDot text = true) :
    decodeBytes text = [46, 46] := by
  have htwo {first second : List Char} (hform : text.map Char.toLower = first ++ second)
      (hf : first = ['.'] ∨ first = ['%', '2', 'e']) (hs : second = ['.'] ∨ second = ['%', '2', 'e']) :
      decodeBytes text = [46, 46] := by
    obtain ⟨a, b, rfl, rfl, rfl⟩ := List.map_eq_append_iff.mp hform
    have hlast := decodeBytes_dot hs []
    rw [List.append_nil] at hlast
    rw [decodeBytes_dot hf, hlast, decodeBytes]
  simp only [Segments.isDoubleDot, List.mem_cons, List.not_mem_nil, or_false, decide_eq_true_eq] at h
  rcases h with h | h | h | h
  · exact htwo h (.inl rfl) (.inl rfl)
  · exact htwo h (.inl rfl) (.inr rfl)
  · exact htwo h (.inr rfl) (.inl rfl)
  · exact htwo h (.inr rfl) (.inr rfl)

theorem isReservedInSegment_percent (special : Bool) : isReservedInSegment special '%' = true := by
  cases special <;> rfl

variable {special : Bool}

private theorem encodeSegment_eq_iff {a b : String} :
    encodeSegment special a = encodeSegment special b ↔ visible a.toList = visible b.toList :=
  (encode_injective (isReservedInSegment_percent special)).eq_iff

private theorem encodeSegment_eq_nil_iff {segment : String} :
    encodeSegment special segment = [] ↔ visible segment.toList = [] :=
  (encode_injective (isReservedInSegment_percent special)).eq_iff' rfl

private theorem visible_of_decodeBytes {segment : String} {text : List Char}
    (h : decodeBytes (encodeSegment special segment) =
      decodeBytes (encode (isReservedInSegment special) text)) : visible segment.toList = text := by
  have hpercent := isReservedInSegment_percent special
  have hread : decode? (encodeSegment special segment) =
      decode? (encode (isReservedInSegment special) text) := by rw [decode?, decode?, h]
  rw [decode?_encode hpercent, encodeSegment, decode?_encode hpercent] at hread
  exact Option.some.inj hread

private theorem isSingleDot_encodeSegment {segment : String} (h : ¬ IsDotted segment) :
    Segments.isSingleDot (encodeSegment special segment) = false := by
  rw [Bool.eq_false_iff]
  intro hdot
  have hbytes : decodeBytes (encode (isReservedInSegment special) ['.']) = [46] := by
    cases special <;> rfl
  exact h (.inl (visible_of_decodeBytes ((decodeBytes_singleDot hdot).trans hbytes.symm)))

private theorem isDoubleDot_encodeSegment {segment : String} (h : ¬ IsDotted segment) :
    Segments.isDoubleDot (encodeSegment special segment) = false := by
  rw [Bool.eq_false_iff]
  intro hdots
  have hbytes : decodeBytes (encode (isReservedInSegment special) ['.', '.']) = [46, 46] := by
    cases special <;> rfl
  exact h (.inr (visible_of_decodeBytes ((decodeBytes_doubleDot hdots).trans hbytes.symm)))

namespace Segments

/-- A path as the directory of what is added to it: the root has no segment of its own. -/
def directory (path : Segments) : Segments := if path = [[]] then [] else path

private theorem directory_append_singleton (path : Segments) (segment : List Char) :
    directory (path ++ [segment]) = if path = [] ∧ segment = [] then [] else path ++ [segment] := by
  cases path with
  | nil => simp [directory]
  | cons first rest => cases rest <;> simp [directory]

private theorem chars_append (first second : Segments) :
    chars (first ++ second) = chars first ++ chars second := List.flatMap_append

private theorem chars_singleton (segment : List Char) : chars [segment] = '/' :: segment :=
  List.flatMap_singleton ..

end Segments

/-- Adds segments to a path, each as one, after those that it has. -/
def addAll (special : Bool) (path : Segments) (segments : List String) : Segments :=
  (segments.filter fun s => s ≠ "." ∧ s ≠ "..").foldl
    (fun path segment => path.append (encodeSegment special segment)) path

private theorem extendPath_append (path : Segments) (first second : List String) :
    extendPath special path (first ++ second) =
      addAll special (extendPath special path first) second := by
  rw [extendPath, List.filter_append, List.foldl_append]
  rfl

private theorem addAll_cons {segment : String} (h : ¬ IsDotted segment) (path : Segments)
    (rest : List String) : addAll special path (segment :: rest) =
      addAll special (path.directory ++ [encodeSegment special segment]) rest := by
  have hkept : segment ≠ "." ∧ segment ≠ ".." := by
    constructor
    · rintro rfl
      exact h (.inl rfl)
    · rintro rfl
      exact h (.inr rfl)
  have hlast : path.append (encodeSegment special segment) =
      path.directory ++ [encodeSegment special segment] := by
    rw [Segments.append, Segments.finish, isDoubleDot_encodeSegment h, isSingleDot_encodeSegment h]
    rfl
  have hfiltered : (segment :: rest).filter (fun s => s ≠ "." ∧ s ≠ "..") =
      segment :: rest.filter fun s => s ≠ "." ∧ s ≠ ".." :=
    List.filter_cons_of_pos (decide_eq_true hkept)
  rw [addAll, hfiltered, List.foldl_cons, hlast]
  rfl

/-- Segments with a name of their own: no directory, and not empty. -/
def Named (segments : List String) : Prop :=
  ∀ segment ∈ segments, ¬ IsDotted segment ∧ visible segment.toList ≠ []

private theorem addAll_named {segments : List String} (hnamed : Named segments) {path : Segments}
    (hproper : path ≠ [[]]) : addAll special path segments =
      path ++ segments.map (encodeSegment special) := by
  induction segments generalizing path with
  | nil => simp [addAll]
  | cons segment rest ih =>
    obtain ⟨⟨hundotted, hshown⟩, hlater⟩ := List.forall_mem_cons.mp hnamed
    have hfull : encodeSegment special segment ≠ [] := mt encodeSegment_eq_nil_iff.mp hshown
    have hlonger : path ++ [encodeSegment special segment] ≠ [[]] := by
      cases path <;> simp [hfull]
    rw [addAll_cons hundotted, Segments.directory, if_neg hproper, ih hlater hlonger]
    simp

/-- Named segments come after those of the directory, each encoded by itself. -/
theorem addAll_named_cons {segment : String} {rest : List String} (hnamed : Named (segment :: rest))
    (path : Segments) : addAll special path (segment :: rest) =
      path.directory ++ (segment :: rest).map (encodeSegment special) := by
  obtain ⟨⟨hundotted, hshown⟩, hlater⟩ := List.forall_mem_cons.mp hnamed
  have hfull : encodeSegment special segment ≠ [] := mt encodeSegment_eq_nil_iff.mp hshown
  have hlonger : path.directory ++ [encodeSegment special segment] ≠ [[]] := by
    cases path.directory <;> simp [hfull]
  rw [addAll_cons hundotted, addAll_named hlater hlonger]
  simp

/-- What a segment adds to the text of a path below a directory; an empty one is lost right below the
root when others follow it. -/
def link (directory : Segments) (after : List String) (segment : List Char) : List Char :=
  if directory = [] ∧ segment = [] ∧ after ≠ [] then [] else '/' :: segment

private theorem link_injective (directory : Segments) (after : List String) :
    Function.Injective (link directory after) := by
  intro a b hsame
  unfold link at hsame
  split at hsame <;> split at hsame
  · next ha hb => rw [ha.2.1, hb.2.1]
  · exact nomatch hsame
  · exact nomatch hsame
  · exact (List.cons.inj hsame).2

private theorem chars_addAll_cons {segment : String} (h : ¬ IsDotted segment) {after : List String}
    (hnamed : Named after) (path : Segments) :
    (addAll special path (segment :: after)).chars = path.directory.chars ++
      link path.directory after (encodeSegment special segment) ++
        Segments.chars (after.map (encodeSegment special)) := by
  cases after with
  | nil =>
    rw [addAll_cons h, link, if_neg fun hall => hall.2.2 rfl, List.map_nil, ← Segments.chars_singleton,
      ← Segments.chars_append]
    exact (List.append_nil _).symm
  | cons next rest =>
    rw [addAll_cons h, addAll_named_cons hnamed, Segments.chars_append,
      Segments.directory_append_singleton, link]
    by_cases hlost : path.directory = [] ∧ encodeSegment special segment = []
    · rw [if_pos hlost, if_pos ⟨hlost.1, hlost.2, List.cons_ne_nil _ _⟩, hlost.1]
      rfl
    · rw [if_neg hlost, if_neg fun hall => hlost ⟨hall.1, hall.2.1⟩, Segments.chars_append,
        Segments.chars_singleton]

/-- Between the same segments, two added ones show in the path unless they differ in tabs and line ends
alone. -/
theorem chars_extendPath_eq_iff (special : Bool) {a b : String} (ha : ¬ IsDotted a) (hb : ¬ IsDotted b)
    {after : List String} (hnamed : Named after) (path : Segments) (before : List String) :
    (extendPath special path (before ++ a :: after)).chars =
        (extendPath special path (before ++ b :: after)).chars ↔
      visible a.toList = visible b.toList := by
  rw [extendPath_append, extendPath_append, chars_addAll_cons ha hnamed, chars_addAll_cons hb hnamed,
    List.append_left_inj, List.append_right_inj, (link_injective _ after).eq_iff, encodeSegment_eq_iff]

/-- URLs below one base that differ in one segment are the same exactly where no more than tabs and line
ends tells the segments apart. -/
theorem text_below_eq_iff {url ua ub : Url} (hauthority : url.authority.isSome = true)
    {a b : String} (ha : ¬ IsDotted a) (hb : ¬ IsDotted b) {before after : List String}
    (hnamed : Named after) (hbelow : url.below? (before ++ a :: after) = some ua)
    (hbelow' : url.below? (before ++ b :: after) = some ub) :
    ua.text = ub.text ↔ visible a.toList = visible b.toList := by
  rw [below?] at hbelow hbelow'
  split at hbelow
  · exact nomatch hbelow
  · next path hroute =>
    rw [hroute] at hbelow'
    obtain rfl := Option.some.inj hbelow
    obtain rfl := Option.some.inj hbelow'
    rw [← chars_extendPath_eq_iff (isSpecial url.scheme) ha hb hnamed path before]
    simp only [text, chars, hauthority, Route.chars, String.ofList_inj, List.append_left_inj,
      List.append_right_inj]

end IndexFeed.Url
