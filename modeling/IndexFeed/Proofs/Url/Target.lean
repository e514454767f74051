import IndexFeed.Proofs.Text.Cut
import IndexFeed.Proofs.Url.Added
import IndexFeed.Proofs.Url.Parsed

/-! What a server reads off a request: the path of a URL, cut at its slashes. Segments that are added to a
URL are among the pieces, as they were encoded. -/
namespace IndexFeed.Url

namespace Segments

private theorem mem_added {path : Segments} {added segment : List Char} (h : segment ∈ path ++ [added]) :
    segment ∈ path ∨ segment = added :=
  (List.mem_append.mp h).imp_right List.mem_singleton.mp

private theorem mem_up {path : Segments} {segment : List Char} (h : segment ∈ path.up) :
    segment ∈ path := by
  rw [up] at h
  split at h
  · split at h
    · exact h
    · exact List.dropLast_subset _ h
  · exact h

private theorem mem_enter {directory : Segments} {added segment : List Char}
    (h : segment ∈ enter directory added) :
    segment ∈ directory ∨ segment = added := by
  rw [enter] at h
  split at h
  · exact .inl (mem_up h)
  · split at h
    · exact .inl h
    · exact mem_added h

private theorem mem_finish {directory : Segments} {added segment : List Char}
    (h : segment ∈ finish directory added) :
    segment ∈ directory ∨ segment = added ∨ segment = [] := by
  rw [finish] at h
  split at h
  · exact (mem_added h).imp mem_up .inr
  · split at h
    · exact (mem_added h).imp_right .inr
    · exact (mem_added h).imp_right .inl

private theorem mem_foldl_enter {written : List (List Char)} {directory : Segments} {segment : List Char}
    (h : segment ∈ written.foldl enter directory) : segment ∈ directory ∨ segment ∈ written := by
  induction written generalizing directory with
  | nil => exact .inl h
  | cons added written ih =>
    rcases ih h with hbefore | hlater
    · rcases mem_enter hbefore with hold | rfl
      · exact .inl hold
      · exact .inr List.mem_cons_self
    · exact .inr (List.mem_cons_of_mem _ hlater)

/-- Resolving the dots of a path makes up no segments but empty ones. -/
theorem mem_resolve {written : List (List Char)} {segment : List Char} (h : segment ∈ resolve written) :
    segment ∈ written ∨ segment = [] := by
  rcases mem_finish h with hbefore | rfl | hempty
  · rcases mem_foldl_enter hbefore with hnothing | hin
    · exact absurd hnothing List.not_mem_nil
    · exact .inl (List.dropLast_subset _ hin)
  · cases written with
    | nil => exact .inr rfl
    | cons first later =>
      rw [List.getLastD_cons]
      exact .inl List.getLastD_mem_cons
  · exact .inr hempty

end Segments

/-- Whether segments can be told apart again in a path: no mark that ends a segment or the path itself is
in one of them. -/
def Separate (path : Segments) : Prop := ∀ segment ∈ path, '/' ∉ segment ∧ '?' ∉ segment

/-- Whether the path of a URL is told apart into its segments. -/
def IsSeparate (url : Url) : Prop := ∃ path, url.route = .segments path ∧ Separate path

private theorem separate_readSegments (special : Bool) (text : List Char) :
    Separate (readSegments special text) := by
  intro segment hmem
  rcases Segments.mem_resolve hmem with hmem | rfl
  · obtain ⟨piece, hcut, rfl⟩ := List.mem_map.mp hmem
    have huncut := Text.splitOnP_uncut (isSlash special) text piece hcut
    constructor
    · exact not_mem_encode (by decide) (by decide) fun hslash => nomatch huncut _ hslash
    · exact not_mem_encode (by decide) (by decide) fun _ => by decide
  · exact ⟨List.not_mem_nil, List.not_mem_nil⟩

/-- A path that was read is told apart into its segments. -/
theorem separate_readPath (special : Bool) (text : List Char) : Separate (readPath special text) := by
  cases text with
  | nil => cases special <;> simp [readPath, Separate]
  | cons c rest =>
    rw [readPath]
    split
    · exact separate_readSegments special rest
    · exact separate_readSegments special (c :: rest)

private theorem separate_encodeSegment (special : Bool) (segments : List String) :
    Separate (segments.map (encodeSegment special)) := by
  intro segment hmem
  obtain ⟨name, -, rfl⟩ := List.mem_map.mp hmem
  constructor
  · exact not_mem_encode (by decide) (by decide) fun _ => by cases special <;> rfl
  · exact not_mem_encode (by decide) (by decide) fun _ => by cases special <;> rfl

/-- The texts between the slashes of the path that is requested; the one before the first slash is among
them, and is empty. -/
def pathPieces (url : Url) : List (List Char) :=
  (url.target.toList.takeWhile (· ≠ '?')).splitOn '/'

private theorem splitOn_chars {path : Segments} (hseparate : Separate path) {front : List Char}
    (hundivided : '/' ∉ front) : (front ++ path.chars).splitOn '/' = front :: path := by
  induction path generalizing front with
  | nil =>
    change (front ++ []).splitOn '/' = [front]
    rw [List.append_nil, List.splitOn_eq_singleton hundivided]
  | cons segment path ih =>
    obtain ⟨⟨hundivided', -⟩, hlater⟩ := List.forall_mem_cons.mp hseparate
    have hfirst : Segments.chars (segment :: path) = '/' :: (segment ++ Segments.chars path) := rfl
    rw [hfirst, List.splitOn_append_cons_self, List.splitOn_eq_singleton hundivided, ih hlater hundivided']
    rfl

private theorem takeWhile_chars {path : Segments} (hseparate : Separate path)
    (query : Option (List Char)) :
    (path.chars ++ marked '?' query).takeWhile (· ≠ '?') = path.chars := by
  have hunmarked : ∀ c ∈ path.chars, decide (c ≠ '?') = true := by
    intro c hmem
    obtain ⟨segment, hin, hmem⟩ := List.mem_flatMap.mp hmem
    refine decide_eq_true fun hmark => ?_
    rcases List.mem_cons.mp hmem with rfl | hmem
    · exact absurd hmark (by decide)
    · exact (hseparate segment hin).2 (hmark ▸ hmem)
  have hstop : (marked '?' query).takeWhile (· ≠ '?') = [] := by
    cases query with
    | none => rfl
    | some text => exact List.takeWhile_cons_of_neg (by decide)
  rw [List.takeWhile_append_of_pos hunmarked, hstop, List.append_nil]

private theorem pathPieces_eq {url : Url} {path : Segments} (hauthority : url.authority.isSome = true)
    (hroute : url.route = .segments path) (hseparate : Separate path) : url.pathPieces = [] :: path := by
  rw [pathPieces, target, String.toList_ofList, hroute, hauthority]
  simp only [Route.chars]
  rw [takeWhile_chars hseparate]
  exact splitOn_chars hseparate List.not_mem_nil

/-- Whether the path of a URL has these segments, none of which is empty. A slash may end it, and ends
the path without segments. -/
def Prefixed (url : Url) (own : Segments) : Prop :=
  [] ∉ own ∧ (own ≠ [] ∧ url.pathPieces = [] :: own ∨ url.pathPieces = [] :: own ++ [[]])

private theorem directory_popIfEmpty {own path : Segments} (hfull : [] ∉ own)
    (h : own ≠ [] ∧ path = own ∨ path = own ++ [[]]) : path.popIfEmpty.directory = own := by
  have hproper : own ≠ [[]] := by
    rintro rfl
    exact hfull List.mem_cons_self
  rcases h with ⟨-, rfl⟩ | rfl
  · have hlast : path.getLast? ≠ some [] := fun hlast => hfull (List.mem_of_getLast? hlast)
    rw [Segments.popIfEmpty, if_neg fun hboth => hlast hboth.2, Segments.directory, if_neg hproper]
  · cases own with
    | nil => rfl
    | cons first rest =>
      have hlong : 2 ≤ (first :: rest ++ [[]]).length := by simp
      rw [Segments.popIfEmpty, if_pos ⟨hlong, List.getLast?_concat⟩, List.dropLast_concat,
        Segments.directory, if_neg hproper]

/-- Named segments stand at the end of the requested path, each as one, and the own segments of the URL
that they are added to stand before them. -/
theorem pathPieces_below {url below : Url} {path own : Segments} (hauthority : url.authority.isSome = true)
    (hroute : url.route = .segments path) (hseparate : Separate path) (hprefixed : url.Prefixed own)
    {segment : String} {rest : List String} (hnamed : Named (segment :: rest))
    (h : url.below? (segment :: rest) = some below) :
    below.pathPieces = [] :: own ++ (segment :: rest).map (encodeSegment (isSpecial url.scheme)) := by
  obtain ⟨hfull, hwritten⟩ := hprefixed
  rw [pathPieces_eq hauthority hroute hseparate, List.cons_append, List.cons_inj_right,
    List.cons_inj_right] at hwritten
  have hdirectory := directory_popIfEmpty hfull hwritten
  have hsep : Separate own := by
    rcases hwritten with ⟨-, rfl⟩ | rfl
    · exact hseparate
    · exact (List.forall_mem_append.mp hseparate).1
  rw [below?, hroute] at h
  obtain rfl := Option.some.inj h
  have hadded : extendPath (isSpecial url.scheme) path (segment :: rest) =
      own ++ (segment :: rest).map (encodeSegment (isSpecial url.scheme)) := by
    rw [← hdirectory, ← addAll_named_cons hnamed]
    rfl
  refine pathPieces_eq hauthority (congrArg Route.segments hadded) ?_
  exact List.forall_mem_append.mpr ⟨hsep, separate_encodeSegment _ _⟩

/-- A name of its own: not empty, not one or two dots, and without tabs and line ends. -/
def FillsSegment (name : String) : Prop :=
  name ≠ "" ∧ name ≠ "." ∧ name ≠ ".." ∧ '\t' ∉ name.toList ∧ '\n' ∉ name.toList ∧ '\r' ∉ name.toList

instance (name : String) : Decidable (FillsSegment name) := inferInstanceAs (Decidable (_ ∧ _))

private theorem visible_of_fillsSegment {name : String} (hfills : FillsSegment name) :
    visible name.toList = name.toList := by
  obtain ⟨-, -, -, htab, hline, hcarriage⟩ := hfills
  refine List.filter_eq_self.mpr fun c hmem => ?_
  have hshown : c ≠ '\t' ∧ c ≠ '\n' ∧ c ≠ '\r' := by
    refine ⟨?_, ?_, ?_⟩ <;> rintro rfl
    · exact htab hmem
    · exact hline hmem
    · exact hcarriage hmem
  simp [isDropped, hshown]

/-- Names that fill their segments are added as they are. -/
theorem named_of_fillsSegment {names : List String} (hfills : ∀ name ∈ names, FillsSegment name) :
    Named names := by
  intro name hmem
  have hshown := visible_of_fillsSegment (hfills name hmem)
  obtain ⟨hempty, hdot, hdots, -⟩ := hfills name hmem
  rw [IsDotted, hshown]
  refine ⟨?_, fun hnone => hempty (String.toList_inj.mp hnone)⟩
  rintro (hone | htwo)
  · exact hdot (String.toList_inj.mp hone)
  · exact hdots (String.toList_inj.mp htwo)

/-- Decoding a segment gives the name that it was encoded from. -/
theorem decode?_encodeSegment (special : Bool) {name : String} (hfills : FillsSegment name) :
    decode? (encodeSegment special name) = some name.toList := by
  rw [encodeSegment, decode?_encode (isReservedInSegment_percent special), visible_of_fillsSegment hfills]

end IndexFeed.Url
