import IndexFeed.Proofs.Traverse
import IndexFeed.Url.Parser

/-! URLs that are read: those of schemes with rules of their own have an authority and segments. -/
namespace IndexFeed.Url

/-- A URL with an authority and with a path to which segments can be added. -/
def IsHierarchical (url : Url) : Prop :=
  url.authority.isSome = true ∧ ∃ path, url.route = .segments path

private theorem isHierarchical_assemble (scheme : String) (authority : Authority)
    (readPath : List Char → Segments) (text : List Char) :
    (assemble scheme (some authority) (fun path => .segments (readPath path)) text).IsHierarchical :=
  ⟨rfl, _, rfl⟩

private theorem exists_assembleFile {scheme : String} {text : List Char} {url : Url}
    (h : readFile scheme text = .ok url) : ∃ host path rest, url = assembleFile scheme host path rest := by
  rw [readFile] at h
  split at h
  · obtain ⟨host, -, h⟩ := bind_eq_ok_iff.mp h
    obtain rfl := Except.ok.inj h
    exact ⟨_, _, _, rfl⟩
  · obtain rfl := Except.ok.inj h
    exact ⟨_, _, _, rfl⟩

/-- What a URL of a scheme with rules of its own is made of: the rules of files, or else an authority
and a path behind it. -/
theorem exists_assemble {text : String} {url : Url} (h : parse text = .ok url)
    (hspecial : isSpecial url.scheme = true) :
    (∃ host path rest, url = assembleFile "file" host path rest) ∨
      ∃ scheme authority rest, url =
        assemble scheme (some authority) (fun path => .segments (readPath true path)) rest := by
  rw [parse] at h
  split at h
  · exact nomatch h
  · next scheme written _ =>
    dsimp only at h
    split at h
    · next hfile =>
      rw [hfile] at h
      exact .inl (exists_assembleFile h)
    · split at h
      · next hruled =>
        obtain ⟨⟨authority, after⟩, -, h⟩ := bind_eq_ok_iff.mp h
        obtain rfl := Except.ok.inj h
        rw [hruled]
        exact .inr ⟨_, _, _, rfl⟩
      · next hruled =>
        split at h
        · obtain ⟨⟨authority, after⟩, -, h⟩ := bind_eq_ok_iff.mp h
          obtain rfl := Except.ok.inj h
          exact absurd hspecial hruled
        · obtain rfl := Except.ok.inj h
          exact absurd hspecial hruled
        · obtain rfl := Except.ok.inj h
          exact absurd hspecial hruled

/-- A text of a special scheme is read as a URL with an authority and segments. -/
theorem isHierarchical_of_parse {text : String} {url : Url} (h : parse text = .ok url)
    (hspecial : isSpecial url.scheme = true) : url.IsHierarchical := by
  rcases exists_assemble h hspecial with ⟨host, path, rest, rfl⟩ | ⟨scheme, authority, rest, rfl⟩
  · exact isHierarchical_assemble ..
  · exact isHierarchical_assemble ..

theorem isSpecial_of_web {scheme : String} (hweb : scheme = "http" ∨ scheme = "https") :
    isSpecial scheme = true := by
  rcases hweb with rfl | rfl <;> rfl

/-- The path of a URL of the web is the one that is written after its authority. -/
theorem route_of_parse {text : String} {url : Url} (h : parse text = .ok url)
    (hweb : url.scheme = "http" ∨ url.scheme = "https") :
    ∃ written, url.route = .segments (readPath true written) := by
  rcases exists_assemble h (isSpecial_of_web hweb) with
    ⟨host, path, rest, rfl⟩ | ⟨scheme, authority, rest, rfl⟩
  · have hfile : "file" = "http" ∨ "file" = "https" := hweb
    exact absurd hfile (by decide)
  · exact ⟨_, rfl⟩

end IndexFeed.Url
