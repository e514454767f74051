import Mathlib.Data.List.TakeWhile
import IndexFeed.Proofs.Mutator.Restriction
import IndexFeed.Proofs.Update.Documents
import IndexFeed.Proofs.Update.Traffic

/-! Allow-lists as sets of names: what is not allowed has no part in a partial update, and restricting
by one after the other is restricting by their intersection. -/
namespace IndexFeed

namespace Update

/-- A partial update knows of a mutator only what its options leave of it. -/
theorem applyMutator_eq_of_restricted {settings : Settings} {selector : Json} {options : WriteOptions}
    {m m' : Mutator} (hsame : restricted options m = restricted options m') :
    applyMutator settings selector m options = applyMutator settings selector m' options := by
  rw [applyMutator, applyMutator, hsame]

/-- Two mutators with the same allowed entries cannot be told apart. Against any index and any lookup
their updates have the same result, ask the same questions and leave the same state behind, whatever
the other entries are. -/
theorem applyMutator_run_eq_of_entries {σ : Type} (responder : Responder interface σ) (state : σ)
    (settings : Settings) (selector : Json) (options : WriteOptions) {allowed : List String}
    (hlimited : options.fields = some allowed) {m m' : Mutator} (hreachable : m.Reachable)
    (hreachable' : m'.Reachable) (hsame : m.entries.filter (Entry.isAllowed allowed) =
      m'.entries.filter (Entry.isAllowed allowed)) :
    (applyMutator settings selector m options).run responder state =
      (applyMutator settings selector m' options).run responder state := by
  have hkept : restricted options m = restricted options m' := by
    rw [restricted, restricted, hlimited]
    exact Mutator.restrict_eq_of_entries hreachable hreachable' hsame
  rw [applyMutator_eq_of_restricted hkept]

private def naming : Mutator := .push .empty (.set, [("name", .scalar (.string "Ann"))])

private def faulty : Mutator :=
  (Mutator.push .empty (.inc, [("secret..x", .each [])])).push
    (.set, [("grades.$", .each []), ("name", .scalar (.string "Ann"))])

private def down : Responder interface Unit where
  respond
    | state, .send _ => (.error (.transport "down"), state)
    | state, .lookup _ => (.ok ["a"], state)
    | state, .log _ => ((), state)

/-- Paths and operands that no operator accepts go unnoticed beside an allowed field. -/
theorem faults_are_concealed :
    let run m := (applyMutator ⟨"", some "people", some "person", 30⟩ (.object []) m
      { fields := some ["name"], lookup := true }).run down ()
    naming.Reachable ∧ faulty.Reachable ∧
    faulty.script = .error (.invalidMutator (.emptySegment "secret..x")) ∧
    naming.entries.filter (Entry.isAllowed ["name"]) = faulty.entries.filter (Entry.isAllowed ["name"]) ∧
    (∃ report, (run naming).1 = .ok report ∧ report.script = some "ctx._source.name = \"Ann\"") ∧
    run naming = run faulty := by
  have hmade : naming.Reachable := Mutator.Built.empty.push (by decide) fun _ _ => trivial
  have hmade' : faulty.Reachable :=
    (Mutator.Built.empty.push (by decide) fun _ _ => trivial).push (by decide) fun _ _ => trivial
  have hsame : naming.entries.filter (Entry.isAllowed ["name"]) =
      faulty.entries.filter (Entry.isAllowed ["name"]) := rfl
  refine ⟨hmade, hmade', rfl, hsame, ⟨_, rfl, rfl⟩, ?_⟩
  exact applyMutator_run_eq_of_entries down () _ _ _ rfl hmade hmade' hsame

end Update

namespace Path

/-- A name without dots that is the whole path or stands before its first dot. -/
def Heads (name raw : String) : Prop :=
  '.' ∉ name.toList ∧ (raw = name ∨ ∃ rest, raw = name ++ "." ++ rest)

private theorem heads_top (raw : String) : Heads (top raw) raw := by
  have hcut := List.takeWhile_append_dropWhile (p := fun c => decide (c ≠ '.')) (l := raw.toList)
  have hafter := List.head?_dropWhile_not (fun c => decide (c ≠ '.')) raw.toList
  constructor
  · rw [top, String.toList_ofList]
    intro hmem
    simpa using List.mem_takeWhile_imp hmem
  · rw [top, ← String.toList_inj, String.toList_ofList]
    cases hleft : raw.toList.dropWhile (fun c => decide (c ≠ '.')) with
    | nil =>
      rw [hleft, List.append_nil] at hcut
      exact .inl hcut.symm
    | cons c rest =>
      rw [hleft] at hcut hafter
      obtain rfl : c = '.' := by simpa using hafter
      refine .inr ⟨String.ofList rest, ?_⟩
      rw [← String.toList_inj]
      simpa using hcut.symm

private theorem heads_iff {name raw : String} : Heads name raw ↔ top raw = name := by
  constructor
  · rintro ⟨hundotted, hwhole⟩
    have hbefore : ∀ c ∈ name.toList, decide (c ≠ '.') = true :=
      fun c hmem => decide_eq_true fun hsame => hundotted (hsame ▸ hmem)
    have hkept : raw.toList.takeWhile (· ≠ '.') = name.toList := by
      rcases hwhole with rfl | ⟨rest, rfl⟩
      · exact List.takeWhile_eq_self_iff.mpr hbefore
      · rw [String.toList_append, String.toList_append, List.append_assoc,
          List.takeWhile_append_of_pos hbefore]
        exact List.append_nil _
    rw [top, hkept, String.ofList_toList]
  · rintro rfl
    exact heads_top raw

end Path

namespace Mutator

variable {m : Mutator}

/-- What a mutator keeps that is restricted to an allow-list. -/
structure Keeps (m kept : Mutator) (allowed : List String) : Prop where
  operators : (kept.operations.map Prod.fst).Sublist (m.operations.map Prod.fst)
  fields : ∀ operation ∈ kept.operations, operation.2 ≠ [] ∧
    ∃ whole ∈ m.operations, whole.1 = operation.1 ∧ operation.2.Sublist whole.2
  entries : kept.entries.Sublist m.entries
  entry_iff : ∀ entry, entry ∈ kept.entries ↔
    entry ∈ m.entries ∧ ∃ name ∈ allowed, Path.Heads name entry.field

private theorem keeps_restrict (honce : (m.operations.map Prod.fst).Nodup) (allowed : List String) :
    m.Keeps (m.restrict allowed) allowed := by
  have hentries := entries_restrict honce allowed
  refine ⟨operators_restrict honce allowed, fun operation hmem => ⟨?_, ?_⟩, ?_, fun entry => ?_⟩
  · exact full_restrict honce allowed operation hmem
  · rw [operations_restrict honce] at hmem
    obtain ⟨whole, hold, rfl⟩ := List.mem_map.mp (List.mem_of_mem_filter hmem)
    exact ⟨whole, hold, rfl, List.filter_sublist⟩
  · rw [hentries]
    exact List.filter_sublist
  · simp [hentries, Entry.isAllowed, Path.heads_iff]

private theorem restrict_restrict (hreachable : m.Reachable) {allowed others both : List String}
    (hmeet : ∀ name, name ∈ both ↔ name ∈ allowed ∧ name ∈ others) :
    (m.restrict allowed).restrict others = m.restrict both := by
  refine restrict_eq_of_entries (hreachable.restrict allowed) hreachable ?_
  rw [entries_restrict hreachable.keyed.operators, List.filter_filter]
  refine List.filter_congr fun entry _ => ?_
  simp [Entry.isAllowed, hmeet, Bool.and_comm]

end Mutator

namespace Document

/-- What a document keeps that is restricted to an allow-list. -/
structure Keeps (document kept : Document) (allowed : List String) : Prop where
  members : kept.Sublist document
  member_iff : ∀ member, member ∈ kept ↔ member ∈ document ∧ (member.1 = idKey ∨ member.1 ∈ allowed)
  id : Entries.get? idKey kept = Entries.get? idKey document

private theorem keeps_restrict (document : Document) (allowed : List String) :
    document.Keeps (document.restrict allowed) allowed := by
  refine ⟨List.filter_sublist, fun member => ?_, ?_⟩
  · simp [restrict]
  · exact Entries.get?_filter (fun _ => decide_eq_true (.inl rfl)) document

private theorem restrict_restrict (document : Document) {allowed others both : List String}
    (hmeet : ∀ name, name ∈ both ↔ name ∈ allowed ∧ name ∈ others) :
    (document.restrict allowed).restrict others = document.restrict both := by
  rw [restrict, restrict, restrict, List.filter_filter]
  refine List.filter_congr fun member _ => ?_
  rw [← Bool.decide_and, decide_eq_decide, ← or_and_left, hmeet, and_comm (a := member.1 ∈ others)]

end Document

/-- Restricting by two allow-lists, one after the other, is restricting by the names that both have, so
that a list counts as a set of names. Each restriction keeps the entries whose first part is allowed, in
their order and without empty operations, and of a document the allowed members and its id. -/
theorem allow_lists_intersect {m : Mutator} (hreachable : m.Reachable) (document : Document)
    (allowed : List String) :
    (∀ others both : List String, (∀ name, name ∈ both ↔ name ∈ allowed ∧ name ∈ others) →
      (m.restrict allowed).restrict others = m.restrict both ∧
        (document.restrict allowed).restrict others = document.restrict both) ∧
    (∀ same : List String, (∀ name, name ∈ same ↔ name ∈ allowed) →
      m.restrict same = m.restrict allowed ∧ document.restrict same = document.restrict allowed) ∧
    m.Keeps (m.restrict allowed) allowed ∧ document.Keeps (document.restrict allowed) allowed := by
  refine ⟨fun others both hmeet => ⟨?_, ?_⟩, fun same hequal => ?_, ?_, ?_⟩
  · exact m.restrict_restrict hreachable hmeet
  · exact document.restrict_restrict hmeet
  · -- A list that is restricted to twice is one that is restricted to once.
    have htwice : ∀ name, name ∈ same ↔ name ∈ allowed ∧ name ∈ allowed := by simpa using hequal
    have honce : ∀ name, name ∈ allowed ↔ name ∈ allowed ∧ name ∈ allowed := by simp
    rw [← m.restrict_restrict hreachable htwice, ← document.restrict_restrict htwice]
    exact ⟨m.restrict_restrict hreachable honce, document.restrict_restrict honce⟩
  · exact Mutator.keeps_restrict hreachable.keyed.operators allowed
  · exact document.keeps_restrict allowed

private def profiling : Mutator :=
  (Mutator.empty.push (.set, [("profile.name", .scalar (.string "Ann")), ("secret", .scalar .null)])).push
    (.push, [("roles", .each [.string "admin"])])

/-- Two lists that have one field in common. -/
theorem only_profile_is_in_both :
    let document : Document := [("profile", .null), ("_id", .string "a"), ("roles", .array [])]
    let both : List String := ["profile"]
    profiling.Reachable ∧
    (∀ name, name ∈ both ↔ name ∈ ["roles", "profile"] ∧ name ∈ ["profile", "secret", "profile"]) ∧
    (profiling.restrict ["roles", "profile"]).restrict ["profile", "secret", "profile"] =
      profiling.restrict both ∧
    (document.restrict ["roles", "profile"]).restrict ["profile", "secret", "profile"] =
      document.restrict both ∧
    (profiling.restrict both).operations = [(.set, [("profile.name", .scalar (.string "Ann"))])] ∧
    document.restrict both = [("profile", .null), ("_id", .string "a")] := by
  intro document both
  have hreachable : profiling.Reachable :=
    (Mutator.Built.empty.push (by decide) fun _ _ => trivial).push (by decide) fun _ _ => trivial
  have hmeet : ∀ name, name ∈ both ↔
      name ∈ ["roles", "profile"] ∧ name ∈ ["profile", "secret", "profile"] := by
    intro name
    by_cases hprofile : name = "profile" <;> grind
  obtain ⟨hmutators, hdocuments⟩ := (allow_lists_intersect hreachable document _).1 _ both hmeet
  exact ⟨hreachable, hmeet, hmutators, hdocuments, rfl, rfl⟩

end IndexFeed
