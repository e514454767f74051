import IndexFeed.Proofs.Traverse
import IndexFeed.Update.Basic

/-! Whole documents: inserting and merging address one target, the one that selecting the id addresses. -/
namespace IndexFeed

/-- A filter by keys does not change what is found under a key that it keeps. -/
theorem Entries.get?_filter {κ α : Type} [DecidableEq κ] {keep : κ × α → Bool} {key : κ}
    (hkept : ∀ value, keep (key, value) = true) (entries : List (κ × α)) :
    get? key (entries.filter keep) = get? key entries := by
  induction entries with
  | nil => rfl
  | cons entry rest ih =>
    obtain ⟨k, value⟩ := entry
    rw [get?]
    by_cases hsame : k = key
    · subst hsame
      rw [List.filter_cons_of_pos (hkept value), get?, if_pos rfl, if_pos rfl]
    · rw [if_neg hsame, ← ih, List.filter_cons]
      split
      · rw [get?, if_neg hsame]
      · rfl

private theorem Document.id_eq_ok_iff {written : Document} {name : String} :
    Document.id written = .ok name ↔
      ∃ id, Entries.get? idKey written = some id ∧ id.name? = some name := by
  rw [Document.id]
  cases h : Entries.get? idKey written with
  | none => simp
  | some id => cases hn : id.name? <;> simp [hn]

private theorem Document.ofJson_eq_ok_iff {document : Json} {written : Document} :
    Document.ofJson document = .ok written ↔ document = .object written := by
  cases document <;> simp [ofJson]

/-- Selecting a document by an id that has a name selects the document of that name alone. -/
theorem Selector.ids?_id {id : Json} {name : String} (h : id.name? = some name) :
    Selector.ids? (.object [(idKey, id)]) = some [name] := by
  simp [ids?, Json.members?, Entries.get?, h]

namespace Update

/-- A document with an id that has a name, and the target that a write of it has. -/
structure Addressed (settings : Settings) (options : WriteOptions) (document : Json)
    (written : Document) (id : Json) (target : Target) : Prop where
  object : document = .object written
  member : Entries.get? idKey written = some id
  name : id.name? = some target.id
  place : Update.place settings options = .ok ⟨target.index, target.type⟩

/-- The members of a document that an index with these options has. -/
def mirrored (options : WriteOptions) (written : Document) : Document :=
  match options.fields with
  | some allowed => written.restrict allowed
  | none => written

private theorem get?_mirrored (options : WriteOptions) (written : Document) :
    Entries.get? idKey (mirrored options written) = Entries.get? idKey written := by
  rw [mirrored]
  split
  · exact Entries.get?_filter (fun _ => decide_eq_true (.inl rfl)) written
  · rfl

variable {settings : Settings} {options : WriteOptions} {document : Json}

/-- A document is prepared where it is addressed, and keeps the members that the index has. -/
theorem prepare_eq_ok_iff {target : Target} {members : Document} :
    prepare settings options document = .ok (target, members) ↔
      ∃ written id, Addressed settings options document written id target ∧
        members = mirrored options written := by
  simp only [prepare, bind_eq_ok_iff, Document.ofJson_eq_ok_iff, Document.id_eq_ok_iff]
  constructor
  · rintro ⟨place, hp, written, rfl, name, ⟨id, hmember, hnamed⟩, hsame⟩
    obtain ⟨rfl, rfl⟩ := Prod.mk.inj (Except.ok.inj hsame)
    exact ⟨written, id, ⟨rfl, hmember, hnamed, hp⟩, rfl⟩
  · rintro ⟨written, id, ⟨rfl, hmember, hnamed, hp⟩, rfl⟩
    exact ⟨_, hp, written, rfl, target.id, ⟨id, hmember, hnamed⟩, rfl⟩

/-- The run of a program that sends one request and gives the answer to it. -/
def answered {σ : Type} (responder : Responder interface σ) (state : σ) (request : Request) :
    Except Error Json × Dialogue interface × σ :=
  let (answer, state) := responder.respond state (.send request)
  (answer, [⟨.send request, answer⟩], state)

section
variable {σ : Type} (responder : Responder interface σ) (state : σ)

private theorem runs_of_error {e : Error} (hrefused : prepare settings options document = .error e) :
    (insert settings document options).run responder state = (.error e, [], state) ∧
      (merge settings document options).run responder state = (.error e, [], state) := by
  rw [insert, merge, hrefused]
  exact ⟨rfl, rfl⟩

private theorem runs_of_ok {target : Target} {members : Document}
    (hprepared : prepare settings options document = .ok (target, members)) :
    (insert settings document options).run responder state =
        answered responder state (.index ⟨target, .object members⟩) ∧
      (merge settings document options).run responder state =
        answered responder state (.update ⟨target, .doc (.object members)⟩) := by
  rw [insert, merge, hprepared]
  exact ⟨rfl, rfl⟩

end

/-- Inserting and merging a document agree. Either it is not addressed, and both fail alike without a
question to anyone, or both send one request to one target with the same members, and give the answer
to it. Selecting the id of the document names that target alone; the id is sent as it was written, and
so are the other members that the index has, in their order. -/
theorem insert_merge_agree {σ : Type} (responder : Responder interface σ) (state : σ)
    (settings : Settings) (document : Json) (options : WriteOptions) :
    let inserted := (insert settings document options).run responder state
    let merged := (merge settings document options).run responder state
    ((¬ ∃ written id target, Addressed settings options document written id target) ∧
      ∃ e, inserted = (.error e, [], state) ∧ merged = (.error e, [], state)) ∨
    ∃ written id target members, Addressed settings options document written id target ∧
      inserted = answered responder state (.index ⟨target, .object members⟩) ∧
      merged = answered responder state (.update ⟨target, .doc (.object members)⟩) ∧
      Selector.ids? (.object [(idKey, id)]) = some [target.id] ∧
      Entries.get? idKey members = some id ∧
      (options.fields = none → members = written) ∧
      ∀ allowed, options.fields = some allowed →
        members = written.filter fun member => member.1 = idKey ∨ member.1 ∈ allowed := by
  intro inserted merged
  cases hprepared : prepare settings options document with
  | error e =>
    refine .inl ⟨?_, e, runs_of_error responder state hprepared⟩
    rintro ⟨written, id, target, haddressed⟩
    have hready := prepare_eq_ok_iff.mpr ⟨written, id, haddressed, rfl⟩
    exact nomatch hprepared.symm.trans hready
  | ok ready =>
    obtain ⟨target, members⟩ := ready
    obtain ⟨hinsertion, hmerging⟩ := runs_of_ok responder state hprepared
    obtain ⟨written, id, haddressed, rfl⟩ := prepare_eq_ok_iff.mp hprepared
    refine .inr ⟨written, id, target, mirrored options written, haddressed, hinsertion, hmerging,
      Selector.ids?_id haddressed.name, (get?_mirrored options written).trans haddressed.member, ?_, ?_⟩
    · intro hall
      rw [mirrored, hall]
    · intro allowed hlimited
      rw [mirrored, hlimited]
      rfl

end Update
end IndexFeed
