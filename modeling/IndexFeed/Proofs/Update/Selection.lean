import Mathlib.Data.List.Forall2
import IndexFeed.Proofs.Update.Partial

/-! Selectors that name documents: which ids they name, what they say beside, and what is looked up. -/
namespace IndexFeed

/-- Strings and numbers can be ids; both are called by their text. -/
inductive Json.Called : Json → String → Prop where
  | string (s : String) : Called (.string s) s
  | number (n : Number) : Called (.number n) n.text

private theorem Json.name?_eq_some_iff {id : Json} {name : String} :
    id.name? = some name ↔ id.Called name := by
  constructor
  · intro hnamed
    cases id with
    | string s =>
      obtain rfl := Option.some.inj hnamed
      exact .string s
    | number n =>
      obtain rfl := Option.some.inj hnamed
      exact .number n
    | null | bool _ | array _ | object _ => exact nomatch hnamed
  · rintro (_ | _) <;> rfl

private theorem Json.mapM_name?_eq_some_iff {items : List Json} {names : List String} :
    items.mapM name? = some names ↔ List.Forall₂ Called items names := by
  rw [mapM_eq_some_iff, ← List.forall₂_eq_eq_eq, List.forall₂_map_left_iff,
    List.forall₂_map_right_iff]
  simp only [name?_eq_some_iff]

private theorem eq_singleton_of_keys {key : String} {members : List (String × Json)}
    (halone : members.map Prod.fst = [key]) : ∃ value, members = [(key, value)] := by
  obtain ⟨⟨_, value⟩, rfl, rfl⟩ := List.map_eq_singleton_iff.mp halone
  exact ⟨value, rfl⟩

namespace Selector

/-- A value under the id key that names documents: an id, or operators with a list of ids among them. -/
inductive Naming : Json → List String → Prop where
  | one {id : Json} {name : String} (hcalled : id.Called name) : Naming id [name]
  | several {operators : List (String × Json)} {items : List Json} {ids : List String}
    (hlisted : Entries.get? anyOfKey operators = some (.array items))
    (heach : List.Forall₂ Json.Called items ids) : Naming (.object operators) ids

/-- A selector that names documents, whatever else it says of them. -/
inductive Names : Json → List String → Prop where
  | members {members : List (String × Json)} {id : Json} {ids : List String}
    (hgiven : Entries.get? idKey members = some id) (hnaming : Naming id ids) : Names (.object members) ids

/-- A selector that names documents and says nothing else. -/
inductive NamesOnly : Json → List String → Prop where
  | one {id : Json} {name : String} (hcalled : id.Called name) : NamesOnly (.object [(idKey, id)]) [name]
  | several {items : List Json} {ids : List String} (heach : List.Forall₂ Json.Called items ids) :
    NamesOnly (.object [(idKey, .object [(anyOfKey, .array items)])]) ids

/-- A selector that names documents and has further predicates: beside the id, or beside the list. -/
inductive Narrowed : Json → Prop where
  | key {members : List (String × Json)} {ids : List String} (hnames : Names (.object members) ids)
    (hfurther : members.map Prod.fst ≠ [idKey]) : Narrowed (.object members)
  | operator {members operators : List (String × Json)} {ids : List String}
    (hnames : Names (.object members) ids)
    (hgiven : Entries.get? idKey members = some (.object operators))
    (hfurther : operators.map Prod.fst ≠ [anyOfKey]) : Narrowed (.object members)

variable {selector : Json} {ids : List String}

private theorem names_of_ids? (h : ids? selector = some ids) : Names selector ids := by
  obtain ⟨members, hin, hfound⟩ := Option.bind_eq_some_iff.mp h
  obtain ⟨id, hgiven, hnaming⟩ := Option.bind_eq_some_iff.mp hfound
  cases selector with
  | null | bool _ | number _ | string _ | array _ => exact nomatch hin
  | object _ =>
    obtain rfl := Option.some.inj hin
    refine .members hgiven ?_
    split at hnaming
    · next name hnamed =>
      obtain rfl := Option.some.inj hnaming
      exact .one (Json.name?_eq_some_iff.mp hnamed)
    · obtain ⟨operators, hin, hfound⟩ := Option.bind_eq_some_iff.mp hnaming
      obtain ⟨list, hlisted, heach⟩ := Option.bind_eq_some_iff.mp hfound
      cases id with
      | null | bool _ | number _ | string _ | array _ => exact nomatch hin
      | object _ =>
        obtain rfl := Option.some.inj hin
        cases list with
        | array items => exact .several hlisted (Json.mapM_name?_eq_some_iff.mp heach)
        | null | bool _ | number _ | string _ | object _ => exact nomatch heach

private theorem ids?_of_names (h : Names selector ids) : ids? selector = some ids := by
  obtain ⟨hgiven, hnaming⟩ := h
  cases hnaming with
  | one hcalled => simp [ids?, Json.members?, hgiven, Json.name?_eq_some_iff.mpr hcalled]
  | several hlisted heach =>
    simp [ids?, Json.members?, Json.name?, hgiven, hlisted, Json.mapM_name?_eq_some_iff.mpr heach]

/-- Ids are taken from every selector that names them, whatever else it says. -/
theorem ids?_eq_some_iff : ids? selector = some ids ↔ Names selector ids :=
  ⟨names_of_ids?, ids?_of_names⟩

private theorem NamesOnly.names (h : NamesOnly selector ids) : Names selector ids := by
  cases h with
  | one hcalled => exact .members (if_pos rfl) (.one hcalled)
  | several heach => exact .members (if_pos rfl) (.several (if_pos rfl) heach)

private theorem NamesOnly.not_narrowed (h : NamesOnly selector ids) : ¬ Narrowed selector := by
  rintro (⟨_, hfurther⟩ | ⟨_, hgiven, hfurther⟩)
  · cases h with
    | one hcalled => exact hfurther rfl
    | several heach => exact hfurther rfl
  · cases h with
    | one hcalled =>
      obtain rfl := Option.some.inj hgiven
      exact nomatch hcalled
    | several heach =>
      obtain rfl := Json.object.inj (Option.some.inj hgiven)
      exact hfurther rfl

/-- A selector that names documents says nothing else, or narrows them down. -/
theorem Names.namesOnly_or_narrowed (h : Names selector ids) :
    NamesOnly selector ids ∨ Narrowed selector := by
  cases h with
  | @members members id _ hgiven hnaming =>
    by_cases halone : members.map Prod.fst = [idKey]
    · cases hnaming with
      | one hcalled =>
        obtain ⟨value, rfl⟩ := eq_singleton_of_keys halone
        obtain rfl := Option.some.inj hgiven
        exact .inl (.one hcalled)
      | @several operators _ _ hlisted heach =>
        by_cases hsole : operators.map Prod.fst = [anyOfKey]
        · obtain ⟨value, rfl⟩ := eq_singleton_of_keys halone
          obtain rfl := Option.some.inj hgiven
          obtain ⟨list, rfl⟩ := eq_singleton_of_keys hsole
          obtain rfl := Option.some.inj hlisted
          exact .inl (.several heach)
        · exact .inr (.operator (.members hgiven (.several hlisted heach)) hgiven hsole)
    · exact .inr (.key (.members hgiven hnaming) halone)

/-- Selectors that name documents and say nothing else are the ones whose ids are taken, as long as no
further predicate is there to be overlooked. -/
theorem ids?_exact_iff :
    (∀ ids, ids? selector = some ids ↔ NamesOnly selector ids) ↔ ¬ Narrowed selector := by
  constructor
  · intro hexactly hnarrowed
    have hnamed : ∃ ids, Names selector ids := by
      rcases hnarrowed with ⟨hnames, -⟩ | ⟨hnames, -, -⟩ <;> exact ⟨_, hnames⟩
    obtain ⟨ids, hnames⟩ := hnamed
    exact ((hexactly ids).mp (ids?_eq_some_iff.mpr hnames)).not_narrowed hnarrowed
  · intro hplain ids
    rw [ids?_eq_some_iff]
    exact ⟨fun hnames => hnames.namesOnly_or_narrowed.resolve_right hplain, NamesOnly.names⟩

/-- A predicate beside an id is overlooked, and so is an operator beside a list of ids: the documents
that they exclude are named all the same. -/
theorem further_predicates_are_overlooked :
    let scored : Json := .object [(idKey, .string "x"),
      ("score", .object [("$gt", .number (.integer 10))])]
    let excluded : Json := .object [(idKey, .object [(anyOfKey, .array [.string "x"]),
      ("$nin", .array [.string "x"])])]
    (ids? scored = some ["x"] ∧ ∀ ids, ¬ NamesOnly scored ids) ∧
      ids? excluded = some ["x"] ∧ ∀ ids, ¬ NamesOnly excluded ids :=
  ⟨⟨rfl, nofun⟩, rfl, nofun⟩

end Selector

namespace Update
open Program (course_of_run)

variable {σ τ : Type} {settings : Settings} {options : WriteOptions} {selector : Json}
  {m : Mutator} {place : Place} {script : String} {sent : List (Request × Except Error Json)}
  {asked : List (Json × Except Error (List String))} {result : Except Error Report}

/-- An update that has everything else resolves its selector, and writes to the ids it gets. -/
theorem Applied.of_ready (h : Applied settings options selector m sent asked result)
    (hready : Ready settings options m place script) :
    ∃ found, Resolved options selector asked found ∧
      Dispatched options place script found sent result := by
  cases h with
  | refused hunready e => exact absurd hready (hunready _ _)
  | idle hunready reason => exact absurd hready (hunready _ _)
  | dispatched hready' hresolved hdispatched =>
    obtain ⟨rfl, rfl⟩ := hready.unique hready'
    exact ⟨_, hresolved, hdispatched⟩

/-- The ids that a selector names are written to without a lookup. -/
theorem Applied.of_named {ids : List String}
    (h : Applied settings options selector m sent asked result)
    (hready : Ready settings options m place script) (hnamed : Selector.ids? selector = some ids) :
    asked = [] ∧ sent.map Prod.fst = (limited options ids).map (order place script) := by
  obtain ⟨found, hresolved, hdispatched⟩ := h.of_ready hready
  cases hresolved with
  | named hnamed' =>
    obtain rfl := Option.some.inj (hnamed'.symm.trans hnamed)
    exact ⟨rfl, hdispatched.requests_eq⟩
  | found hunnamed _ => exact nomatch hunnamed.symm.trans hnamed
  | unnamed hunnamed _ => exact nomatch hunnamed.symm.trans hnamed

/-- A selector that names no ids is looked up as a whole, and what is found is written to. -/
theorem Applied.of_lookup {finder : Responder lookupInterface τ} {t : τ}
    (h : Applied settings options selector m sent asked result)
    (hanswered : asked.map Prod.snd = finder.answers t (asked.map Prod.fst))
    (hready : Ready settings options m place script) (hunnamed : Selector.ids? selector = none)
    (henabled : options.lookup = true) :
    let answer := (finder.respond t selector).1
    asked = [(selector, answer)] ∧
      sent.map Prod.fst = (limited options (answer.toOption.getD [])).map (order place script) := by
  intro answer
  obtain ⟨found, hresolved, hdispatched⟩ := h.of_ready hready
  cases hresolved with
  | named hnamed => exact nomatch hnamed.symm.trans hunnamed
  | found _ _ =>
    obtain rfl : found = answer := (List.cons.inj hanswered).1
    exact ⟨rfl, hdispatched.requests_eq⟩
  | unnamed _ hdisabled => exact nomatch hdisabled.symm.trans henabled

/-- A selector that names no ids is refused where there is no lookup. -/
theorem Applied.of_noLookup (h : Applied settings options selector m sent asked result)
    (hready : Ready settings options m place script) (hunnamed : Selector.ids? selector = none)
    (hdisabled : options.lookup = false) :
    result = .error (.settings .noLookup) ∧ asked = [] ∧ sent = [] := by
  obtain ⟨found, hresolved, hdispatched⟩ := h.of_ready hready
  cases hresolved with
  | named hnamed => exact nomatch hnamed.symm.trans hunnamed
  | found _ henabled => exact nomatch hdisabled.symm.trans henabled
  | unnamed _ _ =>
    cases hdispatched
    exact ⟨rfl, rfl, rfl⟩

/-- An update writes to the ids that its selector names, and looks the whole selector up where it names
none. Ids are taken from a selector whatever else it says, so they are those of a selector that says
nothing else unless it narrows the named documents down. -/
theorem applyMutator_selects (index : Responder indexInterface σ)
    (finder : Responder lookupInterface τ) (s : σ) (t : τ) (settings : Settings) (selector : Json)
    (m : Mutator) (options : WriteOptions) :
    let run := (applyMutator settings selector m options).run (together index finder) (s, t)
    let answer := (finder.respond t selector).1
    (∀ ids, Selector.ids? selector = some ids ↔ Selector.Names selector ids) ∧
    ((∀ ids, Selector.ids? selector = some ids ↔ Selector.NamesOnly selector ids) ↔
      ¬ Selector.Narrowed selector) ∧
    ∀ place script, Ready settings options m place script →
      (∀ ids, Selector.ids? selector = some ids → lookups run.2.1 = [] ∧
        requests run.2.1 = (limited options ids).map (order place script)) ∧
      (Selector.ids? selector = none → options.lookup = true →
        lookups run.2.1 = [(selector, answer)] ∧
        requests run.2.1 = (limited options (answer.toOption.getD [])).map (order place script)) ∧
      (Selector.ids? selector = none → options.lookup = false →
        run.1 = .error (.settings .noLookup) ∧ lookups run.2.1 = [] ∧ requests run.2.1 = []) := by
  intro run answer
  refine ⟨fun _ => Selector.ids?_eq_some_iff, Selector.ids?_exact_iff, fun place script hready => ?_⟩
  have happlied := applyMutator_course (course_of_run (rfl : run = (run.1, run.2.1, run.2.2)))
  have hanswered := lookups_answers index finder s t (applyMutator settings selector m options)
  refine ⟨fun ids hnamed => happlied.of_named hready hnamed,
    fun hunnamed henabled => happlied.of_lookup hanswered hready hunnamed henabled,
    fun hunnamed hdisabled => ?_⟩
  obtain ⟨hfailed, hlooked, hwritten⟩ := happlied.of_noLookup hready hunnamed hdisabled
  exact ⟨hfailed, hlooked, List.map_eq_nil_iff.mpr hwritten⟩

private def obliging : Responder indexInterface Unit := ⟨fun _ _ => (.ok .null, ())⟩

private def findsY : Responder lookupInterface Unit := ⟨fun _ _ => (.ok ["y"], ())⟩

/-- Ids in a list are taken as they are written, repeated ones and numbers too. -/
theorem listed_ids_are_named :
    let listed : Json := .object [(idKey, .object [(Selector.anyOfKey,
      .array [.string "b", .number (.integer 1), .string "b"])])]
    let scored : Json := .object [("score", .object [("$gt", .number (.integer 10))])]
    let run (selector : Json) (lookup : Bool) :=
      (applyMutator ⟨"", some "people", some "person", 30⟩ selector
        ⟨[(.unset, [("name", .scalar .null)])]⟩ { multi := true, lookup }).run
          (together obliging findsY) ((), ())
    let removal := order ⟨"people", "person"⟩ "ctx._source.remove(\"name\")"
    (¬ Selector.Narrowed listed ∧ Selector.ids? listed = some ["b", "1", "b"] ∧
      lookups (run listed true).2.1 = [] ∧
      requests (run listed true).2.1 = ["b", "1", "b"].map removal) ∧
    (Selector.ids? scored = none ∧ lookups (run scored true).2.1 = [(scored, .ok ["y"])] ∧
      requests (run scored true).2.1 = ["y"].map removal) ∧
    (run scored false).1 = .error (.settings .noLookup) := by
  intro listed scored run removal
  have hselects (selector : Json) (lookup : Bool) := applyMutator_selects obliging findsY () ()
    ⟨"", some "people", some "person", 30⟩ selector ⟨[(.unset, [("name", .scalar .null)])]⟩
    { multi := true, lookup }
  have hready (lookup : Bool) : Ready ⟨"", some "people", some "person", 30⟩
      { multi := true, lookup } ⟨[(.unset, [("name", .scalar .null)])]⟩ ⟨"people", "person"⟩
      "ctx._source.remove(\"name\")" := ⟨rfl, rfl, rfl, by decide⟩
  have hnamed : Selector.NamesOnly listed ["b", "1", "b"] :=
    .several (.cons (.string _) (.cons (.number (.integer 1)) (.cons (.string _) .nil)))
  have htaken := ((hselects listed true).2.1.mpr hnamed.not_narrowed _).mpr hnamed
  refine ⟨⟨hnamed.not_narrowed, htaken, ?_⟩, ⟨rfl, ?_⟩, ?_⟩
  · exact ((hselects listed true).2.2 _ _ (hready true)).1 _ htaken
  · exact ((hselects scored true).2.2 _ _ (hready true)).2.1 rfl rfl
  · exact (((hselects scored false).2.2 _ _ (hready false)).2.2 rfl rfl).1

end Update
end IndexFeed
