import Mathlib.Data.List.Forall2
import IndexFeed.Mutator.Compile

/-! Walks over a list that end at the first failure: what they give when nothing fails. -/
namespace IndexFeed

variable {α β ε : Type}

/-- A mapped result comes from a result. -/
theorem map_eq_ok_iff {f : α → β} {x : Except ε α} {b : β} :
    x.map f = .ok b ↔ ∃ a, x = .ok a ∧ f a = b := by
  cases x <;> simp [Except.map]

theorem map_eq_error_iff {f : α → β} {x : Except ε α} {e : ε} :
    x.map f = .error e ↔ x = .error e := by
  cases x <;> simp [Except.map]

/-- Two steps give a result where each of them does. -/
theorem bind_eq_ok_iff {f : α → Except ε β} {x : Except ε α} {b : β} :
    x >>= f = .ok b ↔ ∃ a, x = .ok a ∧ f a = .ok b := by
  cases x <;> simp [bind, Except.bind]

/-- A walk succeeds where every step does, with the results in order. -/
theorem mapM_eq_some_iff {f : α → Option β} {xs : List α} {ys : List β} :
    xs.mapM f = some ys ↔ xs.map f = ys.map some := by
  induction xs generalizing ys with
  | nil => cases ys <;> simp
  | cons x xs ih =>
    cases hx : f x with
    | none => cases ys <;> simp [hx]
    | some y =>
      simp only [List.mapM_cons, hx, Option.bind_eq_bind, Option.bind_some, Option.bind_eq_some_iff,
        Option.pure_def, Option.some.injEq, List.map_cons]
      cases ys with
      | nil => simp
      | cons y' ys => simp [ih, and_left_comm]

/-- Every result of a walk is that of one of its steps. -/
theorem exists_of_mem_mapM {f : α → Option β} {xs : List α} {ys : List β}
    (h : xs.mapM f = some ys) {y : β} (hy : y ∈ ys) : ∃ x ∈ xs, f x = some y := by
  have hm : some y ∈ xs.map f := by rw [mapM_eq_some_iff.mp h]; exact List.mem_map_of_mem hy
  simpa using hm

/-- Related elements are walked over alike where related elements give the same. -/
theorem mapM_eq_of_forall₂ {R : α → α → Prop} {f : α → Option β} {xs ys : List α}
    (h : List.Forall₂ R xs ys) (hf : ∀ x y, R x y → f x = f y) : xs.mapM f = ys.mapM f := by
  induction h with
  | nil => rfl
  | cons hxy _ ih => rw [List.mapM_cons, List.mapM_cons, hf _ _ hxy, ih]

/-- Walks that give the same are over related elements, where elements that give the same are related. -/
theorem forall₂_of_mapM_eq_some {R : α → α → Prop} {f : α → Option β} {xs ys : List α} {zs : List β}
    (hx : xs.mapM f = some zs) (hy : ys.mapM f = some zs)
    (hf : ∀ x y z, f x = some z → f y = some z → R x y) : List.Forall₂ R xs ys := by
  rw [mapM_eq_some_iff] at hx hy
  -- What the walks give fixes how long both lists are, so the induction is on it.
  induction zs generalizing xs ys with
  | nil =>
    obtain rfl := List.map_eq_nil_iff.mp hx
    obtain rfl := List.map_eq_nil_iff.mp hy
    exact .nil
  | cons z zs ih =>
    obtain ⟨x, xs, rfl, hz, htail⟩ := List.map_eq_cons_iff.mp hx
    obtain ⟨y, ys, rfl, hz', htail'⟩ := List.map_eq_cons_iff.mp hy
    exact .cons (hf _ _ _ hz hz') (ih htail htail')

/-- A walk over the values of entries keeps their keys. -/
theorem mapM_values_eq_some_iff {κ : Type} {f : α → Option β} {xs : List (κ × α)}
    {ys : List (κ × β)} :
    xs.mapM (fun entry => (f entry.2).map (entry.1, ·)) = some ys ↔
      xs.map Prod.fst = ys.map Prod.fst ∧ (xs.map Prod.snd).mapM f = some (ys.map Prod.snd) := by
  rw [mapM_eq_some_iff, mapM_eq_some_iff]
  induction xs generalizing ys with
  | nil => cases ys <;> simp
  | cons x xs ih =>
    cases ys with
    | nil => simp
    | cons y ys =>
      obtain ⟨key, value⟩ := y
      simp only [List.map_cons, List.cons.injEq, ih, Option.map_eq_some_iff, Prod.mk.injEq]
      constructor
      · rintro ⟨⟨_, hfound, rfl, rfl⟩, hkeys, hvalues⟩
        exact ⟨⟨rfl, hkeys⟩, hfound, hvalues⟩
      · rintro ⟨⟨rfl, hkeys⟩, hfound, hvalues⟩
        exact ⟨⟨value, hfound, rfl, rfl⟩, hkeys, hvalues⟩

theorem collect_cons (f : α → Except ε (List β)) (x : α) (xs : List α) :
    collect f (x :: xs) = f x >>= fun ys => (collect f xs).map (ys ++ ·) := by
  rw [collect]
  cases f x <;> rfl

/-- The first step of a walk and the walk over the rest. -/
theorem collect_cons_eq_ok_iff {f : α → Except ε (List β)} {x : α} {xs : List α} {zs : List β} :
    collect f (x :: xs) = .ok zs ↔
      ∃ ys rest, f x = .ok ys ∧ collect f xs = .ok rest ∧ zs = ys ++ rest := by
  rw [collect_cons, bind_eq_ok_iff]
  simp only [map_eq_ok_iff]
  constructor
  · rintro ⟨ys, hx, rest, hr, rfl⟩
    exact ⟨ys, rest, hx, hr, rfl⟩
  · rintro ⟨ys, rest, hx, hr, rfl⟩
    exact ⟨ys, hx, rest, hr, rfl⟩

/-- What a step gives for each element, kept beside the elements. -/
structure Traces (f : α → Except ε (List β)) (xs : List α) (traced : List (α × List β)) : Prop where
  elements : traced.map Prod.fst = xs
  results : ∀ part ∈ traced, f part.1 = .ok part.2

/-- A walk succeeds where each step does, and gives the results of the steps one after the other. -/
theorem collect_eq_ok_iff {f : α → Except ε (List β)} {xs : List α} {zs : List β} :
    collect f xs = .ok zs ↔ ∃ traced, Traces f xs traced ∧ zs = traced.flatMap Prod.snd := by
  induction xs generalizing zs with
  | nil =>
    constructor
    · intro h
      exact ⟨[], ⟨rfl, List.forall_mem_nil _⟩, (Except.ok.inj h).symm⟩
    · rintro ⟨traced, ⟨hsame, -⟩, rfl⟩
      obtain rfl := List.map_eq_nil_iff.mp hsame
      rfl
  | cons x xs ih =>
    rw [collect_cons_eq_ok_iff]
    constructor
    · rintro ⟨ys, rest, hx, hr, rfl⟩
      obtain ⟨traced, ⟨rfl, heach⟩, rfl⟩ := ih.mp hr
      exact ⟨(x, ys) :: traced, ⟨rfl, List.forall_mem_cons.mpr ⟨hx, heach⟩⟩, rfl⟩
    · rintro ⟨_ | ⟨⟨x', ys⟩, traced⟩, ⟨hsame, heach⟩, rfl⟩
      · exact nomatch hsame
      · obtain ⟨rfl, rfl⟩ := List.cons.inj hsame
        obtain ⟨hx, heach⟩ := List.forall_mem_cons.mp heach
        exact ⟨ys, traced.flatMap Prod.snd, hx, ih.mpr ⟨traced, ⟨rfl, heach⟩, rfl⟩, rfl⟩

/-- The results for the elements that a condition keeps are among those for all. -/
theorem Traces.filter {f : α → Except ε (List β)} {xs : List α} {traced : List (α × List β)}
    (h : Traces f xs traced) (keep : α → Bool) :
    Traces f (xs.filter keep) (traced.filter fun part => keep part.1) := by
  constructor
  · rw [← h.elements, List.filter_map]
    rfl
  · exact fun part hin => h.results part (List.mem_filter.mp hin).1

/-- Every element of a result comes from one of the steps. -/
theorem exists_of_mem_collect {f : α → Except ε (List β)} {xs : List α} {zs : List β}
    (h : collect f xs = .ok zs) {z : β} (hz : z ∈ zs) : ∃ x ∈ xs, ∃ ys, f x = .ok ys ∧ z ∈ ys := by
  obtain ⟨traced, ⟨rfl, heach⟩, rfl⟩ := collect_eq_ok_iff.mp h
  obtain ⟨part, hin, hmem⟩ := List.mem_flatMap.mp hz
  exact ⟨part.1, List.mem_map_of_mem hin, part.2, heach part hin, hmem⟩

/-- A walk gives nothing where none of its steps gives anything. -/
theorem collect_eq_nil_iff {f : α → Except ε (List β)} {xs : List α} :
    collect f xs = .ok [] ↔ ∀ x ∈ xs, f x = .ok [] := by
  induction xs with
  | nil => simp [collect]
  | cons x xs ih =>
    rw [collect_cons_eq_ok_iff, List.forall_mem_cons, ← ih]
    simp only [List.nil_eq_append_iff]
    constructor
    · rintro ⟨_, _, hx, hr, rfl, rfl⟩
      exact ⟨hx, hr⟩
    · rintro ⟨hx, hr⟩
      exact ⟨[], [], hx, hr, rfl, rfl⟩

private theorem collect_append (f : α → Except ε (List β)) (xs ys : List α) :
    collect f (xs ++ ys) = collect f xs >>= fun zs => (collect f ys).map (zs ++ ·) := by
  induction xs with
  | nil =>
    rw [List.nil_append, collect]
    cases collect f ys <;> rfl
  | cons x xs ih =>
    rw [List.cons_append, collect_cons, collect_cons, ih]
    cases f x with
    | error e => rfl
    | ok zs =>
      cases collect f xs with
      | error e => rfl
      | ok zs' => cases collect f ys <;> simp [bind, Except.bind, Except.map]

theorem collect_map {γ : Type} (f : β → Except ε (List γ)) (g : α → β) (xs : List α) :
    collect f (xs.map g) = collect (fun x => f (g x)) xs := by
  induction xs with
  | nil => rfl
  | cons x xs ih => rw [List.map_cons, collect_cons, collect_cons, ih]

/-- A walk over two lists gives what the walks over each of them give. -/
theorem collect_append_eq_ok_iff {f : α → Except ε (List β)} {xs ys : List α} {zs : List β} :
    collect f (xs ++ ys) = .ok zs ↔
      ∃ first second, collect f xs = .ok first ∧ collect f ys = .ok second ∧ zs = first ++ second := by
  rw [collect_append, bind_eq_ok_iff]
  simp only [map_eq_ok_iff]
  constructor
  · rintro ⟨first, hx, second, hy, rfl⟩
    exact ⟨first, second, hx, hy, rfl⟩
  · rintro ⟨first, second, hx, hy, rfl⟩
    exact ⟨first, hx, second, hy, rfl⟩

/-- A walk over walks is one walk over all that they go through. -/
theorem collect_flatMap {γ : Type} (f : β → Except ε (List γ)) (g : α → List β) (xs : List α) :
    collect f (xs.flatMap g) = collect (fun x => collect f (g x)) xs := by
  induction xs with
  | nil => rfl
  | cons x xs ih => rw [List.flatMap_cons, collect_append, collect_cons, ih]

/-- A reader of lists that reads element by element inverts a writer where each element does. -/
theorem reader_eq_ok_iff {read : List α → Except ε (List β)} {step : α → Except ε β}
    {write : β → α} {Good : β → Prop} (hnil : read [] = .ok [])
    (hcons : ∀ x rest, read (x :: rest) = step x >>= fun y => (read rest).map (y :: ·))
    (heach : ∀ x y, step x = .ok y ↔ x = write y ∧ Good y) {xs : List α} {ys : List β} :
    read xs = .ok ys ↔ xs = ys.map write ∧ ∀ y ∈ ys, Good y := by
  induction xs generalizing ys with
  | nil => cases ys <;> simp [hnil]
  | cons x xs ih =>
    rw [hcons, bind_eq_ok_iff]
    simp only [map_eq_ok_iff, heach, ih]
    constructor
    · rintro ⟨y, ⟨rfl, hgood⟩, ys, ⟨rfl, hall⟩, rfl⟩
      exact ⟨rfl, List.forall_mem_cons.mpr ⟨hgood, hall⟩⟩
    · rintro ⟨hsame, hall⟩
      cases ys with
      | nil => exact nomatch hsame
      | cons y ys =>
        obtain ⟨rfl, rfl⟩ := List.cons.inj hsame
        obtain ⟨hgood, hall⟩ := List.forall_mem_cons.mp hall
        exact ⟨y, ⟨rfl, hgood⟩, ys, ⟨rfl, hall⟩, rfl⟩

@[simp] theorem isOk_map (f : α → β) (x : Except ε α) : (x.map f).isOk = x.isOk := by
  cases x <;> rfl

theorem isOk_iff {x : Except ε α} : x.isOk = true ↔ ∃ a, x = .ok a := by
  cases x <;> simp [Except.toBool]

/-- A step that succeeds where it is allowed, and otherwise fails in one way. -/
def Settled (allowed : Bool) (e : ε) (x : Except ε α) : Prop :=
  if allowed then ∃ a, x = .ok a else x = .error e

/-- A settled step succeeds just where it is allowed. -/
theorem Settled.isOk_eq {allowed : Bool} {e : ε} {x : Except ε α} (h : Settled allowed e x) :
    x.isOk = allowed := by
  cases allowed with
  | true => exact isOk_iff.mpr h
  | false =>
    obtain rfl : x = .error e := h
    rfl

theorem Settled.eq_error {e : ε} {x : Except ε α} (h : Settled false e x) : x = .error e := h

/-- A walk succeeds where all of its steps do. -/
theorem isOk_collect (f : α → Except ε (List β)) (xs : List α) :
    (collect f xs).isOk = xs.all fun x => (f x).isOk := by
  induction xs with
  | nil => rfl
  | cons x xs ih =>
    rw [collect, List.all_cons, ← ih]
    cases f x with
    | error e => rfl
    | ok ys => rw [isOk_map]; rfl

/-- A walk fails as its first failing step does. -/
theorem collect_eq_error_iff {f : α → Except ε (List β)} {xs : List α} {e : ε} :
    collect f xs = .error e ↔ ∃ x, xs.find? (fun x => !(f x).isOk) = some x ∧ f x = .error e := by
  induction xs with
  | nil => simp [collect]
  | cons x xs ih =>
    rw [collect, List.find?_cons]
    cases h : f x with
    | error e' => simp [Except.toBool, h]
    | ok ys =>
      rw [show (!(Except.ok ys : Except ε (List β)).isOk) = false from rfl, ← ih]
      cases collect f xs <;> simp [Except.map]

/-- A step fails with the first of these faults, and succeeds where there is none. -/
def Reports (faults : List ε) (x : Except ε α) : Prop := ∀ e, x = .error e ↔ faults.head? = some e

namespace Reports

variable {faults more : List ε} {x : Except ε α}

theorem ok (a : α) : Reports [] (.ok a : Except ε α) := by simp [Reports]

theorem error (e : ε) (more : List ε) : Reports (e :: more) (.error e : Except ε α) := by
  simp [Reports]

/-- There are no faults just where the step succeeds. -/
theorem eq_nil_iff (h : Reports faults x) : faults = [] ↔ ∃ a, x = .ok a := by
  cases faults with
  | nil =>
    cases x with
    | ok a => simp
    | error e => exact nomatch (h e).mp rfl
  | cons e more =>
    obtain rfl := (h e).mpr rfl
    simp

/-- What comes after a step that succeeds has the next faults; after one that fails they do not count. -/
theorem bind (h : Reports faults x) {f : α → Except ε β}
    (hnext : ∀ a, x = .ok a → Reports more (f a)) : Reports (faults ++ more) (x >>= f) := by
  cases x with
  | ok a =>
    obtain rfl := h.eq_nil_iff.mpr ⟨a, rfl⟩
    exact hnext a rfl
  | error e =>
    obtain ⟨rest, rfl⟩ := List.head?_eq_some_iff.mp ((h e).mp rfl)
    exact error e (rest ++ more)

theorem map (h : Reports faults x) (f : α → β) : Reports faults (x.map f) :=
  fun e => map_eq_error_iff.trans (h e)

/-- A reader of lists has the faults of each element, one element after the other. -/
theorem reader {read : List α → Except ε (List β)} {step : α → Except ε β} {faults : α → List ε}
    (hnil : read [] = .ok [])
    (hcons : ∀ x rest, read (x :: rest) = step x >>= fun y => (read rest).map (y :: ·))
    (heach : ∀ x, Reports (faults x) (step x)) (xs : List α) :
    Reports (xs.flatMap faults) (read xs) := by
  induction xs with
  | nil =>
    rw [hnil]
    exact ok []
  | cons x xs ih =>
    rw [hcons, List.flatMap_cons]
    exact (heach x).bind fun y _ => ih.map (y :: ·)

end Reports

/-- A walk has a result where all of its steps do. -/
theorem isSome_mapM (f : α → Option β) (xs : List α) :
    (xs.mapM f).isSome = xs.all fun x => (f x).isSome := by
  induction xs with
  | nil => rfl
  | cons x xs ih =>
    rw [List.mapM_cons, List.all_cons, ← ih]
    cases f x with
    | none => rfl
    | some y => cases xs.mapM f <;> rfl

end IndexFeed
