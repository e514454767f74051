import IndexFeed.Proofs.Mutator.History

/-! Mutators as ordered maps from operators: what pushed operations do to order and fields. -/
namespace IndexFeed

namespace Entries

variable {κ α : Type} [DecidableEq κ]

/-- Gives several keys their values, one after the other. -/
def putAll (entries written : List (κ × α)) : List (κ × α) :=
  entries.foldl (fun written entry => put entry.1 entry.2 written) written

/-- The value that comes last of those that are written for a key. -/
def last? (key : κ) (entries : List (κ × α)) : Option α := get? key entries.reverse

private theorem putAll_cons (entry : κ × α) (rest written : List (κ × α)) :
    putAll (entry :: rest) written = putAll rest (put entry.1 entry.2 written) := rfl

private theorem get?_append (key : κ) (first second : List (κ × α)) :
    get? key (first ++ second) = (get? key first).or (get? key second) := by
  induction first with
  | nil => rfl
  | cons entry rest ih =>
    by_cases h : entry.1 = key <;> simp [get?, h, ih]

private theorem last?_cons (key : κ) (entry : κ × α) (rest : List (κ × α)) :
    last? key (entry :: rest) = (last? key rest).or (get? key [entry]) := by
  rw [last?, List.reverse_cons, get?_append, last?]

private theorem get?_put (key : κ) (entry : κ × α) (written : List (κ × α)) :
    get? key (put entry.1 entry.2 written) = (get? key [entry]).or (get? key written) := by
  by_cases h : entry.1 = key
  · rw [← h, get?_put_self, get?, if_pos rfl]
    rfl
  · rw [get?_put_of_ne (Ne.symm h), get?, if_neg h]
    rfl

/-- A key has the value that was written last for it, or the one that it had. -/
theorem get?_putAll (key : κ) (entries written : List (κ × α)) :
    get? key (putAll entries written) = (last? key entries).or (get? key written) := by
  induction entries generalizing written with
  | nil => rfl
  | cons entry rest ih => rw [putAll_cons, ih, get?_put, last?_cons, Option.or_assoc]

/-- The keys stay where they are; new ones follow in the order in which they first occur. -/
theorem keys_putAll (entries written : List (κ × α)) :
    (putAll entries written).map Prod.fst = written.map Prod.fst ++
      ((entries.map Prod.fst).filter (· ∉ written.map Prod.fst)).eraseDups := by
  induction entries generalizing written with
  | nil => simp [putAll]
  | cons entry rest ih =>
    rw [putAll_cons, ih, keys_put, List.map_cons]
    by_cases hknown : entry.1 ∈ written.map Prod.fst
    · rw [if_pos hknown, List.filter_cons_of_neg (by simpa using hknown)]
    · have hlater : (rest.map Prod.fst).filter (· ∉ written.map Prod.fst ++ [entry.1]) =
          ((rest.map Prod.fst).filter (· ∉ written.map Prod.fst)).filter fun key => !key == entry.1 := by
        rw [List.filter_filter]
        refine List.filter_congr fun key _ => ?_
        simp only [List.mem_append, List.mem_singleton, not_or, Bool.decide_and, decide_not]
        exact Bool.and_comm _ _
      rw [if_neg hknown, List.filter_cons_of_pos (by simpa using hknown), List.eraseDups_cons, hlater,
        List.append_assoc, List.singleton_append]

private theorem filter_put (keep : κ → Bool) {key : κ} (h : keep key = false) (value : α)
    (written : List (κ × α)) :
    (put key value written).filter (fun entry => keep entry.1) =
      written.filter fun entry => keep entry.1 := by
  induction written with
  | nil => simp [put, h]
  | cons entry rest ih =>
    rw [put]
    split
    · next hsame => simp [hsame, h]
    · rw [List.filter_cons, List.filter_cons, ih]

/-- Entries whose keys are not written are left alone. -/
theorem filter_putAll (keep : κ → Bool) {entries : List (κ × α)}
    (h : ∀ entry ∈ entries, keep entry.1 = false) (written : List (κ × α)) :
    (putAll entries written).filter (fun entry => keep entry.1) =
      written.filter fun entry => keep entry.1 := by
  induction entries generalizing written with
  | nil => rfl
  | cons entry rest ih =>
    obtain ⟨hfirst, hlater⟩ := List.forall_mem_cons.mp h
    rw [putAll_cons, ih hlater, filter_put keep hfirst]

end Entries

namespace Mutator

/-- Pushes several operations, one after the other. -/
def pushAll (m : Mutator) (pushed : List Operation) : Mutator := pushed.foldl push m

def operators (m : Mutator) : List Operator := m.operations.map Prod.fst

/-- Pushing operations writes them one after the other. -/
theorem operations_pushAll (m : Mutator) (pushed : List Operation) :
    (m.pushAll pushed).operations = Entries.putAll pushed m.operations := by
  induction pushed generalizing m with
  | nil => rfl
  | cons operation rest ih => exact ih (m.push operation)

/-- In a mutator that can be made each operator occurs once. Whatever is pushed onto a mutator, its
operators keep their order and new ones follow as they first occur; each one has the fields that were
pushed last for it, or else its own, and operations whose operators are not pushed are left alone. -/
theorem pushAll_insertion_ordered :
    (∀ m : Mutator, m.Reachable → m.operators.Nodup) ∧
    ∀ (m : Mutator) (pushed : List Operation),
      (m.pushAll pushed).operators = m.operators ++
        ((pushed.map Prod.fst).filter (· ∉ m.operators)).eraseDups ∧
      (∀ operator, Entries.get? operator (m.pushAll pushed).operations =
        (Entries.last? operator pushed).or (Entries.get? operator m.operations)) ∧
      (m.pushAll pushed).operations.filter (fun operation => operation.1 ∉ pushed.map Prod.fst) =
        m.operations.filter fun operation => operation.1 ∉ pushed.map Prod.fst := by
  refine ⟨fun m hmade => hmade.keyed.operators, fun m pushed => ?_⟩
  have hwritten := operations_pushAll m pushed
  refine ⟨?_, fun operator => ?_, ?_⟩
  · rw [operators, hwritten]
    exact Entries.keys_putAll pushed m.operations
  · rw [hwritten]
    exact Entries.get?_putAll operator pushed m.operations
  · rw [hwritten]
    have haway : ∀ operation ∈ pushed, decide (operation.1 ∉ pushed.map Prod.fst) = false :=
      fun operation hmem => decide_eq_false (not_not_intro (List.mem_map_of_mem hmem))
    exact Entries.filter_putAll (fun operator => operator ∉ pushed.map Prod.fst) haway _

private def scoring : Mutator :=
  restrict ⟨[(.inc, [("score", .scalar .null)]), (.set, [("name", .scalar .null)])]⟩ ["score"]

/-- Operations pushed onto a mutator that has one of them already. -/
theorem scoring_pushed_again :
    let pushed : List Operation := [(.push, [("tags", .each [])]), (.inc, [("visits", .scalar .null)]),
      (.unset, []), (.push, [("roles", .each [])])]
    scoring.Reachable ∧ scoring.operators.Nodup ∧
    (scoring.pushAll pushed).operators = [.inc, .push, .unset] ∧
    Entries.get? .push (scoring.pushAll pushed).operations = some [("roles", .each [])] ∧
    (scoring.pushAll [(.set, [])]).operations.filter (·.1 ∉ [Operator.set]) =
      [(.inc, [("score", .scalar .null)])] := by
  intro pushed
  have hread :
      ofJson (.object [("$inc", .object [("score", .null)]), ("$set", .object [("name", .null)])]) =
      .ok ⟨[(.inc, [("score", .scalar .null)]), (.set, [("name", .scalar .null)])]⟩ := rfl
  have hmade : scoring.Reachable :=
    (Built.read (by simp [Json.Distinct, Json.DistinctMembers]) hread).restrict ["score"]
  obtain ⟨horder, hfields, -⟩ := pushAll_insertion_ordered.2 scoring pushed
  obtain ⟨-, -, hothers⟩ := pushAll_insertion_ordered.2 scoring [(.set, [])]
  exact ⟨hmade, pushAll_insertion_ordered.1 scoring hmade, horder.trans (by decide), hfields .push,
    hothers.trans (by decide)⟩

end Mutator
end IndexFeed
