import IndexFeed.Proofs.Mutator.Reading

/-! The mutators that can be made: by reading, by adding operations, and by restricting. -/
namespace IndexFeed

/-- The fields of an operation whose top part is allowed. -/
def Operation.restrict (allowed : List String) (operation : Operation) : Operation :=
  (operation.1, operation.2.filter fun field => Path.top field.1 ∈ allowed)

namespace Json

private theorem DistinctMembers.of_mem {members : List (String × Json)} (h : DistinctMembers members)
    {entry : String × Json} (hmem : entry ∈ members) : entry.2.Distinct := by
  induction members with
  | nil => exact absurd hmem List.not_mem_nil
  | cons first rest ih =>
    rw [DistinctMembers] at h
    rcases List.mem_cons.mp hmem with rfl | hlater
    · exact h.1
    · exact ih h.2 hlater

end Json

namespace Mutator

/-- The mutators that are made in some number of steps, where the operands of the operations that are
added satisfy a condition. What comes from outside, a value or an operation, repeats no key. -/
inductive Built (Condition : Operand → Prop) : Mutator → Prop where
  | empty : Built Condition .empty
  | read {value : Json} {m : Mutator} (hdistinct : value.Distinct) (h : ofJson value = .ok m) :
    Built Condition m
  | push {m : Mutator} {operation : Operation} (hbuilt : Built Condition m)
    (hdistinct : (operation.2.map Prod.fst).Nodup)
    (hcondition : ∀ field ∈ operation.2, Condition field.2) : Built Condition (m.push operation)
  | restrict {m : Mutator} (hbuilt : Built Condition m) (allowed : List String) :
    Built Condition (m.restrict allowed)

/-- The mutators that are made with any operands. -/
abbrev Reachable : Mutator → Prop := Built fun _ => True

/-- Each operator has one operation, and each field in it one operand. -/
structure Keyed (m : Mutator) : Prop where
  operators : (m.operations.map Prod.fst).Nodup
  fields : ∀ operation ∈ m.operations, (operation.2.map Prod.fst).Nodup

variable {m : Mutator} {Condition : Operand → Prop}

/-- A mutator that is read writes no operator and no field twice. -/
theorem keyed_of_ofJson {value : Json} (hdistinct : value.Distinct) (h : ofJson value = .ok m) :
    m.Keyed := by
  obtain ⟨rfl, -⟩ := ofJson_eq_ok_iff.mp h
  rw [Json.Distinct] at hdistinct
  obtain ⟨hnames, hmembers⟩ := hdistinct
  constructor
  · have hnamed : ((m.operations.map Prod.fst).map Operator.name).Nodup := by
      simpa [Operation.member, Function.comp_def] using hnames
    exact hnamed.of_map
  · intro operation hmem
    have hobject := hmembers.of_mem (List.mem_map_of_mem hmem)
    rw [Operation.member, Json.Distinct] at hobject
    simpa [Fields.member, Function.comp_def] using hobject.1

private theorem Keyed.push (h : m.Keyed) {operation : Operation}
    (hdistinct : (operation.2.map Prod.fst).Nodup) : (m.push operation).Keyed := by
  refine ⟨Entries.nodup_put h.operators, fun operation' hmem => ?_⟩
  rcases Entries.mem_put hmem with rfl | hold
  · exact hdistinct
  · exact h.fields operation' hold

/-- A restricted mutator is what remains of each operation in turn, where something remains. -/
theorem restrict_eq (m : Mutator) (allowed : List String) :
    m.restrict allowed = ⟨Entries.ofList
      ((m.operations.map (Operation.restrict allowed)).filter fun kept => !kept.2.isEmpty)⟩ := by
  have hstep (operations : List Operation) (kept : Mutator) :
      operations.foldl (fun kept operation => kept.pushNonempty (operation.restrict allowed)) kept =
        ⟨((operations.map (Operation.restrict allowed)).filter fun kept => !kept.2.isEmpty).foldl
          (fun written entry => Entries.put entry.1 entry.2 written) kept.operations⟩ := by
    induction operations generalizing kept with
    | nil => rfl
    | cons operation rest ih =>
      rw [List.foldl_cons, ih, pushNonempty, List.map_cons, List.filter_cons]
      cases h : (operation.restrict allowed).2.isEmpty <;> rfl
  exact hstep m.operations empty

private theorem kept_operators (m : Mutator) (allowed : List String) :
    (((m.operations.map (Operation.restrict allowed)).filter fun kept => !kept.2.isEmpty).map
      Prod.fst).Sublist (m.operations.map Prod.fst) := by
  have hoperators : (m.operations.map (Operation.restrict allowed)).map Prod.fst =
      m.operations.map Prod.fst := by simp [Operation.restrict, Function.comp_def]
  rw [← hoperators]
  exact List.filter_sublist.map _

/-- A restriction restricts each operation and drops those that are left empty. -/
theorem operations_restrict (h : (m.operations.map Prod.fst).Nodup) (allowed : List String) :
    (m.restrict allowed).operations =
      (m.operations.map (Operation.restrict allowed)).filter fun kept => !kept.2.isEmpty := by
  rw [restrict_eq]
  exact Entries.ofList_eq_self (h.sublist (kept_operators m allowed))

/-- A restriction keeps the order of the operators. -/
theorem operators_restrict (h : (m.operations.map Prod.fst).Nodup) (allowed : List String) :
    ((m.restrict allowed).operations.map Prod.fst).Sublist (m.operations.map Prod.fst) := by
  rw [operations_restrict h]
  exact kept_operators m allowed

/-- A restriction writes nothing twice either. -/
theorem Keyed.restrict (h : m.Keyed) (allowed : List String) : (m.restrict allowed).Keyed := by
  constructor
  · exact h.operators.sublist (operators_restrict h.operators allowed)
  · intro operation hmem
    rw [operations_restrict h.operators] at hmem
    obtain ⟨whole, hold, rfl⟩ := List.mem_map.mp (List.mem_of_mem_filter hmem)
    exact (h.fields whole hold).sublist (List.filter_sublist.map _)

/-- Whatever steps make a mutator, an operator has one operation in it, and a field one operand. -/
theorem Built.keyed (h : Built Condition m) : m.Keyed := by
  induction h with
  | empty => exact ⟨List.nodup_nil, fun _ hmem => absurd hmem List.not_mem_nil⟩
  | read hdistinct h => exact keyed_of_ofJson hdistinct h
  | push _ hdistinct _ ih => exact ih.push hdistinct
  | restrict _ allowed ih => exact ih.restrict allowed

/-- Operands are read from values, or satisfy the condition on those that are added. -/
theorem Built.operands (h : Built Condition m) :
    ∀ operation ∈ m.operations, ∀ field ∈ operation.2, field.2.Read ∨ Condition field.2 := by
  induction h with
  | empty => exact fun _ hmem => absurd hmem List.not_mem_nil
  | read _ h =>
    intro operation hmem field hin
    exact .inl ((ofJson_eq_ok_iff.mp h).2 operation hmem field hin)
  | push _ _ hcondition ih =>
    intro operation hmem field hin
    rcases Entries.mem_put hmem with rfl | hold
    · exact .inr (hcondition field hin)
    · exact ih operation hold field hin
  | restrict hbuilt allowed ih =>
    intro operation hmem field hin
    rw [operations_restrict hbuilt.keyed.operators] at hmem
    obtain ⟨whole, hold, rfl⟩ := List.mem_map.mp (List.mem_of_mem_filter hmem)
    exact ih whole hold field (List.mem_of_mem_filter hin)

end Mutator
end IndexFeed
