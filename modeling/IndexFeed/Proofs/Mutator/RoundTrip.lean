import IndexFeed.Proofs.Mutator.History

/-! Mutators as values and back: nothing is merged, dropped or moved on the way. -/
namespace IndexFeed.Mutator

private theorem fieldsToJson_eq {fields : Fields} (hdistinct : (fields.map Prod.fst).Nodup) :
    fieldsToJson fields = .object (fields.map Fields.member) := by
  have hkeys : (fields.map Fields.member).map Prod.fst = fields.map Prod.fst := by
    simp [Fields.member, Function.comp_def]
  exact congrArg Json.object (Entries.ofList_eq_self (hkeys ▸ hdistinct))

/-- A mutator is written member by member where it says nothing twice. -/
theorem toJson_eq {m : Mutator} (hkeyed : m.Keyed) :
    m.toJson = .object (m.operations.map Operation.member) := by
  have heach : m.operations.map (fun operation => (operation.1.name, fieldsToJson operation.2)) =
      m.operations.map Operation.member :=
    List.map_congr_left fun operation hmem =>
      Prod.ext rfl (fieldsToJson_eq (hkeyed.fields operation hmem))
  have hnames : (m.operations.map Operation.member).map Prod.fst =
      (m.operations.map Prod.fst).map Operator.name := by
    simp [Operation.member, Function.comp_def]
  have hdistinct := hkeyed.operators.map Operator.name_injective
  rw [← hnames] at hdistinct
  change Json.object (Entries.ofList (m.operations.map _)) = _
  rw [heach, Entries.ofList_eq_self hdistinct]

/-- A value without repeated keys that is read as a mutator is the one that the mutator is written as,
member for member. A mutator that is made of operands that were read, in whatever steps, is read back
from what it is written as. -/
theorem toJson_ofJson_inverse :
    (∀ (value : Json) (m : Mutator), value.Distinct → ofJson value = .ok m → m.toJson = value) ∧
    ∀ m : Mutator, m.Built Operand.Read → ofJson m.toJson = .ok m := by
  constructor
  · intro value m hdistinct hread
    rw [toJson_eq (keyed_of_ofJson hdistinct hread)]
    exact (ofJson_eq_ok_iff.mp hread).1.symm
  · intro m hbuilt
    refine ofJson_eq_ok_iff.mpr ⟨toJson_eq hbuilt.keyed, ?_⟩
    intro operation hmem field hin
    exact (hbuilt.operands operation hmem field hin).elim id id

private def tagging : Json :=
  .object [("$push", .object [("tags", .object [("$each", .array [.string "a"])])]),
    ("$set", .object [("b", .object [("c", .bool true)]), ("a", .null)])]

private def tagged : Mutator :=
  ⟨[(.push, [("tags", .each [.string "a"])]),
    (.set, [("b", .object [("c", .bool true)]), ("a", .scalar .null)])]⟩

/-- A mutator that was pushed to and restricted, written and read again. -/
theorem tagging_round_trip :
    let narrowed := (tagged.push (.push, [("tags", .array []), ("b", .scalar .null)])).restrict ["b"]
    tagging.Distinct ∧ ofJson tagging = .ok tagged ∧ tagged.toJson = tagging ∧
    narrowed.Built Operand.Read ∧
    narrowed.operations = [(.push, [("b", .scalar .null)]), (.set, [("b", .object [("c", .bool true)])])] ∧
    ofJson narrowed.toJson = .ok narrowed := by
  intro narrowed
  have hdistinct : tagging.Distinct := by
    simp [tagging, Json.Distinct, Json.DistinctMembers, Json.DistinctItems]
  have hread : ofJson tagging = .ok tagged := rfl
  have hmade : narrowed.Built Operand.Read := by
    refine ((Built.read hdistinct hread).push (by decide) ?_).restrict _
    simpa using ⟨⟨.array [], rfl⟩, ⟨.null, rfl⟩⟩
  refine ⟨hdistinct, hread, ?_, hmade, rfl, ?_⟩
  · exact toJson_ofJson_inverse.1 tagging tagged hdistinct hread
  · exact toJson_ofJson_inverse.2 narrowed hmade

end IndexFeed.Mutator
