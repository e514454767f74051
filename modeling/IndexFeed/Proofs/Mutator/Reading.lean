import Mathlib.Data.List.Nodup
import IndexFeed.Proofs.Traverse

/-! Mutators that are read: each one is written by just one value. -/
namespace IndexFeed

namespace Operand

/-- An operand that is read from some value. -/
def Read (operand : Operand) : Prop := ∃ value, ofJson value = .ok operand

/-- The one member of an object is the one that is found in it. -/
theorem single_of_get? {members : List (String × Json)} {value : Json}
    (h : Entries.get? eachKey members = some value) (hsingle : members.length = 1) :
    members = [(eachKey, value)] := by
  obtain ⟨⟨key, value'⟩, rfl⟩ := List.length_eq_one_iff.mp hsingle
  rw [Entries.get?] at h
  split at h
  · next hsame =>
    obtain rfl := Option.some.inj h
    rw [hsame]
  · cases h

/-- A value that is read as an operand is what the operand is written as. -/
theorem toJson_of_ofJson {value : Json} {operand : Operand} (h : ofJson value = .ok operand) :
    operand.toJson = value := by
  cases value with
  | object members =>
    rw [ofJson] at h
    split at h
    · obtain rfl := Except.ok.inj h
      rfl
    · next hfound =>
      split at h
      · exact nomatch h
      · next hsingle =>
        split at h
        · obtain rfl := Except.ok.inj h
          rw [single_of_get? hfound (by simpa using hsingle)]
          rfl
        · exact nomatch h
  | array items =>
    obtain rfl := Except.ok.inj h
    rfl
  | null | bool _ | number _ | string _ =>
    obtain rfl := Except.ok.inj h
    rfl

private theorem ofJson_eq_ok_iff {value : Json} {operand : Operand} :
    ofJson value = .ok operand ↔ value = operand.toJson ∧ operand.Read := by
  constructor
  · exact fun h => ⟨(toJson_of_ofJson h).symm, value, h⟩
  · rintro ⟨rfl, value, h⟩
    rwa [toJson_of_ofJson h]

end Operand

/-- Operators are told apart by their names. -/
theorem Operator.name_injective : Function.Injective Operator.name := by
  intro a b hsame
  have h := ofName_name a
  rw [hsame, ofName_name] at h
  exact (Except.ok.inj h).symm

/-- Only the name of an operator is read as it. -/
theorem Operator.ofName_eq_ok_iff {name : String} {operator : Operator} :
    ofName name = .ok operator ↔ name = operator.name := by
  constructor
  · intro h
    rw [ofName] at h
    split at h
    · next hfound =>
      obtain rfl := Except.ok.inj h
      have hsame := List.find?_some hfound
      exact (beq_iff_eq.mp hsame).symm
    · exact nomatch h
  · rintro rfl
    exact ofName_name operator

/-- A field as a member of an object. -/
def Fields.member (field : String × Operand) : String × Json := (field.1, field.2.toJson)

namespace Operation

/-- An operation as a member of an object. -/
def member (operation : Operation) : String × Json :=
  (operation.1.name, .object (operation.2.map Fields.member))

/-- All operands of an operation are read from values. -/
def Read (operation : Operation) : Prop := ∀ field ∈ operation.2, field.2.Read

end Operation

namespace Mutator

theorem fieldsOfJson_cons (member : String × Json) (rest : List (String × Json)) :
    fieldsOfJson (member :: rest) =
      (Operand.ofJson member.2).map (member.1, ·) >>= fun field =>
        (fieldsOfJson rest).map (field :: ·) := by
  rw [fieldsOfJson]
  cases Operand.ofJson member.2 <;> rfl

theorem operationsOfJson_cons (member : String × Json) (rest : List (String × Json)) :
    operationsOfJson (member :: rest) =
      operationOfJson member.1 member.2 >>= fun operation =>
        (operationsOfJson rest).map (operation :: ·) := by
  rw [operationsOfJson]
  cases operationOfJson member.1 member.2 <;> rfl

private theorem fieldsOfJson_eq_ok_iff {members : List (String × Json)} {fields : Fields} :
    fieldsOfJson members = .ok fields ↔
      members = fields.map Fields.member ∧ ∀ field ∈ fields, field.2.Read := by
  have heach (entry : String × Json) (field : String × Operand) :
      (Operand.ofJson entry.2).map (entry.1, ·) = .ok field ↔
        entry = Fields.member field ∧ field.2.Read := by
    rw [map_eq_ok_iff]
    constructor
    · rintro ⟨operand, h, rfl⟩
      obtain ⟨hwritten, hread⟩ := Operand.ofJson_eq_ok_iff.mp h
      exact ⟨Prod.ext rfl hwritten, hread⟩
    · rintro ⟨rfl, hread⟩
      exact ⟨field.2, Operand.ofJson_eq_ok_iff.mpr ⟨rfl, hread⟩, rfl⟩
  have hnil : fieldsOfJson [] = .ok [] := rfl
  exact reader_eq_ok_iff hnil fieldsOfJson_cons heach

private theorem operationOfJson_eq_ok_iff {entry : String × Json} {operation : Operation} :
    operationOfJson entry.1 entry.2 = .ok operation ↔
      entry = Operation.member operation ∧ Operation.Read operation := by
  obtain ⟨name, value⟩ := entry
  obtain ⟨operator, fields⟩ := operation
  rw [operationOfJson]
  constructor
  · intro h
    split at h
    · exact nomatch h
    · next operator' hnamed =>
      obtain rfl := Operator.ofName_eq_ok_iff.mp hnamed
      cases value with
      | object members =>
        obtain ⟨fields', hfound, hsame⟩ := map_eq_ok_iff.mp h
        obtain ⟨rfl, rfl⟩ := Prod.mk.inj hsame
        obtain ⟨rfl, hread⟩ := fieldsOfJson_eq_ok_iff.mp hfound
        exact ⟨rfl, hread⟩
      | _ => exact nomatch h
  · rintro ⟨hsame, hread⟩
    obtain ⟨rfl, rfl⟩ := Prod.mk.inj hsame
    have hfound := fieldsOfJson_eq_ok_iff.mpr ⟨rfl, hread⟩
    simp only [Operator.ofName_name, hfound]
    rfl

private theorem operationsOfJson_eq_ok_iff {members : List (String × Json)} {operations : List Operation} :
    operationsOfJson members = .ok operations ↔
      members = operations.map Operation.member ∧
        ∀ operation ∈ operations, Operation.Read operation := by
  have heach (entry : String × Json) (operation : Operation) :
      operationOfJson entry.1 entry.2 = .ok operation ↔
        entry = Operation.member operation ∧ Operation.Read operation := operationOfJson_eq_ok_iff
  have hnil : operationsOfJson [] = .ok [] := rfl
  exact reader_eq_ok_iff hnil operationsOfJson_cons heach

/-- A mutator is read from one value: the object of its operations, all of whose operands are read. -/
theorem ofJson_eq_ok_iff {value : Json} {m : Mutator} :
    ofJson value = .ok m ↔
      value = .object (m.operations.map Operation.member) ∧
        ∀ operation ∈ m.operations, Operation.Read operation := by
  cases value with
  | object members =>
    rw [ofJson, map_eq_ok_iff, Json.object.injEq, ← operationsOfJson_eq_ok_iff]
    constructor
    · rintro ⟨operations, h, rfl⟩
      exact h
    · exact fun h => ⟨m.operations, h, rfl⟩
  | null | bool _ | number _ | string _ | array _ => simp [ofJson]

end Mutator
end IndexFeed
