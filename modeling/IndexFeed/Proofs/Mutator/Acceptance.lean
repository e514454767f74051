import IndexFeed.Proofs.Path.Parts

/-! Mutators as sequences of entries, one operator, field and operand after the other: which mutators are
translated, and what is said of those that are not. -/
namespace IndexFeed

/-- What a mutator says of one field. -/
structure Entry where
  operator : Operator
  field : String
  operand : Operand
  deriving DecidableEq

namespace Entry
open Script (Statement)

def statements (entry : Entry) : Except Error (List Statement) :=
  entry.operator.statements entry.field entry.operand

/-- The statements of an entry when its field is the only one of its operation. -/
def alone (entry : Entry) : Except Error (List Statement) :=
  Operation.statements (entry.operator, [(entry.field, entry.operand)])

/-- An entry on its own has the statements that it has among others. -/
theorem alone_eq_statements (entry : Entry) : entry.alone = entry.statements := by
  rw [alone, Operation.statements, collect_cons]
  change entry.statements >>= _ = _
  cases entry.statements with
  | error e => rfl
  | ok ss => exact congrArg Except.ok (List.append_nil ss)

/-- Whether an allow-list has the top part of the path. -/
def isAllowed (allowed : List String) (entry : Entry) : Bool := Path.top entry.field ∈ allowed

end Entry

def Operation.entries (operation : Operation) : List Entry :=
  operation.2.map fun field => ⟨operation.1, field.1, field.2⟩

namespace Mutator

/-- The entries of a mutator, operation by operation and field by field. -/
def entries (m : Mutator) : List Entry := m.operations.flatMap Operation.entries

/-- A mutator is translated entry by entry; the first one that fails ends it. -/
theorem statements_eq_collect (m : Mutator) : m.statements = collect Entry.statements m.entries := by
  have heach (operation : Operation) :
      Operation.statements operation = collect Entry.statements operation.entries := by
    rw [Operation.entries, collect_map]
    rfl
  rw [statements, entries, collect_flatMap]
  exact congrArg (collect · m.operations) (funext heach)

end Mutator

open Script (Literal Scalar Statement elementText?)

namespace Json

/-- A scalar, or a container that holds no container. -/
def isFlat : Json → Bool
  | array items => items.all fun item => !item.isContainer
  | object members => members.all fun member => !member.2.isContainer
  | _ => true

/-- A value that a list in the index can hold. -/
def isElement : Json → Bool
  | string _ | number _ | bool _ => true
  | null | array _ | object _ => false

end Json

private theorem Script.Scalar.isSome_ofJson? (value : Json) :
    (Scalar.ofJson? value).isSome = !value.isContainer := by
  cases value <;> rfl

/-- Just the flat values have a literal. -/
theorem Script.Literal.isSome_ofJson? (value : Json) :
    (Literal.ofJson? value).isSome = value.isFlat := by
  cases value with
  | array items => simp [Literal.ofJson?, Json.isFlat, isSome_mapM, Scalar.isSome_ofJson?]
  | object members => simp [Literal.ofJson?, Json.isFlat, isSome_mapM, Scalar.isSome_ofJson?]
  | null | bool _ | number _ | string _ => rfl

private theorem Script.isSome_elementText? (value : Json) :
    (elementText? value).isSome = value.isElement := by
  cases value with
  | bool b => cases b <;> rfl
  | null | number _ | string _ | array _ | object _ => rfl

/-- Elements have their texts where each of them has one. -/
theorem Operand.elementTexts_eq (items : List Json) :
    elementTexts items =
      if items.all Json.isElement then .ok (items.filterMap elementText?) else .error .notAnElement := by
  induction items with
  | nil => rfl
  | cons item rest ih =>
    rw [elementTexts, List.all_cons, ← Script.isSome_elementText?]
    cases h : elementText? item with
    | none => rfl
    | some text =>
      rw [ih, List.filterMap_cons_some h]
      cases rest.all Json.isElement <;> rfl

namespace Operator

/-- The operands that an operator can be translated with. -/
def takes (operator : Operator) (operand : Operand) : Bool :=
  match operator with
  | set =>
    match operand with
    | .scalar value => value.isFlat
    | .object members => (Json.object members).isFlat
    | .array items => (Json.array items).isFlat
    | .each _ => false
  | unset => true
  | inc =>
    match operand with
    | .scalar (.number _) => true
    | _ => false
  | push | pull | addToSet =>
    match operand with
    | .scalar value => value.isElement
    | .each items => items.all Json.isElement
    | .object _ | .array _ => false
  | pullAll =>
    match operand with
    | .scalar value => value.isElement
    | .array items => items.all Json.isElement
    | .object _ | .each _ => false

/-- What is said of an operand that an operator does not take. -/
def complaint (operator : Operator) (operand : Operand) : OperandFault :=
  match operator with
  | set =>
    match operand with
    | .each _ => .eachNotSupported
    | _ => .nestedContainer
  | unset | inc => .notANumber
  | push | pull | addToSet =>
    match operand with
    | .object _ | .array _ => .notScalarOrEach
    | _ => .notAnElement
  | pullAll =>
    match operand with
    | .object _ | .each _ => .notScalarOrList
    | _ => .notAnElement

variable (path : Path) (operand : Operand) (make : List String → List Statement)

private theorem settled_elements (items : List Json) :
    Settled (items.all Json.isElement) .notAnElement
      (Operand.elementTexts items >>= fun texts => pure (make texts)) := by
  rw [Operand.elementTexts_eq]
  cases items.all Json.isElement with
  | true => exact ⟨_, rfl⟩
  | false => rfl

private theorem settled_element (value : Json) :
    Settled value.isElement .notAnElement
      (Operand.elementTexts [value] >>= fun texts => pure (make texts)) := by
  have hone := settled_elements make [value]
  rwa [List.all_cons, List.all_nil, Bool.and_true] at hone

private theorem settled_scalarOrEach :
    Settled (push.takes operand) (push.complaint operand) do
      let texts ← Operand.elementTexts (← operand.scalarOrEach)
      return make texts := by
  cases operand with
  | scalar value => exact settled_element make value
  | each items => exact settled_elements make items
  | object members => rfl
  | array items => rfl

private theorem settled_scalarOrList :
    Settled (pullAll.takes operand) (pullAll.complaint operand) do
      let texts ← Operand.elementTexts (← operand.scalarOrList)
      return make texts := by
  cases operand with
  | scalar value => exact settled_element make value
  | array items => exact settled_elements make items
  | object members => rfl
  | each items => rfl

private theorem settled_literal (value : Json) :
    Settled value.isFlat OperandFault.nestedContainer
      (match Literal.ofJson? value with
        | none => .error .nestedContainer
        | some literal => .ok [Statement.assign path.segments literal]) := by
  rw [← Literal.isSome_ofJson?]
  cases Literal.ofJson? value with
  | none => rfl
  | some literal => exact ⟨_, rfl⟩

/-- An operator changes a field with the operands that it takes, and refuses the others. -/
theorem settled_effect (operator : Operator) :
    Settled (operator.takes operand) (operator.complaint operand) (operator.effect path operand) := by
  cases operator with
  | set =>
    cases operand with
    | scalar value => exact settled_literal path value
    | object members => exact settled_literal path (.object members)
    | array items => exact settled_literal path (.array items)
    | each items => rfl
  | unset => exact ⟨_, rfl⟩
  | inc =>
    cases operand with
    | scalar value =>
      cases value with
      | number n => exact ⟨_, rfl⟩
      | _ => rfl
    | _ => rfl
  | push | pull | addToSet => exact settled_scalarOrEach operand _
  | pullAll => exact settled_scalarOrList operand _

end Operator

namespace Entry

/-- Whether an entry has a path that is read and an operand that its operator takes. -/
def isTranslatable (entry : Entry) : Bool :=
  (Path.parts entry.field).all (Path.WritesSegment ·) && entry.operator.takes entry.operand

/-- What is said of an entry that is not translated. Its path is told before its operand. -/
def refusal (entry : Entry) : Error :=
  match Path.flaw? entry.field with
  | some part => Path.refusal entry.field part
  | none =>
    .invalidOperand entry.operator.name entry.field (entry.operator.complaint entry.operand)

private theorem settled_statements (entry : Entry) :
    Settled entry.isTranslatable entry.refusal entry.statements := by
  rw [isTranslatable, Path.all_writesSegment, refusal, statements, Operator.statements, Path.parse_eq]
  cases Path.flaw? entry.field with
  | some part => rfl
  | none =>
    have hsettled := Operator.settled_effect
      ⟨entry.field, (Path.parts entry.field).map Segment.ofPart⟩ entry.operand entry.operator
    cases htaken : entry.operator.takes entry.operand with
    | true =>
      rw [htaken] at hsettled
      obtain ⟨ss, hchanged⟩ := hsettled
      exact ⟨ss, by simp only [hchanged]⟩
    | false =>
      rw [htaken] at hsettled
      simp only [hsettled.eq_error]
      rfl

end Entry

namespace Mutator

/-- A mutator has a script just where each of its entries can be translated. Elsewhere its first entry
that cannot be translated decides the error: a positional part of its path or an empty one, whichever
stands first, and the operand only where the path is read. -/
theorem script_error_iff_first_offender (m : Mutator) :
    ((∃ script, m.script = .ok script) ↔ ∀ entry ∈ m.entries, entry.isTranslatable) ∧
    ∀ e, m.script = .error e ↔
      ∃ entry, m.entries.find? (fun entry => !entry.isTranslatable) = some entry ∧
        e = entry.refusal := by
  have hsettled (entry : Entry) := entry.settled_statements
  have hsame (entry : Entry) : entry.statements.isOk = entry.isTranslatable := (hsettled entry).isOk_eq
  rw [script, statements_eq_collect]
  constructor
  · rw [← isOk_iff, isOk_map, isOk_collect]
    simp only [hsame, List.all_eq_true]
  · intro e
    rw [map_eq_error_iff, collect_eq_error_iff]
    simp only [hsame]
    refine exists_congr fun entry => and_congr_right fun hfound => ?_
    have hfailed : entry.isTranslatable = false := by simpa using List.find?_some hfound
    have hrefused := hsettled entry
    rw [hfailed] at hrefused
    rw [hrefused.eq_error, Except.error.injEq, eq_comm]

end Mutator
end IndexFeed
