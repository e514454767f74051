import IndexFeed.Proofs.Mutator.Acceptance
import IndexFeed.Proofs.Mutator.Effect

/-! Operators that go through elements: what they do with a list does not depend on its spelling. -/
namespace IndexFeed
open Script (Statement elementText?)

/-- An error as it is told of another operator. -/
def Error.under (operator : Operator) : Error → Error
  | .invalidOperand _ field fault => .invalidOperand operator.name field fault
  | e => e

/-- No operator is told of where a path is refused. -/
theorem Path.under_refusal (operator : Operator) (raw : String) (part : List Char) :
    (Path.refusal raw part).under operator = Path.refusal raw part := by
  rw [refusal]
  split <;> rfl

namespace Operand

private theorem elementTexts_append (items more : List Json) :
    elementTexts (items ++ more) =
      elementTexts items >>= fun texts => (elementTexts more).map (texts ++ ·) := by
  rw [elementTexts_eq, elementTexts_eq, elementTexts_eq, List.all_append, List.filterMap_append]
  cases items.all Json.isElement <;> cases more.all Json.isElement <;> rfl

/-- Only an empty list has no texts. -/
theorem elementTexts_eq_nil_iff {items : List Json} : elementTexts items = .ok [] ↔ items = [] := by
  cases items with
  | nil => simp [elementTexts]
  | cons item rest =>
    rw [elementTexts]
    cases elementText? item with
    | none => simp
    | some text => simp [map_eq_ok_iff]

end Operand

namespace Operator

/-- The operators that go through elements, one statement after the other. -/
def itemizing : List Operator := [push, pull, pullAll, addToSet]

/-- The operand in which elements are listed for an operator: a plain list for those that take a list as
a whole, otherwise a list of which each element is taken. -/
def listing (operator : Operator) (items : List Json) : Operand :=
  if operator = pullAll then .array items else .each items

/-- The elements that an operator finds in an operand. -/
def elements (operator : Operator) (operand : Operand) : Except OperandFault (List Json) :=
  if operator = pullAll then operand.scalarOrList else operand.scalarOrEach

/-- The statements of an operator for elements with these texts; the others go through no elements. -/
def changes (operator : Operator) (field : List Segment) (texts : List String) : List Statement :=
  match operator with
  | push => texts.map (.append field)
  | pull | pullAll => texts.map (.subtract field)
  | addToSet => additions field texts
  | set | unset | inc => []

variable {operator : Operator}

private theorem elements_listing (operator : Operator) (items : List Json) :
    operator.elements (operator.listing items) = .ok items := by
  cases operator <;> rfl

private theorem elements_scalar (operator : Operator) (value : Json) :
    operator.elements (.scalar value) = .ok [value] := by
  cases operator <;> rfl

/-- An operator takes the elements of an operand, then their texts, and makes statements of these. -/
theorem effect_eq (hitemizes : operator ∈ itemizing) (path : Path) (operand : Operand) :
    operator.effect path operand = operator.elements operand >>= fun items =>
      (Operand.elementTexts items).map (operator.changes path.segments) := by
  cases operator with
  | set | unset | inc => exact absurd hitemizes (by decide)
  | push | pull | pullAll | addToSet =>
    refine congrArg (_ >>= ·) (funext fun items => ?_)
    cases Operand.elementTexts items <;> rfl

private theorem effect_of_elements (hitemizes : operator ∈ itemizing) {operand : Operand}
    {items : List Json}
    (hfound : operator.elements operand = .ok items) (path : Path) :
    operator.effect path operand =
      (Operand.elementTexts items).map (operator.changes path.segments) := by
  rw [effect_eq hitemizes, hfound]
  rfl

private theorem changes_append (heach : operator ∈ [push, pull, pullAll]) (field : List Segment)
    (texts more : List String) :
    operator.changes field (texts ++ more) =
      operator.changes field texts ++ operator.changes field more := by
  cases operator with
  -- The first element that is added to a set has a statement of its own kind, wherever a list is cut.
  | set | unset | inc | addToSet => exact absurd heach (by decide)
  | push | pull | pullAll => exact List.map_append

private theorem statements_congr {operand operand' : Operand}
    (hsame : ∀ path, operator.effect path operand = operator.effect path operand') (field : String) :
    operator.statements field operand = operator.statements field operand' := by
  rw [statements, statements]
  cases Path.parse field with
  | error e => rfl
  | ok path => simp only [hsame path]

/-- A list that is pulled has the statements of the list that is pulled as a whole. -/
theorem statements_pullAll (field : String) (items : List Json) :
    pullAll.statements field (.array items) =
      (pull.statements field (.each items)).mapError (Error.under pullAll) := by
  -- Both make the same statements of the same elements; only the name in a complaint is their own.
  have hsame (path : Path) : pullAll.effect path (.array items) = pull.effect path (.each items) := rfl
  rw [statements, statements, Path.parse_eq]
  cases Path.flaw? field with
  | some part => exact congrArg Except.error (Path.under_refusal pullAll field part).symm
  | none =>
    simp only [hsame]
    cases pull.effect _ (.each items) <;> rfl

/-- One element on its own is a list of one element. -/
theorem statements_scalar (hitemizes : operator ∈ itemizing) (field : String) (value : Json) :
    operator.statements field (.scalar value) =
      operator.statements field (operator.listing [value]) := by
  refine statements_congr (fun path => ?_) field
  rw [effect_of_elements hitemizes (elements_scalar operator value),
    effect_of_elements hitemizes (elements_listing operator [value])]

private theorem effect_append (heach : operator ∈ [push, pull, pullAll]) (path : Path)
    (items more : List Json) :
    operator.effect path (operator.listing (items ++ more)) =
      operator.effect path (operator.listing items) >>= fun ss =>
        (operator.effect path (operator.listing more)).map (ss ++ ·) := by
  have hitemizes : operator ∈ itemizing := by
    revert heach
    cases operator <;> decide
  rw [effect_of_elements hitemizes (elements_listing operator _),
    effect_of_elements hitemizes (elements_listing operator _),
    effect_of_elements hitemizes (elements_listing operator _), Operand.elementTexts_append]
  cases Operand.elementTexts items with
  | error fault => rfl
  | ok texts =>
    cases Operand.elementTexts more with
    | error fault => rfl
    | ok others => exact congrArg Except.ok (changes_append heach path.segments texts others)

private theorem statements_append_eq_ok_iff (heach : operator ∈ [push, pull, pullAll]) {field : String}
    {items more : List Json} {ss : List Statement} :
    operator.statements field (operator.listing (items ++ more)) = .ok ss ↔
      ∃ first second, operator.statements field (operator.listing items) = .ok first ∧
        operator.statements field (operator.listing more) = .ok second ∧ ss = first ++ second := by
  simp only [statements_eq_ok_iff, effect_append heach, bind_eq_ok_iff, map_eq_ok_iff]
  constructor
  · rintro ⟨path, hread, first, hdone, second, hdone', rfl⟩
    exact ⟨first, second, ⟨path, hread, hdone⟩, ⟨path, hread, hdone'⟩, rfl⟩
  · rintro ⟨first, second, ⟨path, hread, hdone⟩, ⟨path', hread', hdone'⟩, rfl⟩
    obtain rfl := Except.ok.inj (hread.symm.trans hread')
    exact ⟨path, hread, first, hdone, second, hdone', rfl⟩

end Operator

namespace Entry

/-- The operators that go through elements agree on them. Pulling each element of a list is pulling the
list as a whole, also in what is refused, but for the operator that is told of. One element on its own
is a list of it, whatever it is. The statements for a list that is pushed or pulled are those for any
two parts of it, one after the other. -/
theorem spellings_agree (field : String) :
    (∀ items, alone ⟨.pullAll, field, .array items⟩ =
      (alone ⟨.pull, field, .each items⟩).mapError (Error.under .pullAll)) ∧
    (∀ operator ∈ [Operator.push, .pull, .pullAll, .addToSet], ∀ value,
      alone ⟨operator, field, .scalar value⟩ = alone ⟨operator, field, operator.listing [value]⟩) ∧
    ∀ operator ∈ [Operator.push, .pull, .pullAll], ∀ items more ss,
      alone ⟨operator, field, operator.listing (items ++ more)⟩ = .ok ss ↔ ∃ first second,
        alone ⟨operator, field, operator.listing items⟩ = .ok first ∧
        alone ⟨operator, field, operator.listing more⟩ = .ok second ∧ ss = first ++ second := by
  simp only [alone_eq_statements]
  refine ⟨Operator.statements_pullAll field, fun operator hitemizes value => ?_,
    fun operator heach items more ss => ?_⟩
  · exact Operator.statements_scalar hitemizes field value
  · exact Operator.statements_append_eq_ok_iff heach

/-- Tags in each spelling of the four operators. -/
theorem tags_spelled_alike :
    let refused (operator : Operator) : Except Error (List Statement) :=
      .error (.invalidOperand operator.name "tags.0" .notAnElement)
    let dropped (text : String) : Statement := .subtract [.key "tags", .index 0] text
    alone ⟨.pull, "tags.0", .each [.string "a", .null]⟩ = refused .pull ∧
    alone ⟨.pullAll, "tags.0", .array [.string "a", .null]⟩ = refused .pullAll ∧
    Operator.addToSet ∈ [Operator.push, .pull, .pullAll, .addToSet] ∧
    alone ⟨.addToSet, "tags.0", .each [.null]⟩ = refused .addToSet ∧
    alone ⟨.addToSet, "tags.0", .scalar .null⟩ = refused .addToSet ∧
    Operator.pullAll ∈ [Operator.push, .pull, .pullAll] ∧
    alone ⟨.pullAll, "tags.0", .array ([.string "a"] ++ [.bool true, .string "a"])⟩ =
      .ok ([dropped "a"] ++ [dropped "true", dropped "a"]) := by
  intro refused dropped
  obtain ⟨hwhole, hscalar, happend⟩ := spellings_agree "tags.0"
  have hpulled : alone ⟨.pull, "tags.0", .each [.string "a", .null]⟩ = refused .pull := rfl
  have hadded : alone ⟨.addToSet, "tags.0", .each [.null]⟩ = refused .addToSet := rfl
  have hitemizes : Operator.addToSet ∈ [Operator.push, .pull, .pullAll, .addToSet] := by decide
  have heach : Operator.pullAll ∈ [Operator.push, .pull, .pullAll] := by decide
  refine ⟨hpulled, ?_, hitemizes, hadded, (hscalar .addToSet hitemizes .null).trans hadded, heach, ?_⟩
  · rw [hwhole, hpulled]
    rfl
  · exact (happend .pullAll heach _ _ _).mpr ⟨[dropped "a"], [dropped "true", dropped "a"], rfl, rfl, rfl⟩

end Entry
end IndexFeed
