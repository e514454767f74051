import IndexFeed.Proofs.Mutator.Reading

/-! The form in which mutators are written, and the faults of values that do not have it. -/
namespace IndexFeed

private theorem Entries.get?_eq_none_iff {κ α : Type} [DecidableEq κ] {key : κ} {entries : List (κ × α)} :
    get? key entries = none ↔ key ∉ entries.map Prod.fst := by
  induction entries with
  | nil => simp [get?]
  | cons entry rest ih =>
    by_cases h : entry.1 = key
    · simp [get?, h]
    · simp [get?, h, ih, Ne.symm h]

namespace Operand

/-- A value that can be an operand: an object with the key `$each` has a list under it and nothing else
in it. -/
def Formed (value : Json) : Prop :=
  ∀ members, value = .object members → eachKey ∈ members.map Prod.fst →
    ∃ items, members = [(eachKey, .array items)]

/-- The faults of an object that has the key `$each`. -/
def eachFaults : List (String × Json) → List Error
  | [member] =>
    match member.2 with
    | .array _ => []
    | _ => [.invalidMutator .eachNotAList]
  | _ => [.invalidMutator .eachNotAlone]

/-- The faults of a value as an operand; other objects and other values have none. -/
def faults : Json → List Error
  | .object members => if eachKey ∈ members.map Prod.fst then eachFaults members else []
  | _ => []

private theorem eachFaults_eq_nil_iff {members : List (String × Json)}
    (hmem : eachKey ∈ members.map Prod.fst) :
    eachFaults members = [] ↔ ∃ items, members = [(eachKey, .array items)] := by
  rcases members with _ | ⟨⟨key, value⟩, _ | ⟨second, rest⟩⟩
  · exact absurd hmem List.not_mem_nil
  · obtain rfl : eachKey = key := by simpa using hmem
    cases value <;> simp [eachFaults]
  · simp [eachFaults]

private theorem faults_eq_nil_iff {value : Json} : faults value = [] ↔ Formed value := by
  cases value with
  | object members =>
    rw [faults]
    split
    · next hmem =>
      rw [eachFaults_eq_nil_iff hmem]
      constructor
      · rintro halone _ ⟨⟩ -
        exact halone
      · exact fun hformed => hformed members rfl hmem
    · next habsent =>
      refine iff_of_true rfl ?_
      rintro _ ⟨⟩ hmem
      exact absurd hmem habsent
  | null | bool _ | number _ | string _ | array _ => exact iff_of_true rfl nofun

private theorem reports_faults (value : Json) : Reports (faults value) (ofJson value) := by
  cases value with
  | object members =>
    rw [faults, ofJson]
    cases hfound : Entries.get? eachKey members with
    | none =>
      rw [if_neg (Entries.get?_eq_none_iff.mp hfound)]
      exact .ok _
    | some value =>
      have hmem : eachKey ∈ members.map Prod.fst := by
        by_contra habsent
        rw [Entries.get?_eq_none_iff.mpr habsent] at hfound
        cases hfound
      rw [if_pos hmem]
      by_cases hsingle : members.length = 1
      · obtain rfl := single_of_get? hfound hsingle
        cases value with
        | array items => exact .ok _
        | null | bool _ | number _ | string _ | object _ => exact .error _ []
      · dsimp only
        rw [if_pos hsingle]
        rcases members with _ | ⟨first, _ | ⟨second, rest⟩⟩
        · exact absurd hmem List.not_mem_nil
        · exact absurd rfl hsingle
        · exact .error _ []
  | null | bool _ | number _ | string _ | array _ => exact .ok _

end Operand

namespace Operation

/-- The name of an operator, and an object of fields under it whose values can be operands. -/
def Formed (member : String × Json) : Prop :=
  member.1 ∈ Operator.all.map Operator.name ∧
    ∃ fields, member.2 = .object fields ∧ ∀ field ∈ fields, Operand.Formed field.2

/-- The faults of what is written under a name: an unknown name, then no object, then each field. -/
def faults (member : String × Json) : List Error :=
  (if member.1 ∈ Operator.all.map Operator.name then [] else [.unsupportedOperator member.1]) ++
    match member.2 with
    | .object fields => fields.flatMap fun field => Operand.faults field.2
    | _ => [.invalidMutator (.fieldsNotAnObject member.1)]

private theorem faults_eq_nil_iff {member : String × Json} : faults member = [] ↔ Formed member := by
  obtain ⟨name, value⟩ := member
  rw [faults, Formed, List.append_eq_nil_iff]
  refine and_congr (by simp) ?_
  cases value with
  | object fields => simp [Operand.faults_eq_nil_iff]
  | null | bool _ | number _ | string _ | array _ => simp

end Operation

private theorem Operator.reports_ofName (name : String) :
    Reports (if name ∈ all.map Operator.name then [] else [.unsupportedOperator name]) (ofName name) := by
  split
  · next hknown =>
    obtain ⟨operator, -, rfl⟩ := List.mem_map.mp hknown
    rw [ofName_name]
    exact .ok operator
  · next hunknown =>
    have habsent : all.find? (fun operator => operator.name == name) = none :=
      List.find?_eq_none.mpr fun operator hmem hsame =>
        hunknown (List.mem_map.mpr ⟨operator, hmem, beq_iff_eq.mp hsame⟩)
    rw [ofName, habsent]
    exact .error _ []

namespace Mutator

/-- An object of operators by name, each of them with an object of fields. -/
def Formed (value : Json) : Prop :=
  ∃ members, value = .object members ∧ ∀ member ∈ members, Operation.Formed member

/-- The faults of a value as a mutator, in the order in which they are written. -/
def faults : Json → List Error
  | .object members => members.flatMap Operation.faults
  | _ => [.invalidMutator .notAnObject]

private theorem faults_eq_nil_iff {value : Json} : faults value = [] ↔ Formed value := by
  cases value with
  | object members => simp [faults, Formed, Operation.faults_eq_nil_iff]
  | null | bool _ | number _ | string _ | array _ => simp [faults, Formed]

private theorem reports_fields (members : List (String × Json)) :
    Reports (members.flatMap fun field => Operand.faults field.2) (fieldsOfJson members) := by
  have hnil : fieldsOfJson [] = .ok [] := rfl
  exact .reader hnil fieldsOfJson_cons (fun field => (Operand.reports_faults field.2).map _) members

private theorem reports_operation (member : String × Json) :
    Reports (Operation.faults member) (operationOfJson member.1 member.2) := by
  obtain ⟨name, value⟩ := member
  -- Nothing under a name is looked at before the name is known.
  have hnamed : operationOfJson name value = Operator.ofName name >>= fun operator =>
      match value with
      | .object members => (fieldsOfJson members).map (operator, ·)
      | _ => .error (.invalidMutator (.fieldsNotAnObject operator.name)) := by
    rw [operationOfJson]
    cases Operator.ofName name <;> rfl
  rw [hnamed]
  refine (Operator.reports_ofName name).bind fun operator hknown => ?_
  obtain rfl := Operator.ofName_eq_ok_iff.mp hknown
  cases value with
  | object members => exact (reports_fields members).map _
  | null | bool _ | number _ | string _ | array _ => exact .error _ []

private theorem reports_faults (value : Json) : Reports (faults value) (ofJson value) := by
  cases value with
  | object members =>
    have hnil : operationsOfJson [] = .ok [] := rfl
    exact (Reports.reader hnil operationsOfJson_cons reports_operation members).map _
  | null | bool _ | number _ | string _ | array _ => exact .error _ []

/-- A value is read as a mutator just where it has the form of one. What is told of any other value is
the first of its faults in the order in which it is written, and this is also told where a script was
asked for, whatever else is wrong with what stands before. A value without faults has the script of the
mutator that it is read as. -/
theorem ofJson_tells_first_fault (value : Json) :
    ((∃ m, ofJson value = .ok m) ↔ Formed value) ∧
    (∀ e, ofJson value = .error e ↔ (faults value).head? = some e) ∧
    (∀ e, (faults value).head? = some e → scriptOfJson value = .error e) ∧
    ∀ m, ofJson value = .ok m → scriptOfJson value = m.script := by
  have hreports := reports_faults value
  refine ⟨?_, hreports, fun e htold => ?_, fun m hread => ?_⟩
  · rw [← hreports.eq_nil_iff, faults_eq_nil_iff]
  · rw [scriptOfJson, (hreports e).mpr htold]
    rfl
  · rw [scriptOfJson, hread]
    rfl

/-- A nested list, which has no literal, stands before a list that is missing and an unknown operator. -/
theorem missing_list_is_told_first :
    let setting : String × Json := ("$set", .object [("a", .array [.array []])])
    let pushing : String × Json := ("$push", .object [("b", .object [("$each", .null)])])
    let value := Json.object [setting, pushing, ("$rename", .null)]
    let told := Error.invalidMutator .eachNotAList
    let m : Mutator := ⟨[(.set, [("a", .array [.array []])])]⟩
    (faults value).head? = some told ∧ ofJson value = .error told ∧ scriptOfJson value = .error told ∧
    ofJson (.object [setting]) = .ok m ∧ scriptOfJson (.object [setting]) = m.script ∧
    m.script = .error (.invalidOperand "$set" "a" .nestedContainer) := by
  intro setting pushing value told m
  have hfirst : (faults value).head? = some told := by decide +kernel
  have hread : ofJson (.object [setting]) = .ok m := rfl
  obtain ⟨-, hfails, hscript, -⟩ := ofJson_tells_first_fault value
  obtain ⟨-, -, -, htranslated⟩ := ofJson_tells_first_fault (.object [setting])
  exact ⟨hfirst, (hfails told).mpr hfirst, hscript told hfirst, hread, htranslated m hread, rfl⟩

end Mutator
end IndexFeed
