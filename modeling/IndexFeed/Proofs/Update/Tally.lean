import IndexFeed.Update.Interface

/-! Reports: how many writes went well, and which failure comes first. -/
namespace IndexFeed

namespace Outcome

private theorem failure?_eq_none_iff {outcome : Outcome} :
    outcome.failure? = none ↔ outcome.isOk = true := by
  obtain ⟨id, result⟩ := outcome
  cases result <;> simp [failure?, isOk]

/-- A write that did not go well is known by its id and the wording of its error. -/
theorem failure?_of_not_isOk {outcome : Outcome} (h : outcome.isOk = false) :
    ∃ e, outcome.result = .error e ∧ outcome.failure? = some (.writeFailure outcome.id e.message) := by
  obtain ⟨id, result⟩ := outcome
  cases result with
  | error e => exact ⟨e, rfl, rfl⟩
  | ok answer => exact nomatch h

end Outcome

namespace Report

variable {report : Report}

private theorem succeeded_le (report : Report) : report.succeeded ≤ report.outcomes.length :=
  List.length_filter_le ..

/-- Every outcome is counted once. -/
theorem succeeded_add_failed (report : Report) :
    report.succeeded + report.failed = report.outcomes.length := by
  have hbound := report.succeeded_le
  rw [failed]
  omega

private theorem failed_eq_zero_iff :
    report.failed = 0 ↔ ∀ outcome ∈ report.outcomes, outcome.isOk = true := by
  have hbound := report.succeeded_le
  have hall : report.failed = 0 ↔ report.succeeded = report.outcomes.length := by
    rw [failed]
    omega
  rw [hall, succeeded, List.length_filter_eq_length_iff]

/-- Where nothing failed the result is the report itself. -/
theorem toResult_of_failed_eq_zero (h : report.failed = 0) : report.toResult = .ok report := by
  have hwell := failed_eq_zero_iff.mp h
  have hnone : report.outcomes.findSome? Outcome.failure? = none :=
    List.findSome?_eq_none_iff.mpr fun outcome hmem =>
      Outcome.failure?_eq_none_iff.mpr (hwell outcome hmem)
  rw [toResult, hnone]

private theorem findSome?_failure? {outcomes : List Outcome} {outcome : Outcome}
    (hfirst : outcomes.find? (fun outcome => !outcome.isOk) = some outcome) :
    outcomes.findSome? Outcome.failure? = outcome.failure? := by
  induction outcomes with
  | nil => exact nomatch hfirst
  | cons head rest ih =>
    cases hwell : head.isOk with
    | true =>
      rw [List.find?_cons_of_neg (by simp [hwell])] at hfirst
      rw [List.findSome?_cons, Outcome.failure?_eq_none_iff.mpr hwell]
      exact ih hfirst
    | false =>
      rw [List.find?_cons_of_pos (by simp [hwell])] at hfirst
      obtain rfl := Option.some.inj hfirst
      obtain ⟨e, -, hfailure⟩ := Outcome.failure?_of_not_isOk hwell
      rw [List.findSome?_cons, hfailure]

/-- Otherwise the result is the failure of the first write that did not go well. -/
theorem toResult_of_failed (h : report.failed ≠ 0) :
    ∃ outcome e, report.outcomes.find? (fun outcome => !outcome.isOk) = some outcome ∧
      outcome.result = .error e ∧
      report.toResult = .error (.writeFailure outcome.id e.message) := by
  have hbad : ∃ outcome ∈ report.outcomes, outcome.isOk = false := by
    simpa [failed_eq_zero_iff] using h
  obtain ⟨outcome, hmem, hfailed⟩ := hbad
  have hfound : (report.outcomes.find? fun outcome => !outcome.isOk).isSome = true :=
    List.find?_isSome.mpr ⟨outcome, hmem, by rw [hfailed]; rfl⟩
  obtain ⟨first, hfirst⟩ := Option.isSome_iff_exists.mp hfound
  have hnot : first.isOk = false := by simpa using List.find?_some hfirst
  obtain ⟨e, herror, hfailure⟩ := Outcome.failure?_of_not_isOk hnot
  refine ⟨first, e, hfirst, herror, ?_⟩
  rw [toResult, findSome?_failure? hfirst, hfailure]

end Report
end IndexFeed
