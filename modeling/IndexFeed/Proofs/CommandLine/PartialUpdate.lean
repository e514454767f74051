import Mathlib.Data.List.Forall2
import IndexFeed.CommandLine.Run
import IndexFeed.Proofs.Http.Exchange
import IndexFeed.Proofs.Json.Printed
import IndexFeed.Proofs.Update.Partial
import IndexFeed.Proofs.Update.Tally

/-! The command for partial updates: it calls no one and fails, or reports each call that it made. -/
namespace IndexFeed

open Program (Course course_of_run course_pure_iff course_query_iff course_bind_iff)
open Outside (exchanges)

/-- The value under a key of an object. -/
def Json.at? (value : Json) (key : String) : Option Json := value.members?.bind (Entries.get? key)

namespace CommandLine
open Http (Node Call Exchange)

/-- The settings that an invocation works with where its file holds this. -/
def settingsWith (environment : Environment) (invocation : Invocation) (file : Stored) : Settings :=
  let settings := (Settings.load (Settings.filePath invocation.directory) file environment).1
  { settings with host := invocation.host.getD settings.host }

variable {environment : Environment} {invocation : Invocation} {α : Type}
  {dialogue : Dialogue Outside.interface}

private theorem logAll_course {events : List Event} {value : Unit}
    (h : Course (logAll events) dialogue value) : exchanges dialogue = [] := by
  induction events generalizing dialogue with
  | nil =>
    obtain ⟨rfl, -⟩ := course_pure_iff.mp h
    rfl
  | cons event rest ih =>
    obtain ⟨_, told, later, ht, hnext, rfl⟩ := course_bind_iff.mp h
    obtain rfl := course_query_iff.mp ht
    rw [Outside.exchanges_append, ih hnext]
    rfl

/-- Connecting asks for the file of the settings and calls no one. -/
theorem connect_course {result : Except Failure (Settings × Node)}
    (h : Course (connect environment invocation) dialogue result) :
    ∃ file rest, dialogue = ⟨.file (Settings.filePath invocation.directory), file⟩ :: rest ∧
      exchanges dialogue = [] ∧
      result = ((Node.ofSettings (settingsWith environment invocation file)).map
        (settingsWith environment invocation file, ·)).mapError Failure.failed := by
  obtain ⟨file, asked, _, ha, hnext, rfl⟩ := course_bind_iff.mp h
  obtain rfl := course_query_iff.mp ha
  cases hloaded : Settings.load (Settings.filePath invocation.directory) file environment with
  | mk settings events =>
  rw [hloaded] at hnext
  obtain ⟨_, told, last, ht, htail, rfl⟩ := course_bind_iff.mp hnext
  have hsame : settingsWith environment invocation file =
      { settings with host := invocation.host.getD settings.host } := by
    rw [settingsWith, hloaded]
  rw [← hsame] at htail
  have hended : last = [] ∧ result =
      ((Node.ofSettings (settingsWith environment invocation file)).map
        (settingsWith environment invocation file, ·)).mapError Failure.failed := by
    dsimp only at htail
    cases hmade : Node.ofSettings (settingsWith environment invocation file) with
    | ok node =>
      rw [hmade] at htail
      exact course_pure_iff.mp htail
    | error e =>
      rw [hmade] at htail
      exact course_pure_iff.mp htail
  obtain ⟨rfl, rfl⟩ := hended
  refine ⟨file, told ++ [], rfl, ?_, rfl⟩
  rw [Outside.exchanges_append, Outside.exchanges_append, logAll_course ht]
  rfl

/-- A program of the index is run on the node of the settings, if they have one. -/
theorem online_course {act : Settings → Program Update.interface (Except Error α)}
    {result : Except Failure α} (h : Course (online environment invocation act) dialogue result) :
    ∃ file rest, dialogue = ⟨.file (Settings.filePath invocation.directory), file⟩ :: rest ∧
      ((∃ failure, result = .error failure ∧ exchanges dialogue = []) ∨
      ∃ node inner outer value,
        Node.ofSettings (settingsWith environment invocation file) = .ok node ∧
        Course (act (settingsWith environment invocation file)) inner value ∧
        Program.Expands node.respond inner outer ∧ exchanges dialogue = exchanges outer ∧
        result = value.mapError Failure.failed) := by
  obtain ⟨connected, asked, later, ha, hnext, rfl⟩ := course_bind_iff.mp h
  obtain ⟨file, rest, rfl, hsilent, rfl⟩ := connect_course ha
  refine ⟨file, rest ++ later, rfl, ?_⟩
  rw [Outside.exchanges_append, hsilent, List.nil_append]
  cases hmade : Node.ofSettings (settingsWith environment invocation file) with
  | error e =>
    rw [hmade] at hnext
    obtain ⟨rfl, rfl⟩ := course_pure_iff.mp hnext
    exact .inl ⟨_, rfl, rfl⟩
  | ok node =>
    rw [hmade] at hnext
    obtain ⟨value, outer, last, hperformed, htail, rfl⟩ := course_bind_iff.mp hnext
    obtain ⟨inner, hcourse, hexpands⟩ := Program.course_expand hperformed
    have hended : last = [] ∧ result = value.mapError Failure.failed := by
      cases value with
      | ok answer => exact course_pure_iff.mp htail
      | error e => exact course_pure_iff.mp htail
    obtain ⟨rfl, rfl⟩ := hended
    exact .inr ⟨node, inner, outer, value, rfl, hcourse, hexpands, by rw [List.append_nil], rfl⟩

/-- What a report says of a call: the document that it was made for, and how it was answered. -/
structure Accounts (node : Node) (settings : Settings) (options : WriteOptions) (report : Report)
    (outcome : Outcome) (exchanged : Call × Exchange) : Prop where
  calls : ∃ place script, Update.place settings options = .ok place ∧ report.script = some script ∧
    node.Calls .post [place.index, place.type, outcome.id, "_update"]
      (some (UpdateBody.script script).toJson) exchanged.1
  answered : outcome.isOk = true ↔ ∃ reply, exchanged.2 = .ok reply ∧
    reply.status.isSuccess = true ∧ ∃ content, Json.read reply.body = .ok content
  id_told : (outcomeJson outcome).at? "id" = some (.string outcome.id)
  ok_told : (outcomeJson outcome).at? "ok" = some (.bool outcome.isOk)

private theorem outcomeJson_at_id (outcome : Outcome) :
    (outcomeJson outcome).at? "id" = some (.string outcome.id) := by
  obtain ⟨id, result⟩ := outcome
  cases result <;> rfl

private theorem outcomeJson_at_ok (outcome : Outcome) :
    (outcomeJson outcome).at? "ok" = some (.bool outcome.isOk) := by
  obtain ⟨id, result⟩ := outcome
  cases result <;> rfl

private theorem isOk_of_result {outcome : Outcome} {result : Except Error Json}
    (h : outcome.result = result) : outcome.isOk = result.isOk := by
  subst h
  obtain ⟨id, result⟩ := outcome
  cases result <;> rfl

variable {node : Node} {settings : Settings} {options : WriteOptions} {selector : Json} {m : Mutator}
  {sent : List (Request × Except Error Json)} {asked : List (Json × Except Error (List String))}
  {exchanged : List (Call × Exchange)}

/-- An update that fails is carried by no call; one that does not reports each call that carries it. -/
theorem applied_accounts {result : Except Error Report}
    (happlied : Update.Applied settings options selector m sent asked result)
    (hcarried : List.Forall₂ node.Carries sent exchanged) :
    (∀ e, result = .error e → exchanged = []) ∧
    ∀ report, result = .ok report →
      List.Forall₂ (Accounts node settings options report) report.outcomes exchanged := by
  -- Without requests there is nothing to carry, and no outcome to account for.
  have hunsent (hnone : sent = []) : exchanged = [] := by
    subst hnone
    exact List.forall₂_nil_left_iff.mp hcarried
  cases happlied with
  | refused hunready e => exact ⟨fun _ _ => hunsent rfl, fun report hfailed => nomatch hfailed⟩
  | idle hunready reason =>
    refine ⟨fun _ _ => hunsent rfl, fun report hskipped => ?_⟩
    obtain rfl := Except.ok.inj hskipped
    rw [hunsent rfl]
    exact .nil
  | @dispatched place script _ _ _ _ hready hresolved hdispatched =>
    cases hdispatched with
    | failed e => exact ⟨fun _ _ => hunsent rfl, fun report hfailed => nomatch hfailed⟩
    | noDocuments =>
      refine ⟨fun _ _ => hunsent rfl, fun report hskipped => ?_⟩
      obtain rfl := Except.ok.inj hskipped
      rw [hunsent rfl]
      exact .nil
    | sent hid heach =>
      refine ⟨fun e hfailed => (nomatch hfailed), fun report hreported => ?_⟩
      obtain rfl := Except.ok.inj hreported
      refine (List.forall₂_map_left_iff.mp hcarried).imp fun outcome exchange hcarries => ?_
      refine ⟨⟨place, script, hready.place_eq, rfl, hcarries.calls⟩, ?_, outcomeJson_at_id outcome,
        outcomeJson_at_ok outcome⟩
      rw [isOk_of_result hcarries.answer]
      exact Node.isOk_received_iff

/-- A command that failed before it called anyone. -/
structure Refused (exit : Exit) (dialogue : Dialogue Outside.interface) : Prop where
  status : exit.status = 1
  output : exit.output = ""
  error : ∃ failure : Failure, exit.diagnostics = "Error: " ++ failure.message ++ "\n"
  unsent : exchanges dialogue = []

private theorem readsBack_optional (text : Option String) (room : Nat) :
    (Settings.optional text).ReadsBack room := by
  cases text <;> trivial

private theorem readsBack_outcomeJson (outcome : Outcome) (room : Nat) :
    (outcomeJson outcome).ReadsBack (room + 1) := by
  obtain ⟨id, result⟩ := outcome
  cases result <;> simp [outcomeJson, Json.ReadsBack, Json.ReadsBackMembers]

private theorem fitsWord_count {n : Nat} (hn : n < 2 ^ 64) : (Number.integer n).FitsWord :=
  ⟨by omega, by exact_mod_cast hn⟩

private theorem readsBack_reportJson {report : Report} (h : report.outcomes.length < 2 ^ 64) :
    (reportJson report).ReadsBack Json.greatestDepth := by
  have htotal := report.succeeded_add_failed
  have houtcomes : Json.ReadsBackItems 125 (report.outcomes.map outcomeJson) := by
    refine Json.readsBackItems_iff.mpr fun x hx => ?_
    obtain ⟨outcome, -, rfl⟩ := List.mem_map.mp hx
    exact readsBack_outcomeJson outcome 124
  have hkeys : ["skipped", "script", "succeeded", "failed", "outcomes"].Nodup := by decide
  refine ⟨hkeys, readsBack_optional _ _, readsBack_optional _ _, ?_, ?_, houtcomes, trivial⟩
  · exact fitsWord_count (by omega)
  · exact fitsWord_count (by omega)

/-- A command that printed a report of its calls. The status tells whether all writes went well, and so
does the result of the report, which is its first failure where there is one. -/
structure Reported (node : Node) (settings : Settings) (options : WriteOptions) (report : Report)
    (exit : Exit) (dialogue : Dialogue Outside.interface) : Prop where
  printed : exit.output = (reportJson report).pretty ++ "\n" ∧ exit.diagnostics = ""
  written : Json.Written.read exit.output = .ok (reportJson report).written
  read_back : report.outcomes.length < 2 ^ 64 → Json.read exit.output = .ok (reportJson report)
  listed : (reportJson report).at? "outcomes" = some (.array (report.outcomes.map outcomeJson))
  accounts : List.Forall₂ (Accounts node settings options report) report.outcomes (exchanges dialogue)
  succeeded : (reportJson report).at? "succeeded" =
    some (.number (.integer (report.outcomes.countP Outcome.isOk)))
  failed : (reportJson report).at? "failed" = some (.number (.integer report.failed))
  total : report.outcomes.countP Outcome.isOk + report.failed = report.outcomes.length
  status : exit.status = if report.failed = 0 then 0 else 1
  result : report.failed = 0 ↔ report.toResult = .ok report
  failure : report.failed ≠ 0 →
    ∃ outcome e, report.outcomes.find? (fun outcome => !outcome.isOk) = some outcome ∧
      outcome.result = .error e ∧ report.toResult = .error (.writeFailure outcome.id e.message)

private theorem reported_of_accounts {report : Report}
    (haccounts : List.Forall₂ (Accounts node settings options report) report.outcomes
      (exchanges dialogue)) :
    Reported node settings options report
      (.ofResult (.ok ⟨reportJson report, report.failed == 0⟩)) dialogue := by
  have hcounted : report.succeeded = report.outcomes.countP Outcome.isOk :=
    List.countP_eq_length_filter.symm
  have hresult : report.failed = 0 ↔ report.toResult = .ok report := by
    refine ⟨Report.toResult_of_failed_eq_zero, fun hwell => ?_⟩
    by_contra hfailed
    obtain ⟨outcome, e, -, -, hfailure⟩ := Report.toResult_of_failed hfailed
    exact nomatch hwell.symm.trans hfailure
  have hnewline : ∀ c ∈ "\n".toList, Json.isBlank c = true := List.forall_mem_singleton.mpr rfl
  refine ⟨⟨rfl, rfl⟩, Json.Written.read_pretty _ hnewline, fun hcount => ?_, rfl, haccounts, ?_,
    rfl, ?_, ?_, hresult, Report.toResult_of_failed⟩
  · exact Json.read_pretty_append (readsBack_reportJson hcount) hnewline
  · rw [← hcounted]
    rfl
  · rw [← hcounted]
    exact report.succeeded_add_failed
  · simp only [Exit.ofResult, beq_iff_eq]

private theorem execute_course {selector mutator : String} {multi : Bool} {target : TargetOptions}
    (hcommand : invocation.command = .partialUpdate selector mutator multi target)
    (hhttp : ∀ file rest,
      dialogue = ⟨.file (Settings.filePath invocation.directory), file⟩ :: rest →
        ∀ node, Node.ofSettings (settingsWith environment invocation file) = .ok node →
          node.base.scheme = "http")
    {result : Except Failure Product} (h : Course (execute environment invocation) dialogue result) :
    (∃ failure, result = .error failure ∧ exchanges dialogue = []) ∨
    ∃ file rest node report,
      dialogue = ⟨.file (Settings.filePath invocation.directory), file⟩ :: rest ∧
      Node.ofSettings (settingsWith environment invocation file) = .ok node ∧
      result = .ok ⟨reportJson report, report.failed == 0⟩ ∧
      List.Forall₂ (Accounts node (settingsWith environment invocation file)
        (target.writeOptions multi) report) report.outcomes (exchanges dialogue) := by
  rw [execute, hcommand] at h
  dsimp only at h
  split at h
  · next failure _ =>
    obtain ⟨rfl, rfl⟩ := course_pure_iff.mp h
    exact .inl ⟨failure, rfl, rfl⟩
  · next value m _ =>
    obtain ⟨ended, first, last, honline, htail, rfl⟩ := course_bind_iff.mp h
    obtain ⟨file, rest, rfl, hrefused | hran⟩ := online_course honline
    · obtain ⟨failure, rfl, hsilent⟩ := hrefused
      obtain ⟨rfl, rfl⟩ := course_pure_iff.mp htail
      exact .inl ⟨failure, rfl, by rw [List.append_nil, hsilent]⟩
    · obtain ⟨node, inner, outer, value, hmade, hcourse, hexpands, hsame, rfl⟩ := hran
      have hscheme := hhttp file (rest ++ last) rfl node hmade
      have hweb : node.IsWeb := .inl hscheme
      have hcarried := Node.carries_of_expands (Node.isHierarchical_base hmade hweb) hweb hexpands
      rw [← hsame] at hcarried
      obtain ⟨hsilent, haccounts⟩ := applied_accounts (Update.applyMutator_course hcourse) hcarried
      cases value with
      | error e =>
        obtain ⟨rfl, rfl⟩ := course_pure_iff.mp htail
        exact .inl ⟨.failed e, rfl, by rw [List.append_nil, hsilent e rfl]⟩
      | ok report =>
        obtain ⟨rfl, rfl⟩ := course_pure_iff.mp htail
        rw [List.append_nil]
        exact .inr ⟨file, rest, node, report, rfl, hmade, rfl, haccounts report rfl⟩

/-- Whatever the replies are, a partial update from the command line either fails before it calls
anyone, or prints a report with one entry for each call, in their order. -/
theorem run_reports_each_call {σ : Type} (responder : Responder Outside.interface σ) (state : σ)
    (arguments : List String) (environment : Environment) {invocation : Invocation}
    (hread : readInvocation arguments (environment directoryVariable) = .ok invocation)
    {selector mutator : String} {multi : Bool} {target : TargetOptions}
    (hcommand : invocation.command = .partialUpdate selector mutator multi target)
    (hhttp : ∀ node, Node.ofSettings (settingsWith environment invocation
      (responder.respond state (.file (Settings.filePath invocation.directory))).1) = .ok node →
        node.base.scheme = "http") :
    let run := (run arguments environment).run responder state
    Refused run.1 run.2.1 ∨ ∃ node report,
      Node.ofSettings (settingsWith environment invocation
        (responder.respond state (.file (Settings.filePath invocation.directory))).1) = .ok node ∧
      Reported node (settingsWith environment invocation
        (responder.respond state (.file (Settings.filePath invocation.directory))).1)
        (target.writeOptions multi) report run.1 run.2.1 := by
  intro run
  have hwhole : run = (run.1, run.2.1, run.2.2) := rfl
  have hcourse := course_of_run hwhole
  rw [CommandLine.run, hread] at hcourse
  obtain ⟨result, dialogue, _, hexecuted, hlast, hasked⟩ := course_bind_iff.mp hcourse
  obtain ⟨rfl, hexit⟩ := course_pure_iff.mp hlast
  rw [List.append_nil] at hasked
  rw [hexit, hasked]
  -- The file of the settings is asked for first, in the state in which the run starts.
  have hanswered {file : Stored} {rest : Dialogue Outside.interface}
      (hfirst : dialogue = ⟨.file (Settings.filePath invocation.directory), file⟩ :: rest) :
      file = (responder.respond state (.file (Settings.filePath invocation.directory))).1 := by
    rw [hasked, hfirst] at hwhole
    exact Program.answer_of_run hwhole
  have hsettled :=
    execute_course hcommand (fun file rest hfirst => by rw [hanswered hfirst]; exact hhttp) hexecuted
  rcases hsettled with ⟨failure, rfl, hsilent⟩ | ⟨file, rest, node, report, hfirst, hmade, rfl, haccounts⟩
  · exact .inl ⟨rfl, rfl, ⟨failure, rfl⟩, hsilent⟩
  · rw [hanswered hfirst] at hmade haccounts
    exact .inr ⟨node, report, hmade, reported_of_accounts haccounts⟩

private def oneDocument : Responder Outside.interface Nat where
  respond
    | n, .exchange _ => (.ok ⟨⟨if n = 0 then 200 else 404⟩, "{}"⟩, n + 1)
    | n, .lookup _ => (.ok [], n)
    | n, .log _ => ((), n)
    | n, .input => (.ok "", n)
    | n, .file _ => (.missing, n)

private def pairSelector : Json := .object [("_id", .object [("$in", .array [.string "a", .string "b"])])]

private def markRead : Json := .object [("$set", .object [("read", .bool true)])]

private def pairTarget : TargetOptions := ⟨some "people", some "person", []⟩

private def pairArguments : List String :=
  ["partial-update", "--selector", pairSelector.pretty, "--mutator", markRead.pretty, "--multi",
    "--index", "people", "--type", "person"]

private def pairInvocation : Invocation :=
  ⟨".", none, .partialUpdate pairSelector.pretty markRead.pretty true pairTarget⟩

private theorem read_pair : readInvocation pairArguments none = .ok pairInvocation := rfl

private theorem run_pair :
    let run := (run pairArguments fun _ => none).run oneDocument 0
    (exchanges run.2.1).length = 2 ∧ run.1.status = 1 := by
  have hselector : Json.read pairSelector.pretty = .ok pairSelector :=
    Json.read_pretty
      ⟨by decide, ⟨by decide, by simp [Json.ReadsBackItems, Json.ReadsBack], trivial⟩, trivial⟩
  have hmutator : Json.read markRead.pretty = .ok markRead :=
    Json.read_pretty ⟨by decide, ⟨by decide, trivial, trivial⟩, trivial⟩
  have hparsed : readUpdate pairSelector.pretty markRead.pretty =
      .ok (pairSelector, ⟨[(.set, [("read", .scalar (.bool true))])]⟩) := by
    simp only [readUpdate, readText, hselector, hmutator]
    rfl
  rw [run, read_pair]
  dsimp only [execute, pairInvocation]
  rw [hparsed]
  exact ⟨rfl, rfl⟩

/-- Of two documents one is lost, which the report and the status tell. -/
theorem lost_document_is_reported :
    let run := (run pairArguments fun _ => none).run oneDocument 0
    readInvocation pairArguments none = .ok pairInvocation ∧
    pairInvocation.command = .partialUpdate pairSelector.pretty markRead.pretty true pairTarget ∧
    (∀ node, Node.ofSettings .default = .ok node → node.base.scheme = "http") ∧
    (exchanges run.2.1).length = 2 ∧ run.1.status = 1 ∧
    ∃ node report, Node.ofSettings .default = .ok node ∧
      Reported node .default (pairTarget.writeOptions true) report run.1 run.2.1 := by
  have hcommand : pairInvocation.command =
      .partialUpdate pairSelector.pretty markRead.pretty true pairTarget := rfl
  have hhttp : ∀ node, Node.ofSettings .default = .ok node → node.base.scheme = "http" := by
    intro node hmade
    obtain rfl := Except.ok.inj hmade
    rfl
  obtain ⟨hcalled, hstatus⟩ := run_pair
  refine ⟨read_pair, hcommand, hhttp, hcalled, hstatus, ?_⟩
  have hsettled := run_reports_each_call oneDocument 0 pairArguments (fun _ => none) read_pair
    hcommand hhttp
  cases hsettled with
  | inl hrefused =>
    rw [hrefused.unsent] at hcalled
    exact nomatch hcalled
  | inr hreported => exact hreported

end CommandLine
end IndexFeed
