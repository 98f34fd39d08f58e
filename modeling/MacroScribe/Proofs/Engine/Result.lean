import MacroScribe.Proofs.Engine.Report

/-!
# MacroScribe.Proofs.Engine.Result

Asking for a result. A request that asks for the result of its actions fails where another one would
report a failure: if the program cannot be called, takes too long or complains (`run_eq_resultOf`).
What is added to the log makes no request fail. A failure that shows nowhere else is reported beside
the result, and only such a one is (`run_for_result_iff`).
-/

namespace MacroScribe.Engine

open Text

variable {c : EngineConfig} {program : String} {r : RunRequest}

/-! ### The end of the call -/

theorem complaints_eq_nil {status : Int} {errors : String} :
    complaints status errors = [] ↔ status = 0 ∧ allBlank errors.toList := by
  unfold complaints
  by_cases hwell : status = 0 ∧ allBlank errors.toList
  · simp [hwell]
  · rw [if_neg hwell]
    split <;> simpa using hwell

/-- What a request for a result comes to: it fails with what is wrong with the end of the program,
and otherwise reports the failures that are added to the log. -/
def resultOf (c : EngineConfig) (label : String) (ending : Ending) (added : List Char) :
    Outcome RunReport := do
  let p ← printed? c ending
  match complaints p.status p.errors with
  | message :: _ => throw (.engine (.runFailed label message))
  | [] => return reportOf p ((EngineLog.failuresIn added).map EngineLog.withoutStamp)

/-- There is a result only if the program ends well and does not complain. -/
theorem resultOf_eq_ok {label : String} {ending : Ending} {added : List Char} {report : RunReport} :
    resultOf c label ending added = .ok report ↔
      ∃ output errors, ending = .finished 0 output errors ∧ allBlank errors.toList ∧
        report = reportOf ⟨0, output, errors⟩
          ((EngineLog.failuresIn added).map EngineLog.withoutStamp) := by
  rw [resultOf, Outcome.bind_eq_ok]
  constructor
  · rintro ⟨p, hp, h⟩
    cases ending with
    | timedOut => cases hp
    | missing => cases hp
    | finished status output errors =>
      obtain rfl := Except.ok.inj hp
      cases hcomplaints : complaints status errors with
      | cons message rest =>
        simp only [hcomplaints] at h
        cases h
      | nil =>
        simp only [hcomplaints] at h
        obtain ⟨rfl, hblank⟩ := complaints_eq_nil.mp hcomplaints
        exact ⟨output, errors, rfl, hblank, (Except.ok.inj h).symm⟩
  · rintro ⟨output, errors, rfl, hblank, rfl⟩
    refine ⟨⟨0, output, errors⟩, rfl, ?_⟩
    simp only [complaints_eq_nil.mpr ⟨rfl, hblank⟩]
    rfl

theorem run_judge_of_captures (hcaptures : r.captures = true) (log : EngineLog) (p : Printed)
    (host : Host) :
    ((judge r log p).run host).1 =
      match complaints p.status p.errors with
      | message :: _ => .error (.engine (.runFailed r.label message))
      | [] => .ok (reportOf p (log.newFailures host.files)) := by
  have htoList := toList_complaint? p
  unfold judge
  rw [hcaptures, ← htoList]
  cases hcomplaint : complaint? p with
  | some message => rfl
  | none =>
    rw [hcomplaint] at htoList
    rw [reportOf, ← htoList]
    rfl

/-- The end of the call and the text that is added to the log are all that matters. -/
theorem run_eq_resultOf (hc : c.osascript = .str program)
    (hasked : r.actions ≠ [] ∨ r.returned.isSome) (hcaptures : r.captures = true) {host : Host}
    {path document : String} {text : List Char} (hadded : host.AddsToLog path text)
    (hdocument : ((Assembly.ephemeral r.actions r.returned).run
      (r.start.getD host.second)).1 = .ok document)
    (hpath : c.resolvedLogPath host.homes = .ok path) (hnul : '\x00' ∉ path.toList) :
    ((run c r).run host).1 = resultOf c r.label host.reply.ending text := by
  obtain ⟨call, hrun⟩ := run_eq_judge hc hasked hdocument hpath hnul
  have hbytes : EngineLog.bytes (host.called call).files path =
      EngineLog.bytes host.files path ++ utf8 text := hadded
  rw [hrun, resultOf, ← EngineLog.newFailures_of_added hbytes]
  cases printed? c host.reply.ending with
  | error e => rfl
  | ok p => exact run_judge_of_captures hcaptures _ p (host.called call)

/-! ### Failures in the log -/

/-- The program ends well and does not complain, and yet a failure is added to the log. -/
def FailsInLogOnly (ending : Ending) (added : List Char) : Prop :=
  (∃ output errors, ending = .finished 0 output errors ∧ allBlank errors.toList) ∧
    EngineLog.failuresIn added ≠ []

/-- A request for a result fails, or it reports success and no errors, unless there is something to
run and its failure shows in the log only. Then the failure is reported beside the result. -/
theorem run_for_result_iff (hc : c.osascript = .str program) (hcaptures : r.captures = true)
    {host : Host} {path : String} {text : List Char} (hadded : host.AddsToLog path text)
    (hpath : c.resolvedLogPath host.homes = .ok path) (hnul : '\x00' ∉ path.toList)
    (hrenders : ∃ document, ((Assembly.ephemeral r.actions r.returned).run
      (r.start.getD host.second)).1 = .ok document) :
    ((∃ e, ((run c r).run host).1 = .error e) ∨
      ∃ report, ((run c r).run host).1 = .ok report ∧ report.success = true ∧ report.errors = []) ↔
    ¬((r.actions ≠ [] ∨ r.returned.isSome) ∧ FailsInLogOnly host.reply.ending text) := by
  by_cases hasked : r.actions ≠ [] ∨ r.returned.isSome
  · obtain ⟨document, hdocument⟩ := hrenders
    rw [run_eq_resultOf hc hasked hcaptures hadded hdocument hpath hnul]
    constructor
    · rintro (⟨e, herror⟩ | ⟨report, hok, -, herrors⟩)
        ⟨-, ⟨output, errors, hending, hblank⟩, hlogged⟩
      · have hreport : resultOf c r.label host.reply.ending text =
            .ok (reportOf ⟨0, output, errors⟩
              ((EngineLog.failuresIn text).map EngineLog.withoutStamp)) :=
          resultOf_eq_ok.mpr ⟨output, errors, hending, hblank, rfl⟩
        cases herror.symm.trans hreport
      · obtain ⟨output, errors, -, hblank, rfl⟩ := resultOf_eq_ok.mp hok
        simp [reportOf, complaints_eq_nil.mpr ⟨rfl, hblank⟩, hlogged] at herrors
    · intro hnot
      cases hresult : resultOf c r.label host.reply.ending text with
      | error e => exact .inl ⟨e, rfl⟩
      | ok report =>
        obtain ⟨output, errors, hending, hblank, rfl⟩ := resultOf_eq_ok.mp hresult
        have hlog : EngineLog.failuresIn text = [] := by
          by_contra hlogged
          exact hnot ⟨hasked, ⟨output, errors, hending, hblank⟩, hlogged⟩
        refine .inr ⟨_, rfl, ?_⟩
        simp [reportOf, complaints_eq_nil.mpr ⟨rfl, hblank⟩, hlog]
  -- Where there is nothing to run, the program is not called.
  · have hnothing : (r.actions.isEmpty && r.returned.isNone) = true := by simpa using hasked
    refine iff_of_true (.inr ⟨⟨true, "", []⟩, ?_, rfl, rfl⟩) fun h => hasked h.1
    rw [run, if_pos hnothing]
    rfl

/-- The same pause, with its result asked for. -/
def pausingForResult : RunRequest :=
  { pausing with captures := true }

/-- A computer on which the program prints a result and the engine adds lines to its log. -/
def printing (added : String) : Host :=
  .simple (.empty ["work"])
    [⟨.finished 0 "42\n" "", [(["work", "Engine.log"], utf8 added.toList)]⟩]

theorem printing_addsToLog (added : String) :
    (printing added).AddsToLog "/work/Engine.log" added.toList := by
  have hlocate : (Files.empty ["work"]).locate "/work/Engine.log" = .ok ["work", "Engine.log"] := by
    decide +kernel
  have hfile : (Files.empty ["work"]).isDirectory ["work", "Engine.log"] = false := by decide
  exact Host.addsToLog_of_appended ["work"] "Engine.log" rfl hlocate (by decide) hfile

/-- A line without a failure does not stand in the way of a result. -/
theorem run_for_result_iff_harmless :
    (printing "Execute macro\n").AddsToLog "/work/Engine.log" "Execute macro\n".toList ∧
      ((∃ e, ((run apart pausingForResult).run (printing "Execute macro\n")).1 = .error e) ∨
        ∃ report, ((run apart pausingForResult).run (printing "Execute macro\n")).1 = .ok report ∧
          report.success = true ∧ report.errors = []) := by
  have hc : apart.osascript = .str "osascript" := rfl
  refine ⟨printing_addsToLog _, (run_for_result_iff hc rfl (printing_addsToLog _) rfl (by decide)
    ⟨_, rfl⟩).mpr fun h => h.2.2 ?_⟩
  decide +kernel

/-- The result is handed out with the failure beside it. -/
theorem run_failing_in_log :
    (printing "2024-01-01 10:00:01 Action 1 failed: no such window\n").AddsToLog "/work/Engine.log"
        "2024-01-01 10:00:01 Action 1 failed: no such window\n".toList ∧
      ((run apart pausingForResult).run
        (printing "2024-01-01 10:00:01 Action 1 failed: no such window\n")).1 =
        .ok ⟨false, "42", ["Action 1 failed: no such window"]⟩ := by
  refine ⟨printing_addsToLog _, ?_⟩
  have hc : apart.osascript = .str "osascript" := rfl
  rw [run_eq_resultOf hc (.inl (by simp [pausingForResult, pausing])) rfl (printing_addsToLog _) rfl
    rfl (by decide)]
  decide +kernel

end MacroScribe.Engine
