import MacroScribe.Proofs.Engine.Calls
import MacroScribe.Proofs.Engine.Log

/-!
# MacroScribe.Proofs.Engine.Report

How running actions is reported. The report depends on how the program ends, on what it prints, and
on the text that is added to the log while it runs (`run_reports_added`); it is the same on all
hosts that agree in these, whatever their logs hold already.
-/

namespace MacroScribe

open Text

/-- While the next call lasts, the text is added to the log, which may be there before or not. -/
def Host.AddsToLog (host : Host) (path : String) (text : List Char) : Prop :=
  EngineLog.bytes (host.reply.appended.foldl (fun files f => files.append f.1 f.2) host.files) path =
    EngineLog.bytes host.files path ++ utf8 text

/-- What a call appends to the file of the log is added to the log, if a file can be where its path
leads. -/
theorem Host.addsToLog_of_appended {host : Host} {path : String} {text : List Char}
    (directory : Place) (name : String)
    (happended : host.reply.appended = [(directory ++ [name], utf8 text)])
    (hlocate : host.files.locate path = .ok (directory ++ [name])) (hname : name ≠ "")
    (hfile : host.files.isDirectory (directory ++ [name]) = false) : host.AddsToLog path text := by
  have hplace := Files.place_of_locate hlocate
  have hbytes := EngineLog.bytes_append hplace hname (hplace ▸ hlocate) (hplace ▸ hfile) (utf8 text)
  rw [hplace] at hbytes
  rw [AddsToLog, happended]
  exact hbytes

namespace Engine

/-! ### Complaints -/

/-- What is wrong with the way in which a program ended: its status, or that it complained. Its
status stands in for a complaint that it did not make. -/
def complaints (status : Int) (errors : String) : List String :=
  if status = 0 ∧ allBlank errors.toList then []
  else if allBlank errors.toList then
    [s!"osascript exited with status {String.ofList (Decimal.intText status)}"]
  else [stripped errors]

theorem stripped_eq_empty {s : String} : stripped s = "" ↔ allBlank s.toList := by
  rw [stripped, ← strip_eq_nil, ← String.toList_inj, String.toList_ofList]
  rfl

theorem toList_complaint? (p : Printed) :
    (complaint? p).toList = complaints p.status p.errors := by
  unfold complaint? complaints
  by_cases hblank : allBlank p.errors.toList
  · simp only [stripped_eq_empty.mpr hblank, hblank]
    by_cases hstatus : p.status = 0 <;> simp [hstatus]
  · have hne : stripped p.errors ≠ "" := fun h => hblank (stripped_eq_empty.mp h)
    simp [hne, hblank]

/-! ### Reports -/

variable {c : EngineConfig} {program : String} {r : RunRequest}

/-- What is said about an end of the program and some failures. -/
def reportOf (p : Printed) (failures : List (List Char)) : RunReport :=
  let errors := complaints p.status p.errors ++ failures.map String.ofList
  ⟨errors.isEmpty, stripped p.output, errors⟩

/-- What becomes of a request, given what the program printed and the log from where it ended when
the program was called. -/
def judge (r : RunRequest) (log : EngineLog) (p : Printed) : Work RunReport :=
  match complaint? p with
  | some message =>
    if r.captures then failed (.runFailed r.label message) else run.report log p [message]
  | none => run.report log p []

/-- A request that has something to run calls the program, and is judged by the end of the call and
by the log after it. -/
theorem run_eq_judge (hc : c.osascript = .str program)
    (hasked : r.actions ≠ [] ∨ r.returned.isSome) {host : Host} {path document : String}
    (hdocument : ((Assembly.ephemeral r.actions r.returned).run
      (r.start.getD host.second)).1 = .ok document)
    (hpath : c.resolvedLogPath host.homes = .ok path) (hnul : '\x00' ∉ path.toList) :
    ∃ call, (run c r).run host =
      (Work.ofOutcome (printed? c host.reply.ending) >>=
        judge r ⟨path, (EngineLog.bytes host.files path).length⟩).run (host.called call) := by
  have hsomething : (r.actions.isEmpty && r.returned.isNone) = false := by
    rcases hasked with h | h <;> simp [h]
  unfold run
  rw [if_neg (by simp [hsomething]), Work.run_get_bind, Work.run_ofOutcome_bind hdocument,
    Work.run_ofOutcome_bind hpath, Work.run_ofOutcome_bind (EngineLog.follow_eq hnul)]
  refine ⟨_, run_runJxa_bind hc ?_ _ host⟩
  split
  · exact isPlain_runDocumentForResult (Json.isPlain_writeString _) (Json.isPlain_writeString _)
  · exact isPlain_documentScript c document

/-- A request that does not ask for a result reports what is wrong. -/
theorem run_judge (hcaptures : r.captures = false) (log : EngineLog) (p : Printed) (host : Host) :
    (judge r log p).run host = (.ok (reportOf p (log.newFailures host.files)), host) := by
  unfold judge reportOf
  rw [← toList_complaint?, hcaptures]
  cases complaint? p <;> rfl

/-- A request that is carried out reports what the log shows after the call. -/
theorem run_eq_reportOf (hc : c.osascript = .str program) (hactions : r.actions ≠ [])
    (hcaptures : r.captures = false) {host : Host} {path document : String} {p : Printed}
    (hdocument : ((Assembly.ephemeral r.actions r.returned).run
      (r.start.getD host.second)).1 = .ok document)
    (hpath : c.resolvedLogPath host.homes = .ok path) (hnul : '\x00' ∉ path.toList)
    (hending : host.reply.ending = .finished p.status p.output p.errors) :
    ∃ call, (run c r).run host =
      (.ok (reportOf p (EngineLog.newFailures ⟨path, (EngineLog.bytes host.files path).length⟩
        (host.called call).files)), host.called call) := by
  obtain ⟨call, hrun⟩ := run_eq_judge hc (.inl hactions) hdocument hpath hnul
  refine ⟨call, ?_⟩
  rw [hrun, hending]
  exact run_judge hcaptures _ p (host.called call)

/-- The report says what the program complained about and then which failures were added to the log,
in order and without time stamps, and success if there is nothing to say. Nothing but the end of the
program, what it printed and the text that is added to the log matters, and least of all what the
log held before. -/
theorem run_reports_added (hc : c.osascript = .str program) (hactions : r.actions ≠ [])
    (hcaptures : r.captures = false) (status : Int) (output errors : String) (text : List Char) :
    ∃ (report : RunReport) (failures : List (List Char)),
      List.Forall₂ EngineLog.Unstamped (EngineLog.failuresIn text) failures ∧
      report.errors = complaints status errors ++ failures.map String.ofList ∧
      (report.success ↔ report.errors = []) ∧ report.output = stripped output ∧
      ∀ host path, host.reply.ending = .finished status output errors →
        host.AddsToLog path text → c.resolvedLogPath host.homes = .ok path →
        '\x00' ∉ path.toList →
        (∃ document, ((Assembly.ephemeral r.actions r.returned).run
          (r.start.getD host.second)).1 = .ok document) →
        ((run c r).run host).1 = .ok report := by
  let failures := (EngineLog.failuresIn text).map EngineLog.withoutStamp
  refine ⟨reportOf ⟨status, output, errors⟩ failures, failures, EngineLog.unstamped_all_iff.mpr rfl,
    rfl, List.isEmpty_iff, rfl, fun host path hending hadded hpath hnul hrenders => ?_⟩
  obtain ⟨document, hdocument⟩ := hrenders
  obtain ⟨call, hrun⟩ := run_eq_reportOf hc hactions hcaptures (p := ⟨status, output, errors⟩)
    hdocument hpath hnul hending
  have hbytes : EngineLog.bytes (host.called call).files path =
      EngineLog.bytes host.files path ++ utf8 text := hadded
  rw [hrun, EngineLog.newFailures_of_added hbytes]

/-- The path of a log that is set apart. -/
def apart : EngineConfig :=
  .ofFields [("log_path", .str "/work/Engine.log")]

/-- A pause, and nothing to return. -/
def pausing : RunRequest :=
  ⟨[.step (.pause "1" none)], unnamed, none, false, some 7⟩

/-- Lines of which one reports a failure. -/
def addedLines : String :=
  "2024-01-01 10:00:01 Action 1 FAILED: caf\u00e9\nno_error here\nExecute macro"

/-- A computer on which a program complains and adds lines to the log. -/
def complaining (files : Files) : Host :=
  .simple files
    [⟨.finished 1 "42\n" " no such window\n", [(["work", "Engine.log"], utf8 addedLines.toList)]⟩]

/-- A log that ends within a line about an error. -/
def withLog : Files :=
  (Files.empty ["work"]).put ["work", "Engine.log"] (utf8 "caf\u00e9: error".toList)

theorem complaining_addsToLog (files : Files)
    (hlocate : files.locate "/work/Engine.log" = .ok ["work", "Engine.log"])
    (hfile : files.isDirectory ["work", "Engine.log"] = false) :
    (complaining files).AddsToLog "/work/Engine.log" addedLines.toList :=
  Host.addsToLog_of_appended ["work"] "Engine.log" rfl hlocate (by decide) hfile

/-- The same is reported whether there was no log or one with an error in it. -/
theorem run_reports_added_twice :
    (complaining (.empty ["work"])).AddsToLog "/work/Engine.log" addedLines.toList ∧
      (complaining withLog).AddsToLog "/work/Engine.log" addedLines.toList ∧
      ∃ report : RunReport,
        report.errors = ["no such window", "Action 1 FAILED: caf\u00e9"] ∧ report.success = false ∧
        ((run apart pausing).run (complaining (.empty ["work"]))).1 = .ok report ∧
        ((run apart pausing).run (complaining withLog)).1 = .ok report := by
  have hnone := complaining_addsToLog (.empty ["work"]) (by decide +kernel) (by decide)
  have hsome := complaining_addsToLog withLog (by decide +kernel) (by decide +kernel)
  obtain ⟨report, failures, hfailures, herrors, hsuccess, -, hrun⟩ :=
    run_reports_added (c := apart) (r := pausing) rfl (by simp [pausing]) rfl 1 "42\n"
      " no such window\n" addedLines.toList
  have hsaid : complaints 1 " no such window\n" ++
      ((EngineLog.failuresIn addedLines.toList).map EngineLog.withoutStamp).map String.ofList =
      ["no such window", "Action 1 FAILED: caf\u00e9"] := by decide +kernel
  rw [← EngineLog.unstamped_all_iff.mp hfailures, hsaid] at herrors
  refine ⟨hnone, hsome, report, herrors, ?_, hrun _ _ rfl hnone rfl (by decide) ⟨_, rfl⟩,
    hrun _ _ rfl hsome rfl (by decide) ⟨_, rfl⟩⟩
  exact Bool.eq_false_iff.mpr fun h => by simp [hsuccess.mp h] at herrors

end Engine
end MacroScribe
