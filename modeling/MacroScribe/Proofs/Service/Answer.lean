import MacroScribe.Proofs.Export.Steps
import MacroScribe.Proofs.Files.Saving
import MacroScribe.Service.Basic

/-!
# MacroScribe.Proofs.Service.Answer

What answering a request can do to the host, whoever reads it. A request either leaves the host as
it is, or it writes actions and is to save them as one file: then its response says under which name
they are saved, or they are not, and at most directories have been made for the file (`Answered`).
Only running actions does more, and is left out here.

All this is about what can be written as bytes (`RenderForm.Encodes`). A result with half a
character in it leaves an empty file behind although the response is a failure, and a response with
one is a failure although the file is saved. The cases are told apart once, for the work before its
response is written (`run_render`).
-/

namespace MacroScribe.Service

open Files

/-! ### Names of saved files -/

/-- What a path ends in is what the name of the file ends in. -/
theorem suffix_file {part : List Char} (hpart : '/' ∉ part) (directory name : String) :
    part <:+ (directory ++ "/" ++ name).toList ↔ part <:+ name.toList := by
  have hfile : (directory ++ "/" ++ name).toList = directory.toList ++ '/' :: name.toList := by
    simp
  rw [hfile]
  constructor
  · intro h
    rcases List.suffix_or_suffix_of_suffix h (List.suffix_append directory.toList _) with h | h
    · rcases List.suffix_cons_iff.mp h with rfl | h
      · exact absurd List.mem_cons_self hpart
      · exact h
    · exact absurd (h.subset List.mem_cons_self) hpart
  · exact fun h => h.trans ((List.suffix_cons _ _).trans (List.suffix_append _ _))

theorem not_mem_ending : '/' ∉ Export.ending.toList := by decide

/-- The ending is put behind the name, wherever the file is. -/
theorem fileName_file (directory name : String) :
    Export.fileName (directory ++ "/" ++ name) = directory ++ "/" ++ Export.fileName name := by
  simp only [Export.fileName, List.isSuffixOf_iff_suffix, suffix_file not_mem_ending]
  by_cases h : Export.ending.toList <:+ name.toList
  · rw [if_pos h, if_pos h]
  · rw [if_neg h, if_neg h, String.append_assoc]

/-- The name of a macro file. -/
def IsMacroName (name : String) : Prop :=
  '/' ∉ name.toList ∧ Export.ending.toList <:+ name.toList

/-- Names of macro files are long enough to be proper ones. -/
theorem IsMacroName.isName {name : String} (h : IsMacroName name) : IsName name := by
  have hlong : 9 ≤ name.toList.length := h.2.length_le
  refine ⟨?_, ?_, ?_, h.1⟩
  · rintro rfl
    exact absurd hlong (by decide)
  · rintro rfl
    exact absurd hlong (by decide)
  · rintro rfl
    exact absurd hlong (by decide)

/-- With the ending put behind it, every name is one of a macro file. -/
theorem isMacroName_fileName {name : String} (h : '/' ∉ name.toList) :
    IsMacroName (Export.fileName name) := by
  simp only [Export.fileName, List.isSuffixOf_iff_suffix]
  by_cases hending : Export.ending.toList <:+ name.toList
  · rw [if_pos hending]
    exact ⟨h, hending⟩
  · rw [if_neg hending]
    unfold IsMacroName
    rw [String.toList_append]
    exact ⟨List.not_mem_append h not_mem_ending, List.suffix_append _ _⟩

theorem isWhole_fileName {standIns : Text.StandIns} {name : String}
    (h : standIns.isWhole name.toList = true) :
    standIns.isWhole (Export.fileName name).toList = true := by
  unfold Export.fileName
  split
  · exact h
  · rw [String.toList_append, Text.StandIns.isWhole_append]
    exact ⟨h, standIns.isWhole_of_isPlain (by decide)⟩

/-! ### Responses -/

/-- What a response to a successful request says has been saved: the name of a file, and the text in
it. -/
def Response.saved? (r : Response) : Option (String × String) :=
  match r.body with
  | .data (.obj fields) => do
    guard (r.status = 200)
    let name ← (← Fields.get? fields "download_filename").str?
    let xml ← (← Fields.get? fields "xml").str?
    return (name, xml)
  | _ => none

/-- The response that is sent when work comes to this. -/
def Response.sent (standIns : Text.StandIns) : Outcome Response → Response
  | .ok response => if response.body.isWritable standIns then response else .broken
  | .error _ => .broken

/-- A response is sent as it is if it is successful. -/
theorem Response.eq_ok_of_sent {standIns : Text.StandIns} {result : Outcome Response}
    (h : (Response.sent standIns result).status = 200) :
    result = .ok (Response.sent standIns result) := by
  cases result with
  | error e => exact absurd h (by decide : (500 : Nat) ≠ 200)
  | ok response =>
    rw [Response.sent] at h ⊢
    split
    · rfl
    · next hnot =>
      rw [if_neg hnot] at h
      exact absurd h (by decide : (500 : Nat) ≠ 200)

/-- No file is said to have been saved if the work says nothing of one. -/
theorem Response.saved?_sent {standIns : Text.StandIns} {result : Outcome Response}
    (h : ∀ response, result = .ok response → response.saved? = none) :
    (Response.sent standIns result).saved? = none := by
  cases result with
  | error e => rfl
  | ok response =>
    rw [Response.sent]
    split
    · exact h response rfl
    · rfl

/-- What answering a request does: nothing, or it is to save one file. Then its response tells of
the file, or there is none. -/
inductive Answered (directory : String) (host : Host) : Response → Host → Prop where
  | quiet {response : Response} (h : response.saved? = none) : Answered directory host response host
  | saved {response : Response} {name xml : String} {files : Files} (hname : IsMacroName name)
      (h : response.saved? = some (name, xml))
      (hsave : host.files.save (directory ++ "/" ++ name) (Text.utf8 xml.toList) =
        (files, .ok ())) :
      Answered directory host response { host with files }
  | unsaved {response : Response} {name : String} {files : Files} (hname : IsMacroName name)
      (h : response.saved? = none)
      (hgrown : Grown (host.files.wayOf (Path.directory (directory ++ "/" ++ name))) host.files
        files) :
      Answered directory host response { host with files }

variable {directory : String} {α : Type}

/-- Answering changes files only. -/
theorem Answered.standIns_eq {host after : Host} {response : Response}
    (h : Answered directory host response after) : after.standIns = host.standIns := by
  cases h <;> rfl

/-- If the work succeeds, what comes next is the answer. -/
theorem run_answering_of_ok {kinds : Kind → Bool} {failed : Fault → Response} {work : Work α}
    {next : α → Work Response} {host after : Host} {a : α}
    (h : work.run host = (.ok a, after)) :
    (answering kinds failed work next).run host = (next a).run after := by
  have hattempt : (Work.attempt work).run host = (.ok (.ok a), after) := by
    change (Except.ok (work.run host).1, (work.run host).2) = _
    rw [h]
  rw [answering, Outcome.run_bind_of_ok hattempt]

/-- A failure that has a response is answered with it. -/
theorem run_answering_of_error {kinds : Kind → Bool} {failed : Fault → Response} {work : Work α}
    {next : α → Work Response} {host after : Host} {f : Fault}
    (h : work.run host = (.error f, after)) :
    (answering kinds failed work next).run host =
      (if kinds f.kind then .ok (failed f) else .error f, after) := by
  have hattempt : (Work.attempt work).run host = (.ok (.error f), after) := by
    change (Except.ok (work.run host).1, (work.run host).2) = _
    rw [h]
  rw [answering, Outcome.run_bind_of_ok hattempt]
  by_cases hkind : kinds f.kind
  · simp only [if_pos hkind]
    rfl
  · simp only [if_neg hkind]
    rfl

/-- The work changes nothing, and says of no file that it was saved. -/
def Quiet (work : Work Response) : Prop :=
  ∀ host, ∃ result, work.run host = (result, host) ∧
    ∀ response, result = .ok response → response.saved? = none

theorem quiet_pure {response : Response} (h : response.saved? = none) : Quiet (pure response) := by
  refine fun host => ⟨.ok response, rfl, fun other hother => ?_⟩
  obtain rfl := Except.ok.inj hother
  exact h

/-- A computation that is answered is quiet if its answers say nothing of a file. -/
theorem quiet_answering {kinds : Kind → Bool} {failed : Fault → Response} {x : Outcome α}
    {next : α → Work Response} (hfailed : ∀ f, (failed f).saved? = none)
    (hnext : ∀ a, Quiet (next a)) : Quiet (answering kinds failed (Work.ofOutcome x) next) := by
  intro host
  cases x with
  | ok a =>
    rw [run_answering_of_ok (Work.run_ofOutcome _ _)]
    exact hnext a host
  | error f =>
    refine ⟨_, run_answering_of_error (Work.run_ofOutcome (.error f) host), fun response h => ?_⟩
    split at h
    · obtain rfl := Except.ok.inj h
      exact hfailed f
    · cases h

/-! ### The parts of the service -/

theorem quiet_keystroke (spec : KeystrokeSpec) : Quiet (keystroke spec) :=
  quiet_answering (fun _ => rfl) fun _ => quiet_pure rfl

/-- What is handed out is what is found under the path; a directory is not a file. -/
theorem run_download (directory name : String) (host : Host) :
    (download directory name).run host =
      (match host.files.find (directory ++ "/" ++ name) with
      | .ok (.file bytes) => (.ok ⟨200, .file bytes⟩, host)
      | .ok .directory => (.error (.file (directory ++ "/" ++ name) .directory), host)
      | .error _ => (.ok (.ofFields 404 [("error", .str "File not found")]), host)) := by
  rw [download, Work.run_get_bind]
  dsimp only
  rcases host.files.find (directory ++ "/" ++ name) with e | found
  · rfl
  · cases found <;> rfl

/-- Handing out a file changes nothing. -/
theorem quiet_download (directory name : String) : Quiet (download directory name) := by
  intro host
  rw [run_download]
  rcases host.files.find (directory ++ "/" ++ name) with e | _ | bytes
  · exact quiet_pure rfl host
  · exact ⟨_, rfl, fun response h => by cases h⟩
  · exact quiet_pure rfl host

/-! ### Writing actions -/

namespace RenderForm

variable {form : RenderForm} {doc : MacroDocument} {standIns : Text.StandIns}

/-- What is saved for a request to write actions can be written as bytes, and so can the response
that tells of it. -/
def Encodes (standIns : Text.StandIns) (form : RenderForm) : Prop :=
  ∀ doc file, form.content.document = .ok doc → form.saveAs = some file →
    standIns.isWhole doc.name.toList ∧ standIns.isWhole (Path.base file).toList ∧
      ∀ start body next, (renderActions doc.actions).run start = (.ok body, next) →
        standIns.isWhole (Plist.wrap body).toList

/-- The request to generate a macro that a request to write actions comes to. -/
def request (directory : String) (form : RenderForm) (doc : MacroDocument) : Export.Request :=
  ⟨doc.actions, form.envelope, ⟨false, (form.path? directory).map Slot.text, none⟩,
    .text doc.name, form.start⟩

/-- The response when the result is this. -/
def response (directory : String) (form : RenderForm) (doc : MacroDocument) (xml : String) :
    Response :=
  .ofFields 200
    ([("success", .bool true), ("name", .str doc.name),
      ("action_count", .int doc.actions.length), ("xml", .str xml)] ++
      ((form.path? directory).map fun p =>
        ("download_filename", .str (Path.base (Export.fileName p)))).toList)

/-- A result that is saved goes into the directory, under a name of its own. -/
theorem path?_eq {path : String} (h : form.path? directory = some path) :
    ∃ file, form.saveAs = some file ∧ IsMacroName (Export.fileName (Path.base file)) ∧
      Export.fileName path = directory ++ "/" ++ Export.fileName (Path.base file) := by
  obtain ⟨file, hfile, rfl⟩ := Option.map_eq_some_iff.mp h
  exact ⟨file, (Option.filter_eq_some_iff.mp hfile).1,
    isMacroName_fileName (Path.not_mem_base file), fileName_file directory _⟩

section Saving

variable {path name : String} (h : form.path? directory = some path) (hname : IsMacroName name)
  (hpath : Export.fileName path = directory ++ "/" ++ name)
include h hname hpath

/-- The response of a result that is saved tells of the name in the directory. -/
theorem response_eq (xml : String) :
    form.response directory doc xml =
      .ofFields 200 [("success", .bool true), ("name", .str doc.name),
        ("action_count", .int doc.actions.length), ("xml", .str xml),
        ("download_filename", .str name)] := by
  unfold response
  rw [h, Option.map_some, hpath, Path.base_file directory hname.1]
  rfl

/-- So it can be read off the response what was saved. -/
theorem saved?_response (xml : String) :
    (form.response directory doc xml).saved? = some (name, xml) := by
  rw [response_eq h hname hpath]
  rfl

/-- The response has bytes if the names and the result do. -/
theorem isWritable_response {xml : String} (hdoc : standIns.isWhole doc.name.toList = true)
    (hwhole : standIns.isWhole name.toList = true) (hxml : standIns.isWhole xml.toList = true) :
    (form.response directory doc xml).body.isWritable standIns = true := by
  have hkeys : ∀ key ∈ ["success", "name", "action_count", "xml", "download_filename"],
      standIns.isWhole key.toList = true := by
    intro key hkey
    have hplain : ∀ key ∈ ["success", "name", "action_count", "xml", "download_filename"],
        Text.IsPlain key.toList := by decide
    exact standIns.isWhole_of_isPlain (hplain key hkey)
  simp only [List.forall_mem_cons] at hkeys
  have htexts : Json.texts (.obj [("success", .bool true), ("name", .str doc.name),
      ("action_count", .int doc.actions.length), ("xml", .str xml),
      ("download_filename", .str name)] : Data) =
      ["success", "name", doc.name, "action_count", "xml", xml, "download_filename", name] := rfl
  rw [response_eq h hname hpath, Response.ofFields, Body.isWritable, htexts]
  simp only [List.all_cons, List.all_nil, hkeys, hdoc, hwhole, hxml, Bool.and_self]

end Saving

theorem saved?_response_of_none (h : form.path? directory = none) (xml : String) :
    (form.response directory doc xml).saved? = none := by
  unfold response
  rw [h]
  rfl

/-- A result that is saved has an envelope. -/
theorem result_request {path : String} (h : form.path? directory = some path) (body : String) :
    (form.request directory doc).result body = Plist.wrap body := by
  unfold Export.Request.result request ExportTarget.needsEnvelope
  simp [h]

/-- The path of the file to which the macro goes is that of the form. -/
theorem path?_of_filePath {path : String}
    (h : (form.request directory doc).target.filePath = some (.text path)) :
    form.path? directory = some path := by
  obtain ⟨_, hsome, heq⟩ := Option.map_eq_some_iff.mp h
  obtain rfl := Slot.text.inj heq
  exact hsome

/-- The text of the file has bytes if the form encodes. -/
theorem Encodes.isWhole_result {host : Host} {path body : String}
    (h : form.Encodes host.standIns) (hdoc : form.content.document = .ok doc)
    (hpath : form.path? directory = some path)
    (hbody : (form.request directory doc).body? host = .ok body) :
    host.standIns.isWhole ((form.request directory doc).result body).toList = true := by
  obtain ⟨file, hfile, -⟩ := path?_eq hpath
  rw [result_request hpath]
  exact (h doc file hdoc hfile).2.2 _ body _ (Prod.ext hbody rfl)

/-- And so has the response that tells of the file. -/
theorem Encodes.isWritable_response {path file xml : String} (h : form.Encodes standIns)
    (hdoc : form.content.document = .ok doc) (hpath : form.path? directory = some path)
    (hfile : form.saveAs = some file)
    (hname : IsMacroName (Export.fileName (Path.base file)))
    (hplace : Export.fileName path = directory ++ "/" ++ Export.fileName (Path.base file))
    (hxml : standIns.isWhole xml.toList = true) :
    (form.response directory doc xml).body.isWritable standIns = true := by
  obtain ⟨hdocName, hbase, -⟩ := h doc file hdoc hfile
  exact RenderForm.isWritable_response hpath hname hplace hdocName (isWhole_fileName hbase) hxml

end RenderForm

/-- A document that is not acceptable is refused, and nothing is done. -/
theorem run_render_of_error {form : RenderForm} {f : Fault} (hf : form.content.document = .error f)
    (host : Host) :
    (render directory form).run host =
      (if f.kind.isValue then .ok (.failed 422 f) else .error f, host) := by
  have hrun : (Work.ofOutcome form.content.document).run host = (.error f, host) := by rw [hf]; rfl
  rw [render, run_answering_of_error hrun]

/-- A macro is generated from an acceptable document, and the response tells of the result. -/
theorem run_render_of_ok {form : RenderForm} {doc : MacroDocument}
    (hdoc : form.content.document = .ok doc) (host : Host) :
    (render directory form).run host =
      (answering Kind.isSystem (fun f => .failed 422 (.unsaved f))
        (Export.generate .standard (form.request directory doc))
        fun xml => pure (form.response directory doc xml)).run host := by
  have hrun : (Work.ofOutcome form.content.document).run host = (.ok doc, host) := by rw [hdoc]; rfl
  rw [render, run_answering_of_ok hrun]
  rfl

/-- A response to a failure tells of no file. -/
theorem saved?_of_failed {kinds : Kind → Bool} {f g : Fault} {response : Response}
    (h : (if kinds f.kind then .ok (.failed 422 g) else .error f : Outcome Response) =
      .ok response) : response.saved? = none ∧ response.status ≠ 200 := by
  split at h
  · obtain rfl := Except.ok.inj h
    exact ⟨rfl, (by decide : (422 : Nat) ≠ 200)⟩
  · cases h

/-- Actions are written and, if that is asked for, saved, or the request fails in some way. -/
theorem run_render (directory : String) (form : RenderForm) (host : Host) :
    (∃ result, (render directory form).run host = (result, host) ∧
      ∀ response, result = .ok response →
        response.saved? = none ∧ (response.status = 200 → form.path? directory = none)) ∨
    (∃ response name xml files, IsMacroName name ∧ response.saved? = some (name, xml) ∧
      host.files.save (directory ++ "/" ++ name) (Text.utf8 xml.toList) = (files, .ok ()) ∧
      (render directory form).run host = (.ok response, { host with files }) ∧
      (form.Encodes host.standIns → response.body.isWritable host.standIns)) ∨
    ∃ result name files, IsMacroName name ∧
      (render directory form).run host = (result, { host with files }) ∧
      (∀ response, result = .ok response → response.saved? = none ∧ response.status ≠ 200) ∧
      (form.Encodes host.standIns →
        Grown (host.files.wayOf (Path.directory (directory ++ "/" ++ name))) host.files files) := by
  cases hdoc : form.content.document with
  | error f =>
    refine .inl ⟨_, run_render_of_error hdoc host, fun response h => ?_⟩
    obtain ⟨hsaved, hstatus⟩ := saved?_of_failed h
    exact ⟨hsaved, fun h => absurd h hstatus⟩
  | ok doc =>
    rw [run_render_of_ok hdoc]
    rcases Export.run_generate_of_saving (r := form.request directory doc) rfl rfl host with
      ⟨xml, hpath, hgen⟩ | ⟨body, path, files, hpath, hbody, hsave, hgen⟩ | ⟨e, files, hgen, hfiles⟩
    · rw [run_answering_of_ok hgen]
      have hnone : form.path? directory = none := Option.map_eq_none_iff.mp hpath
      refine .inl ⟨_, rfl, fun response h => ?_⟩
      obtain rfl := Except.ok.inj h
      exact ⟨RenderForm.saved?_response_of_none hnone xml, fun _ => hnone⟩
    · rw [run_answering_of_ok hgen]
      have hsome := RenderForm.path?_of_filePath hpath
      obtain ⟨file, hfile, hname, hplace⟩ := RenderForm.path?_eq hsome
      refine .inr (.inl ⟨_, _, _, files, hname, RenderForm.saved?_response hsome hname hplace _,
        hplace ▸ hsave, rfl, fun hencodes => ?_⟩)
      exact hencodes.isWritable_response hdoc hsome hfile hname hplace
        (hencodes.isWhole_result hdoc hsome hbody)
    · rw [run_answering_of_error hgen]
      rcases hfiles with rfl | ⟨body, path, hpath, hbody, hgrown⟩
      · refine .inl ⟨_, rfl, fun response h => ?_⟩
        obtain ⟨hsaved, hstatus⟩ := saved?_of_failed h
        exact ⟨hsaved, fun h => absurd h hstatus⟩
      · have hsome := RenderForm.path?_of_filePath hpath
        obtain ⟨file, hfile, hname, hplace⟩ := RenderForm.path?_eq hsome
        refine .inr (.inr ⟨_, _, files, hname, rfl, fun _ => saved?_of_failed,
          fun hencodes => ?_⟩)
        rw [← hplace]
        exact hgrown (hencodes.isWhole_result hdoc hsome hbody)

/-! ### Whole answers -/

variable {read : Request → Except Response Task} {r : Request} {host : Host}

/-- A request that is refused changes nothing. -/
theorem run_answerWith_of_refused {response : Response} (h : read r = .error response)
    (directory : String) (host : Host) :
    (answerWith read directory r).run host = (.ok response, host) := by
  unfold answerWith
  rw [h]
  rfl

/-- A request that is read is answered with what its work comes to. -/
theorem run_answerWith {task : Task} (h : read r = .ok task) (directory : String) (host : Host) :
    (answerWith read directory r).run host =
      (.ok (Response.sent ((task.answer directory).run host).2.standIns
          ((task.answer directory).run host).1),
        ((task.answer directory).run host).2) := by
  have hattempt : (Work.attempt (task.answer directory)).run host =
      (.ok ((task.answer directory).run host).1, ((task.answer directory).run host).2) := rfl
  unfold answerWith
  rw [h]
  dsimp only
  rw [Outcome.run_bind_of_ok hattempt]
  rcases ((task.answer directory).run host).1 with e | response <;> rfl

/-- Work that is quiet leaves a response that says nothing of a file. -/
theorem Quiet.answered {work : Work Response} (h : Quiet work) (directory : String) (host : Host) :
    Answered directory host (Response.sent (work.run host).2.standIns (work.run host).1)
      (work.run host).2 := by
  obtain ⟨result, hrun, hsaved⟩ := h host
  rw [hrun]
  exact .quiet (Response.saved?_sent hsaved)

/-- Writing actions saves one file or none. -/
theorem answered_render {form : RenderForm} (h : form.Encodes host.standIns) :
    Answered directory host
      (Response.sent ((render directory form).run host).2.standIns
        ((render directory form).run host).1)
      ((render directory form).run host).2 := by
  rcases run_render directory form host with
    ⟨result, hrun, hsaved⟩ | ⟨response, name, xml, files, hname, hsaved, hsave, hrun, hwritable⟩ |
    ⟨result, name, files, hname, hrun, hsaved, hgrown⟩
  · rw [hrun]
    exact .quiet (Response.saved?_sent fun response h => (hsaved response h).1)
  · rw [hrun, Response.sent, if_pos (hwritable h)]
    exact .saved hname hsaved hsave
  · rw [hrun]
    exact .unsaved hname (Response.saved?_sent fun response h => (hsaved response h).1) (hgrown h)

/-- Doing what the service is asked to do, unless it is to run actions. -/
theorem answered_task {task : Task} (hrun : ∀ form, task ≠ .run form)
    (hencodes : ∀ form, task = .render form → form.Encodes host.standIns) :
    Answered directory host
      (Response.sent ((task.answer directory).run host).2.standIns
        ((task.answer directory).run host).1)
      ((task.answer directory).run host).2 := by
  cases task with
  | health => exact (quiet_pure rfl).answered directory host
  | render form => exact answered_render (hencodes form rfl)
  | keystroke spec => exact (quiet_keystroke spec).answered directory host
  | tokens start => exact (quiet_pure rfl).answered directory host
  | run form => exact absurd rfl (hrun form)
  | download name => exact (quiet_download directory name).answered directory host

/-- What is relied on about whoever reads requests, of which `path` gives the path. -/
structure Reads (path : Request → String) (read : Request → Except Response Task) : Prop where
  /-- The responses that he gives himself tell of no file that was saved. -/
  refuses : ∀ r response, read r = .error response → response.saved? = none
  /-- A request for a file leads to the part of the service that hands it out. -/
  downloads : ∀ (r : Request) name, r.method = "GET" → path r = "/download/" ++ name → IsName name →
    read r = .ok (.download name)

/-- The request asks for something else than to run actions, and what is saved for it can be written
as bytes. -/
structure Request.Fits (read : Request → Except Response Task) (standIns : Text.StandIns)
    (r : Request) : Prop where
  run : ∀ form, read r ≠ .ok (.run form)
  encodes : ∀ form, read r = .ok (.render form) → form.Encodes standIns

/-- A request is answered, and at most one file is saved. -/
theorem run_answer {path : Request → String} (hread : Reads path read) (directory : String)
    (h : r.Fits read host.standIns) :
    ∃ response after, (answerWith read directory r).run host = (.ok response, after) ∧
      Answered directory host response after := by
  cases hr : read r with
  | error response =>
    exact ⟨_, _, run_answerWith_of_refused hr directory host, .quiet (hread.refuses r _ hr)⟩
  | ok task =>
    refine ⟨_, _, run_answerWith hr directory host, answered_task (fun form htask => ?_)
      fun form htask => ?_⟩
    · exact h.run form (hr.trans (congrArg _ htask))
    · exact h.encodes form (hr.trans (congrArg _ htask))

/-! ### One way to read requests -/

/-- A proper name behind the path of files is a request for this file. -/
theorem direct?_download {name : String} (h : IsName name) :
    Route.direct? ("/download/" ++ name) = some (.download name) := by
  have hpath : ("/download/" ++ name).toList = Route.downloadStart ++ name.toList := by
    rw [String.toList_append]
    rfl
  have hne : ∀ other : String, Route.downloadStart.isPrefixOf other.toList = false →
      "/download/" ++ name ≠ other := by
    rintro other hother rfl
    rw [hpath, Bool.eq_false_iff, ne_eq, List.isPrefixOf_iff_prefix] at hother
    exact hother (List.prefix_append _ _)
  unfold Route.direct?
  split
  · exact absurd ‹_› (hne "/health" (by decide))
  · exact absurd ‹_› (hne "/render" (by decide))
  · exact absurd ‹_› (hne "/keystroke" (by decide))
  · exact absurd ‹_› (hne "/tokens" (by decide))
  · exact absurd ‹_› (hne "/run" (by decide))
  · have hempty : name.toList.isEmpty = false := by simpa using h.1
    have hslash : name.toList.contains '/' = false := by simpa using h.2.2.2
    have hprefix : Route.downloadStart.isPrefixOf (Route.downloadStart ++ name.toList) = true :=
      List.isPrefixOf_iff_prefix.mpr (List.prefix_append _ _)
    simp only [hpath, List.drop_left, hprefix, hempty, hslash, String.ofList_toList]
    rfl

/-- A request is refused with a phrase, or with reasons. -/
theorem saved?_of_refused {response : Response} (h : r.task = .error response) :
    response.saved? = none := by
  unfold Request.task at h
  dsimp only at h
  split at h
  · obtain rfl := Except.error.inj h
    rfl
  · split at h
    · obtain rfl := Except.error.inj h
      rfl
    · split at h
      · cases h
      · obtain rfl := Except.error.inj h
        rfl

/-- The reader of requests passes on what is asked for. -/
theorem reads_readRequest : Reads (fun r => (Target.ofText r.target).path) readRequest where
  refuses r response h := by
    unfold readRequest at h
    split at h
    · obtain ⟨refused, -, rfl⟩ := Outcome.mapError_eq_error.mp h
      rfl
    · exact saved?_of_refused h
  downloads r name hmethod hpath hname := by
    have hroute : Route.ofPath? (Target.ofText r.target).path = some (.download name) := by
      rw [hpath, Route.ofPath?, direct?_download hname, Option.some_or]
    have hverb : r.verb = "GET" := by
      rw [Request.verb, hmethod]
      rfl
    have htask : r.task = .ok (.download name) := by
      simp only [Request.task, hroute, hverb]
      rfl
    rw [readRequest, if_neg (by rw [hverb]; decide), htask]

end MacroScribe.Service
