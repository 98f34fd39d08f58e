import MacroScribe.Proofs.Engine.Endings
import MacroScribe.Proofs.Engine.Literal
import MacroScribe.Proofs.Export.Documents
import MacroScribe.Proofs.Export.Steps
import MacroScribe.Proofs.Files.Keeping

/-!
# MacroScribe.Proofs.Export.Delivery

What showing, saving and importing do to the host when they succeed: which calls are made, with
which documents, and which files there are.
-/

namespace MacroScribe

/-! ### Files that other programs leave alone -/

namespace Host

variable {host : Host} {path : String} {bytes : List UInt8}

/-- What other programs will write comes neither into the file of a path nor in its way. -/
def LeavesAlone (host : Host) (path : String) : Prop :=
  ∀ reply ∈ host.replies, ∀ f ∈ reply.appended,
    Files.key (host.files.place path) ∉ Files.above f.1

instance : Decidable (host.LeavesAlone path) :=
  inferInstanceAs (Decidable (∀ reply ∈ host.replies, ∀ f ∈ reply.appended, _ ∉ _))

theorem appended_of_leavesAlone (h : host.LeavesAlone path) :
    ∀ f ∈ host.reply.appended, Files.key (host.files.place path) ∉ Files.above f.1 := by
  intro f hf
  unfold reply at hf
  cases hreplies : host.replies with
  | nil =>
    rw [hreplies] at hf
    cases hf
  | cons reply replies =>
    rw [hreplies] at hf
    exact h reply (by simp [hreplies]) f hf

theorem opened_called (host : Host) (c : Call) : Files.Opened host.files (host.called c).files :=
  Files.opened_foldl_append host.files host.reply.appended

theorem LeavesAlone.called (h : host.LeavesAlone path) (c : Call) :
    (host.called c).LeavesAlone path := by
  intro reply hreply f hf
  rw [(host.opened_called c).place_eq]
  exact h reply (List.mem_of_mem_drop hreply) f hf

/-- The path is free for a file. -/
structure Free (host : Host) (path : String) : Prop where
  /-- Other programs leave it alone. -/
  alone : host.LeavesAlone path
  /-- An empty file that is kept there can be read. -/
  readable : (host.files.put (host.files.place path) []).read? path = some []
  /-- It can be passed on to other programs. -/
  taken : host.objection? path = none

theorem Free.read? (h : host.Free path) (bytes : List UInt8) :
    (host.files.put (host.files.place path) bytes).read? path = some bytes :=
  Files.Opened.read?_put ⟨rfl, fun _ hp => hp⟩ h.readable id

theorem Free.called (h : host.Free path) (c : Call) : (host.called c).Free path where
  alone := h.alone.called c
  readable := by
    refine (host.opened_called c).read?_put h.readable fun hdir => ?_
    exact Files.isDirectory_foldl_append hdir (appended_of_leavesAlone h.alone)
  taken := h.taken

/-- Saving a file keeps a path free that is not on the way to the file. -/
theorem Free.save {other : String} {files : Files} (h : host.Free path)
    (hsave : host.files.save other bytes = (files, .ok ()))
    (hway : ∀ q ∈ host.files.wayOf (Path.directory other),
      Files.key (host.files.place path) ≠ Files.key q) :
    { host with files }.Free path := by
  have hopened := Files.opened_of_save hsave
  refine ⟨fun reply hreply f hf => ?_, hopened.read?_put h.readable fun hdir => ?_, h.taken⟩
  · rw [hopened.place_eq]
    exact h.alone reply hreply f hf
  · exact Files.isDirectory_of_save hsave hdir hway

theorem LeavesAlone.read?_called (h : host.LeavesAlone path) (c : Call)
    (hread : host.files.read? path = some bytes) : (host.called c).files.read? path = some bytes :=
  Files.read?_foldl_append hread (appended_of_leavesAlone h)

end Host

namespace Export

variable {c : EngineConfig} {r : Request} {host last : Host} {xml : String}

/-! ### What calls ask for -/

/-- The program is called with a script that reads as these parts. -/
def Runs (c : EngineConfig) (call : Call) (pieces : List Script.Piece) : Prop :=
  ∃ program script, c.osascript = .str program ∧ call.command = [program, "-e", script] ∧
    call.timeout = c.timeout.quotedText ∧ Script.read Script.appleScript script = some pieces

/-- The call asks an application to delete the macro with a name. -/
def AsksToDelete (c : EngineConfig) (app name : String) (call : Call) : Prop :=
  Runs c call [.code "tell application ", .literal app, .code " to deleteMacro ", .literal name]

/-- The call asks an application to import the file of a path. -/
def AsksToImport (c : EngineConfig) (app path : String) (call : Call) : Prop :=
  Runs c call [.code "tell application ", .literal app, .code " to importMacros (POSIX file ",
    .literal path, .code " as alias)"]

section Asking

variable {program app : String} (hc : c.osascript = .str program)
include hc

theorem asksToDelete_callOn (host : Host) (app name : String) :
    AsksToDelete c app name (Engine.callOn c host [program, "-e", Script.delete app name]) :=
  ⟨program, _, hc, rfl, rfl, (Script.delete_consists app name).read Script.denotes_double⟩

theorem asksToImport_callOn (host : Host) (app path : String) :
    AsksToImport c app path (Engine.callOn c host [program, "-e", Script.importFile app path]) :=
  ⟨program, _, hc, rfl, rfl, (Script.importFile_consists app path).read Script.denotes_double⟩

end Asking

/-- A deletion can be asked for if the system takes both names. -/
theorem objection?_delete {app name : String} :
    host.objection? (Script.delete app name) = none ↔
      host.objection? app = none ∧ host.objection? name = none := by
  rw [(Script.delete_consists app name).objection? Script.staysPlain_double (by decide)]
  simp only [Host.TakesLiterals.code_cons, Host.TakesLiterals.literal_cons]
  exact and_congr_right fun _ => and_iff_left fun _ h => absurd h List.not_mem_nil

theorem objection?_importFile {app path : String} :
    host.objection? (Script.importFile app path) = none ↔
      host.objection? app = none ∧ host.objection? path = none := by
  rw [(Script.importFile_consists app path).objection? Script.staysPlain_double (by decide)]
  simp only [Host.TakesLiterals.code_cons, Host.TakesLiterals.literal_cons]
  exact and_congr_right fun _ => and_iff_left fun _ h => absurd h List.not_mem_nil

/-! ### Showing -/

/-- Showing a text is one call, with the document that shows it. -/
theorem showStep_eq_ok (h : (showStep c r xml).run host = (.ok (), last)) :
    (r.target.display = false ∧ last = host) ∨
      (r.target.display = true ∧ ∃ program document n, c.osascript = .str program ∧
        (Assembly.ephemeral [.step (window xml)] none).run host.second = (.ok document, n) ∧
        last = host.called (Engine.callOn c host
          [program, "-l", "JavaScript", "-e", Engine.documentScript c document])) := by
  unfold showStep at h
  by_cases hdisplay : r.target.display
  · rw [if_pos hdisplay] at h
    obtain ⟨report, after, hrun, h⟩ := Outcome.run_bind_eq_ok.mp h
    obtain ⟨program, document, n, hc, hdocument, rfl⟩ := Engine.run_eq_ok (by simp) rfl hrun
    exact .inr ⟨hdisplay, program, document, n, hc, hdocument, (congrArg Prod.snd h).symm⟩
  · rw [if_neg hdisplay] at h
    exact .inl ⟨Bool.eq_false_iff.mpr hdisplay, (congrArg Prod.snd h).symm⟩

/-! ### Importing -/

/-- The label of an importable document that is made on a host. -/
def labelOn (host : Host) (name group : Slot) : Assembly.Label :=
  ⟨group, name, .text (host.uuid (host.drawn + 2)), .text (host.uuid (host.drawn + 1)),
    .real (Assembly.documentDate host.clock)⟩

theorem run_newLabel (name group : Slot) (host : Host) :
    (newLabel name group).run host =
      (.ok (labelOn host name group), { host with drawn := host.drawn + 2 }) := rfl

/-- The host with a document in its temporary file. -/
def keeping (host : Host) (document : String) : Host :=
  { host with
    drawn := host.drawn + 2
    files := host.files.put (host.files.place host.scratch) (Text.utf8 document.toList) }

/-- The host without the file of a path. -/
def removing (host : Host) (path : String) : Host :=
  { host with files := host.files.remove (host.files.place path) }

/-- Deletes the macro with a name and imports a file. -/
def replace (c : EngineConfig) (name : Slot) (path : String) : Work Unit := do
  let _ ← Engine.delete c (.str (← textOf name))
  Engine.importFile c (.str path)

theorem replace_text (c : EngineConfig) (name path : String) :
    replace c (.text name) path = (do
      let _ ← Engine.delete c (.str name)
      Engine.importFile c (.str path)) := rfl

theorem run_makeFile_of_taken {path : String} (h : host.objection? path = none) :
    (Work.makeFile path).run host =
      (.ok (), { host with files := host.files.put (host.files.place path) [] }) := by
  unfold Work.makeFile
  rw [Work.run_get_bind]
  simp only [h]
  rfl

theorem run_makeFile_of_objection {path : String} {cause : Misuse}
    (h : host.objection? path = some cause) :
    (Work.makeFile path).run host = (.error (.misuse cause), host) := by
  unfold Work.makeFile
  rw [Work.run_get_bind]
  simp only [h]
  rfl

/-- The document comes into the temporary file. -/
theorem run_fillFile_of_whole {document : String}
    (h : host.standIns.isWhole document.toList = true) :
    (Work.fillFile host.scratch document).run (keeping host "") =
      (.ok (), keeping host document) := by
  have hfill : (Work.fillFile host.scratch document).run (keeping host "") =
      (.ok (), { keeping host "" with
        files := (keeping host "").files.put (host.files.place host.scratch)
          (Text.utf8 document.toList) }) := run_fill_of_whole h
  refine hfill.trans ?_
  exact congrArg (fun files => (Except.ok (), { keeping host "" with files }))
    (Files.put_put _ _ _ _)

theorem run_fillFile_of_not_whole {document : String}
    (h : host.standIns.isWhole document.toList = false) :
    ∃ e, (Work.fillFile host.scratch document).run (keeping host "") =
      (.error e, keeping host "") := by
  obtain ⟨e, hfill⟩ : ∃ e, (Work.fillFile host.scratch document).run (keeping host "") =
      (.error e, { keeping host "" with
        files := (keeping host "").files.put (host.files.place host.scratch) [] }) :=
    run_fill_eq_error h
  refine ⟨e, hfill.trans ?_⟩
  exact congrArg (fun files => (Except.error e, { keeping host "" with files }))
    (Files.put_put _ _ _ _)

section Temporary

variable {body document : String} {name group : Slot}

/-- Without a document nothing is done but that identifiers are drawn. -/
theorem run_importInto_of_error {e : Fault}
    (h : Assembly.importable (labelOn host name group) body = .error e) :
    (importInto c body name group).run host =
      (.error e, { host with drawn := host.drawn + 2 }) := by
  unfold importInto
  rw [Outcome.run_bind_of_ok (run_newLabel name group host), h]
  rfl

variable (hdocument : Assembly.importable (labelOn host name group) body = .ok document)
include hdocument

theorem run_importInto_of_objection {cause : Misuse}
    (h : host.objection? host.scratch = some cause) :
    (importInto c body name group).run host =
      (.error (.misuse cause), { host with drawn := host.drawn + 2 }) := by
  have hmade : (Work.makeFile host.scratch).run { host with drawn := host.drawn + 2 } =
      (.error (.misuse cause), { host with drawn := host.drawn + 2 }) := run_makeFile_of_objection h
  unfold importInto
  rw [Outcome.run_bind_of_ok (run_newLabel name group host), Work.run_ofOutcome_bind hdocument,
    Work.run_get_bind]
  exact Outcome.run_bind_of_error hmade

theorem run_importInto_of_taken (h : host.objection? host.scratch = none) :
    (importInto c body name group).run host =
      let ended := (do
        Work.fillFile host.scratch document
        replace c name host.scratch : Work Unit).run (keeping host "")
      (ended.1, removing ended.2 host.scratch) := by
  have hmade : (Work.makeFile host.scratch).run { host with drawn := host.drawn + 2 } =
      (.ok (), keeping host "") := run_makeFile_of_taken h
  unfold importInto
  rw [Outcome.run_bind_of_ok (run_newLabel name group host), Work.run_ofOutcome_bind hdocument,
    Work.run_get_bind, Outcome.run_bind_of_ok hmade]
  rfl

/-- A document without bytes is not imported, and nothing is called. -/
theorem run_importInto_of_not_whole (h : host.objection? host.scratch = none)
    (hwhole : host.standIns.isWhole document.toList = false) :
    ∃ e, (importInto c body name group).run host =
      (.error e, removing (keeping host "") host.scratch) := by
  obtain ⟨e, hfill⟩ := run_fillFile_of_not_whole hwhole
  refine ⟨e, ?_⟩
  rw [run_importInto_of_taken hdocument h, Outcome.run_bind_of_error hfill]

/-- The temporary file, which holds the document, is removed however replacing the macro ends. -/
theorem run_importInto (h : host.objection? host.scratch = none)
    (hwhole : host.standIns.isWhole document.toList = true) :
    (importInto c body name group).run host =
      (((replace c name host.scratch).run (keeping host document)).1,
        removing ((replace c name host.scratch).run (keeping host document)).2 host.scratch) := by
  rw [run_importInto_of_taken hdocument h, Outcome.run_bind_of_ok (run_fillFile_of_whole hwhole)]

end Temporary

/-- The host after the macro with a name has been asked to be deleted. -/
def deleting (c : EngineConfig) (host : Host) (program app name : String) : Host :=
  host.called (Engine.callOn c host [program, "-e", Script.delete app name])

/-- The host after a file has been imported in place of the macro with a name. -/
def replacing (c : EngineConfig) (host : Host) (program app name path : String) : Host :=
  let deleted := deleting c host program app name
  deleted.called (Engine.callOn c deleted [program, "-e", Script.importFile app path])

section Replacing

variable {program app name : String} (hc : c.osascript = .str program) (ha : c.editorApp = .str app)
include hc ha

theorem run_replace_of_objection {cause : Misuse} (path : String)
    (h : host.objection? (Script.delete app name) = some cause) :
    (replace c (.text name) path).run host = (.error (.misuse cause), host) := by
  have hrun := Engine.run_delete hc ha name host
  rw [Engine.ran?, h, Engine.ranOn_of_objection h] at hrun
  rw [replace_text]
  exact Outcome.run_bind_of_error hrun

variable (hpassed : host.objection? (Script.delete app name) = none)
include hpassed

/-- The import is not tried if the program cannot be called or takes too long. -/
theorem run_replace_of_not_finished (path : String) (h : host.reply.ending.isFinished = false) :
    ∃ e, (replace c (.text name) path).run host = (.error e, deleting c host program app name) := by
  have hrun := Engine.run_delete hc ha name host
  rw [Engine.ran?_of_passed hpassed, Engine.ranOn_of_passed hpassed] at hrun
  rw [← Engine.isOk_printed? (c := c)] at h
  cases hp : Engine.printed? c host.reply.ending with
  | ok p =>
    rw [hp] at h
    cases h
  | error e =>
    rw [hp] at hrun
    rw [replace_text]
    exact ⟨e, Outcome.run_bind_of_error hrun⟩

/-- The import is tried, whether the macro could be deleted or not. -/
theorem run_replace_of_finished {path : String} (hpath : host.objection? path = none)
    (h : host.reply.ending.isFinished = true) :
    (replace c (.text name) path).run host =
      (Engine.imported? path
          (Engine.printed? c (deleting c host program app name).reply.ending),
        replacing c host program app name path) := by
  have hrun := Engine.run_delete hc ha name host
  rw [Engine.ran?_of_passed hpassed, Engine.ranOn_of_passed hpassed] at hrun
  rw [← Engine.isOk_printed? (c := c)] at h
  have hnext : (deleting c host program app name).objection? (Script.importFile app path) = none :=
    objection?_importFile.mpr ⟨(objection?_delete.mp hpassed).1, hpath⟩
  cases hp : Engine.printed? c host.reply.ending with
  | error e =>
    rw [hp] at h
    cases h
  | ok p =>
    rw [hp] at hrun
    rw [replace_text, replacing, ← Engine.ran?_of_passed hnext]
    refine (Outcome.run_bind_of_ok hrun).trans ((Engine.run_importFile hc ha path _).trans ?_)
    exact congrArg (Prod.mk _) (Engine.ranOn_of_passed hnext _)

end Replacing

theorem textOf_eq_ok {slot : Slot} {s : String} (h : (textOf slot).run host = (.ok s, last)) :
    slot = .text s ∧ last = host := by
  cases slot with
  | text t =>
    cases h
    exact ⟨rfl, rfl⟩
  | broken cause => cases h

theorem replace_eq_ok {name : Slot} {path : String}
    (h : (replace c name path).run host = (.ok (), last)) :
    ∃ macroName program app, name = .text macroName ∧ c.osascript = .str program ∧
      c.editorApp = .str app ∧ last = replacing c host program app macroName path := by
  obtain ⟨macroName, started, hname, h⟩ := Outcome.run_bind_eq_ok.mp h
  obtain ⟨hname, hsame⟩ := textOf_eq_ok hname
  rw [hsame] at h
  obtain ⟨done, deleted, hdelete, himport⟩ := Outcome.run_bind_eq_ok.mp h
  obtain ⟨program, app, hc, ha, -, rfl⟩ := Engine.delete_eq_ok hdelete
  obtain ⟨-, hlast⟩ := Engine.importFile_eq_ok hc ha himport
  exact ⟨macroName, program, app, hname, hc, ha, hlast⟩

/-- Importing a macro deletes the one that has its name and imports the document, which is in the
temporary file. -/
theorem importInto_eq_ok {body : String} {name group : Slot}
    (h : (importInto c body name group).run host = (.ok (), last)) :
    ∃ document macroName program app,
      Assembly.importable (labelOn host name group) body = .ok document ∧
      name = .text macroName ∧ c.osascript = .str program ∧ c.editorApp = .str app ∧
      last = removing
        (replacing c (keeping host document) program app macroName host.scratch) host.scratch := by
  cases hdocument : Assembly.importable (labelOn host name group) body with
  | error e => cases (run_importInto_of_error hdocument).symm.trans h
  | ok document =>
    cases htaken : host.objection? host.scratch with
    | some cause => cases (run_importInto_of_objection hdocument htaken).symm.trans h
    | none =>
      cases hwhole : host.standIns.isWhole document.toList with
      | false =>
        obtain ⟨e, hrun⟩ := run_importInto_of_not_whole (c := c) hdocument htaken hwhole
        cases hrun.symm.trans h
      | true =>
        rw [run_importInto hdocument htaken hwhole] at h
        rcases hreplace : (replace c name host.scratch).run (keeping host document) with
          ⟨result, replaced⟩
        rw [hreplace] at h
        obtain ⟨rfl, rfl⟩ := Prod.mk.inj h
        obtain ⟨macroName, program, app, hname, hc, ha, rfl⟩ := replace_eq_ok hreplace
        exact ⟨document, macroName, program, app, rfl, hname, hc, ha, rfl⟩

end Export
end MacroScribe
