import MacroScribe.Proofs.Engine.Report
import MacroScribe.Proofs.Export.Delivery
import MacroScribe.Proofs.Json.Text

/-!
# MacroScribe.Proofs.Export.Macro

All that comes of generating a macro describes the same macro: what is given back, the file, the
document that is imported and the text that is shown (`generate_describes_one_macro`). The actions
are written once, and what is read in each of the documents is what is read in their text.
-/

namespace MacroScribe.Export

open Plist

variable {c : EngineConfig} {r : Request} {host last : Host} {xml body : String}

/-! ### What is delivered -/

/-- The name that a macro file gets: the ending is added if it is missing. -/
def withEnding (path : String) : String :=
  if ending.toList <:+ path.toList then path else path ++ ending

theorem fileName_eq (path : String) : fileName path = withEnding path := by
  unfold fileName withEnding
  by_cases h : ending.toList <:+ path.toList
  · rw [if_pos h, if_pos (List.isSuffixOf_iff_suffix.mpr h)]
  · rw [if_neg h, if_neg fun hsuffix => h (List.isSuffixOf_iff_suffix.mp hsuffix)]

/-- The calls are one, with a script in which the engine, whose name stands there as JSON text, runs
a document with a single action, which shows the text. Each character of the document is read as it
stands by XML parsers if that holds of the text. -/
def Shows (c : EngineConfig) (xml : String) (calls : List Call) : Prop :=
  ∃ program script document n call,
    c.osascript = .str program ∧ calls = [call] ∧
    call.command = [program, "-l", "JavaScript", "-e", script] ∧
    call.timeout = c.timeout.quotedText ∧
    Script.readRun? script = some (c.engineApp.writeString, document) ∧
    readDocument document.toList = some [windowReading n xml] ∧
    (Readable document.toList ↔ Readable xml.toList)

/-- The calls ask the editor to delete the macro with the name and to import a file, which holds a
document at that time that has one group, with one macro, with these actions. -/
def Imports (c : EngineConfig) (name group : Slot) (dicts : List Reading) (calls : List Call) :
    Prop :=
  ∃ (editor path document macroName groupName groupUid nameUid date : String)
    (deletion importing : Call),
    c.editorApp = .str editor ∧ name = .text macroName ∧ group = .text groupName ∧
    calls = [deletion, importing] ∧ AsksToDelete c editor macroName deletion ∧
    AsksToImport c editor path importing ∧
    importing.files.read? path = some (Text.utf8 document.toList) ∧
    readDocument document.toList =
      some [Assembly.groupReading groupName macroName groupUid nameUid date dicts]

theorem shows_of_ephemeral {program document : String} {n m : Int}
    (hc : c.osascript = .str program)
    (h : (Assembly.ephemeral [.step (window xml)] none).run n = (.ok document, m)) (host : Host) :
    Shows c xml [Engine.callOn c host
      [program, "-l", "JavaScript", "-e", Engine.documentScript c document]] := by
  exact ⟨program, _, document, n, _, hc, rfl, rfl, rfl,
    Script.readRun?_runDocument c.engineApp document, readDocument_window h, readable_window h⟩

/-! ### Files -/

/-- The computer leaves the files alone that generating a macro needs: no other program comes across
the file that is saved, and if a macro is imported, its temporary file is free, and not in the way
of the file that is saved. -/
structure Undisturbed (host : Host) (target : ExportTarget) : Prop where
  file : ∀ path, target.filePath = some (.text path) → host.LeavesAlone (fileName path)
  scratch : target.group.isSome → host.Free host.scratch
  apart : target.group.isSome → ∀ path, target.filePath = some (.text path) →
    Files.key (host.files.place (fileName path)) ∉ Files.above (host.files.place host.scratch) ∧
      ∀ p ∈ host.files.wayOf (Path.directory (fileName path)),
        Files.key (host.files.place host.scratch) ≠ Files.key p

theorem Undisturbed.called {target : ExportTarget} (h : Undisturbed host target) (call : Call) :
    Undisturbed (host.called call) target where
  file path hpath := (h.file path hpath).called call
  scratch hgroup := (h.scratch hgroup).called call
  apart hgroup path hpath := by
    simp only [(host.opened_called call).place_eq, (host.opened_called call).wayOf_eq]
    exact h.apart hgroup path hpath

/-- A file has been saved, and no program comes across it any more. If a macro is imported, the
temporary file does not either. -/
structure Settled (host : Host) (target : ExportTarget) (path : String) (bytes : List UInt8) :
    Prop where
  read : host.files.read? path = some bytes
  alone : host.LeavesAlone path
  apart : target.group.isSome →
    Files.key (host.files.place path) ∉ Files.above (host.files.place host.scratch)

/-- Saving makes no calls, and leaves the temporary file free. -/
theorem saveStep_eq_ok {saved : Host} (hhost : Undisturbed host r.target)
    (h : (saveStep r xml).run host = (.ok (), saved)) :
    saved.calls = host.calls ∧ (r.target.group.isSome → saved.Free saved.scratch) ∧
      ∀ slot ∈ r.target.filePath, ∃ path, slot = .text path ∧
        Settled saved r.target (fileName path) (Text.utf8 xml.toList) := by
  rcases run_saveStep r xml host with
    ⟨hnone, hrun⟩ | ⟨path, files, hpath, -, hsave, hrun⟩ | ⟨e, files, hrun, -⟩
  · obtain ⟨-, rfl⟩ := Prod.mk.inj (hrun.symm.trans h)
    refine ⟨rfl, hhost.scratch, fun slot hslot => ?_⟩
    rw [hnone] at hslot
    cases hslot
  · obtain ⟨-, rfl⟩ := Prod.mk.inj (hrun.symm.trans h)
    have hopened := Files.opened_of_save hsave
    refine ⟨rfl, fun hgroup => ?_, fun slot hslot => ?_⟩
    · exact (hhost.scratch hgroup).save hsave (hhost.apart hgroup path hpath).2
    · rw [hpath] at hslot
      refine ⟨path, (Option.some.inj hslot).symm, Files.read?_of_save hsave, ?_, fun hgroup => ?_⟩
      · intro reply hreply f hf
        rw [hopened.place_eq]
        exact hhost.file path hpath reply hreply f hf
      · rw [hopened.place_eq, hopened.place_eq]
        exact (hhost.apart hgroup path hpath).1
  · cases hrun.symm.trans h

/-- While a macro is imported, the temporary file holds its document. -/
theorem read?_keeping (hfree : host.Free host.scratch) (document : String) (call : Call) :
    ((keeping host document).called call).files.read? host.scratch =
      some (Text.utf8 document.toList) := by
  refine Host.LeavesAlone.read?_called ?_ call (hfree.read? _)
  intro reply hreply f hf
  rw [keeping, (Files.opened_put host.files _ _).place_eq]
  exact hfree.alone reply hreply f hf

theorem Settled.imported {target : ExportTarget} {path document program app name : String}
    {bytes : List UInt8} (h : Settled host target path bytes) (hgroup : target.group.isSome) :
    (removing (replacing c (keeping host document) program app name host.scratch)
      host.scratch).files.read? path = some bytes := by
  have halone : (keeping host document).LeavesAlone path := by
    intro reply hreply f hf
    rw [keeping, (Files.opened_put host.files _ _).place_eq]
    exact h.alone reply hreply f hf
  have hread : (keeping host document).files.read? path = some bytes :=
    Files.read?_put h.read (h.apart hgroup)
  have hopened : Files.Opened host.files
      (replacing c (keeping host document) program app name host.scratch).files :=
    (Files.opened_put host.files _ _).trans
      (((keeping host document).opened_called _).trans (Host.opened_called _ _))
  refine Files.read?_remove ((halone.called _).read?_called _ (halone.read?_called _ hread)) ?_
  rw [hopened.place_eq, hopened.place_eq]
  intro hsame
  exact h.apart hgroup (hsame ▸ Files.key_mem_above _)

/-! ### The macro -/

/-- Showing a text leaves the files alone that are needed. -/
theorem shows_of_showStep {shown : Host} (hhost : Undisturbed host r.target)
    (h : (showStep c r xml).run host = (.ok (), shown)) :
    Undisturbed shown r.target ∧ ∃ calls, shown.calls = host.calls ++ calls ∧
      if r.target.display then Shows c xml calls else calls = [] := by
  rcases showStep_eq_ok h with ⟨hdisplay, rfl⟩ | ⟨hdisplay, program, document, n, hc, hrun, rfl⟩
  · refine ⟨hhost, [], (List.append_nil _).symm, ?_⟩
    rw [if_neg (by simp [hdisplay])]
  · refine ⟨hhost.called _, _, rfl, ?_⟩
    rw [if_pos hdisplay]
    exact shows_of_ephemeral hc hrun host

/-- Importing a macro makes two calls; the second one comes upon the document. -/
theorem imports_of_importStep {texts : List String} {dicts : List Plist}
    (hwritten : WrittenEach texts dicts) (hkeys : ∀ v ∈ dicts, v.KeysOnLines)
    (hfree : r.target.group.isSome → host.Free host.scratch)
    (h : (importStep c r (Rendering.joined texts)).run host = (.ok (), last)) :
    (∃ calls, last.calls = host.calls ++ calls ∧
      r.target.group.elim (calls = []) fun group =>
        Imports c r.name group (dicts.map view) calls) ∧
    ∀ path bytes, Settled host r.target path bytes → last.files.read? path = some bytes := by
  unfold importStep at h
  cases hgroup : r.target.group with
  | none =>
    rw [hgroup] at h
    obtain ⟨-, rfl⟩ := Prod.mk.inj h
    exact ⟨⟨[], (List.append_nil _).symm, rfl⟩, fun path bytes hsettled => hsettled.read⟩
  | some group =>
    rw [hgroup] at h
    obtain ⟨document, macroName, program, editor, hdocument, hname, hc, ha, rfl⟩ :=
      importInto_eq_ok h
    have hsome : r.target.group.isSome := by rw [hgroup]; rfl
    refine ⟨⟨_, List.append_assoc _ _ _, ?_⟩, fun path bytes hsettled => hsettled.imported hsome⟩
    obtain ⟨groupName, _, hgroupName, hother, hread⟩ :=
      Assembly.readDocument_importable hwritten hkeys hdocument
    obtain rfl := Slot.text.inj (hname.symm.trans hother)
    have hheld := read?_keeping (hfree hsome) document
      (Engine.callOn c (keeping host document) [program, "-e", Script.delete editor macroName])
    exact ⟨editor, host.scratch, document, macroName, groupName, _, _, _, _, _, ha, hname,
      hgroupName, rfl, asksToDelete_callOn hc _ editor macroName,
      asksToImport_callOn hc _ editor host.scratch, hheld, hread⟩

/-- All that comes of generating a macro from actions that builders accept, with keys of conditions
on one line, describes the same macro, wherever it goes. The actions are written once, with as many
identifiers as they have dictionaries, and nothing else draws identifiers from their source. What is
given back is their text, in an envelope if one is needed; a file holds the same, under a name with
its ending; an imported document is read as one group with one macro, with the dictionaries that the
text of the actions is read as; and a document that is shown is read as one action, which shows
exactly what is given back. -/
theorem generate_describes_one_macro (hmade : ∀ a ∈ r.actions, a.Accepted)
    (hkeys : ∀ a ∈ r.actions, a.KeysOnLines) (hhost : Undisturbed host r.target)
    {start next : Int}
    (h : ((generateFrom c r).run.run start).run host = ((.ok xml, next), last)) :
    ∃ body dicts shown imported,
      (renderActions r.actions).run start = (.ok body, next) ∧
      next = start + dictCountEach r.actions ∧
      readAll body.toList = some dicts ∧ readDocument (Plist.wrap body).toList = some dicts ∧
      dicts.flatMap Reading.identifiers = consecutive start (dictCountEach r.actions) ∧
      xml = (if r.envelope ∨ r.target.filePath.isSome ∨ r.target.group.isSome then Plist.wrap body
        else body) ∧
      (∀ slot ∈ r.target.filePath, ∃ path, slot = .text path ∧
        last.files.read? (withEnding path) = some (Text.utf8 xml.toList)) ∧
      last.calls = host.calls ++ shown ++ imported ∧
      (if r.target.display then Shows c xml shown else shown = []) ∧
      r.target.group.elim (imported = []) fun group => Imports c r.name group dicts imported := by
  obtain ⟨body, hrender, hdeliver⟩ := run_generateFrom_eq_ok.mp h
  obtain ⟨shown, saved, hxml, hshow, hsave, himport⟩ := run_deliver_eq_ok.mp hdeliver
  have hsolid := everyAction_iff.mpr fun a ha => (hmade a ha).solid
  obtain ⟨⟨texts, rfl, hwritten⟩, hcount⟩ := written_renderActions hsolid hrender
  obtain ⟨hsame, hdicts⟩ := expandEach_of_keysOnLines start hsolid (everyAction_iff.mpr hkeys)
  rw [← hsame] at hdicts
  obtain ⟨hhost, calls, hcalls, hshows⟩ := shows_of_showStep hhost hshow
  obtain ⟨hsaved, hfree, hfile⟩ := saveStep_eq_ok hhost hsave
  obtain ⟨⟨more, hmore, himports⟩, hkept⟩ := imports_of_importStep hwritten hdicts hfree himport
  refine ⟨_, _, calls, more, hrender, hcount, hwritten.spells.read,
    hwritten.readDocument_wrap hdicts, (expandEach_numbers 0 _ hsolid).identifiers, ?_, ?_, ?_,
    hshows, himports⟩
  · rw [hxml, Request.result]
    refine if_congr ?_ rfl rfl
    simp [ExportTarget.needsEnvelope]
  · intro slot hslot
    obtain ⟨path, rfl, hsettled⟩ := hfile slot hslot
    exact ⟨path, rfl, fileName_eq path ▸ hkept _ _ hsettled⟩
  · rw [hmore, hsaved, hcalls]

/-- A macro that is shown, saved and imported. -/
def everywhere : Request :=
  ⟨[keyOrRinging], false, ⟨true, some (.text "out/m"), some (.text "G")⟩, .text "M", none⟩

/-- A computer on which the engine writes a log while it is called, and whose texts have no halves
of characters. -/
def loggingHost : Host :=
  { Host.simple (.empty ["tmp", "work"]) [⟨.finished 0 "" "", [(["tmp", "engine.log"], [])]⟩] with
    standIns := .absent }

/-- The macro goes everywhere, however its actions are written. -/
theorem exists_run_deliver_everywhere (body : String) :
    ∃ xml last, (deliver .standard everywhere body).run loggingHost = (.ok xml, last) := by
  let xml := everywhere.result body
  have hfinished : loggingHost.reply.ending = .finished 0 "" "" := rfl
  obtain ⟨call, hrun⟩ := Engine.run_eq_reportOf (c := .standard)
    (r := ⟨[.step (window xml)], displayLabel, none, false, none⟩) (p := ⟨0, "", ""⟩)
    rfl (by simp) rfl rfl rfl (by decide) hfinished
  let shown := loggingHost.called call
  have hshow : (showStep .standard everywhere xml).run loggingHost = (.ok (), shown) :=
    Outcome.run_bind_of_ok hrun
  obtain ⟨files, hfiles⟩ : ∃ files,
      shown.files.save (fileName "out/m") (Text.utf8 xml.toList) = (files, .ok ()) :=
    ⟨_, Prod.ext rfl rfl⟩
  let saved : Host := { shown with files }
  have hsave : (saveStep everywhere xml).run shown = (.ok (), saved) := by
    refine (run_writeFile_of_isSystemText (Text.StandIns.isSystemText_absent _) xml).trans ?_
    rw [run_fill_of_whole (Text.StandIns.isWhole_absent _), hfiles]
  obtain ⟨document, hdocument⟩ := Assembly.exists_importable "G" "M" (saved.uuid (saved.drawn + 2))
    (saved.uuid (saved.drawn + 1)) body (Assembly.documentDate saved.clock)
  have hplain : Text.IsPlain "/tmp/import.kmmacros".toList := by decide
  have htaken : saved.objection? saved.scratch = none := saved.objection?_of_isPlain hplain
  have hpassed :
      (keeping saved document).objection? (Script.delete "Keyboard Maestro" "M") = none :=
    objection?_delete.mpr ⟨Host.objection?_of_isPlain _ (by decide),
      Host.objection?_of_isPlain _ (by decide)⟩
  have hreplace := run_replace_of_finished (c := .standard) rfl rfl hpassed htaken rfl
  have himport : (importStep .standard everywhere body).run saved =
      (.ok (), removing (replacing .standard (keeping saved document) "osascript" "Keyboard Maestro"
        "M" saved.scratch) saved.scratch) := by
    refine (run_importInto hdocument htaken (Text.StandIns.isWhole_absent _)).trans ?_
    rw [hreplace]
    rfl
  exact ⟨xml, _, run_deliver_eq_ok.mpr ⟨shown, saved, rfl, hshow, hsave, himport⟩⟩

theorem undisturbed_everywhere : Undisturbed loggingHost everywhere.target := by
  have hpath : ∀ path, everywhere.target.filePath = some (.text path) → path = "out/m" :=
    fun path hpath => (Slot.text.inj (Option.some.inj hpath)).symm
  refine ⟨fun path h => ?_, fun _ => ⟨by decide +kernel, by decide +kernel, by decide +kernel⟩,
    fun _ path h => ?_⟩
  · rw [hpath path h]
    decide +kernel
  · rw [hpath path h]
    decide +kernel

/-- The macro has six identifiers, which its source gives once, and all four results are delivered.
-/
theorem generate_describes_one_macro_everywhere :
    (∀ a ∈ everywhere.actions, a.Accepted) ∧ (∀ a ∈ everywhere.actions, a.KeysOnLines) ∧
      Undisturbed loggingHost everywhere.target ∧
      ∃ xml last,
        ((generateFrom .standard everywhere).run.run 7).run loggingHost = ((.ok xml, 13), last) ∧
        ∃ body dicts shown imported, (renderActions [keyOrRinging]).run 7 = (.ok body, 13) ∧
          xml = Plist.wrap body ∧ readDocument xml.toList = some dicts ∧
          dicts.flatMap Reading.identifiers = [7, 8, 9, 10, 11, 12] ∧
          last.files.read? "out/m.kmmacros" = some (Text.utf8 xml.toList) ∧
          last.calls = shown ++ imported ∧ Shows .standard xml shown ∧
          Imports .standard (.text "M") (.text "G") dicts imported := by
  have hmade : ∀ a ∈ everywhere.actions, a.Accepted := by
    simpa [everywhere] using keyOrRinging_accepted
  have hkeys : ∀ a ∈ everywhere.actions, a.KeysOnLines := by
    simp +decide [everywhere, keyOrRinging, heldKey, ringing, Action.KeysOnLines, Action.Every,
      EveryAction, KeysOnLines, Every, EveryItem, Plist.text]
  obtain ⟨text, next, hrender⟩ := Outcome.exists_run_eq_ok
    (by decide +kernel : ((renderActions [keyOrRinging]).run 7).1.isOk)
  obtain ⟨xml, last, hdeliver⟩ := exists_run_deliver_everywhere text
  have hrun := run_generateFrom_eq_ok.mpr ⟨text, hrender, hdeliver⟩
  obtain ⟨body, dicts, shown, imported, hbody, hnext, -, hread, hids, hwrap, hfile, hcalls, hshows,
    himports⟩ := generate_describes_one_macro hmade hkeys undisturbed_everywhere hrun
  rw [if_pos (.inr (.inl rfl))] at hwrap
  obtain ⟨path, hpath, hsaved⟩ := hfile _ rfl
  rw [← Slot.text.inj hpath] at hsaved
  obtain rfl : next = 13 := hnext
  refine ⟨hmade, hkeys, undisturbed_everywhere, xml, last, hrun, body, dicts, shown,
    imported, hbody, hwrap, ?_, hids, ?_, hcalls, hshows, himports⟩
  · rw [hwrap]
    exact hread
  · have hname : withEnding "out/m" = "out/m.kmmacros" := by decide +kernel
    rw [hname] at hsaved
    exact hsaved

end MacroScribe.Export
