import MacroScribe.Proofs.Engine.Endings
import MacroScribe.Proofs.Export.Macro

/-!
# MacroScribe.Proofs.Export.Importing

Importing a macro, however the two calls end that it takes. The first one deletes the macro with the
name. If it comes to an end, even by refusing, the second one imports the document, and then only
that one decides about success. The temporary file is gone in any case
(`importInto_leaves_nothing`).

A document with half a character in it cannot be written to the file, and then nothing is called
(`importInto_not_written`).
-/

namespace MacroScribe

/-! ### Files that no program writes -/

namespace Host

variable {host : Host} {p : Place}

/-- No program writes the file of a place. -/
def Spares (host : Host) (p : Place) : Prop :=
  ∀ reply ∈ host.replies, ∀ f ∈ reply.appended, Files.key f.1 ≠ Files.key p

theorem Spares.called (h : host.Spares p) (call : Call) : (host.called call).Spares p :=
  fun reply hreply => h reply (List.mem_of_mem_drop hreply)

theorem Spares.bytesAt?_called (h : host.Spares p) (call : Call) :
    (host.called call).files.bytesAt? p = host.files.bytesAt? p := by
  refine Files.bytesAt?_foldl_append ?_
  unfold reply
  cases hreplies : host.replies with
  | nil => exact List.forall_mem_nil _
  | cons reply replies => exact h reply (by simp [hreplies])

/-- From one host to another, no files have changed but the one of a place and those that programs
write. -/
structure ChangesOnly (host last : Host) (q : Place) : Prop where
  opened : Files.Opened host.files last.files
  spares : ∀ p, host.Spares p → last.Spares p
  bytes : ∀ p, Files.key p ≠ Files.key q → host.Spares p →
    last.files.bytesAt? p = host.files.bytesAt? p

theorem ChangesOnly.called {last : Host} {q : Place} (h : host.ChangesOnly last q) (call : Call) :
    host.ChangesOnly (last.called call) q where
  opened := h.opened.trans (last.opened_called call)
  spares p hp := (h.spares p hp).called call
  bytes p hne hp := ((h.spares p hp).bytesAt?_called call).trans (h.bytes p hne hp)

end Host

namespace Export

variable {c : EngineConfig} {program app name path document : String} {bytes : List UInt8}
  {host last : Host} {result : Outcome Unit}

theorem changesOnly_keeping (host : Host) (document : String) :
    host.ChangesOnly (keeping host document) (host.files.place host.scratch) where
  opened := Files.opened_put _ _ _
  spares _ hp := hp
  bytes _ hne _ := Files.bytesAt?_put_of_ne hne.symm _

/-- Once the temporary file is removed, nothing is left of it. -/
theorem changesOnly_removing (h : host.ChangesOnly last (host.files.place path)) :
    host.ChangesOnly (removing last path) (host.files.place path) ∧
      (removing last path).files.bytesAt? (host.files.place path) = none := by
  rw [removing, h.opened.place_eq]
  refine ⟨⟨h.opened.trans (Files.opened_remove _ _), h.spares, fun p hne hp => ?_⟩, ?_⟩
  · exact (Files.bytesAt?_remove _ _ _).trans ((if_neg hne).trans (h.bytes p hne hp))
  · exact (Files.bytesAt?_remove _ _ _).trans (if_pos rfl)

/-! ### The two calls -/

/-- From one host to another, a macro has been replaced by the one in a file with these bytes, as
far as the computer lets it be. The deletion is asked for first, if the application and the macro
have names that can be passed on. The import follows exactly if the deletion comes to an end, even
if it is refused, and then the file that it names has the bytes. This fails exactly if the deletion
is not asked for or comes to no end, or if the import does not succeed. -/
structure Replaces (c : EngineConfig) (app name path : String) (bytes : List UInt8)
    (host last : Host) (result : Outcome Unit) : Prop where
  calls : ∃ deletion importing,
    AsksToDelete c app name deletion ∧ AsksToImport c app path importing ∧
      importing.files.read? path = some bytes ∧
      last.calls = host.calls ++
        (if host.objection? app = none ∧ host.objection? name = none then
          deletion :: if (host.ending 0).isFinished then [importing] else []
        else [])
  fails : (∃ e, result = .error e) ↔
    ¬(host.objection? app = none ∧ host.objection? name = none) ∨
      ¬(host.ending 0).isFinished ∨ ¬(host.ending 1).isSuccess

/-- A macro is replaced by the document in the temporary file. -/
theorem replaces_of_keeping (hc : c.osascript = .str program) (ha : c.editorApp = .str app)
    (hfree : host.Free host.scratch)
    (hrun : (replace c (.text name) host.scratch).run (keeping host document) = (result, last)) :
    Replaces c app name host.scratch (Text.utf8 document.toList) host last result ∧
      host.ChangesOnly last (host.files.place host.scratch) := by
  have hkept := changesOnly_keeping host document
  have hdelete := asksToDelete_callOn hc (keeping host document) app name
  have himport := asksToImport_callOn hc
    (deleting c (keeping host document) program app name) app host.scratch
  have hheld := read?_keeping hfree document
    (Engine.callOn c (keeping host document) [program, "-e", Script.delete app name])
  have hpassed : (keeping host document).objection? (Script.delete app name) = none ↔
      host.objection? app = none ∧ host.objection? name = none := objection?_delete
  by_cases hasked : host.objection? app = none ∧ host.objection? name = none
  · cases hfinished : host.reply.ending.isFinished with
    | true =>
      have hreplace := run_replace_of_finished hc ha (hpassed.mpr hasked) hfree.taken
        (show (keeping host document).reply.ending.isFinished = true from hfinished)
      have hnext : (deleting c (keeping host document) program app name).reply.ending =
          host.ending 1 := by
        rw [← Host.ending_zero, deleting, Host.ending_called]
        rfl
      obtain ⟨rfl, rfl⟩ := Prod.mk.inj (hreplace.symm.trans hrun)
      refine ⟨⟨⟨_, _, hdelete, himport, hheld, ?_⟩, ?_⟩, (hkept.called _).called _⟩
      · rw [if_pos hasked, host.ending_zero, if_pos hfinished]
        exact List.append_assoc _ _ _
      · rw [hnext, ← Outcome.isOk_eq_false_iff, Engine.isOk_imported?, host.ending_zero]
        simp [hasked, hfinished]
    | false =>
      obtain ⟨e, hreplace⟩ := run_replace_of_not_finished hc ha (hpassed.mpr hasked) host.scratch
        (show (keeping host document).reply.ending.isFinished = false from hfinished)
      obtain ⟨rfl, rfl⟩ := Prod.mk.inj (hreplace.symm.trans hrun)
      refine ⟨⟨⟨_, _, hdelete, himport, hheld, ?_⟩, ?_⟩, hkept.called _⟩
      · rw [if_pos hasked, host.ending_zero, if_neg (by simp [hfinished])]
        rfl
      · rw [host.ending_zero]
        exact iff_of_true ⟨e, rfl⟩ (.inr (.inl (by simp [hfinished])))
  · obtain ⟨cause, hobjection⟩ :=
      Option.ne_none_iff_exists'.mp fun h => hasked (hpassed.mp h)
    obtain ⟨rfl, rfl⟩ :=
      Prod.mk.inj ((run_replace_of_objection hc ha host.scratch hobjection).symm.trans hrun)
    refine ⟨⟨⟨_, _, hdelete, himport, hheld, ?_⟩, ?_⟩, hkept⟩
    · rw [if_neg hasked]
      exact (List.append_nil _).symm
    · exact iff_of_true ⟨_, rfl⟩ (.inl hasked)

/-! ### Importing a macro -/

/-- Whatever the actions are and however the two calls end, importing a macro leaves no temporary
file behind and other files as they are. If the document of the group has bytes, the macro is
replaced by the one in it. A document with half a character in it has none; then nothing is called,
and this fails. -/
theorem importInto_leaves_nothing (hc : c.osascript = .str program) (ha : c.editorApp = .str app)
    (hfree : host.Free host.scratch) (body name group : String) :
    ∃ document result last,
      Assembly.importable (labelOn host (.text name) (.text group)) body = .ok document ∧
      (importInto c body (.text name) (.text group)).run host = (result, last) ∧
      host.ChangesOnly last (host.files.place host.scratch) ∧
      last.files.bytesAt? (host.files.place host.scratch) = none ∧
      match host.standIns.utf8? document.toList with
      | some bytes => Replaces c app name host.scratch bytes host last result
      | none => (∃ e, result = .error e) ∧ last.calls = host.calls := by
  obtain ⟨document, hdocument⟩ := Assembly.exists_importable group name
    (host.uuid (host.drawn + 2)) (host.uuid (host.drawn + 1)) body
    (Assembly.documentDate host.clock)
  cases hwhole : host.standIns.isWhole document.toList with
  | true =>
    rcases hreplace : (replace c (.text name) host.scratch).run (keeping host document) with
      ⟨result, replaced⟩
    have hrun := run_importInto (c := c) hdocument hfree.taken hwhole
    rw [hreplace] at hrun
    obtain ⟨hreplaces, hchanges⟩ := replaces_of_keeping hc ha hfree hreplace
    obtain ⟨hchanges, hgone⟩ := changesOnly_removing hchanges
    refine ⟨document, result, _, hdocument, hrun, hchanges, hgone, ?_⟩
    rw [Text.StandIns.utf8?, if_pos hwhole]
    exact ⟨hreplaces.calls, hreplaces.fails⟩
  | false =>
    obtain ⟨e, hrun⟩ := run_importInto_of_not_whole (c := c) hdocument hfree.taken hwhole
    obtain ⟨hchanges, hgone⟩ := changesOnly_removing (changesOnly_keeping host "")
    refine ⟨document, .error e, _, hdocument, hrun, hchanges, hgone, ?_⟩
    rw [Text.StandIns.utf8?, if_neg (by simp [hwhole])]
    exact ⟨⟨e, rfl⟩, rfl⟩

/-- A computer on which the editor refuses to delete a macro, and takes too long to import one. Its
texts have no halves of characters. -/
def refusing : Host :=
  { Host.simple (.empty ["tmp"])
      [⟨.finished 1 "" "no such macro", [(["tmp", "editor.log"], [])]⟩, ⟨.timedOut, []⟩] with
    standIns := .absent }

/-- A macro that is not there is imported all the same, and this fails when it takes too long. -/
theorem importInto_leaves_nothing_refusing :
    refusing.Free "/tmp/import.kmmacros" ∧
      ∃ document e last deletion importing,
        (importInto .standard "" (.text "M") (.text "G")).run refusing = (.error e, last) ∧
        last.calls = [deletion, importing] ∧
        AsksToDelete .standard "Keyboard Maestro" "M" deletion ∧
        AsksToImport .standard "Keyboard Maestro" "/tmp/import.kmmacros" importing ∧
        importing.files.read? "/tmp/import.kmmacros" = some (Text.utf8 document) ∧
        last.files.bytesAt? ["tmp", "import.kmmacros"] = none := by
  have hfree : refusing.Free refusing.scratch :=
    ⟨by decide +kernel, by decide +kernel, by decide +kernel⟩
  have hc : EngineConfig.standard.osascript = .str "osascript" := rfl
  have ha : EngineConfig.standard.editorApp = .str "Keyboard Maestro" := rfl
  have happ : refusing.objection? "Keyboard Maestro" = none :=
    Host.objection?_of_isPlain _ (by decide)
  have hname : refusing.objection? "M" = none := Host.objection?_of_isPlain _ (by decide)
  obtain ⟨document, result, last, -, hrun, -, hgone, hreplaces⟩ :=
    importInto_leaves_nothing hc ha hfree "" "M" "G"
  have hbytes : refusing.standIns.utf8? document.toList = some (Text.utf8 document.toList) :=
    if_pos (Text.StandIns.isWhole_absent _)
  rw [hbytes] at hreplaces
  obtain ⟨⟨deletion, importing, hdelete, himport, hheld, hcalls⟩, hfails⟩ := hreplaces
  rw [if_pos ⟨happ, hname⟩] at hcalls
  obtain ⟨e, rfl⟩ := hfails.mpr (.inr (.inr (by decide)))
  exact ⟨hfree, document.toList, e, last, deletion, importing, hrun, hcalls, hdelete, himport,
    hheld, hgone⟩

/-- A computer on which all calls end well. -/
def accepting : Host :=
  .simple (.empty ["tmp"]) []

/-- Both calls would end well, but nothing is called and the import fails if the name of the group
is half a character, or no text at all. -/
theorem importInto_not_written :
    (accepting.ending 0).isSuccess ∧ (accepting.ending 1).isSuccess ∧
      ∀ group ∈ [.text (String.singleton Text.StandIns.half), Slot.ofJson (.int 5 : Data)],
        ∃ e last, (importInto .standard "" (.text "M") group).run accepting = (.error e, last) ∧
        last.calls = [] := by
  refine ⟨rfl, rfl, List.forall_mem_cons.mpr ⟨?_, List.forall_mem_singleton.mpr ?_⟩⟩
  · obtain ⟨document, hdocument, hhalf⟩ : ∃ document,
        Assembly.importable (labelOn accepting (.text "M")
          (.text (String.singleton Text.StandIns.half))) "" = .ok document ∧
          Text.StandIns.half ∈ document.toList := by
      refine ⟨_, rfl, Plist.mem_wrap ?_⟩
      rw [String.toList_ofList]
      decide +kernel
    have htaken : accepting.objection? accepting.scratch = none :=
      accepting.objection?_of_isPlain (by decide)
    obtain ⟨e, hrun⟩ := run_importInto_of_not_whole hdocument htaken
      (Text.StandIns.isWhole_of_half_mem hhalf)
    exact ⟨e, _, hrun, rfl⟩
  · exact ⟨_, _, run_importInto_of_error rfl, rfl⟩

end Export
end MacroScribe
