import MacroScribe.Proofs.Export.Importing
import MacroScribe.Proofs.Export.Steps

/-!
# MacroScribe.Proofs.Export.Deleting

When a macro may be lost. Replacing a macro takes two calls, and the editor has nothing that makes
them one: when it has deleted the macro and then does not import the new one, the macro is gone
(`importInto_loses`). But a macro is only ever deleted right before the import, which is the last
call that is made and alone decides about success; so nothing else that goes wrong costs a macro
(`deletions_followed`).
-/

namespace MacroScribe

variable {α β : Type}

namespace Export

variable {c : EngineConfig} {call : Call}

/-- The call asks the editor to delete a macro. -/
def Deletes (c : EngineConfig) (call : Call) : Prop :=
  ∃ program app name script, c.editorApp = .str app ∧ call.command = [program, "-e", script] ∧
    Script.read Script.appleScript script =
      some [.code "tell application ", .literal app, .code " to deleteMacro ", .literal name]

/-- The call asks the editor to import a file. -/
def ImportsFile (c : EngineConfig) (call : Call) : Prop :=
  ∃ app path, c.editorApp = .str app ∧ AsksToImport c app path call

theorem ImportsFile.not_deletes (h : ImportsFile c call) : ¬Deletes c call := by
  obtain ⟨app, path, -, program, script, -, hcommand, -, hread⟩ := h
  rintro ⟨program', app', name, script', -, hdelete, hread'⟩
  rw [hcommand] at hdelete
  obtain rfl : script = script' := by simpa using (List.cons.inj hdelete).2
  rw [hread] at hread'
  simp at hread'

theorem not_deletes_of_runsJxa (h : Engine.RunsJxa call) : ¬Deletes c call := by
  obtain ⟨program, script, hcommand⟩ := h
  rintro ⟨program', app, name, script', -, hdelete, -⟩
  rw [hcommand] at hdelete
  simp only [List.cons.injEq] at hdelete
  exact absurd hdelete.2.1 (by decide)

/-! ### Deletions and what follows them -/

/-- A deletion that succeeds is followed by an import, which is the last call, and success is the
success of that import. -/
def DeletionsFollowed (c : EngineConfig) (made : List (Call × Ending)) (succeeds : Bool) : Prop :=
  ∀ before m after, made = before ++ m :: after → Deletes c m.1 → m.2.isSuccess →
    ∃ next, after = [next] ∧ ImportsFile c next.1 ∧ succeeds = next.2.isSuccess

section Followed

variable {made more : List (Call × Ending)} {succeeds : Bool}

theorem deletionsFollowed_of_none (h : ∀ m ∈ made, ¬(Deletes c m.1 ∧ m.2.isSuccess)) :
    DeletionsFollowed c made succeeds := by
  rintro before m after rfl hdeletes hsuccess
  exact absurd ⟨hdeletes, hsuccess⟩ (h m (by simp))

/-- Calls before that delete nothing do not matter. -/
theorem DeletionsFollowed.append (hmade : ∀ m ∈ made, ¬Deletes c m.1)
    (hmore : DeletionsFollowed c more succeeds) : DeletionsFollowed c (made ++ more) succeeds := by
  intro before m after heq hdeletes hsuccess
  rcases List.append_eq_append_iff.mp heq with ⟨skipped, -, hrest⟩ | ⟨skipped, hskipped, hrest⟩
  · exact hmore skipped m after hrest hdeletes hsuccess
  · cases skipped with
    | nil => exact hmore [] m after hrest.symm hdeletes hsuccess
    | cons first skipped =>
      obtain ⟨rfl, -⟩ := List.cons.inj hrest
      exact absurd hdeletes (hmade m (by simp [hskipped]))

theorem deletionsFollowed_pair {deletion : Call} (h : ImportsFile c call) (ending last : Ending) :
    DeletionsFollowed c [(deletion, ending), (call, last)] last.isSuccess := by
  intro before m after heq hdeletes _
  rcases List.cons_eq_append_iff.mp heq with ⟨rfl, hrest⟩ | ⟨rest, rfl, hrest⟩
  · obtain ⟨-, rfl⟩ := List.cons.inj hrest
    exact ⟨_, rfl, h, rfl⟩
  · have hm : m ∈ [(call, last)] := by simp [hrest]
    obtain rfl := List.mem_singleton.mp hm
    exact absurd hdeletes h.not_deletes

end Followed

/-- On a host, the calls that the work makes delete macros only right before an import. -/
def FollowsDeletionsOn (c : EngineConfig) (work : Work α) (host : Host) : Prop :=
  ∃ made, host.Makes (work.run host).2 made ∧ DeletionsFollowed c made (work.run host).1.isOk

/-- This is so on any host. -/
def FollowsDeletions (c : EngineConfig) (work : Work α) : Prop :=
  ∀ host : Host, FollowsDeletionsOn c work host

theorem followsDeletions_of_makesOnly {P : Call → Prop} {work : Work α} (h : work.MakesOnly P)
    (hP : ∀ call, P call → ¬Deletes c call) : FollowsDeletions c work := by
  intro host
  obtain ⟨made, hmade, hcalls⟩ := h host
  exact ⟨made, hmade,
    deletionsFollowed_of_none fun m hm hdeletes => hP m.1 (hcalls m hm) hdeletes.1⟩

/-- Work that deletes nothing may come first. -/
theorem followsDeletions_bind {P : Call → Prop} {work : Work α} {next : α → Work β}
    (h : work.MakesOnly P) (hP : ∀ call, P call → ¬Deletes c call)
    (hnext : ∀ a, FollowsDeletions c (next a)) : FollowsDeletions c (work >>= next) := by
  intro host
  obtain ⟨made, hmade, hcalls⟩ := h host
  have hnone : ∀ m ∈ made, ¬Deletes c m.1 := fun m hm => hP m.1 (hcalls m hm)
  rcases hrun : work.run host with ⟨e | a, between⟩
  · rw [FollowsDeletionsOn, Outcome.run_bind_of_error hrun]
    rw [hrun] at hmade
    exact ⟨made, hmade, deletionsFollowed_of_none fun m hm hdeletes => hnone m hm hdeletes.1⟩
  · rw [FollowsDeletionsOn, Outcome.run_bind_of_ok hrun]
    rw [hrun] at hmade
    obtain ⟨more, hmore, hfollowed⟩ := hnext a between
    exact ⟨made ++ more, hmade.trans hmore, hfollowed.append hnone⟩

/-- Giving something back afterwards does not matter. -/
theorem followsDeletions_return {work : Work α} (h : FollowsDeletions c work) (b : β) :
    FollowsDeletions c (do let _ ← work; return b) := by
  intro host
  obtain ⟨made, hmade, hfollowed⟩ := h host
  rcases hrun : work.run host with ⟨e | a, last⟩
  · rw [FollowsDeletionsOn, Outcome.run_bind_of_error hrun]
    rw [hrun] at hmade hfollowed
    exact ⟨made, hmade, hfollowed⟩
  · rw [FollowsDeletionsOn, Outcome.run_bind_of_ok hrun]
    rw [hrun] at hmade hfollowed
    exact ⟨made, hmade, hfollowed⟩

/-! ### The steps of generating a macro -/

/-- Without texts that name the program and the editor, nothing is called. -/
theorem run_replace_of_unnamed (h : c.osascript.str? = none ∨ c.editorApp.str? = none)
    (name path : String) (host : Host) :
    ∃ e, (replace c (.text name) path).run host = (.error e, host) := by
  rw [replace_text, Engine.delete]
  cases happ : c.editorApp.str? with
  | none =>
    have hthrow : Engine.textOf c.editorApp = throw (.misuse .notText) := by
      rw [Engine.textOf, happ]
    rw [hthrow]
    exact ⟨_, rfl⟩
  | some app =>
    have hprogram : c.osascript.str? = none := h.resolve_right (by rw [happ]; simp)
    have hthrow (args : List String) :
        Engine.callProgram c args = throw (.misuse (.notName c.osascript.typeName)) := by
      rw [Engine.callProgram, hprogram]
    rw [Json.eq_str_of_str? happ]
    simp only [Engine.runAppleScript, hthrow]
    exact ⟨_, rfl⟩

theorem followsDeletionsOn_of_quiet {work : Work α} {host last : Host} {result : Outcome α}
    (hrun : work.run host = (result, last)) (hcalls : last.calls = host.calls)
    (hreplies : last.replies = host.replies) : FollowsDeletionsOn c work host := by
  rw [FollowsDeletionsOn, hrun]
  exact ⟨[], .nil hcalls hreplies, deletionsFollowed_of_none (List.forall_mem_nil _)⟩

/-- The deletion is followed by the import, unless the deletion is not asked for or comes to no
end. -/
theorem followsDeletionsOn_replace_named {program app path : String} {host : Host}
    (hc : c.osascript = .str program) (ha : c.editorApp = .str app)
    (hpath : host.objection? path = none) (name : String) :
    FollowsDeletionsOn c (replace c (.text name) path) host := by
  cases hpassed : host.objection? (Script.delete app name) with
  | some cause =>
    exact followsDeletionsOn_of_quiet (run_replace_of_objection hc ha path hpassed) rfl rfl
  | none =>
    cases hfinished : host.reply.ending.isFinished with
    | false =>
      obtain ⟨e, hrun⟩ := run_replace_of_not_finished hc ha hpassed path hfinished
      rw [FollowsDeletionsOn, hrun]
      refine ⟨_, .called host _, deletionsFollowed_of_none (List.forall_mem_singleton.mpr ?_)⟩
      rintro ⟨-, hsuccess⟩
      exact absurd (Ending.isFinished_of_isSuccess hsuccess) (by simp [hfinished])
    | true =>
      have himport := asksToImport_callOn hc (deleting c host program app name) app path
      rw [FollowsDeletionsOn, run_replace_of_finished hc ha hpassed hpath hfinished,
        Engine.isOk_imported?]
      refine ⟨_, (Host.Makes.called host _).trans (.called _ _), ?_⟩
      exact deletionsFollowed_pair ⟨app, path, ha, himport⟩ _ _

theorem followsDeletionsOn_replace {path : String} {host : Host}
    (hpath : host.objection? path = none) (c : EngineConfig) (name : Slot) :
    FollowsDeletionsOn c (replace c name path) host := by
  cases name with
  | broken cause => exact followsDeletionsOn_of_quiet rfl rfl rfl
  | text name =>
    by_cases hunnamed : c.osascript.str? = none ∨ c.editorApp.str? = none
    · obtain ⟨e, hrun⟩ := run_replace_of_unnamed hunnamed name path host
      exact followsDeletionsOn_of_quiet hrun rfl rfl
    · obtain ⟨hprogram, happ⟩ := not_or.mp hunnamed
      obtain ⟨program, hprogram⟩ := Option.ne_none_iff_exists'.mp hprogram
      obtain ⟨app, happ⟩ := Option.ne_none_iff_exists'.mp happ
      exact followsDeletionsOn_replace_named (Json.eq_str_of_str? hprogram)
        (Json.eq_str_of_str? happ) hpath name

/-- The import only starts with a document and with a path that can be passed on. -/
theorem followsDeletions_importInto (c : EngineConfig) (body : String) (name group : Slot) :
    FollowsDeletions c (importInto c body name group) := by
  intro host
  cases hdocument : Assembly.importable (labelOn host name group) body with
  | error e => exact followsDeletionsOn_of_quiet (run_importInto_of_error hdocument) rfl rfl
  | ok document =>
    cases htaken : host.objection? host.scratch with
    | some cause =>
      exact followsDeletionsOn_of_quiet (run_importInto_of_objection hdocument htaken) rfl rfl
    | none =>
      cases hwhole : host.standIns.isWhole document.toList with
      | false =>
        obtain ⟨e, hrun⟩ := run_importInto_of_not_whole (c := c) hdocument htaken hwhole
        exact followsDeletionsOn_of_quiet hrun rfl rfl
      | true =>
        obtain ⟨made, hmade, hfollowed⟩ := followsDeletionsOn_replace
          (show (keeping host document).objection? host.scratch = none from htaken) c name
        rw [FollowsDeletionsOn, run_importInto hdocument htaken hwhole]
        exact ⟨made, ⟨hmade.calls, hmade.endings, hmade.replies⟩, hfollowed⟩

theorem makesOnly_showStep (c : EngineConfig) (r : Request) (xml : String) :
    (showStep c r xml).MakesOnly Engine.RunsJxa := by
  unfold showStep display
  split
  · exact Work.makesOnly_bind (Engine.makesOnly_run c _) fun _ => Work.makesOnly_pure _
  · exact Work.makesOnly_pure _

theorem makesOnly_saveStep (r : Request) (xml : String) (P : Call → Prop) :
    (saveStep r xml).MakesOnly P := by
  have hquiet (host : Host) : ((saveStep r xml).run host).2.calls = host.calls ∧
      ((saveStep r xml).run host).2.replies = host.replies := by
    rcases run_saveStep r xml host with
      ⟨-, hrun⟩ | ⟨path, files, -, -, -, hrun⟩ | ⟨e, files, hrun, -⟩ <;>
      rw [hrun] <;> exact ⟨rfl, rfl⟩
  exact Work.makesOnly_of_quiet (fun host => (hquiet host).1) fun host => (hquiet host).2

theorem followsDeletions_importStep (c : EngineConfig) (r : Request) (body : String) :
    FollowsDeletions c (importStep c r body) := by
  unfold importStep
  cases r.target.group with
  | none => exact followsDeletions_of_makesOnly (Work.makesOnly_pure _) fun _ => False.elim
  | some group => exact followsDeletions_importInto c body r.name group

/-- Whatever is done with a macro and however the calls end: if a macro is deleted, the import comes
next, no call comes after it, and the request fails exactly if that import does. So no other failure
costs a macro: not that of writing or showing the actions, of saving a file, or of a deletion that
is refused. -/
theorem deletions_followed (c : EngineConfig) :
    (∀ body name group, FollowsDeletions c (importInto c body name group)) ∧
      ∀ r, FollowsDeletions c (generate c r) := by
  refine ⟨followsDeletions_importInto c, fun r => ?_⟩
  have hnone (call : Call) (h : False) : ¬Deletes c call := h.elim
  rw [generate_eq]
  refine followsDeletions_bind Work.makesOnly_get hnone fun host => ?_
  refine followsDeletions_bind (Work.makesOnly_ofOutcome _) hnone fun body => ?_
  rw [deliver_eq]
  refine followsDeletions_bind (makesOnly_showStep c r _) (fun _ => not_deletes_of_runsJxa)
    fun _ => ?_
  refine followsDeletions_bind (makesOnly_saveStep r _ _) hnone fun _ => ?_
  exact followsDeletions_return (followsDeletions_importStep c r body) _

/-- A computer on which the editor deletes a macro, and then refuses to import one. -/
def losing : Host :=
  { Host.simple (.empty ["tmp"]) [.silent, ⟨.finished 1 "" "no", []⟩] with standIns := .absent }

/-- A macro is lost: the export fails after the deletion has succeeded. -/
theorem importInto_loses :
    ∃ e last deletion importing,
      (importInto .standard "" (.text "M") (.text "G")).run losing = (.error e, last) ∧
      AsksToDelete .standard "Keyboard Maestro" "M" deletion ∧
      AsksToImport .standard "Keyboard Maestro" "/tmp/import.kmmacros" importing ∧
      losing.Makes last
        [(deletion, .finished 0 "" ""), (importing, .finished 1 "" "no")] := by
  have hc : EngineConfig.standard.osascript = .str "osascript" := rfl
  have ha : EngineConfig.standard.editorApp = .str "Keyboard Maestro" := rfl
  obtain ⟨document, hdocument⟩ := Assembly.exists_importable "G" "M" (losing.uuid 2) (losing.uuid 1)
    "" (Assembly.documentDate losing.clock)
  have htaken : losing.objection? losing.scratch = none := losing.objection?_of_isPlain (by decide)
  have hpassed :
      (keeping losing document).objection? (Script.delete "Keyboard Maestro" "M") = none :=
    objection?_delete.mpr ⟨Host.objection?_of_isPlain _ (by decide),
      Host.objection?_of_isPlain _ (by decide)⟩
  have hfinished : (keeping losing document).reply.ending.isFinished = true := rfl
  have hrun := run_importInto (c := .standard) hdocument htaken (Text.StandIns.isWhole_absent _)
  rw [run_replace_of_finished hc ha hpassed htaken hfinished] at hrun
  exact ⟨_, _, _, _, hrun.trans rfl, asksToDelete_callOn hc _ _ _, asksToImport_callOn hc _ _ _,
    rfl, rfl, rfl⟩

end Export
end MacroScribe
