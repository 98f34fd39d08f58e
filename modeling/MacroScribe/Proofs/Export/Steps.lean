import MacroScribe.Export
import MacroScribe.Proofs.Engine.Calls
import MacroScribe.Proofs.Files.Saving

/-!
# MacroScribe.Proofs.Export.Steps

Generating a macro, step by step: the actions are written, and then the result is shown, saved and
imported, as far as it is asked for. Each step that is not asked for does nothing, so the steps come
one after the other whatever the target is (`generate_eq`).
-/

namespace MacroScribe.Export

variable {c : EngineConfig} {r : Request} {host : Host}

/-- The actions of the request in written form, with identifiers of its own. -/
def Request.body? (r : Request) (host : Host) : Outcome String :=
  ((renderActions r.actions).run (r.start.getD host.second)).1

/-- Shows a result if that is asked for. -/
def showStep (c : EngineConfig) (r : Request) (xml : String) : Work Unit :=
  if r.target.display then display c xml else pure ()

/-- Saves a result if that is asked for. -/
def saveStep (r : Request) (xml : String) : Work Unit :=
  match r.target.filePath with
  | some path => writeFile xml path
  | none => pure ()

/-- Imports a macro if that is asked for. -/
def importStep (c : EngineConfig) (r : Request) (body : String) : Work Unit :=
  match r.target.group with
  | some group => importInto c body r.name group
  | none => pure ()

theorem run_showStep_of_false (h : r.target.display = false) (xml : String) (host : Host) :
    (showStep c r xml).run host = (.ok (), host) := by
  rw [showStep, h]
  rfl

theorem run_importStep_of_none (h : r.target.group = none) (body : String) (host : Host) :
    (importStep c r body).run host = (.ok (), host) := by
  rw [importStep, h]
  rfl

/-- What a macro is delivered to does not decide what is given back. -/
theorem deliver_eq (c : EngineConfig) (r : Request) (body : String) :
    deliver c r body = (do
      showStep c r (r.result body)
      saveStep r (r.result body)
      importStep c r body
      return r.result body) := by
  obtain ⟨actions, envelope, ⟨display, path, group⟩, name, start⟩ := r
  unfold deliver showStep saveStep importStep
  cases display <;> cases path <;> cases group <;> rfl

/-- A macro is delivered if each step is done, one after the other. -/
theorem run_deliver_eq_ok {body xml : String} {last : Host} :
    (deliver c r body).run host = (.ok xml, last) ↔
      ∃ shown saved, xml = r.result body ∧ (showStep c r xml).run host = (.ok (), shown) ∧
        (saveStep r xml).run shown = (.ok (), saved) ∧
        (importStep c r body).run saved = (.ok (), last) := by
  rw [deliver_eq]
  constructor
  · intro h
    obtain ⟨⟨⟩, shown, hshow, h⟩ := Outcome.run_bind_eq_ok.mp h
    obtain ⟨⟨⟩, saved, hsave, h⟩ := Outcome.run_bind_eq_ok.mp h
    obtain ⟨⟨⟩, after, himport, h⟩ := Outcome.run_bind_eq_ok.mp h
    obtain ⟨hxml, rfl⟩ := Prod.mk.inj h
    obtain rfl := Except.ok.inj hxml
    exact ⟨shown, saved, rfl, hshow, hsave, himport⟩
  · rintro ⟨shown, saved, rfl, hshow, hsave, himport⟩
    rw [Outcome.run_bind_of_ok hshow, Outcome.run_bind_of_ok hsave, Outcome.run_bind_of_ok himport]
    rfl

theorem run_rendering_bind {α β : Type} (rendering : Rendering α) (f : α → Drawing β) (next : Int)
    (host : Host) :
    ((Drawing.rendering rendering >>= f).run.run next).run host =
      match rendering.run next with
      | (.error e, after) => ((.error e, after), host)
      | (.ok a, after) => ((f a).run.run after).run host := by
  unfold Drawing.rendering
  change (ExceptT.bindCont f (rendering.run next).1 (rendering.run next).2) host = _
  rcases rendering.run next with ⟨e | a, after⟩ <;> rfl

/-- Only writing the actions draws identifiers from the source. -/
theorem run_generateFrom (c : EngineConfig) (r : Request) (start : Int) (host : Host) :
    ((generateFrom c r).run.run start).run host =
      match (renderActions r.actions).run start with
      | (.error e, next) => ((.error e, next), host)
      | (.ok body, next) =>
        ((((deliver c r body).run host).1, next), ((deliver c r body).run host).2) := by
  rw [generateFrom, run_rendering_bind]
  rcases (renderActions r.actions).run start with ⟨e | body, next⟩ <;> rfl

/-- If a macro is generated, its actions were written from where the source stood. -/
theorem run_generateFrom_eq_ok {start next : Int} {xml : String} {last : Host} :
    ((generateFrom c r).run.run start).run host = ((.ok xml, next), last) ↔
      ∃ body, (renderActions r.actions).run start = (.ok body, next) ∧
        (deliver c r body).run host = (.ok xml, last) := by
  rw [run_generateFrom]
  rcases (renderActions r.actions).run start with ⟨e | body, after⟩
  · exact iff_of_false (fun h => by cases h) fun ⟨_, h, _⟩ => by cases h
  · constructor
    · intro h
      obtain ⟨h, hlast⟩ := Prod.mk.inj h
      obtain ⟨hxml, rfl⟩ := Prod.mk.inj h
      exact ⟨body, rfl, Prod.ext hxml hlast⟩
    · rintro ⟨_, ⟨⟩, hdeliver⟩
      change ((((deliver c r body).run host).1, next), ((deliver c r body).run host).2) = _
      rw [hdeliver]

/-- Whoever generates a macro without a source of identifiers gets it delivered in the same way. -/
theorem generate_eq (c : EngineConfig) (r : Request) :
    generate c r = (do
      let body ← Work.ofOutcome (r.body? (← get))
      deliver c r body) := by
  funext host
  have hrun : (generate c r).run host =
      ((((generateFrom c r).run.run (r.start.getD host.second)).run host).1.1,
        (((generateFrom c r).run.run (r.start.getD host.second)).run host).2) := rfl
  refine hrun.trans ?_
  rw [run_generateFrom]
  change _ = (Work.ofOutcome (r.body? host) >>= deliver c r).run host
  unfold Request.body?
  rcases (renderActions r.actions).run (r.start.getD host.second) with ⟨e | body, next⟩ <;> rfl

/-! ### Files -/

section

variable {holding : Files → List UInt8 → Files × Outcome Unit} {text : String}

/-- A file is filled with the bytes of its text. -/
theorem run_fill_of_whole (h : host.standIns.isWhole text.toList = true) :
    (Work.fill holding text).run host =
      ((holding host.files (Text.utf8 text.toList)).2,
        { host with files := (holding host.files (Text.utf8 text.toList)).1 }) := by
  unfold Work.fill
  rw [Work.run_get_bind, Text.StandIns.utf8?, if_pos h]
  dsimp only [Option.getD_some]
  rcases holding host.files (Text.utf8 text.toList) with ⟨files, _ | ⟨⟨⟩⟩⟩ <;> rfl

/-- A text without bytes leaves an empty file behind if there can be one, and this fails. -/
theorem run_fill_of_not_whole (h : host.standIns.isWhole text.toList = false) :
    (Work.fill holding text).run host =
      ((holding host.files []).2 >>= fun _ => .error (.misuse .notEncodable),
        { host with files := (holding host.files []).1 }) := by
  unfold Work.fill
  rw [Work.run_get_bind, Text.StandIns.utf8?, if_neg (by simp [h])]
  dsimp only [Option.getD_none]
  rcases holding host.files [] with ⟨files, e | ⟨⟨⟩⟩⟩ <;> rfl

theorem run_fill_eq_error (h : host.standIns.isWhole text.toList = false) :
    ∃ e, (Work.fill holding text).run host =
      (.error e, { host with files := (holding host.files []).1 }) := by
  rw [run_fill_of_not_whole h]
  rcases (holding host.files []).2 with e | ⟨⟨⟩⟩
  · exact ⟨e, rfl⟩
  · exact ⟨_, rfl⟩

end

/-- If the system takes the path, the file is opened before its text is written. -/
theorem run_writeFile_of_isSystemText {path : String}
    (h : host.standIns.isSystemText (fileName path).toList = true) (xml : String) :
    (writeFile xml (.text path)).run host =
      (Work.fill (fun files bytes => files.save (fileName path) bytes) xml).run host := by
  have hname : (textOf (.text path)).run host = (.ok path, host) := rfl
  rw [writeFile, Outcome.run_bind_of_ok hname, Work.saveFile, Work.run_get_bind, if_pos h]

/-- A file is saved under the name with its ending, if the text has bytes. Otherwise no file has
changed, unless the text has none: directories may have been made. -/
theorem run_writeFile (xml path : String) (host : Host) :
    (∃ files, host.standIns.isWhole xml.toList = true ∧
      host.files.save (fileName path) (Text.utf8 xml.toList) = (files, .ok ()) ∧
      (writeFile xml (.text path)).run host = (.ok (), { host with files })) ∨
    ∃ e files, (writeFile xml (.text path)).run host = (.error e, { host with files }) ∧
      (host.standIns.isWhole xml.toList = true →
        Files.Grown (host.files.wayOf (Path.directory (fileName path))) host.files files) := by
  cases hpath : host.standIns.isSystemText (fileName path).toList with
  | false =>
    have hname : (textOf (.text path)).run host = (.ok path, host) := rfl
    refine .inr ⟨.misuse .notEncodable, host.files, ?_, fun _ => .refl _ _⟩
    rw [writeFile, Outcome.run_bind_of_ok hname, Work.saveFile, Work.run_get_bind,
      if_neg (by simp [hpath])]
    rfl
  | true =>
    rw [run_writeFile_of_isSystemText hpath]
    cases hwhole : host.standIns.isWhole xml.toList with
    | false =>
      obtain ⟨e, hrun⟩ := run_fill_eq_error hwhole
      exact .inr ⟨e, _, hrun, fun h => absurd h (by simp)⟩
    | true =>
      rw [run_fill_of_whole hwhole]
      rcases hsave : host.files.save (fileName path) (Text.utf8 xml.toList) with ⟨files, e | ⟨⟨⟩⟩⟩
      · exact .inr ⟨e, files, rfl, fun _ => Files.grown_of_save_eq_error hsave⟩
      · exact .inl ⟨files, rfl, rfl, rfl⟩

/-- Saving is not asked for, or a file is saved, or this fails. -/
theorem run_saveStep (r : Request) (xml : String) (host : Host) :
    (r.target.filePath = none ∧ (saveStep r xml).run host = (.ok (), host)) ∨
    (∃ path files, r.target.filePath = some (.text path) ∧
      host.standIns.isWhole xml.toList = true ∧
      host.files.save (fileName path) (Text.utf8 xml.toList) = (files, .ok ()) ∧
      (saveStep r xml).run host = (.ok (), { host with files })) ∨
    ∃ e files, (saveStep r xml).run host = (.error e, { host with files }) ∧
      (files = host.files ∨ ∃ path, r.target.filePath = some (.text path) ∧
        (host.standIns.isWhole xml.toList = true →
          Files.Grown (host.files.wayOf (Path.directory (fileName path))) host.files files)) := by
  unfold saveStep
  cases r.target.filePath with
  | none => exact .inl ⟨rfl, rfl⟩
  | some slot =>
    cases slot with
    | broken cause => exact .inr (.inr ⟨.misuse cause, host.files, rfl, .inl rfl⟩)
    | text path =>
      rcases run_writeFile xml path host with
        ⟨files, hwhole, hsave, hrun⟩ | ⟨e, files, hrun, hgrown⟩
      · exact .inr (.inl ⟨path, files, rfl, hwhole, hsave, hrun⟩)
      · exact .inr (.inr ⟨e, files, hrun, .inr ⟨path, rfl, hgrown⟩⟩)

/-- A macro that is neither shown nor imported is generated, and saved if that is asked for. Or this
fails, and then no file has changed, unless one was to be saved; if its text has bytes, at most
directories have been made for it. -/
theorem run_generate_of_saving (hshow : r.target.display = false) (himport : r.target.group = none)
    (host : Host) :
    (∃ xml, r.target.filePath = none ∧ (generate c r).run host = (.ok xml, host)) ∨
    (∃ body path files, r.target.filePath = some (.text path) ∧ r.body? host = .ok body ∧
      host.files.save (fileName path) (Text.utf8 (r.result body).toList) = (files, .ok ()) ∧
      (generate c r).run host = (.ok (r.result body), { host with files })) ∨
    ∃ e files, (generate c r).run host = (.error e, { host with files }) ∧
      (files = host.files ∨ ∃ body path, r.target.filePath = some (.text path) ∧
        r.body? host = .ok body ∧ (host.standIns.isWhole (r.result body).toList = true →
          Files.Grown (host.files.wayOf (Path.directory (fileName path))) host.files files)) := by
  rw [generate_eq, Work.run_get_bind]
  cases hbody : r.body? host with
  | error e => exact .inr (.inr ⟨e, host.files, rfl, .inl rfl⟩)
  | ok body =>
    have hshown := run_showStep_of_false (c := c) hshow (r.result body) host
    rw [Work.run_ofOutcome_bind rfl]
    rcases run_saveStep r (r.result body) host with
      ⟨hpath, hrun⟩ | ⟨path, files, hpath, -, hsave, hrun⟩ | ⟨e, files, hrun, hfiles⟩
    · refine .inl ⟨r.result body, hpath, ?_⟩
      exact run_deliver_eq_ok.mpr
        ⟨host, host, rfl, hshown, hrun, run_importStep_of_none himport _ _⟩
    · refine .inr (.inl ⟨body, path, files, hpath, rfl, hsave, ?_⟩)
      exact run_deliver_eq_ok.mpr
        ⟨host, _, rfl, hshown, hrun, run_importStep_of_none himport _ _⟩
    · refine .inr (.inr ⟨e, files, ?_, ?_⟩)
      · rw [deliver_eq, Outcome.run_bind_of_ok hshown, Outcome.run_bind_of_error hrun]
      · exact hfiles.imp_right fun ⟨path, hpath, hgrown⟩ => ⟨body, path, hpath, rfl, hgrown⟩

/-- A result that has no bytes leaves an empty file behind, and this fails. -/
theorem run_generate_of_not_whole {body path : String} {files : Files}
    (hshow : r.target.display = false) (hpath : r.target.filePath = some (.text path))
    (hbody : r.body? host = .ok body)
    (hsystem : host.standIns.isSystemText (fileName path).toList = true)
    (hwhole : host.standIns.isWhole (r.result body).toList = false)
    (hsave : host.files.save (fileName path) [] = (files, .ok ())) :
    (generate c r).run host = (.error (.misuse .notEncodable), { host with files }) := by
  have hsaved : (saveStep r (r.result body)).run host =
      (.error (.misuse .notEncodable), { host with files }) := by
    unfold saveStep
    rw [hpath]
    dsimp only
    rw [run_writeFile_of_isSystemText hsystem, run_fill_of_not_whole hwhole, hsave]
    rfl
  rw [generate_eq, Work.run_get_bind, Work.run_ofOutcome_bind hbody, deliver_eq,
    Outcome.run_bind_of_ok (run_showStep_of_false hshow _ _), Outcome.run_bind_of_error hsaved]

end MacroScribe.Export
