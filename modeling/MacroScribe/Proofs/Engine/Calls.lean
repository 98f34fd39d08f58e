import MacroScribe.Engine.Basic
import MacroScribe.Proofs.Json.Text

/-!
# MacroScribe.Proofs.Engine.Calls

What a request does to the host. Every request comes to one call of the program with a script
(`ranOn`), which is made unless the script cannot be passed on, and a request whose remaining steps
only look at what was printed leaves the host in that state, however the call ends.
-/

namespace MacroScribe

variable {α β : Type}

/-! ### Steps of work -/

theorem Json.eq_str_of_str? {v : Data} {s : String} (h : v.str? = some s) : v = .str s := by
  cases v with
  | str t => exact congrArg Json.str (Option.some.inj h)
  | _ => cases h

namespace Work

/-- Reading the host leaves it as it is. -/
theorem run_get_bind (f : Host → Work α) (host : Host) :
    (get >>= f).run host = (f host).run host := rfl

/-- What is computed without the host leaves it as it is. -/
theorem run_ofOutcome (x : Outcome α) (host : Host) : (ofOutcome x).run host = (x, host) := rfl

theorem run_ofOutcome_bind {x : Outcome α} {a : α} (h : x = .ok a) (f : α → Work β) (host : Host) :
    (ofOutcome x >>= f).run host = (f a).run host := by
  rw [h]
  rfl

theorem run_ofOutcome_bind_eq_ok {x : Outcome α} {f : α → Work β} {b : β} {host last : Host} :
    (ofOutcome x >>= f).run host = (.ok b, last) ↔
      ∃ a, x = .ok a ∧ (f a).run host = (.ok b, last) := by
  rw [Outcome.run_bind_eq_ok]
  constructor
  · rintro ⟨a, host', hx, h⟩
    rw [run_ofOutcome] at hx
    obtain ⟨ha, rfl⟩ := Prod.mk.inj hx
    exact ⟨a, ha, h⟩
  · rintro ⟨a, hx, h⟩
    exact ⟨a, host, by rw [run_ofOutcome, hx], h⟩

end Work

/-! ### Calls -/

/-- A computer with these files, on which calls will go like this. -/
def Host.simple (files : Files) (replies : List Reply) : Host where
  clock := .int 0
  homes := []
  instanceId := none
  scratch := "/tmp/import.kmmacros"
  uuid _ := ""
  drawn := 0
  files
  replies
  calls := []

/-- The reply to the next call. -/
def Host.reply (host : Host) : Reply :=
  host.replies.head?.getD .silent

/-- The host after a call. -/
def Host.called (host : Host) (c : Call) : Host :=
  { host with
    replies := host.replies.drop 1
    calls := host.calls ++ [c]
    files := host.reply.appended.foldl (fun files f => files.append f.1 f.2) host.files }

/-- A call is added to the calls that were made. -/
@[simp] theorem Host.calls_called (host : Host) (c : Call) :
    (host.called c).calls = host.calls ++ [c] := rfl

/-- The program that is called sees the files as they are when it is called. -/
theorem Work.run_call (command : List String) (timeout : String) (host : Host) :
    (Work.call command timeout).run host =
      (.ok host.reply.ending, host.called ⟨command, timeout, host.files⟩) := rfl

/-! ### What can be passed on -/

/-- The system takes texts with this character. -/
def Host.Takes (host : Host) (c : Char) : Prop :=
  (host.standIns.surrogate? c).all (fun code => 0xDC80 ≤ code && code ≤ 0xDCFF) = true ∧ c ≠ '\x00'

theorem Host.takes_of_ascii (host : Host) {c : Char} (hc : c ≠ '\x00') (h : c.toNat < 0x80) :
    host.Takes c :=
  ⟨by rw [host.standIns.ascii c h]; rfl, hc⟩

/-- A text can be passed on if each of its characters can. -/
theorem Host.objection?_eq_none_iff {host : Host} {text : String} :
    host.objection? text = none ↔ ∀ c ∈ text.toList, host.Takes c := by
  have hsystem : host.standIns.isSystemText text.toList = true ↔
      ∀ c ∈ text.toList, (host.standIns.surrogate? c).all
        (fun code => 0xDC80 ≤ code && code ≤ 0xDCFF) = true := List.all_eq_true
  have hnull : text.toList.contains '\x00' = true ↔ '\x00' ∈ text.toList := List.contains_iff_mem
  unfold objection? Takes
  split
  · next h =>
    have hnot : ¬ host.standIns.isSystemText text.toList = true := by simpa using h
    refine iff_of_false (by simp) fun htakes => hnot (hsystem.mpr fun c hc => (htakes c hc).1)
  · next h =>
    have hall := hsystem.mp (by simpa using h)
    split
    · next hmem =>
      exact iff_of_false (by simp) fun htakes => (htakes _ (hnull.mp hmem)).2 rfl
    · next hmem =>
      refine iff_of_true rfl fun c hc => ⟨hall c hc, ?_⟩
      rintro rfl
      exact hmem (hnull.mpr hc)

/-- The system takes every text of printable ASCII characters. -/
theorem Host.objection?_of_isPlain (host : Host) {text : String} (h : Text.IsPlain text.toList) :
    host.objection? text = none := by
  refine objection?_eq_none_iff.mpr fun c hc => ?_
  obtain ⟨hlow, hhigh⟩ := h c hc
  refine host.takes_of_ascii ?_ (by omega)
  rintro rfl
  exact absurd hlow (by decide)

namespace Engine

variable {c : EngineConfig} {program app : String}

theorem textOf_str (s : String) : textOf (.str s) = pure s := rfl

/-- Only a text is taken for one. -/
theorem textOf_eq_ok {v : Data} {s : String} {host last : Host}
    (h : (textOf v).run host = (.ok s, last)) : v = .str s ∧ last = host := by
  unfold textOf at h
  cases hv : v.str? with
  | none =>
    rw [hv] at h
    cases h
  | some t =>
    rw [hv] at h
    cases h
    exact ⟨Json.eq_str_of_str? hv, rfl⟩

/-- What the end of a call comes to. -/
def printed? (c : EngineConfig) : Ending → Outcome Printed
  | .finished status output errors => .ok ⟨status, output, errors⟩
  | .timedOut => .error (.engine (.timedOut c.timeout.plainText))
  | .missing => .error (.misuse (.missingProgram "osascript"))

/-- What comes of running a script: it is not run if it cannot be passed on. -/
def ran? (c : EngineConfig) (host : Host) (script : String) : Outcome Printed :=
  match host.objection? script with
  | some cause => .error (.misuse cause)
  | none => printed? c host.reply.ending

/-- The call of a program on a host. -/
def callOn (c : EngineConfig) (host : Host) (command : List String) : Call :=
  ⟨command, c.timeout.quotedText, host.files⟩

/-- The host after a script has been run by a command, or could not be passed on. -/
def ranOn (c : EngineConfig) (host : Host) (command : List String) (script : String) : Host :=
  if (host.objection? script).isNone then host.called (callOn c host (command ++ [script]))
  else host

variable {options : List String} {script : String} {host : Host}

/-- A script that can be passed on comes to what the program answers. -/
theorem ran?_of_passed (h : host.objection? script = none) :
    ran? c host script = printed? c host.reply.ending := by
  rw [ran?, h]

/-- And it is the one call that is made. -/
theorem ranOn_of_passed (h : host.objection? script = none) (command : List String) :
    ranOn c host command script = host.called (callOn c host (command ++ [script])) :=
  if_pos (by rw [h]; rfl)

/-- A script that cannot be passed on is not run. -/
theorem ranOn_of_objection {cause : Misuse} (h : host.objection? script = some cause)
    (command : List String) : ranOn c host command script = host :=
  if_neg (by rw [h]; simp)

/-- The options before a script. -/
def IsOptions (options : List String) : Prop :=
  ∀ option ∈ options, Text.IsPlain option.toList

theorem isOptions_jxa : IsOptions ["-l", "JavaScript", "-e"] := by
  unfold IsOptions
  decide

theorem isOptions_appleScript : IsOptions ["-e"] := by
  unfold IsOptions
  decide

/-- Only the script can be what is not passed on. -/
theorem findSome?_objection? (hoptions : IsOptions options) (host : Host) (script : String) :
    (options ++ [script]).findSome? host.objection? = host.objection? script := by
  have hnone : options.findSome? host.objection? = none :=
    List.findSome?_eq_none_iff.mpr fun option h => host.objection?_of_isPlain (hoptions option h)
  rw [List.findSome?_append, hnone, Option.none_or, List.findSome?_singleton]

/-- What comes of a call, and what it leaves, for a script behind fixed options. -/
theorem run_callProgram (hc : c.osascript = .str program) (hoptions : IsOptions options)
    (script : String) (host : Host) :
    (callProgram c (options ++ [script])).run host =
      (ran? c host script, ranOn c host (program :: options) script) := by
  unfold callProgram
  simp only [hc, Json.str?]
  rw [Work.run_get_bind]
  simp only [findSome?_objection? hoptions]
  cases hobjection : host.objection? script with
  | some cause =>
    rw [ran?, hobjection, ranOn_of_objection hobjection]
    rfl
  | none =>
    rw [ran?_of_passed hobjection, ranOn_of_passed hobjection]
    refine (Outcome.run_bind_of_ok (Work.run_call _ _ host)).trans ?_
    cases host.reply.ending <;> rfl

/-- A program is called only if its name is a text. -/
theorem after_of_callProgram_eq_ok (hoptions : IsOptions options) {p : Printed} {last : Host}
    (h : (callProgram c (options ++ [script])).run host = (.ok p, last)) :
    ∃ program, c.osascript = .str program ∧
      last = ranOn c host (program :: options) script := by
  cases hname : c.osascript.str? with
  | none =>
    unfold callProgram at h
    simp only [hname] at h
    cases h
  | some program =>
    have hc := Json.eq_str_of_str? hname
    refine ⟨program, hc, ?_⟩
    exact (congrArg Prod.snd h).symm.trans
      (congrArg Prod.snd (run_callProgram hc hoptions script host))

/-- What follows a call goes on with the end of the call, on the host after it. -/
theorem run_callProgram_bind (hc : c.osascript = .str program) (hoptions : IsOptions options)
    (script : String) (f : Printed → Work α) (host : Host) :
    (callProgram c (options ++ [script]) >>= f).run host =
      (Work.ofOutcome (ran? c host script) >>= f).run
        (ranOn c host (program :: options) script) := by
  have hrun := run_callProgram hc hoptions script host
  cases hp : ran? c host script with
  | error e =>
    rw [Outcome.run_bind_of_error (hrun.trans (by rw [hp]))]
    rfl
  | ok p =>
    rw [Outcome.run_bind_of_ok (hrun.trans (by rw [hp]))]
    rfl

/-- What follows a call and leaves the host as it is has no part in what the request does. -/
theorem after_callProgram_bind (hc : c.osascript = .str program) (hoptions : IsOptions options)
    (script : String) {f : Printed → Work α} (hf : ∀ p host, ((f p).run host).2 = host)
    (host : Host) :
    ((callProgram c (options ++ [script]) >>= f).run host).2 =
      ranOn c host (program :: options) script := by
  rw [run_callProgram_bind hc hoptions]
  cases ran? c host script with
  | error e => rfl
  | ok p => exact hf p _

/-- A script of printable ASCII characters is always run. -/
theorem run_runJxa_bind (hc : c.osascript = .str program) (hscript : Text.IsPlain script.toList)
    (f : Printed → Work α) (host : Host) :
    (runJxa c script >>= f).run host =
      (Work.ofOutcome (printed? c host.reply.ending) >>= f).run
        (host.called (callOn c host [program, "-l", "JavaScript", "-e", script])) := by
  have hpassed := host.objection?_of_isPlain hscript
  refine (run_callProgram_bind hc isOptions_jxa script f host).trans ?_
  rw [ran?_of_passed hpassed, ranOn_of_passed hpassed]
  rfl

/-- Judging what was printed leaves the host as it is. -/
theorem after_ite (p : Prop) [Decidable p] (a : α) (e : EngineFault) (host : Host) :
    ((if p then pure a else failed e : Work α).run host).2 = host := by
  by_cases hp : p
  · rw [if_pos hp]; rfl
  · rw [if_neg hp]; rfl

/-! ### Requests -/

/-- One call of the script for the macro, if the parameter has a text. -/
theorem after_runNamed (hc : c.osascript = .str program) (ha : c.engineApp = .str app)
    (name : String) {parameter : Data} {text : String} (ht : parameterText parameter = pure text)
    (host : Host) :
    ((runNamed c (.str name) parameter).run host).2 =
      ranOn c host [program, "-l", "JavaScript", "-e"] (Script.runNamed app name text) := by
  unfold runNamed
  rw [ha, ht]
  exact after_callProgram_bind hc isOptions_jxa _ (fun p => after_ite (p.status = 0) _ _) host

/-- What an import comes to whose call comes to this. -/
def imported? (path : String) (result : Outcome Printed) : Outcome Unit := do
  let p ← result
  if p.status = 0 then return ()
  else throw (.engine (.importFailed path (stripped p.errors)))

/-- One call of the script for the file, whether or not it succeeds. -/
theorem run_importFile (hc : c.osascript = .str program) (ha : c.editorApp = .str app)
    (path : String) (host : Host) :
    (importFile c (.str path)).run host =
      (imported? path (ran? c host (Script.importFile app path)),
        ranOn c host [program, "-e"] (Script.importFile app path)) := by
  unfold importFile imported?
  rw [ha]
  refine (run_callProgram_bind hc isOptions_appleScript _ _ host).trans ?_
  cases ran? c host (Script.importFile app path) with
  | error e => rfl
  | ok p =>
    rw [Work.run_ofOutcome_bind rfl]
    change _ = ((if p.status = 0 then .ok () else .error _ : Outcome Unit), _)
    by_cases hstatus : p.status = 0
    · rw [if_pos hstatus, if_pos hstatus]; rfl
    · rw [if_neg hstatus, if_neg hstatus]; rfl

theorem after_importFile (hc : c.osascript = .str program) (ha : c.editorApp = .str app)
    (path : String) (host : Host) :
    ((importFile c (.str path)).run host).2 =
      ranOn c host [program, "-e"] (Script.importFile app path) := by
  rw [run_importFile hc ha]

/-- One call of the script for the macro, which says whether it succeeded. -/
theorem run_delete (hc : c.osascript = .str program) (ha : c.editorApp = .str app)
    (name : String) (host : Host) :
    (delete c (.str name)).run host =
      ((ran? c host (Script.delete app name)).map (·.status == 0),
        ranOn c host [program, "-e"] (Script.delete app name)) := by
  unfold delete
  rw [ha]
  refine (run_callProgram_bind hc isOptions_appleScript _ _ host).trans ?_
  cases ran? c host (Script.delete app name) <;> rfl

theorem after_delete (hc : c.osascript = .str program) (ha : c.editorApp = .str app)
    (name : String) (host : Host) :
    ((delete c (.str name)).run host).2 =
      ranOn c host [program, "-e"] (Script.delete app name) := by
  rw [run_delete hc ha]

/-- A script that printed something has been passed on. -/
theorem passed_of_ran? {p : Printed} (h : ran? c host script = .ok p) :
    host.objection? script = none := by
  unfold ran? at h
  cases hobjection : host.objection? script with
  | none => rfl
  | some cause =>
    rw [hobjection] at h
    cases h

/-- Whenever deleting comes to an answer, the call was made. -/
theorem delete_eq_ok {name : String} {done : Bool} {host last : Host}
    (h : (delete c (.str name)).run host = (.ok done, last)) :
    ∃ program app, c.osascript = .str program ∧ c.editorApp = .str app ∧
      host.objection? (Script.delete app name) = none ∧
      last = host.called (callOn c host [program, "-e", Script.delete app name]) := by
  have hrun := h
  unfold delete at h
  obtain ⟨app, started, happ, h⟩ := Outcome.run_bind_eq_ok.mp h
  obtain ⟨ha, -⟩ := textOf_eq_ok happ
  rw [textOf_str, pure_bind] at h
  obtain ⟨p, _, hcall, -⟩ := Outcome.run_bind_eq_ok.mp h
  obtain ⟨program, hc, -⟩ := after_of_callProgram_eq_ok isOptions_appleScript hcall
  obtain ⟨hdone, rfl⟩ := Prod.mk.inj ((run_delete hc ha name host).symm.trans hrun)
  obtain ⟨printed, hprinted, -⟩ := Outcome.map_eq_ok.mp hdone
  have hpassed := passed_of_ran? hprinted
  exact ⟨program, app, hc, ha, hpassed, ranOn_of_passed hpassed _⟩

/-- Whenever importing succeeds, the call was made. -/
theorem importFile_eq_ok (hc : c.osascript = .str program) (ha : c.editorApp = .str app)
    {path : String} {host last : Host} (h : (importFile c (.str path)).run host = (.ok (), last)) :
    host.objection? (Script.importFile app path) = none ∧
      last = host.called (callOn c host [program, "-e", Script.importFile app path]) := by
  obtain ⟨hdone, rfl⟩ := Prod.mk.inj ((run_importFile hc ha path host).symm.trans h)
  obtain ⟨p, hp, -⟩ := Outcome.bind_eq_ok.mp hdone
  have hpassed := passed_of_ran? hp
  exact ⟨hpassed, ranOn_of_passed hpassed _⟩

/-! ### Running actions -/

/-- The script that runs a document. -/
def documentScript (c : EngineConfig) (document : String) : String :=
  Script.runDocument c.engineApp.writeString (Json.str document : Data).writeString

/-- Of a script that runs a document, only the two literals could be more than plain. -/
theorem isPlain_runDocument {app document : String} (happ : Text.IsPlain app.toList)
    (hdocument : Text.IsPlain document.toList) :
    Text.IsPlain (Script.runDocument app document).toList := by
  have hopen : Text.IsPlain "Application(".toList := by decide
  have hrun : Text.IsPlain ").doScript(".toList := by decide
  have hclose : Text.IsPlain ")".toList := by decide
  have htext : Script.runDocument app document =
      "Application(" ++ app ++ ").doScript(" ++ document ++ ")" := rfl
  rw [htext, String.toList_append, String.toList_append, String.toList_append, String.toList_append]
  simp only [Text.isPlain_append]
  exact ⟨⟨⟨⟨hopen, happ⟩, hrun⟩, hdocument⟩, hclose⟩

theorem isPlain_runDocumentForResult {app document : String} (happ : Text.IsPlain app.toList)
    (hdocument : Text.IsPlain document.toList) :
    Text.IsPlain (Script.runDocumentForResult app document).toList := by
  have hopen : Text.IsPlain "(function() \x7b var result = ".toList := by decide
  have hclose : Text.IsPlain "; return String(result); \x7d)()".toList := by decide
  unfold Script.runDocumentForResult
  rw [String.toList_append, Text.isPlain_append, String.toList_append, Text.isPlain_append]
  exact ⟨⟨hopen, isPlain_runDocument happ hdocument⟩, hclose⟩

/-- A script that runs a document can always be passed on. -/
theorem isPlain_documentScript (c : EngineConfig) (document : String) :
    Text.IsPlain (documentScript c document).toList :=
  isPlain_runDocument (Json.isPlain_writeString _) (Json.isPlain_writeString _)

/-- Running actions without asking for their result is one call, with the document of the actions as
a literal in the script. -/
theorem run_eq_ok {r : RunRequest} {report : RunReport} {host last : Host}
    (hactions : r.actions ≠ []) (hcaptures : r.captures = false)
    (h : (run c r).run host = (.ok report, last)) :
    ∃ program document n, c.osascript = .str program ∧
      (Assembly.ephemeral r.actions r.returned).run (r.start.getD host.second) =
        (.ok document, n) ∧
      last = host.called
        (callOn c host [program, "-l", "JavaScript", "-e", documentScript c document]) := by
  unfold run at h
  rw [if_neg (by simp [hactions]), Work.run_get_bind] at h
  simp only [hcaptures, Bool.false_eq_true, if_false] at h
  obtain ⟨document, hdocument, h⟩ := Work.run_ofOutcome_bind_eq_ok.mp h
  obtain ⟨path, -, h⟩ := Work.run_ofOutcome_bind_eq_ok.mp h
  obtain ⟨log, -, h⟩ := Work.run_ofOutcome_bind_eq_ok.mp h
  obtain ⟨p, called, hcall, h⟩ := Outcome.run_bind_eq_ok.mp h
  obtain ⟨program, hc, rfl⟩ := after_of_callProgram_eq_ok isOptions_jxa hcall
  have hpassed := host.objection?_of_isPlain (isPlain_documentScript c document)
  rw [documentScript] at hpassed
  rw [ranOn_of_passed hpassed] at h
  -- What the report says does not matter: it leaves the host as it is.
  refine ⟨program, document, _, hc, Prod.ext hdocument rfl, ?_⟩
  cases hp : complaint? p with
  | none =>
    rw [hp] at h
    exact (congrArg Prod.snd h).symm
  | some message =>
    rw [hp] at h
    exact (congrArg Prod.snd h).symm

/-! ### Variables -/

/-- The instance in which a variable is looked up: the one that is given, or else the one in which
the library runs. Empty texts name no instance. -/
def owner? (given own : Option String) : Option String :=
  (given.filter (· != "")).or (own.filter (· != ""))

/-- What a variable needs to be reached: ordinary variables belong to no instance, and an instance
variable cannot be reached without one. -/
def reach? (name : String) (given own : Option String) : Option (Option String) :=
  if Script.isInstanceVariable name then (owner? given own).map some else some none

/-- An instance as an argument. -/
def instanceData (given : Option String) : Data :=
  given.elim .null .str

/-- A variable of an instance is asked of the one that is given, else of the one the host names. -/
theorem run_owner (name : String) (given : Option String) (host : Host) :
    (do
      if (instanceData given).truthy then return some (← textOf (instanceData given))
      else
        match (← get).instanceId.filter (· != "") with
        | some id => return some id
        | none => failed (.noInstance name) : Work (Option String)).run host =
      ((owner? given host.instanceId).elim (.error (.engine (.noInstance name)))
        fun id => .ok (some id), host) := by
  by_cases hgiven : ∃ id, given = some id ∧ id ≠ ""
  · obtain ⟨id, rfl, hid⟩ := hgiven
    have htruthy : (instanceData (some id)).truthy = true := bne_iff_ne.mpr hid
    have howner : owner? (some id) host.instanceId = some id := by simp [owner?, hid]
    rw [if_pos htruthy, howner]
    rfl
  · have htruthy : (instanceData given).truthy = false := by
      cases given with
      | none => rfl
      | some id => exact bne_eq_false_iff_eq.mpr (by simpa using hgiven)
    have howner : owner? given host.instanceId = host.instanceId.filter (· != "") := by
      cases given with
      | none => rfl
      | some id =>
        have hid : id = "" := by simpa using hgiven
        rw [owner?, hid]; rfl
    rw [if_neg (by simp [htruthy]), howner, Work.run_get_bind]
    cases host.instanceId.filter (· != "") <;> rfl

/-- The same for any variable: most do not need an instance. -/
theorem run_instanceOf (name : String) (given : Option String) (host : Host) :
    (instanceOf name (instanceData given)).run host =
      ((reach? name given host.instanceId).elim (.error (.engine (.noInstance name))) .ok,
        host) := by
  unfold instanceOf reach?
  by_cases hv : Script.isInstanceVariable name
  · rw [if_neg (by simp [hv]), if_pos hv]
    refine (run_owner name given host).trans ?_
    cases owner? given host.instanceId <;> rfl
  · rw [if_pos (by simp [hv]), if_neg hv]
    rfl

/-- Without an instance, nothing is called. -/
theorem after_instanceOf_bind {name : String} {given : Option String} {f : Option String → Work α}
    {host : Host} {g : Option String → Host} (hf : ∀ id, ((f id).run host).2 = g id) :
    ((instanceOf name (instanceData given) >>= f).run host).2 =
      (reach? name given host.instanceId).elim host g := by
  have hreach := run_instanceOf name given host
  cases hid : reach? name given host.instanceId with
  | none => rw [Outcome.run_bind_of_error (hreach.trans (by rw [hid]; rfl))]; rfl
  | some id => rw [Outcome.run_bind_of_ok (hreach.trans (by rw [hid]; rfl))]; exact hf id

/-- A variable that cannot be reached is not asked for. -/
theorem after_readVariable (hc : c.osascript = .str program) (ha : c.engineApp = .str app)
    (name : String) (given : Option String) (host : Host) :
    ((readVariable c (.str name) (instanceData given)).run host).2 =
      (reach? name given host.instanceId).elim host fun id =>
        ranOn c host [program, "-e"] (Script.readVariable app name id) := by
  unfold readVariable
  rw [ha]
  refine after_instanceOf_bind fun id => ?_
  exact after_callProgram_bind hc isOptions_appleScript _
    (fun p => after_ite (p.status = 0) _ _) host

/-- One call of the script for the variable, if an instance is known where one is needed. -/
theorem after_writeVariable (hc : c.osascript = .str program) (ha : c.engineApp = .str app)
    (name : String) (value : Data) (given : Option String) (host : Host) :
    ((writeVariable c (.str name) value (instanceData given)).run host).2 =
      (reach? name given host.instanceId).elim host fun id =>
        ranOn c host [program, "-e"] (Script.writeVariable app name value.plainText id) := by
  unfold writeVariable
  rw [ha]
  refine after_instanceOf_bind fun id => ?_
  exact after_callProgram_bind hc isOptions_appleScript _
    (fun p => after_ite (p.status = 0) _ _) host

end Engine
end MacroScribe
