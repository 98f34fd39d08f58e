import MacroScribe.Proofs.Plist.Character
import MacroScribe.Proofs.Service.Answer

/-!
# MacroScribe.Proofs.Service.Store

The files that the service saves and hands out form a store in one directory. `Store` says what the
files are like after some responses: the directory holds, under each name, the text of the last
response that says it saved a file of that name, and no other file has changed. One answer preserves
this (`Store.answered`), so every session does, and what the service hands out can be read off the
responses that it gave.

All this is so for any reader of requests that passes on what is asked for (`Reads`), and for
results that have bytes: a result with half a character in it empties the file of its name, and no
response tells of it (`saved_files_not_told`).

The directory is a path without `..`: such a path could make directories in places that it does not
name, and a name that the service is asked for could be that of one of them.
-/

namespace MacroScribe.Service

open Files

/-- The text of the last of some responses that says a file of this name was saved. -/
def lastSaved (responses : List Response) (name : String) : Option String :=
  Fields.get? (responses.filterMap Response.saved?).reverse name

theorem lastSaved_concat_of_none {response : Response} (h : response.saved? = none)
    (responses : List Response) : lastSaved (responses ++ [response]) = lastSaved responses := by
  funext name
  rw [lastSaved, List.filterMap_append, List.filterMap_cons_none h, List.filterMap_nil,
    List.append_nil, lastSaved]

theorem lastSaved_concat_of_some {response : Response} {name xml : String}
    (h : response.saved? = some (name, xml)) (responses : List Response) (other : String) :
    lastSaved (responses ++ [response]) other =
      if name = other then some xml else lastSaved responses other := by
  rw [lastSaved, List.filterMap_append, List.filterMap_cons_some h, List.filterMap_nil,
    List.reverse_append, List.reverse_singleton, List.singleton_append, Fields.get?_cons, lastSaved]

/-- The files after some responses, in a session that began with the files `start`. -/
structure Store (directory : String) (start : Files) (responses : List Response) (files : Files) :
    Prop where
  workplace : files.workplace = start.workplace
  /-- The directory has no directories in it. -/
  flat : ∀ name, name ≠ "" → files.isDirectory (start.place directory ++ [name]) = false
  /-- The directory holds what the responses say. -/
  held : ∀ name, name ≠ "" → files.bytesAt? (start.place directory ++ [name]) =
    (lastSaved responses name).map fun xml => Text.utf8 xml.toList
  /-- What has been saved is found. -/
  located : ∀ name, (lastSaved responses name).isSome →
    files.locate (directory ++ "/" ++ name) = .ok (start.place directory ++ [name])
  /-- Nothing else has been written. -/
  confined : ∀ k, files.entries.get? k ≠ start.entries.get? k →
    ∃ name, IsMacroName name ∧ k = key (start.place directory ++ [name])

variable {directory : String} {start : Files} {responses : List Response} {host after : Host}

theorem store_of_empty
    (h : ∀ name, name ≠ "" → start.isTaken (start.place directory ++ [name]) = false) :
    Store directory start [] start where
  workplace := rfl
  flat name hname := (Bool.or_eq_false_iff.mp (h name hname)).1
  held name hname := by
    have hnone := (Bool.or_eq_false_iff.mp (h name hname)).2
    exact Option.not_isSome_iff_eq_none.mp (by simp [hnone])
  located name hsome := absurd hsome (by simp [lastSaved])
  confined k hk := absurd rfl hk

theorem Store.place {files : Files} (h : Store directory start responses files) :
    files.place directory = start.place directory := by
  unfold Files.place Files.start
  rw [h.workplace]

/-- Directories that are made for a file are not in the directory. -/
theorem Store.flat_of_above {files later : Files} (h : Store directory start responses files)
    (habove : ∀ p, later.isDirectory p →
      files.isDirectory p ∨ ∃ q, q <+: files.place directory ∧ key p = key q)
    {name : String} (hname : name ≠ "") :
    later.isDirectory (start.place directory ++ [name]) = false := by
  refine Bool.eq_false_iff.mpr fun hdir => ?_
  rcases habove _ hdir with hdir | ⟨q, hq, hkey⟩
  · exact Bool.eq_false_iff.mp (h.flat name hname) hdir
  · have hlt := length_key_lt (start.place directory) hname
    have hle := length_key_le hq
    rw [hkey] at hlt
    rw [h.place] at hle
    omega

/-- Saving a file of which the response tells. -/
theorem Store.saved {response : Response} {name xml : String} {files later : Files}
    (h : Store directory start responses files) (hname : IsMacroName name)
    (hsaved : response.saved? = some (name, xml))
    (hsave : Saved files later directory name (Text.utf8 xml.toList)) :
    Store directory start (responses ++ [response]) later := by
  have hentries := hsave.entries
  rw [h.place] at hentries
  refine ⟨hsave.workplace.trans h.workplace, fun other => h.flat_of_above hsave.fresh,
    fun other hother => ?_, fun other hother => ?_, fun k hk => ?_⟩
  · rw [lastSaved_concat_of_some hsaved, bytesAt?, hentries]
    by_cases heq : name = other
    · rw [heq, if_pos rfl, Fields.get?_put, if_pos rfl, Option.map_some]
    · rw [if_neg heq, Fields.get?_put_of_ne fun hkey => heq (key_concat_inj.mp hkey)]
      exact h.held other hother
  · rw [lastSaved_concat_of_some hsaved] at hother
    by_cases heq : name = other
    · rw [← heq, ← h.place]
      exact hsave.located
    · rw [if_neg heq] at hother
      exact hsave.opened.locate (h.located other hother)
  · by_cases heq : key (start.place directory ++ [name]) = k
    · exact ⟨name, hname, heq.symm⟩
    · rw [hentries, Fields.get?_put_of_ne heq] at hk
      exact h.confined k hk

/-- Directories may have been made for a file that is not saved then. -/
theorem Store.unsaved {response : Response} {name : String} {files later : Files}
    (h : Store directory start responses files) (hd : directory ≠ "")
    (hback : ".." ∉ names directory) (hname : IsMacroName name) (hnone : response.saved? = none)
    (hgrown : Grown (files.wayOf (Path.directory (directory ++ "/" ++ name))) files later) :
    Store directory start (responses ++ [response]) later := by
  have hsame := lastSaved_concat_of_none hnone responses
  have hopened : Opened files later := ⟨hgrown.workplace, hgrown.kept⟩
  refine ⟨hgrown.workplace.trans h.workplace,
    fun other => h.flat_of_above fun p => hgrown.above_directory hback hname.1 hd, ?_, ?_, ?_⟩
  · rw [hsame]
    unfold bytesAt?
    rw [hgrown.entries]
    exact h.held
  · rw [hsame]
    exact fun other hother => hopened.locate (h.located other hother)
  · rw [hgrown.entries]
    exact h.confined

/-- What answering a request does to the store. -/
theorem Store.answered {response : Response} (hd : directory ≠ "") (hback : ".." ∉ names directory)
    (h : Store directory start responses host.files)
    (hanswered : Answered directory host response after) :
    Store directory start (responses ++ [response]) after.files := by
  cases hanswered with
  | quiet hnone =>
    have hsame := lastSaved_concat_of_none hnone responses
    exact ⟨h.workplace, h.flat, by rw [hsame]; exact h.held, by rw [hsame]; exact h.located,
      h.confined⟩
  | saved hname hsaved hsave =>
    exact h.saved hname hsaved (saved_of_save hd hback hname.isName hsave)
  | unsaved hname hnone hgrown => exact h.unsaved hd hback hname hnone hgrown

variable {path : Request → String} {read : Request → Except Response Task}

/-- A session keeps the store. -/
theorem Store.session {requests : List Request} (hread : Reads path read) (hd : directory ≠ "")
    (hback : ".." ∉ names directory) (hfits : ∀ r ∈ requests, r.Fits read host.standIns)
    (h : Store directory start responses host.files) :
    ∃ more last, (requests.mapM (answerWith read directory)).run host = (.ok more, last) ∧
      Store directory start (responses ++ more) last.files := by
  induction requests generalizing responses host with
  | nil => exact ⟨[], host, rfl, by rw [List.append_nil]; exact h⟩
  | cons r requests ih =>
    obtain ⟨hr, hfits⟩ := List.forall_mem_cons.mp hfits
    obtain ⟨response, after, hrun, hanswered⟩ := run_answer hread directory hr
    rw [← hanswered.standIns_eq] at hfits
    obtain ⟨more, last, hmore, hstore⟩ := ih hfits (h.answered hd hback hanswered)
    refine ⟨response :: more, last, ?_, ?_⟩
    · rw [List.mapM_cons, Outcome.run_bind_of_ok hrun, Outcome.run_bind_of_ok hmore]
      rfl
    · rw [List.append_assoc, List.singleton_append] at hstore
      exact hstore

/-! ### Handing files out -/

/-- The response to a request for a file, if this is what was last saved under its name. -/
def downloadResponse : Option String → Response
  | some xml => ⟨200, .file (Text.utf8 xml.toList)⟩
  | none => .ofFields 404 [("error", .str "File not found")]

/-- A file is handed out as it was last saved. -/
theorem Store.run_download (h : Store directory start responses host.files) (hd : directory ≠ "")
    {name : String} (hname : IsName name) :
    (download directory name).run host =
      (.ok (downloadResponse (lastSaved responses name)), host) := by
  rw [Service.run_download]
  have hheld := h.held name hname.1
  have hflat := h.flat name hname.1
  cases hlast : lastSaved responses name with
  | some xml =>
    have hlocated := h.located name (by rw [hlast]; rfl)
    rw [find_of_locate hlocated hflat, hheld, hlast]
    rfl
  | none =>
    cases hlocate : host.files.locate (directory ++ "/" ++ name) with
    | error e =>
      rw [find_of_locate_error hlocate]
      rfl
    | ok place =>
      have hplace : place = start.place directory ++ [name] := by
        rw [← place_of_locate hlocate, place_file host.files hd hname, h.place]
      rw [find_of_locate hlocate (hplace ▸ hflat), hplace, hheld, hlast]
      rfl

/-- The response is sent as it is. -/
theorem sent_downloadResponse (standIns : Text.StandIns) (saved : Option String) :
    Response.sent standIns (.ok (downloadResponse saved)) = downloadResponse saved := by
  cases saved with
  | some xml => rfl
  | none =>
    have htexts : Json.texts (.obj [("error", .str "File not found")] : Data) =
        ["error", "File not found"] := rfl
    have hplain : ∀ s ∈ ["error", "File not found"], Text.IsPlain s.toList := by decide
    refine if_pos (List.all_eq_true.mpr fun s hs => ?_)
    rw [htexts] at hs
    exact standIns.isWhole_of_isPlain (hplain s hs)

/-! ### Sessions -/

/-- A message that can be written is sent. -/
theorem sent_failed {standIns : Text.StandIns} {f : Fault}
    (h : standIns.isWhole f.message.toList = true) (status : Nat) :
    Response.sent standIns (.ok (.failed status f)) = .failed status f := by
  have htexts : Json.texts (.obj [("success", .bool false), ("errors", .list [.str f.message])] :
      Data) = ["success", "errors", f.message] := rfl
  have hsuccess : standIns.isWhole "success".toList = true :=
    standIns.isWhole_of_isPlain (by decide)
  have herrors : standIns.isWhole "errors".toList = true := standIns.isWhole_of_isPlain (by decide)
  refine if_pos ?_
  rw [Response.failed, Response.ofFields, Body.isWritable, htexts]
  simp only [List.all_cons, List.all_nil, hsuccess, herrors, h, Bool.and_self]

/-- What a request to write actions does, if the store is as the responses say. -/
theorem Store.run_render {r : Request} {form : RenderForm}
    (h : Store directory start responses host.files) (hd : directory ≠ "")
    (hback : ".." ∉ names directory) (hr : read r = .ok (.render form)) :
    ∃ response after, (answerWith read directory r).run host = (.ok response, after) ∧
      (response.status = 200 → form.saveAs.any (· != "") → ∃ name xml,
        response.saved? = some (name, xml) ∧
          after.files.bytesAt? (start.place directory ++ [name]) =
            some (Text.utf8 xml.toList)) ∧
      (∀ f, form.content.document = .error f → after = host ∧
        (f.kind.isValue → host.standIns.isWhole f.message.toList → response = .failed 422 f)) := by
  refine ⟨_, _, run_answerWith hr directory host, fun hstatus hsave => ?_, fun f hf => ?_⟩
  · have hok := Response.eq_ok_of_sent hstatus
    have hpath : form.path? directory ≠ none := by
      cases hfile : form.saveAs with
      | none =>
        rw [hfile] at hsave
        cases hsave
      | some file =>
        rw [hfile, Option.any_some] at hsave
        rw [RenderForm.path?, hfile, Option.filter_some, if_pos hsave]
        exact Option.some_ne_none _
    generalize hresponse : Response.sent _ _ = response at hok hstatus ⊢
    rcases Service.run_render directory form host with
      ⟨result, hrun, hquiet⟩ | ⟨saved, name, xml, files, hname, hsaved, hsave, hrun, -⟩ |
      ⟨result, name, files, -, hrun, hunsaved, -⟩
    · rw [Task.answer, hrun] at hok
      exact absurd ((hquiet response hok).2 hstatus) hpath
    · rw [Task.answer, hrun] at hok ⊢
      obtain rfl := Except.ok.inj hok
      have hstore := h.saved hname hsaved (saved_of_save hd hback hname.isName hsave)
      refine ⟨name, xml, hsaved, ?_⟩
      rw [hstore.held name hname.isName.1, lastSaved_concat_of_some hsaved, if_pos rfl,
        Option.map_some]
    · rw [Task.answer, hrun] at hok
      exact absurd hstatus (hunsaved response hok).2
  · rw [Task.answer, run_render_of_error hf]
    refine ⟨rfl, fun hvalue hwhole => ?_⟩
    rw [if_pos hvalue]
    exact sent_failed hwhole 422

/-- In any session in which no actions are run, in which what is saved can be written as bytes, and
whose directory is empty at first: the files that are written lie directly in the directory and are
called macro files; what was last saved under a name is handed out under this name, and nothing else
is; a result is saved under the name that the response tells; and a document that is not acceptable
is refused without anything being done. This is so whoever reads the requests, as long as he passes
on what is asked for. -/
theorem saved_files_handed_out (hread : Reads path read) {directory : String} {host : Host}
    (hd : directory ≠ "") (hback : ".." ∉ Files.names directory)
    (hempty : ∀ name, name ≠ "" →
      host.files.isTaken (host.files.place directory ++ [name]) = false)
    (requests : List Request) (hfits : ∀ r ∈ requests, r.Fits read host.standIns) :
    ∃ responses last,
      (requests.mapM (answerWith read directory)).run host = (.ok responses, last) ∧
      (∀ k, last.files.entries.get? k ≠ host.files.entries.get? k → ∃ name : String,
        '/' ∉ name.toList ∧ ".kmmacros".toList <:+ name.toList ∧
          k = Files.key (host.files.place directory ++ [name])) ∧
      (∀ (r : Request) name, r.method = "GET" → path r = "/download/" ++ name →
        Files.IsName name → (answerWith read directory r).run last =
          (.ok (downloadResponse (lastSaved responses name)), last)) ∧
      (∀ r form, read r = .ok (.render form) →
        ∃ response after, (answerWith read directory r).run last = (.ok response, after) ∧
          (response.status = 200 → form.saveAs.any (· != "") → ∃ name xml,
            response.saved? = some (name, xml) ∧
              after.files.bytesAt? (host.files.place directory ++ [name]) =
                some (Text.utf8 xml.toList)) ∧
          (∀ f, form.content.document = .error f → after = last ∧
            (f.kind.isValue → last.standIns.isWhole f.message.toList →
              response = .failed 422 f))) := by
  obtain ⟨responses, last, hrun, hstore⟩ := (store_of_empty hempty).session hread hd hback hfits
  rw [List.nil_append] at hstore
  refine ⟨responses, last, hrun, fun k hk => ?_, fun r name hmethod hpath hname => ?_,
    fun r form hr => hstore.run_render hd hback hr⟩
  · obtain ⟨name, ⟨hslash, hending⟩, rfl⟩ := hstore.confined k hk
    exact ⟨name, hslash, hending, rfl⟩
  · rw [run_answerWith (hread.downloads r name hmethod hpath hname), Task.answer,
      hstore.run_download hd hname, sent_downloadResponse]

/-- A computer with nothing on it but an empty working directory. -/
def bareHost : Host :=
  .simple (.empty ["tmp", "work"]) []

theorem isTaken_bareHost {name : String} (hname : name ≠ "") :
    bareHost.files.isTaken (bareHost.files.place "output" ++ [name]) = false :=
  isTaken_empty (prefix_foldl_step (by decide : ".." ∉ Files.names "output")) hname

/-- Two results that are saved under one name, and a request for it. -/
def colliding : List Request :=
  [⟨"POST", "/render", [], some (.obj [("save_as", .str "../a/b")])⟩,
   ⟨"POST", "/render", [], some (.obj [("save_as", .str "b.kmmacros"), ("wrap", .bool true)])⟩,
   ⟨"GET", "/download/b.kmmacros", [], none⟩]

/-- The form of a request to write no actions. -/
def bareForm (envelope : Bool) (file : String) : RenderForm :=
  ⟨⟨MacroDocument.standardName, []⟩, envelope, none, some file⟩

/-- Its result can be written as bytes if the name of the file can. -/
theorem encodes_bareForm (envelope : Bool) {file : String}
    (hfile : Text.IsPlain (Path.base file).toList) :
    (bareForm envelope file).Encodes bareHost.standIns := by
  intro doc other hdoc hother
  have hbare : (bareForm envelope file).content.document =
      .ok ⟨MacroDocument.standardName, [], .null⟩ := rfl
  obtain rfl := Except.ok.inj (hbare.symm.trans hdoc)
  obtain rfl := Option.some.inj hother
  refine ⟨Text.StandIns.isWhole_of_isPlain _ (by decide),
    Text.StandIns.isWhole_of_isPlain _ hfile, fun start body next h => ?_⟩
  have hempty : (renderActions []).run start = (.ok "", start) := rfl
  obtain rfl := Except.ok.inj (Prod.mk.inj (hempty.symm.trans h)).1
  decide +kernel

theorem fits_of_bareForm {r : Request} (envelope : Bool) (file : String)
    (h : readRequest r = .ok (.render (bareForm envelope file)))
    (hfile : Text.IsPlain (Path.base file).toList) : r.Fits readRequest bareHost.standIns where
  run form hform := by
    rw [h] at hform
    cases hform
  encodes form hform := by
    rw [h] at hform
    obtain rfl := Task.render.inj (Except.ok.inj hform)
    exact encodes_bareForm envelope hfile

theorem fits_colliding : ∀ r ∈ colliding, r.Fits readRequest bareHost.standIns := by
  have hdownload : readRequest ⟨"GET", "/download/b.kmmacros", [], none⟩ =
      .ok (.download "b.kmmacros") := rfl
  refine List.forall_mem_cons.mpr ⟨?_, List.forall_mem_cons.mpr ⟨?_, List.forall_mem_singleton.mpr
    ⟨fun form h => ?_, fun form h => ?_⟩⟩⟩
  · exact fits_of_bareForm false "../a/b" rfl (by decide +kernel)
  · exact fits_of_bareForm true "b.kmmacros" rfl (by decide +kernel)
  · rw [hdownload] at h
    cases h
  · rw [hdownload] at h
    cases h

theorem saved_files_handed_out_colliding :
    (∀ r ∈ colliding, r.Fits readRequest bareHost.standIns) ∧
      ∃ responses last xml,
        (colliding.mapM (answerWith readRequest "output")).run bareHost = (.ok responses, last) ∧
        responses.map Response.status = [200, 200, 200] ∧
        lastSaved responses "b.kmmacros" = some xml ∧
        last.files.bytesAt? ["tmp", "work", "output", "b.kmmacros"] =
          some (Text.utf8 xml.toList) ∧
        (answerWith readRequest "output" ⟨"GET", "/download/b.kmmacros", [], none⟩).run last =
          (.ok ⟨200, .file (Text.utf8 xml.toList)⟩, last) := by
  obtain ⟨responses, last, hrun, hstatus, hsaved⟩ :=
    Outcome.exists_run_of_mem (x := colliding.mapM (answerWith readRequest "output"))
      (s := bareHost) (P := fun responses _ =>
        responses.map Response.status = [200, 200, 200] ∧
          (lastSaved responses "b.kmmacros").isSome)
      (by decide +kernel)
  obtain ⟨xml, hxml⟩ := Option.isSome_iff_exists.mp hsaved
  have hempty : ∀ name, name ≠ "" →
      bareHost.files.isTaken (bareHost.files.place "output" ++ [name]) = false :=
    fun _ => isTaken_bareHost
  have hstore : Store "output" bareHost.files responses last.files := by
    obtain ⟨_, _, hsession, hstore⟩ := (store_of_empty hempty).session reads_readRequest
      (by decide) (by decide) fits_colliding
    rw [hrun] at hsession
    obtain ⟨hresponses, rfl⟩ := Prod.mk.inj hsession
    obtain rfl := Except.ok.inj hresponses
    exact hstore
  obtain ⟨_, _, hsession, -, hdownload, -⟩ := saved_files_handed_out reads_readRequest
    (by decide) (by decide) hempty colliding fits_colliding
  rw [hrun] at hsession
  obtain ⟨hresponses, rfl⟩ := Prod.mk.inj hsession
  obtain rfl := Except.ok.inj hresponses
  have hname : Files.IsName "b.kmmacros" := ⟨by decide, by decide, by decide, by decide⟩
  have hpath : (Target.ofText "/download/b.kmmacros").path = "/download/" ++ "b.kmmacros" := by
    decide +kernel
  refine ⟨fits_colliding, responses, last, xml, hrun, hstatus, hxml, ?_, ?_⟩
  · have hplace : bareHost.files.place "output" ++ ["b.kmmacros"] =
        ["tmp", "work", "output", "b.kmmacros"] := by decide
    rw [← hplace, hstore.held "b.kmmacros" hname.1, hxml]
    rfl
  · rw [hdownload ⟨"GET", "/download/b.kmmacros", [], none⟩ "b.kmmacros" rfl hpath hname, hxml]
    rfl

/-! ### What is lost in writing -/

/-- A result with half a character in it, and a request for its file. -/
def torn : List Request :=
  [⟨"POST", "/render", [], some (.obj [
      ("actions", .list [.obj [("kind", .str "Return"),
        ("text", .str (String.singleton Text.StandIns.half))]]),
      ("save_as", .str "a")])⟩,
   ⟨"GET", "/download/a.kmmacros", [], none⟩]

/-- What the first of the requests describes. -/
def tornForm : RenderForm :=
  ⟨⟨MacroDocument.standardName,
    [.obj [("kind", .str "Return"), ("text", .str (String.singleton Text.StandIns.half))]]⟩,
    false, none, some "a"⟩

theorem exists_body_torn :
    ∃ doc body, tornForm.content.document = .ok doc ∧
      (tornForm.request "output" doc).body? bareHost = .ok body ∧
      bareHost.standIns.isWhole ((tornForm.request "output" doc).result body).toList = false := by
  refine ⟨_, _, rfl, rfl, Text.StandIns.isWhole_of_half_mem ?_⟩
  have hpath : tornForm.path? "output" = some "output/a" := rfl
  rw [RenderForm.result_request hpath]
  refine Plist.mem_wrap ?_
  rw [Rendering.joined, String.intercalate_singleton, String.toList_ofList]
  decide +kernel

/-- The files after the first of the requests: an empty file has been saved. -/
def tornFiles : Files :=
  (bareHost.files.save "output/a.kmmacros" []).1

theorem run_render_torn :
    (render "output" tornForm).run bareHost =
      (.error (.misuse .notEncodable), { bareHost with files := tornFiles }) := by
  obtain ⟨doc, body, hdoc, hbody, hwhole⟩ := exists_body_torn
  have hrun : (Work.ofOutcome tornForm.content.document).run bareHost = (.ok doc, bareHost) := by
    rw [hdoc]; rfl
  have hsave : bareHost.files.save "output/a.kmmacros" [] = (tornFiles, .ok ()) :=
    Prod.ext rfl (by decide +kernel)
  have hgen := Export.run_generate_of_not_whole (c := .standard)
    (r := tornForm.request "output" doc) rfl rfl hbody (by decide +kernel) hwhole hsave
  rw [render, run_answering_of_ok hrun]
  exact run_answering_of_error hgen

/-- A file whose name has a question mark, and a request for it by this name. -/
def questioned : List Request :=
  [⟨"POST", "/render", [], some (.obj [("save_as", .str "a?b")])⟩,
   ⟨"GET", "/download/a?b.kmmacros", [], none⟩]

theorem run_torn :
    (torn.mapM (answerWith readRequest "output")).run bareHost =
      (.ok [.broken, ⟨200, .file []⟩], { bareHost with files := tornFiles }) := by
  have hrender : readRequest ⟨"POST", "/render", [], some (.obj [
      ("actions", .list [.obj [("kind", .str "Return"),
        ("text", .str (String.singleton Text.StandIns.half))]]),
      ("save_as", .str "a")])⟩ = .ok (.render tornForm) := rfl
  have hdownload : readRequest ⟨"GET", "/download/a.kmmacros", [], none⟩ =
      .ok (.download "a.kmmacros") := rfl
  have hfound : tornFiles.find ("output" ++ "/" ++ "a.kmmacros") = .ok (.file []) := by
    decide +kernel
  have hfirst := run_answerWith hrender "output" bareHost
  rw [Task.answer, run_render_torn] at hfirst
  have hhanded : (download "output" "a.kmmacros").run { bareHost with files := tornFiles } =
      (.ok ⟨200, .file []⟩, { bareHost with files := tornFiles }) := by
    rw [run_download, hfound]
  have hsecond := run_answerWith hdownload "output" { bareHost with files := tornFiles }
  rw [Task.answer, hhanded] at hsecond
  rw [torn, List.mapM_cons, Outcome.run_bind_of_ok hfirst, List.mapM_cons, List.mapM_nil,
    bind_assoc, Outcome.run_bind_of_ok hsecond]
  rfl

/-- A file is handed out that no response tells of: it is empty, because the result cannot be
written. And a file that was saved is not handed out under its name where this begins a query. -/
theorem saved_files_not_told :
    (∃ responses last,
      (torn.mapM (answerWith readRequest "output")).run bareHost = (.ok responses, last) ∧
        lastSaved responses "a.kmmacros" = none ∧ responses[1]? = some ⟨200, .file []⟩) ∧
    ∃ responses last,
      (questioned.mapM (answerWith readRequest "output")).run bareHost = (.ok responses, last) ∧
        (lastSaved responses "a?b.kmmacros").isSome ∧
        responses.map Response.status = [200, 404] := by
  refine ⟨⟨_, _, run_torn, rfl, rfl⟩, ?_⟩
  exact Outcome.exists_run_of_mem (x := questioned.mapM (answerWith readRequest "output"))
    (s := bareHost) (P := fun responses _ =>
      (lastSaved responses "a?b.kmmacros").isSome ∧
        responses.map Response.status = [200, 404])
    (by decide +kernel)

end MacroScribe.Service
