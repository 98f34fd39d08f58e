import MacroScribe.Proofs.Files.Place
import MacroScribe.Proofs.Json.Fields
import MacroScribe.Proofs.Outcome

/-!
# MacroScribe.Proofs.Files.Saving

What saving a file does to the others. Saving makes the directories on the way and writes one file.
`Grown` is what making directories comes to: no file changes, and each new directory lies on the way
to a certain place. Where paths lead does not depend on files, and more directories only open more
paths (`Opened.locate`), so a file that was saved stays where its path leads.
-/

namespace MacroScribe.Files

variable {files later : Files} {path : String} {place : Place}

/-! ### More directories -/

/-- The places through which names lead from a place on. -/
def way (place : Place) : List String → List Place
  | [] => [place]
  | name :: names => place :: way (step place name) names

theorem self_mem_way (place : Place) (names : List String) : place ∈ way place names := by
  cases names <;> exact List.mem_cons_self

theorem subset_way_cons (place : Place) (name : String) (names : List String) :
    way (step place name) names ⊆ way place (name :: names) :=
  fun _ => List.mem_cons_of_mem place

/-- Names that do not lead back lead through places above the one to which they lead. -/
theorem prefix_of_mem_way {names : List String} {p : Place} (hback : ".." ∉ names)
    (h : p ∈ way place names) : p <+: names.foldl step place := by
  induction names generalizing place with
  | nil =>
    rw [List.mem_singleton.mp h]
    exact List.prefix_rfl
  | cons name names ih =>
    rcases List.mem_cons.mp h with rfl | h
    · exact prefix_foldl_step hback
    · exact ih (not_or.mp (List.mem_cons.not.mp hback)).2 h

/-- The later files are the same, with more directories: those that are new lie on a way. -/
structure Grown (way : List Place) (files later : Files) : Prop where
  workplace : later.workplace = files.workplace
  entries : later.entries = files.entries
  kept : ∀ p, files.isDirectory p → later.isDirectory p
  fresh : ∀ p, later.isDirectory p → files.isDirectory p ∨ ∃ q ∈ way, key p = key q

section Growth

variable {way : List Place}

theorem Grown.refl (way : List Place) (files : Files) : Grown way files files :=
  ⟨rfl, rfl, fun _ h => h, fun _ h => .inl h⟩

/-- Directories are made in one step after the other. -/
theorem Grown.trans {between : Files} (h : Grown way files between)
    (h' : Grown way between later) : Grown way files later where
  workplace := h'.workplace.trans h.workplace
  entries := h'.entries.trans h.entries
  kept p hp := h'.kept p (h.kept p hp)
  fresh p hp := by
    rcases h'.fresh p hp with hp | hp
    · exact h.fresh p hp
    · exact .inr hp

/-- On a longer way, more can be made. -/
theorem Grown.mono {way' : List Place} (h : Grown way files later) (hway : way ⊆ way') :
    Grown way' files later where
  workplace := h.workplace
  entries := h.entries
  kept := h.kept
  fresh p hp := (h.fresh p hp).imp_right fun ⟨q, hq, hkey⟩ => ⟨q, hway hq, hkey⟩

/-- One directory is made, under all its spellings. -/
theorem isDirectory_makeDirectory {p : Place} :
    (files.makeDirectory place).isDirectory p ↔ key p = key place ∨ files.isDirectory p := by
  unfold isDirectory makeDirectory
  rw [List.contains_cons, Bool.or_eq_true, beq_iff_eq]

theorem grown_makeDirectory (h : place ∈ way) :
    Grown way files (files.makeDirectory place) where
  workplace := rfl
  entries := rfl
  kept p hp := isDirectory_makeDirectory.mpr (.inr hp)
  fresh p hp := by
    rcases isDirectory_makeDirectory.mp hp with hp | hp
    · exact .inr ⟨place, h, hp⟩
    · exact .inl hp

end Growth

/-- All directories that are made lie on the way that the names lead, even if not all can be. -/
theorem grown_makeAlong (files : Files) (place : Place) (size : Nat) (names : List String) :
    Grown (way place names) files (files.makeAlong place size names).1 := by
  induction names generalizing files place size with
  | nil => exact .refl _ _
  | cons name names ih =>
    have hway := subset_way_cons place name names
    by_cases hblank : name = ""
    · subst hblank
      rw [makeAlong]
      exact (ih files place (size + 1)).mono hway
    · rw [makeAlong]
      · dsimp only
        split
        · exact .refl _ _
        · split
          · exact .refl _ _
          · split
            · exact .refl _ _
            · next next hnext =>
              obtain rfl := step_of_enter hnext
              split
              · exact (ih _ _ _).mono hway
              · exact (grown_makeDirectory (hway (self_mem_way _ _))).trans ((ih _ _ _).mono hway)
      · exact hblank

/-- The way of a path. -/
def wayOf (files : Files) (path : String) : List Place :=
  way (files.start path) (names path)

/-- Directories are made along the path only. -/
theorem grown_makeDirectories (files : Files) (path : String) :
    Grown (files.wayOf path) files (files.makeDirectories path).1 := by
  rw [makeDirectories, wayOf]
  exact grown_makeAlong files (files.start path) 0 (names path)

theorem grown_makeParents (files : Files) (path : String) :
    Grown (files.wayOf (Path.directory path)) files (files.makeParents path).1 := by
  unfold makeParents
  dsimp only
  split
  · exact .refl _ _
  · exact grown_makeDirectories files _

/-! ### Following paths -/

/-- Paths lead on where they led before, if directories have only been added. -/
structure Opened (files later : Files) : Prop where
  workplace : later.workplace = files.workplace
  kept : ∀ p, files.isDirectory p → later.isDirectory p

/-- What has been opened stays open. -/
theorem Opened.trans {between : Files} (h : Opened files between) (h' : Opened between later) :
    Opened files later :=
  ⟨h'.workplace.trans h.workplace, fun p hp => h'.kept p (h.kept p hp)⟩

/-- A step that could be made can still be made. -/
theorem Opened.enter {name : String} {next : Place} (h : Opened files later)
    (hnext : files.enter place name = .ok next) : later.enter place name = .ok next := by
  unfold Files.enter at hnext ⊢
  by_cases hdir : files.isDirectory place
  · rw [if_neg (by simp [hdir])] at hnext
    rw [if_neg (by simp [h.kept place hdir])]
    exact hnext
  · rw [if_pos (by simp [hdir])] at hnext
    cases hnext

/-- So paths that could be followed lead to the same place. -/
theorem Opened.foldlM_enter {names : List String} (h : Opened files later)
    (hlast : names.foldlM files.enter place = .ok target) :
    names.foldlM later.enter place = .ok target := by
  induction names generalizing place with
  | nil => exact hlast
  | cons name names ih =>
    rw [List.foldlM_cons] at hlast ⊢
    obtain ⟨next, hnext, hlast⟩ := Outcome.bind_eq_ok.mp hlast
    exact Outcome.bind_eq_ok.mpr ⟨next, h.enter hnext, ih hlast⟩

theorem Opened.start (h : Opened files later) (path : String) :
    later.start path = files.start path := by
  unfold Files.start
  rw [h.workplace]

theorem Opened.place_eq (h : Opened files later) (path : String) :
    later.place path = files.place path := by
  unfold Files.place
  rw [h.start]

theorem Opened.wayOf_eq (h : Opened files later) (path : String) :
    later.wayOf path = files.wayOf path := by
  unfold wayOf
  rw [h.start]

/-- And files that could be found can be found. -/
theorem Opened.locate (h : Opened files later) (hlocate : files.locate path = .ok place) :
    later.locate path = .ok place := by
  unfold Files.locate at hlocate ⊢
  by_cases hnull : path.toList.contains '\x00'
  · rw [if_pos hnull] at hlocate
    cases hlocate
  · by_cases hempty : path = ""
    · rw [if_neg hnull, if_pos hempty] at hlocate
      cases hlocate
    · by_cases hlong : pathLimit ≤ path.utf8ByteSize
      · rw [if_neg hnull, if_neg hempty, if_pos hlong] at hlocate
        cases hlocate
      · rw [if_neg hnull, if_neg hempty, if_neg hlong] at hlocate ⊢
        rw [h.start]
        exact h.foldlM_enter hlocate

/-- A path that leads to no directory finds the file that is there, if there is one. -/
theorem find_of_locate (h : files.locate path = .ok place)
    (hdir : files.isDirectory place = false) :
    files.find path =
      (match files.bytesAt? place with
      | some bytes => .ok (.file bytes)
      | none => .error .missing) := by
  have hfind : files.find path = (do
      if files.isDirectory place then return .directory
      else
        match files.bytesAt? place with
        | some bytes => return .file bytes
        | none => throw .missing) := by
    unfold find
    rw [h]
    rfl
  rw [hfind, if_neg (by simp [hdir])]
  cases files.bytesAt? place <;> rfl

theorem find_of_locate_error {e : FileFault} (h : files.locate path = .error e) :
    files.find path = .error e := by
  unfold find
  rw [h]
  rfl

/-! ### Saving -/

/-- What saving a file in a directory does: one file has new bytes, the path leads to it, and
directories are made at most on the way to the directory. -/
structure Saved (files later : Files) (directory name : String) (bytes : List UInt8) : Prop where
  workplace : later.workplace = files.workplace
  entries : later.entries = files.entries.put (key (files.place directory ++ [name])) bytes
  kept : ∀ p, files.isDirectory p → later.isDirectory p
  fresh : ∀ p, later.isDirectory p →
    files.isDirectory p ∨ ∃ q, q <+: files.place directory ∧ key p = key q
  located : later.locate (directory ++ "/" ++ name) = .ok (files.place directory ++ [name])

theorem Saved.opened {directory name : String} {bytes : List UInt8}
    (h : Saved files later directory name bytes) : Opened files later :=
  ⟨h.workplace, h.kept⟩

/-- A file is written at its place, if this is no directory. -/
theorem write_eq_ok {bytes : List UInt8} (h : files.write path bytes = .ok later) :
    files.locate path = .ok (files.place path) ∧ files.isDirectory (files.place path) = false ∧
      later = { files with entries := files.entries.put (key (files.place path)) bytes } := by
  obtain ⟨place, hplace, h⟩ := Outcome.bind_eq_ok.mp h
  have hlocate := Outcome.mapError_eq_ok.mp hplace
  rw [place_of_locate hlocate]
  by_cases hdir : files.isDirectory place
  · rw [if_pos hdir] at h
    cases h
  · rw [if_neg hdir] at h
    exact ⟨hlocate, Bool.eq_false_iff.mpr hdir, (Except.ok.inj h).symm⟩

/-- Saving a file makes directories on the way to it, as far as there are any, and then writes it or
fails. -/
theorem save_cases (files : Files) (path : String) (bytes : List UInt8) :
    ∃ between, Grown (files.wayOf (Path.directory path)) files between ∧
      ((∃ later, between.write path bytes = .ok later ∧ files.save path bytes = (later, .ok ())) ∨
        ∃ f, files.save path bytes = (between, .error f)) := by
  have hgrown := grown_makeParents files path
  unfold save
  generalize files.makeParents path = made at hgrown ⊢
  obtain ⟨between, result⟩ := made
  refine ⟨between, hgrown, ?_⟩
  dsimp only
  cases hwrite : (result >>= fun _ => between.write path bytes) with
  | error f => exact .inr ⟨f, rfl⟩
  | ok later =>
    obtain ⟨-, -, hlater⟩ := Outcome.bind_eq_ok.mp hwrite
    exact .inl ⟨later, hlater, rfl⟩

/-- A file is saved in two steps: its directories are made, and it is written. -/
theorem save_eq_ok {bytes : List UInt8} (h : files.save path bytes = (later, .ok ())) :
    ∃ between, Grown (files.wayOf (Path.directory path)) files between ∧
      between.write path bytes = .ok later := by
  obtain ⟨between, hgrown, ⟨written, hwrite, hsave⟩ | ⟨f, hsave⟩⟩ := save_cases files path bytes
  · obtain ⟨rfl, -⟩ := Prod.mk.inj (hsave.symm.trans h)
    exact ⟨between, hgrown, hwrite⟩
  · cases hsave.symm.trans h

/-- When saving a file fails, directories may have been made, but no file has changed. -/
theorem grown_of_save_eq_error {bytes : List UInt8} {f : Fault}
    (h : files.save path bytes = (later, .error f)) :
    Grown (files.wayOf (Path.directory path)) files later := by
  obtain ⟨between, hgrown, ⟨written, -, hsave⟩ | ⟨f, hsave⟩⟩ := save_cases files path bytes
  · cases hsave.symm.trans h
  · obtain ⟨rfl, -⟩ := Prod.mk.inj (hsave.symm.trans h)
    exact hgrown

/-- New directories for a file in a directory are above the directory, or are the directory. -/
theorem Grown.above_directory {directory name : String} {p : Place} (hback : ".." ∉ names directory)
    (hslash : '/' ∉ name.toList) (hd : directory ≠ "")
    (h : Grown (files.wayOf (Path.directory (directory ++ "/" ++ name))) files later)
    (hp : later.isDirectory p) :
    files.isDirectory p ∨ ∃ q, q <+: files.place directory ∧ key p = key q := by
  refine (h.fresh p hp).imp_right fun ⟨q, hq, hkey⟩ => ⟨q, ?_, hkey⟩
  rw [← place_directory_file files hd hslash]
  exact prefix_of_mem_way (not_mem_names_directory hslash hback) hq

/-- Saving in a directory puts one file there, and makes directories on the way only. -/
theorem saved_of_save {directory name : String} {bytes : List UInt8} (hd : directory ≠ "")
    (hback : ".." ∉ names directory) (hn : IsName name)
    (h : files.save (directory ++ "/" ++ name) bytes = (later, .ok ())) :
    Saved files later directory name bytes := by
  obtain ⟨between, hgrown, hwrite⟩ := save_eq_ok h
  have hopened : Opened files between := ⟨hgrown.workplace, hgrown.kept⟩
  obtain ⟨hlocate, -, rfl⟩ := write_eq_ok hwrite
  rw [hopened.place_eq, place_file files hd hn] at hlocate ⊢
  have hwritten : Opened between
      { between with
        entries := between.entries.put (key (files.place directory ++ [name])) bytes } :=
    ⟨rfl, fun _ hp => hp⟩
  exact {
    workplace := hgrown.workplace
    entries := congrArg (Fields.put _ bytes) hgrown.entries
    kept := hgrown.kept
    fresh := fun _ hp => hgrown.above_directory hback hn.2.2.2 hd hp
    located := hwritten.locate hlocate }

/-! ### An empty working directory -/

/-- Nothing is below an empty working directory. -/
theorem isTaken_empty {work p : Place} (hp : work <+: p) {name : String} (hname : name ≠ "") :
    (empty work).isTaken (p ++ [name]) = false := by
  have hdir : (empty work).isDirectory (p ++ [name]) = false := by
    refine Bool.eq_false_iff.mpr fun hmem => ?_
    obtain ⟨n, -, hkey⟩ := List.mem_map.mp (List.contains_iff_mem.mp hmem)
    have hle := length_key_le ((List.take_prefix n work).trans hp)
    have hlt := length_key_lt p hname
    rw [hkey] at hle
    omega
  rw [isTaken, hdir]
  rfl

end MacroScribe.Files
