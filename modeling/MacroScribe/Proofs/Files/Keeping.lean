import MacroScribe.Proofs.Files.Saving

/-!
# MacroScribe.Proofs.Files.Keeping

Which files are still read when others change. A file that a path leads to stays as it is when
another file is put somewhere, as long as the file does not lie on the way to the other one: there a
directory would come in its place.
-/

namespace MacroScribe.Files

variable {files later : Files} {path : String} {p q : Place} {bytes more : List UInt8}

/-! ### Reading -/

theorem read?_eq_some :
    files.read? path = some bytes ↔
      files.locate path = .ok (files.place path) ∧ files.isDirectory (files.place path) = false ∧
        files.bytesAt? (files.place path) = some bytes := by
  constructor
  · intro h
    unfold read? at h
    cases hlocate : files.locate path with
    | error e =>
      rw [find_of_locate_error hlocate] at h
      cases h
    | ok place =>
      obtain rfl := place_of_locate hlocate
      by_cases hdir : files.isDirectory (files.place path)
      · have hfind : files.find path = .ok .directory := by
          unfold find
          rw [hlocate]
          exact if_pos hdir
        rw [hfind] at h
        cases h
      · have hfile := Bool.eq_false_iff.mpr hdir
        refine ⟨rfl, hfile, ?_⟩
        rw [find_of_locate hlocate hfile] at h
        cases hbytes : files.bytesAt? (files.place path) with
        | none =>
          rw [hbytes] at h
          cases h
        | some found =>
          rw [hbytes] at h
          exact h
  · rintro ⟨hlocate, hfile, hbytes⟩
    unfold read?
    rw [find_of_locate hlocate hfile, hbytes]

/-- A file that a path leads to is read there later, if no directory has come in its place. -/
theorem Opened.read? (h : Opened files later) (hread : files.read? path = some bytes)
    (hfile : later.isDirectory (files.place path) = false)
    (hbytes : later.bytesAt? (files.place path) = some more) : later.read? path = some more := by
  rw [read?_eq_some, h.place_eq]
  exact ⟨h.locate (read?_eq_some.mp hread).1, hfile, hbytes⟩

/-! ### Putting files somewhere -/

theorem mem_above : key p ∈ above q ↔ ∃ n ≤ q.length, key (q.take n) = key p := by
  simp only [above, List.mem_map, List.mem_range, Nat.lt_succ_iff]

theorem key_mem_above (p : Place) : key p ∈ above p :=
  mem_above.mpr ⟨p.length, Nat.le_refl _, by rw [List.take_length]⟩

theorem above_dropLast_subset (p : Place) : above p.dropLast ⊆ above p := by
  intro k hk
  obtain ⟨n, hn, rfl⟩ := List.mem_map.mp hk
  have hlt := List.mem_range.mp hn
  rw [List.length_dropLast] at hlt
  refine List.mem_map.mpr ⟨min n (p.length - 1), List.mem_range.mpr (by omega), ?_⟩
  rw [List.dropLast_eq_take, List.take_take]

theorem mem_foldl_insert {texts more : List String} {s : String} :
    s ∈ more.foldl (fun ds d => ds.insert d) texts ↔ s ∈ more ∨ s ∈ texts := by
  induction more generalizing texts with
  | nil => simp
  | cons d more ih => rw [List.foldl_cons, ih, List.mem_insert_iff, List.mem_cons]; tauto

theorem isDirectory_put :
    (files.put q more).isDirectory p ↔ key p ∈ above q.dropLast ∨ files.isDirectory p := by
  unfold isDirectory put
  rw [List.contains_iff_mem, List.contains_iff_mem]
  exact mem_foldl_insert

/-- The directories that come with a file lie above it. -/
theorem isDirectory_put_self {directory : Place} {name : String} (hname : name ≠ "")
    (hfile : files.isDirectory (directory ++ [name]) = false) (bytes : List UInt8) :
    (files.put (directory ++ [name]) bytes).isDirectory (directory ++ [name]) = false := by
  refine Bool.eq_false_iff.mpr fun hdir => ?_
  rcases isDirectory_put.mp hdir with habove | hdir
  · obtain ⟨n, -, hkey⟩ := mem_above.mp habove
    rw [List.dropLast_concat] at hkey
    have hle := length_key_le (List.take_prefix n directory)
    have hlt := length_key_lt directory hname
    rw [hkey] at hle
    omega
  · exact Bool.eq_false_iff.mp hfile hdir

theorem opened_put (files : Files) (q : Place) (bytes : List UInt8) :
    Opened files (files.put q bytes) :=
  ⟨rfl, fun _ hp => isDirectory_put.mpr (.inr hp)⟩

theorem foldl_insert_of_subset {texts more : List String} (h : more ⊆ texts) :
    more.foldl (fun ds d => ds.insert d) texts = texts := by
  induction more with
  | nil => rfl
  | cons d more ih =>
    obtain ⟨hd, hmore⟩ := List.cons_subset.mp h
    rw [List.foldl_cons, List.insert_of_mem hd, ih hmore]

/-- What a file held before does not matter. -/
theorem put_put (files : Files) (p : Place) (bytes more : List UInt8) :
    (files.put p bytes).put p more = files.put p more := by
  unfold put
  rw [Fields.put_put, foldl_insert_of_subset fun d hd => mem_foldl_insert.mpr (.inl hd)]

/-- A file is read where it was read before, if it is not on the way to another one that is put
somewhere. -/
theorem read?_put (hread : files.read? path = some bytes) (h : key (files.place path) ∉ above q) :
    (files.put q more).read? path = some bytes := by
  obtain ⟨-, hfile, hbytes⟩ := read?_eq_some.mp hread
  refine (opened_put files q more).read? hread (Bool.eq_false_iff.mpr fun hdir => ?_) ?_
  · rcases isDirectory_put.mp hdir with hdir | hdir
    · exact h (above_dropLast_subset q hdir)
    · exact Bool.eq_false_iff.mp hfile hdir
  · refine (Fields.get?_put_of_ne (fun hkey => h ?_) _ _).trans hbytes
    rw [← hkey]
    exact key_mem_above q

/-- If some file can be put where a path leads, any other can be put there later, if no directory
has come in its place. -/
theorem Opened.read?_put (h : Opened files later)
    (hread : (files.put (files.place path) bytes).read? path = some bytes)
    (hdir : later.isDirectory (files.place path) → files.isDirectory (files.place path)) :
    (later.put (later.place path) more).read? path = some more := by
  have hput : Opened (files.put (files.place path) bytes) (later.put (files.place path) more) :=
    ⟨h.workplace, fun p hp => isDirectory_put.mpr ((isDirectory_put.mp hp).imp_right (h.kept p))⟩
  obtain ⟨-, hfile, -⟩ := read?_eq_some.mp hread
  rw [h.place_eq]
  refine hput.read? hread (Bool.eq_false_iff.mpr fun hlater => ?_) ?_
  · exact Bool.eq_false_iff.mp hfile
      (isDirectory_put.mpr ((isDirectory_put.mp hlater).imp_right hdir))
  · exact (Fields.get?_put _ _ _ _).trans (if_pos rfl)

/-- What other programs add to files leaves directories as they are, and may make more of them. -/
theorem opened_foldl_append (files : Files) (appended : List (Place × List UInt8)) :
    Opened files (appended.foldl (fun files f => files.append f.1 f.2) files) := by
  induction appended generalizing files with
  | nil => exact ⟨rfl, fun _ hp => hp⟩
  | cons f appended ih =>
    have hfirst := opened_put files f.1 ((files.bytesAt? f.1).getD [] ++ f.2)
    exact hfirst.trans (ih (files.append f.1 f.2))

/-- A file that other programs do not come across is read as before. -/
theorem read?_foldl_append {appended : List (Place × List UInt8)}
    (hread : files.read? path = some bytes)
    (h : ∀ f ∈ appended, key (files.place path) ∉ above f.1) :
    (appended.foldl (fun files f => files.append f.1 f.2) files).read? path = some bytes := by
  induction appended generalizing files with
  | nil => exact hread
  | cons f appended ih =>
    obtain ⟨hf, happended⟩ := List.forall_mem_cons.mp h
    exact ih (read?_put hread hf) happended

theorem isDirectory_foldl_append {appended : List (Place × List UInt8)}
    (hp : (appended.foldl (fun files f => files.append f.1 f.2) files).isDirectory p)
    (h : ∀ f ∈ appended, key p ∉ above f.1) : files.isDirectory p := by
  induction appended generalizing files with
  | nil => exact hp
  | cons f appended ih =>
    obtain ⟨hf, happended⟩ := List.forall_mem_cons.mp h
    rcases isDirectory_put.mp (ih hp happended) with hdir | hdir
    · exact absurd (above_dropLast_subset f.1 hdir) hf
    · exact hdir

theorem opened_remove (files : Files) (q : Place) : Opened files (files.remove q) :=
  ⟨rfl, fun _ hp => hp⟩

theorem read?_remove (hread : files.read? path = some bytes) (h : key q ≠ key (files.place path)) :
    (files.remove q).read? path = some bytes := by
  obtain ⟨-, hfile, hbytes⟩ := read?_eq_some.mp hread
  exact (opened_remove files q).read? hread hfile ((Fields.get?_erase_of_ne h _).trans hbytes)

/-! ### Files at other places -/

theorem bytesAt?_put_of_ne (h : key q ≠ key p) (bytes : List UInt8) :
    (files.put q bytes).bytesAt? p = files.bytesAt? p :=
  Fields.get?_put_of_ne h bytes files.entries

theorem bytesAt?_remove (files : Files) (q p : Place) :
    (files.remove q).bytesAt? p = if key p = key q then none else files.bytesAt? p := by
  have hremoved : (files.remove q).bytesAt? p = (files.entries.eraseAll [key q]).get? (key p) :=
    congrArg (Fields.get? · (key p)) (Fields.erase_eq_eraseAll (key q) files.entries)
  rw [hremoved, Fields.get?_eraseAll]
  simp only [List.mem_singleton]
  rfl

theorem bytesAt?_foldl_append {appended : List (Place × List UInt8)}
    (h : ∀ f ∈ appended, key f.1 ≠ key p) :
    (appended.foldl (fun files f => files.append f.1 f.2) files).bytesAt? p = files.bytesAt? p := by
  induction appended generalizing files with
  | nil => rfl
  | cons f appended ih =>
    obtain ⟨hf, happended⟩ := List.forall_mem_cons.mp h
    exact (ih happended).trans (bytesAt?_put_of_ne hf _)

/-! ### Saving -/

theorem read?_of_save (h : files.save path bytes = (later, .ok ())) :
    later.read? path = some bytes := by
  obtain ⟨between, hgrown, hwrite⟩ := save_eq_ok h
  obtain ⟨hlocate, hfile, rfl⟩ := write_eq_ok hwrite
  have hopened : Opened between
      { between with entries := between.entries.put (key (between.place path)) bytes } :=
    ⟨rfl, fun _ hp => hp⟩
  exact read?_eq_some.mpr ⟨hopened.locate hlocate, hfile,
    (Fields.get?_put _ _ _ _).trans (if_pos rfl)⟩

theorem opened_of_save (h : files.save path bytes = (later, .ok ())) : Opened files later := by
  obtain ⟨between, hgrown, hwrite⟩ := save_eq_ok h
  obtain ⟨-, -, rfl⟩ := write_eq_ok hwrite
  exact ⟨hgrown.workplace, hgrown.kept⟩

/-- A place off the way to a file that is saved has a directory only if it had one. -/
theorem isDirectory_of_save (h : files.save path bytes = (later, .ok ())) (hp : later.isDirectory p)
    (hway : ∀ q ∈ files.wayOf (Path.directory path), key p ≠ key q) : files.isDirectory p := by
  obtain ⟨between, hgrown, hwrite⟩ := save_eq_ok h
  obtain ⟨-, -, rfl⟩ := write_eq_ok hwrite
  rcases hgrown.fresh p hp with hp | ⟨q, hq, hkey⟩
  · exact hp
  · exact absurd hkey (hway q hq)

end MacroScribe.Files
