import MacroScribe.Files.Basic
import MacroScribe.Proofs.Text.Lines

/-!
# MacroScribe.Proofs.Files.Place

Places and the paths that lead to them. The text of a place that lies further down is longer, and a
place directly in a directory is known by its name. A path that consists of a directory, a slash and
a name leads to the place of that name in the place of the directory, and cutting such a path gives
both parts back.
-/

namespace MacroScribe

open Text

/-! ### The texts of places -/

namespace Files

theorem toList_key (place : Place) : (key place).toList = joinWith '/' (place.map String.toList) := by
  rw [key, String.toList_intercalate]
  rfl

theorem key_append {p q : Place} (hp : p ≠ []) (hq : q ≠ []) :
    (key (p ++ q)).toList = (key p).toList ++ '/' :: (key q).toList := by
  rw [toList_key, toList_key, toList_key, List.map_append,
    joinWith_append '/' (by simpa using hp) (by simpa using hq)]

theorem key_singleton (name : String) : (key [name]).toList = name.toList := by
  rw [toList_key, List.map_singleton, joinWith_singleton]

/-- A name is known from the text of its place in a directory. -/
theorem key_concat_inj {p : Place} {a b : String} : key (p ++ [a]) = key (p ++ [b]) ↔ a = b := by
  constructor
  · intro h
    have h := congrArg String.toList h
    by_cases hp : p = []
    · rw [hp, List.nil_append, List.nil_append, key_singleton, key_singleton] at h
      exact String.toList_inj.mp h
    · rw [key_append hp (by simp), key_append hp (by simp), key_singleton, key_singleton] at h
      exact String.toList_inj.mp (List.cons.inj (List.append_cancel_left h)).2
  · exact fun h => by rw [h]

theorem length_key_le {p q : Place} (h : p <+: q) :
    (key p).toList.length ≤ (key q).toList.length := by
  obtain ⟨r, rfl⟩ := h
  by_cases hp : p = []
  · simp [hp, key]
  · by_cases hr : r = []
    · exact Nat.le_of_eq (by rw [hr, List.append_nil])
    · rw [key_append hp hr, List.length_append]
      omega

theorem length_key_lt (p : Place) {name : String} (h : name ≠ "") :
    (key p).toList.length < (key (p ++ [name])).toList.length := by
  have hname : 0 < name.toList.length := List.length_pos_of_ne_nil (by simpa using h)
  by_cases hp : p = []
  · rw [hp, List.nil_append, key_singleton]
    simpa [key] using hname
  · rw [key_append hp (by simp), List.length_append, List.length_cons]
    omega

/-! ### Steps -/

theorem prefix_step {place : Place} {name : String} (h : name ≠ "..") :
    place <+: step place name := by
  unfold step
  split
  · exact List.prefix_rfl
  · exact List.prefix_append place [name]

/-- Names that do not lead back lead on. -/
theorem prefix_foldl_step {place : Place} {names : List String} (h : ".." ∉ names) :
    place <+: names.foldl step place := by
  induction names generalizing place with
  | nil => exact List.prefix_rfl
  | cons name names ih =>
    obtain ⟨hname, hnames⟩ := not_or.mp (List.mem_cons.not.mp h)
    exact (prefix_step (Ne.symm hname)).trans (ih hnames)

/-- Names without characters lead nowhere else. -/
theorem foldl_step_blank (place : Place) (n : Nat) :
    (List.replicate n "").foldl step place = place := by
  induction n with
  | zero => rfl
  | succ n ih => exact ih

/-- A name of something: not one that leads back or nowhere. -/
def IsName (name : String) : Prop :=
  name ≠ "" ∧ name ≠ "." ∧ name ≠ ".." ∧ '/' ∉ name.toList

theorem IsName.step {name : String} (h : IsName name) (place : Place) :
    step place name = place ++ [name] := by
  rw [Files.step, if_neg (not_or.mpr ⟨h.1, h.2.1⟩), if_neg h.2.2.1]

/-! ### Paths to files in a directory -/

theorem names_file (directory : String) {name : String} (h : '/' ∉ name.toList) :
    names (directory ++ "/" ++ name) = names directory ++ [name] := by
  have hpath : (directory ++ "/" ++ name).toList = directory.toList ++ '/' :: name.toList := by simp
  rw [names, hpath, splitOn_append_sep, splitOn_of_not_mem h, List.map_append, List.map_singleton,
    String.ofList_toList, names]

theorem isAbsolute_append {directory : String} (h : directory ≠ "") (rest : String) :
    Path.isAbsolute (directory ++ rest) = Path.isAbsolute directory := by
  unfold Path.isAbsolute
  rw [String.toList_append, List.head?_append_of_ne_nil _ (by simpa using h)]

theorem start_append (files : Files) {directory : String} (h : directory ≠ "") (rest : String) :
    files.start (directory ++ rest) = files.start directory := by
  unfold start
  rw [isAbsolute_append h]

/-- A name in a directory has its place in the place of the directory. -/
theorem place_file (files : Files) {directory name : String} (hd : directory ≠ "")
    (hn : IsName name) :
    files.place (directory ++ "/" ++ name) = files.place directory ++ [name] := by
  rw [place, names_file directory hn.2.2.2, List.foldl_append, String.append_assoc,
    start_append files hd]
  exact hn.step _

end Files

namespace Path

theorem base_file (directory : String) {name : String} (h : '/' ∉ name.toList) :
    base (directory ++ "/" ++ name) = name := by
  have hpath : (directory ++ "/" ++ name).toList = directory.toList ++ '/' :: name.toList := by simp
  rw [base, hpath, splitOn_append_sep, splitOn_of_not_mem h, List.getLast?_concat]
  exact String.ofList_toList

theorem not_mem_base (path : String) : '/' ∉ (base path).toList := by
  rw [base]
  cases h : (splitOn '/' path.toList).getLast? with
  | none => simp
  | some part =>
    have hpart : part ∈ splitOn '/' path.toList := List.mem_of_getLast? h
    simpa using not_mem_of_mem_splitOn hpart

/-- A text is what is left of it when the slashes at its end are taken away, and these slashes. -/
theorem bare_append_slashes (s : List Char) :
    ∃ n, (s.reverse.dropWhile (· = '/')).reverse ++ List.replicate n '/' = s := by
  have hslashes : ∀ c ∈ (s.reverse.takeWhile (· = '/')).reverse, c = '/' := by
    intro c hc
    simpa using List.all_eq_true.mp List.all_takeWhile c (List.mem_reverse.mp hc)
  refine ⟨(s.reverse.takeWhile (· = '/')).reverse.length, ?_⟩
  rw [← List.eq_replicate_of_mem hslashes, ← List.reverse_append, List.takeWhile_append_dropWhile,
    List.reverse_reverse]

/-- What stands before the name is the directory, perhaps without slashes at its end. -/
theorem directory_file (dir : String) {name : String} (h : '/' ∉ name.toList) :
    directory (dir ++ "/" ++ name) ≠ "" ∧
      ∃ n, (directory (dir ++ "/" ++ name)).toList ++ List.replicate n '/' = dir.toList ++ ['/'] := by
  have hhead : ((dir ++ "/" ++ name).toList.reverse.dropWhile (· ≠ '/')).reverse =
      dir.toList ++ ['/'] := by
    have hpath : (dir ++ "/" ++ name).toList.reverse =
        name.toList.reverse ++ '/' :: dir.toList.reverse := by simp
    rw [hpath, List.dropWhile_append_of_pos, List.dropWhile_cons_of_neg (by simp)]
    · simp
    · intro c hc
      have hne : c ≠ '/' := fun heq => h (heq ▸ List.mem_reverse.mp hc)
      simpa using hne
  obtain ⟨n, hn⟩ := bare_append_slashes (dir.toList ++ ['/'])
  simp only [directory, hhead]
  by_cases hbare : ((dir.toList ++ ['/']).reverse.dropWhile (· = '/')).reverse.isEmpty
  · rw [if_pos hbare]
    exact ⟨by simp, 0, by simp⟩
  · rw [if_neg hbare, String.toList_ofList]
    exact ⟨by simpa using hbare, n, hn⟩

end Path

namespace Files

theorem splitOn_append_replicate (sep : Char) (s : List Char) (n : Nat) :
    splitOn sep (s ++ List.replicate n sep) = splitOn sep s ++ List.replicate n [] := by
  induction n with
  | zero => rw [List.replicate_zero, List.replicate_zero, List.append_nil, List.append_nil]
  | succ n ih =>
    have hlast : s ++ List.replicate (n + 1) sep = (s ++ List.replicate n sep) ++ sep :: [] := by
      rw [List.replicate_succ', List.append_assoc]
    rw [hlast, splitOn_append_sep, ih, List.append_assoc, List.replicate_succ']
    rfl

/-- The directory in which a path names something is where the spelt directory is. -/
theorem names_directory_file (dir : String) {name : String} (h : '/' ∉ name.toList) :
    ∃ n, names (Path.directory (dir ++ "/" ++ name)) ++ List.replicate n "" = names dir ++ [""] := by
  obtain ⟨-, n, hn⟩ := Path.directory_file dir h
  refine ⟨n, ?_⟩
  have hsplit := congrArg (fun s => (splitOn '/' s).map String.ofList) hn
  simpa [splitOn_append_replicate, splitOn_append_sep, names] using hsplit

theorem not_mem_names_directory {dir : String} {name : String} (h : '/' ∉ name.toList)
    (hback : ".." ∉ names dir) : ".." ∉ names (Path.directory (dir ++ "/" ++ name)) := by
  obtain ⟨n, hn⟩ := names_directory_file dir h
  intro hmem
  have hmem : ".." ∈ names dir ++ [""] := hn ▸ List.mem_append_left _ hmem
  rcases List.mem_append.mp hmem with hmem | hmem
  · exact hback hmem
  · simp at hmem

theorem place_directory_file (files : Files) {dir : String} (hd : dir ≠ "") {name : String}
    (h : '/' ∉ name.toList) :
    files.place (Path.directory (dir ++ "/" ++ name)) = files.place dir := by
  obtain ⟨hne, n, hn⟩ := Path.directory_file dir h
  have hstart : files.start (Path.directory (dir ++ "/" ++ name)) = files.start dir := by
    rw [← start_append files hne (String.ofList (List.replicate n '/')),
      ← start_append files hd "/"]
    refine congrArg files.start (String.toList_inj.mp ?_)
    simpa using hn
  obtain ⟨m, hm⟩ := names_directory_file dir h
  have hfold := congrArg (fun names => names.foldl step (files.start dir)) hm
  simp only [List.foldl_append, foldl_step_blank] at hfold
  rw [place, hstart, hfold]
  rfl

end Files
end MacroScribe
