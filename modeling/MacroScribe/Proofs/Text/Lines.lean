import MacroScribe.Text.Class
import MacroScribe.Text.Split
import Mathlib.Data.List.Basic
import Mathlib.Data.List.TakeWhile

/-!
# MacroScribe.Proofs.Text.Lines

Texts and their lines. Cutting a text at line feeds and putting the parts together again are
inverse to each other, and a list of lines may hold a text with line feeds as one entry: the
physical lines of such a list are those of its entries, one after the other
(`lines_unlines`), and they make the same text (`unlines_flatMap_lines`).
-/

namespace MacroScribe.Text

/-! ### Cutting at a separator -/

theorem splitOn_of_not_mem {sep : Char} {s : List Char} (h : sep ∉ s) : splitOn sep s = [s] := by
  induction s with
  | nil => rfl
  | cons c s ih =>
    rw [List.mem_cons, not_or] at h
    rw [splitOn_cons, ih h.2, consPart, if_neg (Ne.symm h.1)]

/-- A separator divides the parts before it from those after it. -/
theorem splitOn_append_sep (sep : Char) (a b : List Char) :
    splitOn sep (a ++ sep :: b) = splitOn sep a ++ splitOn sep b := by
  induction a with
  | nil => simp [consPart]
  | cons c a ih =>
    rw [List.cons_append, splitOn_cons, ih, splitOn_cons]
    simp only [consPart]
    split
    · rfl
    · cases h : splitOn sep a with
      | nil => exact absurd h (splitOn_ne_nil sep a)
      | cons part rest => rfl

theorem not_mem_of_mem_splitOn {sep : Char} {s part : List Char} (h : part ∈ splitOn sep s) :
    sep ∉ part := by
  by_cases hs : sep ∈ s
  · obtain ⟨a, b, rfl, ha⟩ := List.eq_append_cons_of_mem hs
    rw [splitOn_append_sep, splitOn_of_not_mem ha, List.singleton_append, List.mem_cons] at h
    rcases h with rfl | h
    · exact ha
    · exact not_mem_of_mem_splitOn h
  · rw [splitOn_of_not_mem hs, List.mem_singleton] at h
    exact h ▸ hs
termination_by s.length
decreasing_by simp_all; omega

theorem joinWith_cons (sep : Char) (part : List Char) {parts : List (List Char)} (h : parts ≠ []) :
    joinWith sep (part :: parts) = part ++ sep :: joinWith sep parts := by
  cases parts with
  | nil => exact absurd rfl h
  | cons next rest => simp [joinWith, List.intercalate]

@[simp] theorem joinWith_singleton (sep : Char) (part : List Char) :
    joinWith sep [part] = part := by
  simp [joinWith, List.intercalate]

theorem joinWith_append (sep : Char) {as bs : List (List Char)} (ha : as ≠ []) (hb : bs ≠ []) :
    joinWith sep (as ++ bs) = joinWith sep as ++ sep :: joinWith sep bs := by
  induction as with
  | nil => exact absurd rfl ha
  | cons a as ih =>
    by_cases h : as = []
    · subst h
      rw [List.singleton_append, joinWith_cons sep a hb, joinWith_singleton]
    · rw [List.cons_append, joinWith_cons sep a (by simp [h]), ih h, joinWith_cons sep a h,
        List.append_assoc, List.cons_append]

/-- Parts without the separator are found again. -/
theorem splitOn_joinWith {sep : Char} {parts : List (List Char)} (hne : parts ≠ [])
    (h : ∀ part ∈ parts, sep ∉ part) : splitOn sep (joinWith sep parts) = parts := by
  induction parts with
  | nil => exact absurd rfl hne
  | cons part parts ih =>
    have hpart : splitOn sep part = [part] := splitOn_of_not_mem (h part List.mem_cons_self)
    by_cases hparts : parts = []
    · subst hparts
      rw [joinWith_singleton, hpart]
    · rw [joinWith_cons sep part hparts, splitOn_append_sep, hpart,
        ih hparts fun p hp => h p (List.mem_cons_of_mem part hp), List.singleton_append]

/-! ### Lines -/

theorem lines_ne_nil (s : List Char) : lines s ≠ [] :=
  splitOn_ne_nil '\n' s

theorem lines_of_not_mem {s : List Char} (h : '\n' ∉ s) : lines s = [s] :=
  splitOn_of_not_mem h

theorem lines_append_feed (a b : List Char) : lines (a ++ '\n' :: b) = lines a ++ lines b :=
  splitOn_append_sep '\n' a b

theorem not_mem_of_mem_lines {s l : List Char} (h : l ∈ lines s) : '\n' ∉ l :=
  not_mem_of_mem_splitOn h

theorem unlines_lines (s : List Char) : unlines (lines s) = s :=
  joinWith_splitOn '\n' s

/-- A text either is one line, or has a first line and a text after it. -/
theorem line_or_feed (s : List Char) :
    '\n' ∉ s ∨ ∃ a b, s = a ++ '\n' :: b ∧ '\n' ∉ a := by
  by_cases h : '\n' ∈ s
  · exact Or.inr (List.eq_append_cons_of_mem h)
  · exact Or.inl h

theorem flatMap_lines_ne_nil {ls : List (List Char)} (h : ls ≠ []) : ls.flatMap lines ≠ [] := by
  cases ls with
  | nil => exact absurd rfl h
  | cons l ls => simp [lines_ne_nil]

/-- Lines that are cut already stay as they are. -/
theorem flatMap_lines_of_not_mem {ls : List (List Char)} (h : ∀ l ∈ ls, '\n' ∉ l) :
    ls.flatMap lines = ls := by
  induction ls with
  | nil => rfl
  | cons l ls ih =>
    rw [List.flatMap_cons, lines_of_not_mem (h l (by simp)), ih fun l hl => h l (by simp [hl])]
    rfl

/-- The physical lines of a list of lines. -/
theorem lines_unlines {ls : List (List Char)} (h : ls ≠ []) :
    lines (unlines ls) = ls.flatMap lines := by
  induction ls with
  | nil => exact absurd rfl h
  | cons l ls ih =>
    by_cases hl : ls = []
    · subst hl
      simp [unlines]
    · rw [unlines, joinWith_cons '\n' l hl, lines_append_feed, List.flatMap_cons, ← ih hl]
      rfl

/-- The physical lines make the same text. -/
theorem unlines_flatMap_lines (ls : List (List Char)) :
    unlines (ls.flatMap lines) = unlines ls := by
  by_cases h : ls = []
  · subst h
    rfl
  · rw [← lines_unlines h, unlines_lines]

theorem unlines_append {as bs : List (List Char)} (ha : as ≠ []) (hb : bs ≠ []) :
    unlines (as ++ bs) = unlines as ++ '\n' :: unlines bs :=
  joinWith_append '\n' ha hb

/-- Lines put together, seen as lines that each follow a line feed. -/
theorem cons_unlines {ls : List (List Char)} (h : ls ≠ []) :
    '\n' :: unlines ls = ls.flatMap ('\n' :: ·) := by
  induction ls with
  | nil => exact absurd rfl h
  | cons l ls ih =>
    by_cases hl : ls = []
    · subst hl
      simp [unlines]
    · rw [unlines, joinWith_cons '\n' l hl, List.flatMap_cons, ← ih hl]
      rfl

/-- Lines put together, seen as lines that a line feed follows each. -/
theorem unlines_append_feed {ls : List (List Char)} (h : ls ≠ []) :
    unlines ls ++ ['\n'] = ls.flatMap (· ++ ['\n']) := by
  induction ls with
  | nil => exact absurd rfl h
  | cons l ls ih =>
    by_cases hl : ls = []
    · subst hl
      simp [unlines]
    · rw [unlines, joinWith_cons '\n' l hl, List.flatMap_cons, ← ih hl]
      simp [unlines]

/-! ### White space at the ends -/

theorem dropTrailing_append_of_not {p : Char → Bool} (s : List Char) {c : Char} (h : p c = false) :
    dropTrailing p (s ++ [c]) = s ++ [c] := by
  simp [dropTrailing, h]

/-- What stands before a character that stays, stays. -/
theorem dropTrailing_append_cons {p : Char → Bool} (s t : List Char) {c : Char} (h : p c = false) :
    dropTrailing p (s ++ c :: t) = s ++ c :: dropTrailing p t := by
  rw [dropTrailing, List.reverse_append, List.reverse_cons, List.append_assoc,
    List.dropWhile_append]
  split
  · next ht =>
    rw [List.isEmpty_iff] at ht
    simp [dropTrailing, ht, h]
  · simp [dropTrailing]

theorem mem_of_mem_dropTrailing {p : Char → Bool} {s : List Char} {c : Char}
    (h : c ∈ dropTrailing p s) : c ∈ s := by
  rw [dropTrailing, List.mem_reverse] at h
  exact List.mem_reverse.mp ((List.dropWhile_suffix p).subset h)

theorem dropEnds_of_ends {p : Char → Bool} {s : List Char} {a b : Char} {t u : List Char}
    (hs : s = a :: t) (he : s = u ++ [b]) (ha : p a = false) (hb : p b = false) :
    dropEnds p s = s := by
  rw [dropEnds, hs, List.dropWhile_cons_of_neg (by simp [ha]), ← hs, he,
    dropTrailing_append_of_not u hb]

theorem dropEnds_of_forall {p : Char → Bool} {s : List Char} (h : ∀ c ∈ s, p c = false) :
    dropEnds p s = s := by
  have hdrop : ∀ t : List Char, (∀ c ∈ t, p c = false) → t.dropWhile p = t := by
    intro t ht
    cases t with
    | nil => rfl
    | cons c t => exact List.dropWhile_cons_of_neg (by simp [ht c List.mem_cons_self])
  rw [dropEnds, hdrop s h, dropTrailing,
    hdrop s.reverse fun c hc => h c (List.mem_reverse.mp hc), List.reverse_reverse]

theorem allBlank_append (s t : List Char) : allBlank (s ++ t) = (allBlank s && allBlank t) :=
  List.all_append

theorem allBlank_cons (c : Char) (s : List Char) :
    allBlank (c :: s) = (isBlank c && allBlank s) :=
  List.all_cons

/-- Nothing is left of white space, and of nothing else. -/
theorem strip_eq_nil {s : List Char} : strip s = [] ↔ allBlank s := by
  simp only [strip, dropEnds, dropTrailing, allBlank, List.reverse_eq_nil_iff,
    List.dropWhile_eq_nil_iff, List.mem_reverse, List.all_eq_true]
  constructor
  · intro h c hc
    rw [← List.takeWhile_append_dropWhile (p := isBlank) (l := s)] at hc
    rcases List.mem_append.mp hc with hc | hc
    · exact List.mem_takeWhile_imp hc
    · exact h c hc
  · exact fun h c hc => h c ((List.dropWhile_sublist isBlank).subset hc)

end MacroScribe.Text
