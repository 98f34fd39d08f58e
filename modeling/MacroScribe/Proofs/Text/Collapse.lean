import MacroScribe.Text.Class
import Mathlib.Data.List.SplitBy

/-!
# MacroScribe.Proofs.Text.Collapse

Texts up to white space. Collapsing a text changes none of the characters that can be seen
(`visible_collapse`), and white space at its beginning does not matter (`collapse_append`).
-/

namespace MacroScribe.Text

/-- The characters of a text that are not white space. -/
def visible (s : List Char) : List Char :=
  s.filter (!isBlank ·)

@[simp] theorem visible_nil : visible [] = [] := rfl

theorem visible_append (a b : List Char) : visible (a ++ b) = visible a ++ visible b :=
  List.filter_append ..

theorem visible_cons_of_blank {c : Char} (h : isBlank c) (s : List Char) :
    visible (c :: s) = visible s :=
  List.filter_cons_of_neg (by simp [h])

theorem visible_cons_of_not_blank {c : Char} (h : isBlank c = false) (s : List Char) :
    visible (c :: s) = c :: visible s :=
  List.filter_cons_of_pos (by simp [h])

theorem mem_visible {c : Char} {s : List Char} : c ∈ visible s ↔ c ∈ s ∧ isBlank c = false := by
  rw [visible, List.mem_filter, Bool.not_eq_true']

theorem visible_eq_nil_iff {s : List Char} : visible s = [] ↔ allBlank s := by
  rw [visible, List.filter_eq_nil_iff, allBlank, List.all_eq_true]
  refine forall₂_congr fun c _ => ?_
  rw [Bool.not_eq_true', Bool.not_eq_false]

/-- A class of which no range meets one of white space has no white space. -/
theorem isBlank_of_inClass {t : List CodeRange}
    (hapart : ∀ r ∈ blankTable, ∀ d ∈ t, r.last < d.first ∨ d.last < r.first) {c : Char}
    (hc : inClass t c) : isBlank c = false := by
  obtain ⟨d, hd, hholds⟩ := List.any_eq_true.mp hc
  rw [isBlank, inClass, List.any_eq_false]
  intro r hr hblank
  have hranges := hapart r hr d hd
  simp only [CodeRange.holds, Bool.and_eq_true, decide_eq_true_eq] at hblank hholds
  omega

/-- The printable ASCII characters. -/
theorem isBlank_of_printable {c : Char} (hlow : 0x21 ≤ c.toNat) (hhigh : c.toNat ≤ 0x7e) :
    isBlank c = false := by
  refine isBlank_of_inClass (t := [⟨0x21, 0x7e⟩]) (by decide) ?_
  simp [inClass, CodeRange.holds, hlow, hhigh]

/-! ### Collapsing -/

/-- Texts with spaces between them, seen without white space. -/
theorem visible_intercalate (words : List (List Char)) :
    visible ([' '].intercalate words) = words.flatMap visible := by
  have hspace : visible [' '] = [] := by decide
  induction words with
  | nil => rfl
  | cons w words ih =>
    cases words with
    | nil => simp [List.intercalate]
    | cons w' words =>
      have hsplit : [' '].intercalate (w :: w' :: words) =
          w ++ [' '] ++ [' '].intercalate (w' :: words) := by
        simp [List.intercalate]
      rw [hsplit, visible_append, visible_append, hspace, ih, List.append_nil]
      rfl

/-- Collapsing leaves what can be seen. -/
theorem visible_collapse (s : List Char) : visible (collapse s) = visible s := by
  have hruns (runs : List (List Char)) :
      (runs.filter (!allBlank ·)).flatMap visible = runs.flatMap visible := by
    induction runs with
    | nil => rfl
    | cons r runs ih =>
      by_cases hr : allBlank r
      · rw [List.filter_cons_of_neg (by simp [hr]), ih, List.flatMap_cons,
          visible_eq_nil_iff.mpr hr, List.nil_append]
      · rw [List.filter_cons_of_pos (by simp [hr]), List.flatMap_cons, ih, List.flatMap_cons]
  rw [collapse, visible_intercalate, hruns]
  conv_rhs => rw [← List.flatten_splitBy (fun a b => isBlank a == isBlank b) s]
  rw [visible, List.filter_flatten, List.flatMap]
  rfl

/-- Runs of white space alone are left out. -/
theorem filter_splitBy_of_allBlank {s : List Char} (h : allBlank s) :
    (s.splitBy fun a b => isBlank a == isBlank b).filter (!allBlank ·) = [] := by
  rw [List.filter_eq_nil_iff]
  intro run hrun
  have hall : allBlank run := by
    rw [allBlank, List.all_eq_true] at h ⊢
    intro c hc
    refine h c ?_
    rw [← List.flatten_splitBy (fun a b => isBlank a == isBlank b) s]
    exact List.mem_flatten_of_mem hrun hc
  simp [hall]

theorem collapse_dropWhile (s : List Char) : collapse (s.dropWhile isBlank) = collapse s := by
  have htake : ∀ c ∈ s.takeWhile isBlank, isBlank c :=
    List.all_eq_true.mp List.all_takeWhile
  -- A run of the text ends where its leading white space does.
  have hends : ∀ x ∈ (s.takeWhile isBlank).getLast?, ∀ y ∈ (s.dropWhile isBlank).head?,
      (isBlank x == isBlank y) = false := by
    intro x hx y hy
    have hnot := List.head?_dropWhile_not isBlank s
    rw [Option.mem_def.mp hy] at hnot
    have hblank : isBlank y = false := by simpa using hnot
    rw [htake x (List.mem_of_mem_getLast? hx), hblank]
    rfl
  have hsplit := List.splitBy_append (r := fun a b => isBlank a == isBlank b) hends
  rw [List.takeWhile_append_dropWhile] at hsplit
  rw [collapse, collapse, hsplit, List.filter_append,
    filter_splitBy_of_allBlank List.all_takeWhile, List.nil_append]

/-- White space at the beginning of a text does not matter. -/
theorem collapse_append {a : List Char} (ha : allBlank a) (s : List Char) :
    collapse (a ++ s) = collapse s := by
  rw [← collapse_dropWhile (a ++ s), List.dropWhile_append_of_pos (List.all_eq_true.mp ha),
    collapse_dropWhile]

end MacroScribe.Text
