import MacroScribe.Text.Split
import Mathlib.Data.List.Basic

/-!
# MacroScribe.Proofs.Text.Substitution

Replacing the matches of a pattern from left to right. A text in which no match begins is passed
over (`Starts.substitute_append`), and a text is replaced in by parts where no match of the first
part reaches into the second one (`substitute_append`).
-/

namespace MacroScribe.Text

/-- At a position of a text, how much of it matches and what replaces the match. -/
abbrev Pattern := List Char → Option (Nat × List Char)

variable {p : Pattern}

theorem substituteFrom_eq (skip : Nat) (s : List Char) :
    substituteFrom p skip s = substitute p (s.drop skip) := by
  induction s generalizing skip with
  | nil =>
    rw [List.drop_nil]
    cases skip <;> rfl
  | cons c s ih =>
    cases skip with
    | zero => rfl
    | succ skip => exact ih skip

theorem substitute_nil : substitute p [] = [] := rfl

theorem substitute_cons_of_none {c : Char} {s : List Char} (h : p (c :: s) = none) :
    substitute p (c :: s) = c :: substitute p s := by
  rw [substitute, substituteFrom, h]
  rfl

theorem substitute_cons_of_some {c : Char} {s text : List Char} {n : Nat}
    (h : p (c :: s) = some (n, text)) :
    substitute p (c :: s) = text ++ substitute p (s.drop (n - 1)) := by
  rw [substitute, substituteFrom, h, ← substituteFrom_eq]

/-! ### Where matches begin -/

/-- Every match begins with this character. -/
def Pattern.Starts (p : Pattern) (first : Char) : Prop :=
  ∀ c s, c ≠ first → p (c :: s) = none

namespace Pattern.Starts

variable {first : Char}

/-- A text without the character that matches begin with is passed over. -/
theorem substitute_append (h : p.Starts first) {a : List Char} (ha : first ∉ a) (b : List Char) :
    substitute p (a ++ b) = a ++ substitute p b := by
  induction a with
  | nil => rfl
  | cons c a ih =>
    rw [List.mem_cons, not_or] at ha
    rw [List.cons_append, substitute_cons_of_none (h c _ (Ne.symm ha.1)), ih ha.2, List.cons_append]

theorem substitute_eq (h : p.Starts first) {s : List Char} (hs : first ∉ s) :
    substitute p s = s := by
  have happend := h.substitute_append hs []
  rwa [List.append_nil, substitute_nil, List.append_nil] at happend

theorem substitute_cons (h : p.Starts first) {c : Char} (hc : c ≠ first) (s : List Char) :
    substitute p (c :: s) = c :: substitute p s :=
  substitute_cons_of_none (h c s hc)

end Pattern.Starts

/-! ### Where matches end -/

/-- A match is not empty and ends where the text does, or before. -/
def Pattern.Ends (p : Pattern) : Prop :=
  ∀ c s n text, p (c :: s) = some (n, text) → n - 1 ≤ s.length

/-- No match reaches from what is before the text into it, nor is one made by it. -/
def Pattern.Bounded (p : Pattern) (b : List Char) : Prop :=
  ∀ c r, p (c :: (r ++ b)) = p (c :: r)

/-- Before a text into which no match reaches, the matches are those of the first part alone. -/
theorem substitute_append {b : List Char} (hends : p.Ends) (hb : p.Bounded b) (a : List Char) :
    substitute p (a ++ b) = substitute p a ++ substitute p b := by
  match a with
  | [] => rfl
  | c :: a =>
    cases hmatch : p (c :: a) with
    | none =>
      rw [List.cons_append, substitute_cons_of_none ((hb c a).trans hmatch),
        substitute_append hends hb a, substitute_cons_of_none hmatch, List.cons_append]
    | some found =>
      obtain ⟨n, text⟩ := found
      have hrest : (a ++ b).drop (n - 1) = a.drop (n - 1) ++ b :=
        List.drop_append_of_le_length (hends c a n text hmatch)
      rw [List.cons_append, substitute_cons_of_some ((hb c a).trans hmatch), hrest,
        substitute_append hends hb (a.drop (n - 1)), substitute_cons_of_some hmatch,
        List.append_assoc]
termination_by a.length
decreasing_by all_goals grind

/-! ### What is left -/

/-- Of characters that no replacement has, the result has at most those of the text. -/
theorem filter_substitute_sublist {keep : Char → Bool}
    (h : ∀ s n text, p s = some (n, text) → text.filter keep = []) (s : List Char) :
    ((substitute p s).filter keep).Sublist (s.filter keep) := by
  match s with
  | [] => exact List.Sublist.refl _
  | c :: s =>
    cases hmatch : p (c :: s) with
    | none =>
      rw [substitute_cons_of_none hmatch]
      have hrest := filter_substitute_sublist h s
      rw [← List.singleton_append, List.filter_append, ← List.singleton_append (l := s),
        List.filter_append]
      exact hrest.append_left _
    | some found =>
      obtain ⟨n, text⟩ := found
      rw [substitute_cons_of_some hmatch, List.filter_append, h _ n text hmatch, List.nil_append]
      have hsuffix : s.drop (n - 1) <:+ c :: s :=
        (List.drop_suffix _ _).trans (List.suffix_cons c s)
      exact (filter_substitute_sublist h _).trans (hsuffix.sublist.filter keep)
termination_by s.length
decreasing_by all_goals grind

end MacroScribe.Text
