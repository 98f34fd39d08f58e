import Mathlib.Data.List.Basic

/-!
# MacroScribe.Proofs.Rtf.Shift

Why a text with backslashes is not its own preview. A preview replaces the text piece by piece,
where each piece begins with a backslash: it doubles the backslash, or it shows less than the piece
has (`Shift`). Some pieces grow and others shrink, so lengths alone do not settle that the whole
cannot come back unchanged. The argument goes through the pieces from the last one to the first:
whatever a preview has beyond the text is backslashes only (`Shifts.surplus`), and it never falls
behind the text by backslashes only (`Shifts.ne_append_replicate`).
-/

namespace MacroScribe.Rtf

/-- What is shown for a backslash and what follows it, up to white space: the backslash twice, or
not more than what follows it, and something else. A piece that ends with a backslash and does not
double the first one shows that alone. -/
inductive Shift : List Char → List Char → Prop where
  | doubled {q : List Char} (hq : '\\' ∉ q) : Shift ('\\' :: q) ('\\' :: '\\' :: q)
  | short {c : Char} {q o : List Char} (hc : c ≠ '\\') (hlength : o.length ≤ (c :: q).length)
      (hne : o ≠ c :: q) (hend : o = ['\\'] ∨ (c :: q).getLast? ≠ some '\\') :
      Shift ('\\' :: c :: q) o

/-- What is shown for pieces one after the other. -/
inductive Shifts : List Char → List Char → Prop where
  | nil : Shifts [] []
  | snoc {x y z o : List Char} (h : Shifts x y) (hlast : Shift z o) : Shifts (x ++ z) (y ++ o)

theorem Shifts.cons {x y z o : List Char} (hfirst : Shift z o) (h : Shifts x y) :
    Shifts (z ++ x) (o ++ y) := by
  induction h with
  | nil => simpa using Shifts.nil.snoc hfirst
  | snoc h hlast ih =>
    rw [← List.append_assoc, ← List.append_assoc]
    exact ih.snoc hlast

/-- Backslashes at the beginning of a text that has one there. -/
theorem eq_nil_or_single {c : Char} {s v t : List Char} (hc : c ≠ '\\') (hv : ∀ a ∈ v, a = '\\')
    (h : '\\' :: c :: s = v ++ t) : v = [] ∨ v = ['\\'] := by
  match v with
  | [] => exact .inl rfl
  | [a] => exact .inr (by rw [hv a List.mem_cons_self])
  | a :: b :: v =>
    have hcb : c = b := (List.cons.inj (List.cons.inj h).2).1
    exact absurd (hcb.trans (hv b (by simp))) hc

namespace Shift

variable {z o v w : List Char}

/-- If a piece is shown later than where it stands, what is shown goes beyond it by backslashes. -/
theorem surplus_of_behind (h : Shift z o) (ho : o = v ++ (z ++ w)) : ∀ a ∈ w, a = '\\' := by
  have hlong := congrArg List.length ho
  cases h with
  | @doubled q hq =>
    simp only [List.length_cons, List.length_append] at hlong
    match v, w with
    | _, [] => exact List.forall_mem_nil _
    | b :: v, a :: w =>
      simp only [List.length_cons] at hlong
      omega
    | [], a :: w =>
      simp only [List.length_nil, List.length_cons] at hlong
      have hw : w = [] := List.eq_nil_of_length_eq_zero (by omega)
      have hrest : '\\' :: q = q ++ [a] := by simpa [hw] using ho
      cases q with
      | nil => simpa [hw] using hrest.symm
      | cons c q => exact absurd (List.cons.inj hrest).1.symm fun heq => hq (by simp [heq])
  | @short c q _ hc hlength =>
    simp only [List.length_cons, List.length_append] at hlong hlength
    omega

/-- If a piece is shown earlier than where it stands, by backslashes, what is shown goes beyond it
by backslashes. -/
theorem surplus_of_ahead (h : Shift z o) (hv : ∀ a ∈ v, a = '\\') (hz : z ++ w = v ++ o) :
    ∀ a ∈ w, a = '\\' := by
  cases h with
  | @doubled q hq =>
    cases q with
    | nil =>
      intro a ha
      have hmem : a ∈ v ++ ['\\', '\\'] := hz ▸ List.mem_cons_of_mem _ ha
      rcases List.mem_append.mp hmem with hmem | hmem
      · exact hv a hmem
      · simpa using hmem
    | cons c q =>
      have hc : c ≠ '\\' := fun heq => hq (heq ▸ List.mem_cons_self)
      rcases eq_nil_or_single hc hv hz with rfl | rfl
      · exact absurd (List.cons.inj (List.cons.inj hz).2).1 hc
      · exact absurd (List.cons.inj (List.cons.inj hz).2).1 hc
  | @short c q _ hc hlength =>
    have hlong := congrArg List.length hz
    simp only [List.length_cons, List.length_append] at hlong hlength
    rcases eq_nil_or_single hc hv hz with rfl | rfl
    · simp only [List.length_nil] at hlong
      omega
    · simp only [List.length_cons, List.length_nil] at hlong
      have hnil : w = [] := List.eq_nil_of_length_eq_zero (by omega)
      rw [hnil]
      exact List.forall_mem_nil _

end Shift

namespace Shifts

variable {x y : List Char}

/-- What is shown beyond the text itself is nothing but backslashes. -/
theorem surplus (h : Shifts x y) {w : List Char} (hw : y = x ++ w) : ∀ a ∈ w, a = '\\' := by
  induction h generalizing w with
  | nil =>
    obtain rfl : [] = w := hw
    exact List.forall_mem_nil _
  | snoc _ hlast ih =>
    rw [List.append_assoc, List.append_eq_append_iff] at hw
    rcases hw with ⟨v, -, ho⟩ | ⟨v, hy, hz⟩
    · exact hlast.surplus_of_behind ho
    · exact hlast.surplus_of_ahead (ih hy) hz

/-- What is shown is never behind the text by backslashes only. -/
theorem ne_append_replicate (h : Shifts x y) (m : Nat) : x ≠ y ++ List.replicate (m + 1) '\\' := by
  intro hx
  induction h generalizing m with
  | nil => simp at hx
  | @snoc x y z o hbefore hlast ih =>
    have hconcat : x ++ z = y ++ o ++ List.replicate m '\\' ++ ['\\'] := by
      rw [hx, List.append_assoc _ _ ['\\'], ← List.replicate_succ']
    cases hlast with
    | @doubled q hq =>
      cases q with
      | nil =>
        have hback : x ++ ['\\'] = y ++ List.replicate (m + 2) '\\' ++ ['\\'] := by
          rw [hconcat, List.append_assoc y]
          rfl
        exact ih (m + 1) (List.append_cancel_right hback)
      | cons c q =>
        have hlast := congrArg List.getLast? hconcat
        rw [List.getLast?_concat, List.getLast?_append_cons, List.getLast?_cons_cons] at hlast
        exact hq (List.mem_of_getLast? hlast)
    | @short c q _ hc hlength hne hend =>
      rcases hend with rfl | hend
      · -- Only backslashes are shown from the piece on, and it has another character.
        rw [List.append_assoc] at hx
        have hall : ∀ a ∈ ['\\'] ++ List.replicate (m + 1) '\\', a = '\\' := by
          intro a ha
          rw [List.singleton_append, ← List.replicate_succ] at ha
          exact List.eq_of_mem_replicate ha
        rcases List.append_eq_append_iff.mp hx with ⟨v, hy, hz⟩ | ⟨v, -, ho⟩
        · have hmem : c ∈ v ++ (['\\'] ++ List.replicate (m + 1) '\\') := by
            rw [← hz]
            exact List.mem_cons_of_mem _ List.mem_cons_self
          rcases List.mem_append.mp hmem with hmem | hmem
          · exact hc (hbefore.surplus hy c hmem)
          · exact hc (hall c hmem)
        · exact hc (hall c (by simp [ho]))
      · have hlast := congrArg List.getLast? hconcat
        rw [List.getLast?_concat, List.getLast?_append_cons, List.getLast?_cons_cons] at hlast
        exact hend hlast

/-- A text with a piece is not shown as it is. -/
theorem eq_nil_of_eq (h : Shifts x y) (hxy : x = y) : x = [] := by
  cases h with
  | nil => rfl
  | @snoc x y z o hbefore hlast =>
    exfalso
    cases hlast with
    | @doubled q hq =>
      refine hbefore.ne_append_replicate 0 ?_
      have hsplit : x ++ '\\' :: q = y ++ ['\\'] ++ '\\' :: q := by simpa using hxy
      exact List.append_cancel_right hsplit
    | @short c q _ hc hlength hne hend =>
      rcases List.append_eq_append_iff.mp hxy with ⟨v, hy, hz⟩ | ⟨v, -, ho⟩
      · rcases eq_nil_or_single hc (hbefore.surplus hy) hz with rfl | rfl
        · rw [List.nil_append] at hz
          exact absurd hlength (by simp [← hz])
        · exact hne (List.cons.inj hz).2.symm
      · have hlong := congrArg List.length ho
        simp only [List.length_cons, List.length_append] at hlong hlength
        omega

end Shifts
end MacroScribe.Rtf
