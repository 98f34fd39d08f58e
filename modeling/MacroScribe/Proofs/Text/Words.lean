import Mathlib.Data.List.SplitBy
import MacroScribe.Text.Case
import MacroScribe.Text.Word

/-!
# MacroScribe.Proofs.Text.Words

The words of a text are its runs of word characters that stand alone: nothing at their sides would
make them longer. Cutting a text into runs finds all of them (`mem_words_of_standsAlone`) and
nothing else (`standsAlone_of_mem_words`).
-/

namespace MacroScribe.Text

/-- The part of a text has no word characters at its sides. -/
def StandsAlone (before after : List Char) : Prop :=
  (∀ c ∈ before.getLast?, isWord c = false) ∧ ∀ c ∈ after.head?, isWord c = false

/-- The characters stand in one run: both are word characters, or neither is. -/
def alike (a b : Char) : Bool :=
  isWord a == isWord b

theorem words_eq (s : List Char) : words s = (s.splitBy alike).filter (·.any isWord) := rfl

/-- A run of word characters that stands alone is one of the words. -/
theorem mem_words_of_standsAlone {before word after : List Char} (hne : word ≠ [])
    (hword : ∀ c ∈ word, isWord c) (h : StandsAlone before after) :
    word ∈ words (before ++ (word ++ after)) := by
  have hchain : word.IsChain fun a b => alike a b :=
    (List.pairwise_of_forall_mem_list fun a ha b hb => by
      simp [alike, hword a ha, hword b hb]).isChain
  have hleft : ∀ x ∈ before.getLast?, ∀ y ∈ (word ++ after).head?, alike x y = false := by
    intro x hx y hy
    rw [List.head?_append_of_ne_nil _ hne] at hy
    simp [alike, h.1 x hx, hword y (List.mem_of_mem_head? hy)]
  have hright : ∀ x ∈ word.getLast?, ∀ y ∈ after.head?, alike x y = false := by
    intro x hx y hy
    simp [alike, h.2 y hy, hword x (List.mem_of_mem_getLast? hx)]
  obtain ⟨c, hc⟩ := List.exists_mem_of_ne_nil word hne
  rw [words_eq, List.splitBy_append hleft, List.splitBy_append hright,
    List.splitBy_of_isChain hne hchain]
  exact List.mem_filter.mpr ⟨by simp, List.any_eq_true.mpr ⟨c, hc, hword c hc⟩⟩

/-- A run has word characters only, if it has one. -/
theorem isWord_of_isChain {word : List Char} (h : word.IsChain fun a b => alike a b)
    (hany : word.any isWord) : ∀ c ∈ word, isWord c := by
  obtain ⟨d, hd, hdw⟩ := List.any_eq_true.mp hany
  have htrans : IsTrans Char fun a b => alike a b :=
    ⟨fun a b c hab hbc => by simp_all [alike]⟩
  have hsymm : Std.Symm fun a b : Char => (alike a b : Prop) :=
    ⟨fun a b hab => by simp_all [alike]⟩
  have hpairs := List.isChain_iff_pairwise.mp h
  intro c hc
  have hcd : alike c d := hpairs.forall_of_forall (fun x _ => by simp [alike]) hc hd
  simpa [alike, hdw] using hcd

/-- The words of a text are runs of word characters that stand alone in it. -/
theorem standsAlone_of_mem_words {word s : List Char} (h : word ∈ words s) :
    ∃ before after, s = before ++ (word ++ after) ∧ StandsAlone before after := by
  obtain ⟨hrun, hany⟩ := List.mem_filter.mp (words_eq s ▸ h)
  have hword := isWord_of_isChain (List.isChain_of_mem_splitBy hrun) hany
  have hbounds := List.isChain_getLast_head_splitBy alike s
  obtain ⟨pre, post, hsplit⟩ := List.append_of_mem hrun
  have hs : s = pre.flatten ++ (word ++ post.flatten) := by
    rw [← List.flatten_splitBy alike s, hsplit, List.flatten_append, List.flatten_cons]
  have hnil : ∀ run ∈ pre ++ word :: post, run ≠ [] :=
    fun run hmem => List.ne_nil_of_mem_splitBy (hsplit ▸ hmem)
  rw [hsplit, List.isChain_append, List.isChain_cons] at hbounds
  obtain ⟨-, ⟨hpost, -⟩, hpre⟩ := hbounds
  refine ⟨pre.flatten, post.flatten, hs, fun c hc => ?_, fun c hc => ?_⟩
  · obtain rfl | ⟨init, run, rfl⟩ := List.eq_nil_or_concat pre
    · simp at hc
    · have hne : run ≠ [] := hnil run (by simp)
      obtain ⟨_, _, hdiffer⟩ := hpre run (by simp) word (by simp)
      rw [List.concat_eq_append, List.flatten_concat, List.getLast?_append_of_ne_nil _ hne] at hc
      simpa [alike, List.getLast_of_mem_getLast? hc, hword _ (List.head_mem _)] using hdiffer
  · cases post with
    | nil => simp at hc
    | cons run post =>
      have hne : run ≠ [] := hnil run (by simp)
      obtain ⟨_, _, hdiffer⟩ := hpost run (by simp)
      rw [List.flatten_cons, List.head?_append_of_ne_nil _ hne] at hc
      simpa [alike, List.head_of_mem_head? hc, hword _ (List.getLast_mem _)] using hdiffer

/-! ### Letters -/

/-- The letters of ASCII are word characters. -/
theorem isWord_of_isAlpha {c : Char} (h : c.isAlpha) : isWord c := by
  have hupper : ⟨0x41, 0x5a⟩ ∈ wordTable := .tail _ (.head _)
  have hlower : ⟨0x61, 0x7a⟩ ∈ wordTable := .tail _ (.tail _ (.tail _ (.head _)))
  have hcode : (0x41 ≤ c.toNat ∧ c.toNat ≤ 0x5a) ∨ (0x61 ≤ c.toNat ∧ c.toNat ≤ 0x7a) := by
    unfold Char.isAlpha Char.isUpper Char.isLower at h
    simpa [UInt32.le_iff_toNat_le] using h
  rcases hcode with hc | hc
  · exact List.any_eq_true.mpr ⟨_, hupper, by simpa [CodeRange.holds] using hc⟩
  · exact List.any_eq_true.mpr ⟨_, hlower, by simpa [CodeRange.holds] using hc⟩

theorem isAlpha_of_toLower {c : Char} (h : c.toLower.isLower) : c.isAlpha := by
  refine Bool.or_eq_true_iff.mpr ?_
  unfold Char.toLower at h
  split at h
  · next hcapital =>
    refine .inl ?_
    unfold Char.isUpper
    simpa using hcapital
  · exact .inr h

/-- What stands for a letter when case is disregarded is a word character. -/
theorem isWord_of_foldChar {c : Char} (h : (foldChar c).isLower) : isWord c := by
  unfold foldChar at h
  split at h
  · next hc =>
    rcases (by simpa using hc : c = 'ı' ∨ c = 'İ') with rfl | rfl <;> decide +kernel
  split at h
  · next hc =>
    subst hc
    decide +kernel
  split at h
  · next hc =>
    subst hc
    decide +kernel
  · exact isWord_of_isAlpha (isAlpha_of_toLower h)

end MacroScribe.Text
