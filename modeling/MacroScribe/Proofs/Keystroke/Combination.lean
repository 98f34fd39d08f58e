import MacroScribe.Proofs.Keystroke.Respelling

/-!
# MacroScribe.Proofs.Keystroke.Combination

Two ways to the mask of a shortcut that consists of modifiers: the table of combinations, under the
names of the modifiers in their order, and the sum of the bits. The table has all sixteen
combinations, each spelled in that order (`Modifier.combinationMask?_join`), so the two ways agree,
and the only shortcuts without a mask are those with a token that names no modifier
(`Shortcut.comboMask_agrees`).
-/

namespace MacroScribe

open Outcome

namespace Modifier

/-- The table has each combination under the names in their order, and with the sum of the bits. -/
theorem combinationMask?_join (mods : List Modifier) :
    combinationMask? (join (sorted mods)) = some (mask mods) := by
  simp only [mask, sorted, all, List.filter_cons, List.filter_nil]
  cases mods.contains cmd <;> cases mods.contains option <;> cases mods.contains shift <;>
    cases mods.contains control <;> decide +kernel

end Modifier

namespace Shortcut

/-- Each of the tokens names a modifier. -/
def AllNamed (tokens : List String) : Prop :=
  ∀ token ∈ tokens, (Modifier.ofAlias? token).isSome

/-- Tokens that each name a modifier are looked up one by one. -/
theorem mapM_ofAlias? {tokens : List String} (h : AllNamed tokens) :
    tokens.mapM Modifier.ofAlias? = some (namedModifiers tokens) := by
  induction tokens with
  | nil => rfl
  | cons token rest ih =>
    obtain ⟨hfirst, hrest⟩ := List.forall_mem_cons.mp h
    obtain ⟨m, hm⟩ := Option.isSome_iff_exists.mp hfirst
    have hnamed : namedModifiers (token :: rest) = m :: namedModifiers rest :=
      List.filterMap_cons_some hm
    rw [List.mapM_cons, hm, ih hrest, hnamed]
    rfl

theorem mapM_ofAlias?_eq_none {tokens : List String} (h : ¬AllNamed tokens) :
    tokens.mapM Modifier.ofAlias? = none := by
  induction tokens with
  | nil => exact absurd (List.forall_mem_nil _) h
  | cons token rest ih =>
    rw [List.mapM_cons]
    cases hm : Modifier.ofAlias? token with
    | none => rfl
    | some m =>
      have hrest : ¬AllNamed rest := by
        intro hrest
        exact h (List.forall_mem_cons.mpr ⟨Option.isSome_iff_exists.mpr ⟨m, hm⟩, hrest⟩)
      rw [ih hrest]
      rfl

theorem namedModifiers_ne_nil {tokens : List String} (h : AllNamed tokens) (hne : tokens ≠ []) :
    namedModifiers tokens ≠ [] := by
  obtain ⟨token, rest, rfl⟩ := List.exists_cons_of_ne_nil hne
  obtain ⟨m, hm⟩ := Option.isSome_iff_exists.mp (h token List.mem_cons_self)
  rw [namedModifiers, List.filterMap_cons_some hm]
  exact List.cons_ne_nil _ _

theorem keyTokens_eq_nil {tokens : List String} (h : AllNamed tokens) : keyTokens tokens = [] := by
  refine List.filter_eq_nil_iff.mpr fun token htoken => ?_
  rw [Option.isNone_iff_eq_none]
  exact Option.isSome_iff_ne_none.mp (h token htoken)

/-- What a shortcut is parsed to when all its tokens name modifiers. -/
theorem parse_of_allNamed {text : String} (h : AllNamed (tokens text)) :
    parse text = ⟨Modifier.sorted (namedModifiers (tokens text)), ""⟩ := by
  rw [parse, ofTokens, Shortcut.mk.injEq]
  refine ⟨rfl, ?_⟩
  change (keyTokens (tokens text)).getLast?.getD "" = ""
  rw [keyTokens_eq_nil h]
  rfl

/-- A shortcut of modifiers has the sum of their bits as its mask. -/
theorem comboMask_of_allNamed {combo : String} (h : AllNamed (tokens combo)) :
    comboMask combo = .ok (Modifier.mask (namedModifiers (tokens combo))) := by
  simp only [comboMask, mapM_ofAlias? h, Modifier.combinationMask?_join]

theorem comboMask_of_not_allNamed {combo : String} (h : ¬AllNamed (tokens combo)) :
    comboMask combo = .error (.keystroke (.unknownCombination combo)) := by
  simp only [comboMask, mapM_ofAlias?_eq_none h]

theorem normalize_of_allNamed {text : String} (h : AllNamed (tokens text))
    (hne : tokens text ≠ []) :
    Keystroke.normalize (.shortcut text) =
      .ok ⟨Modifier.mask (namedModifiers (tokens text)), none⟩ := by
  have hsorted : Modifier.sorted (namedModifiers (tokens text)) ≠ [] := by
    obtain ⟨m, hm⟩ := List.exists_mem_of_ne_nil _ (namedModifiers_ne_nil h hne)
    exact List.ne_nil_of_mem (Modifier.mem_sorted.mpr hm)
  rw [Keystroke.normalize, parse_of_allNamed h, Keystroke.ofShortcut, if_pos ⟨rfl, hsorted⟩,
    Modifier.mask_sorted]

/-- The mask of a combination is found in the table exactly if each of its tokens names a modifier.
It is then the sum of the bits of the modifiers that the shortcut is parsed to, which are read off
it again, and the mask of the normal form, where no key is pressed. Any other combination is refused
as an unknown one; the table never fails. -/
theorem comboMask_agrees (s : String) :
    (Passes (comboMask s) ↔ ∀ token ∈ tokens s, (Modifier.ofAlias? token).isSome) ∧
    (∀ f, comboMask s = .error f → f = .keystroke (.unknownCombination s)) ∧
    (∀ m, comboMask s = .ok m →
      m = Modifier.mask (parse s).modifiers ∧ Modifier.ofMask m = (parse s).modifiers ∧
      (tokens s ≠ [] → Keystroke.normalize (.shortcut s) = .ok ⟨m, none⟩)) := by
  by_cases h : AllNamed (tokens s)
  · rw [comboMask_of_allNamed h]
    refine ⟨iff_of_true ⟨_, rfl⟩ h, by rintro f ⟨⟩, ?_⟩
    rintro _ ⟨⟩
    rw [parse_of_allNamed h]
    exact ⟨(Modifier.mask_sorted _).symm, Modifier.ofMask_mask _, normalize_of_allNamed h⟩
  · rw [comboMask_of_not_allNamed h]
    refine ⟨iff_of_false (by rintro ⟨_, ⟨⟩⟩) h, ?_, by rintro m ⟨⟩⟩
    rintro _ ⟨⟩
    rfl

/-- Both ways for modifiers that are repeated and not in order, and a combination that has none. -/
theorem comboMask_agrees_optionShift :
    comboMask "Shift+ Alt ++ShiftLeft" = .ok 2560 ∧
      Modifier.ofMask 2560 = (parse "Shift+ Alt ++ShiftLeft").modifiers ∧
      Keystroke.normalize (.shortcut "Shift+ Alt ++ShiftLeft") = .ok ⟨2560, none⟩ ∧
      ¬Passes (comboMask "Shift+KeyD") := by
  obtain ⟨-, -, hmask⟩ := comboMask_agrees "Shift+ Alt ++ShiftLeft"
  obtain ⟨hpasses, -, -⟩ := comboMask_agrees "Shift+KeyD"
  have hcombo : comboMask "Shift+ Alt ++ShiftLeft" = .ok 2560 := rfl
  obtain ⟨-, hmods, hnormal⟩ := hmask 2560 hcombo
  refine ⟨hcombo, hmods, hnormal (by decide), fun h => ?_⟩
  exact absurd (hpasses.mp h) (by decide)

end Shortcut
end MacroScribe
