import MacroScribe.Proofs.Decimal.Scripts
import MacroScribe.Proofs.Keystroke.Spelling
import MacroScribe.Proofs.Service.Answer

/-!
# MacroScribe.Proofs.Keystroke.Refusal

Which shortcuts and codes are refused with a failure of another kind than that of keystrokes. There
are three reasons for one: the table of keys has no letter for the upper case of a character
(`KeyCode.IsPlain`), a digit is none of positional notation, or a number has more digits than are
converted. `normalize_refuses_iff` says that there are no others. The service answers a request for
a keystroke if what it is refused with is of the kind of keystrokes.
-/

namespace MacroScribe

open Outcome Text

namespace KeyCode

open Decimal

/-! ### Numbers -/

theorem length_natText_of_isCode {code : Int} (h : isCode code) :
    (natText code.natAbs).length ≤ maxDigits := by
  simp only [isCode, Bool.and_eq_true, decide_eq_true_eq] at h
  exact Nat.le_trans (Nat.toDigits_length 10 _ 3 (by decide) (by omega)) (by decide)

/-- A code beyond the range is reported as such if it can be written. -/
theorem failsAs_checked (code : Int) :
    FailsAs .keystroke (checked code) ↔ (natText code.natAbs).length ≤ maxDigits := by
  unfold checked
  by_cases hcode : isCode code
  · rw [if_pos hcode]
    exact iff_of_true (failsAs_ok _) (length_natText_of_isCode hcode)
  · rw [if_neg hcode]
    by_cases hlong : maxDigits < (natText code.natAbs).length
    · rw [if_pos hlong, failsAs_misused]
      simp only [Misuse.kind, reduceCtorEq, false_iff]
      omega
    · rw [if_neg hlong, failsAs_error]
      exact iff_of_true rfl (Nat.le_of_not_lt hlong)

theorem failsAs_integerOfText {s : String} {f : IntegerFault} (h : readInt s.toList = .error f) :
    ¬FailsAs .keystroke (integerOfText s >>= checked) := by
  rw [integerOfText, h]
  cases f with
  | malformed | tooLong => exact fun h => absurd (failsAs_misused.mp h) (by simp [Misuse.kind])

/-- A number in digits is a code or beyond the range if the digits are convertible. -/
theorem failsAs_number {s : String} (hdigits : ∀ c ∈ s.toList, isDigit c) (hne : s.toList ≠ []) :
    FailsAs .keystroke (integerOfText s >>= checked) ↔ Convertible s.toList := by
  by_cases hconvertible : Convertible s.toList
  · obtain ⟨n, hread, hlength⟩ := readInt_of_convertible hne hconvertible
    have hinteger : integerOfText s = .ok n := by rw [integerOfText, hread]
    rw [hinteger]
    exact iff_of_true ((failsAs_checked n).mpr hlength) hconvertible
  · obtain ⟨f, hread⟩ := readInt_of_not_convertible hdigits hconvertible
    exact iff_of_false (failsAs_integerOfText hread) hconvertible

/-! ### Tokens -/

/-- A token that names a key or is refused as one that does not: its character has an upper case of
one letter, its digits after the mark of codes are positional, and there are not more digits than
are converted. -/
structure IsClear (token : String) : Prop where
  plain : IsPlain token
  marked : ∀ digits, token.toList = codeMark.toList ++ digits → (∀ c ∈ digits, isDigit c) →
    Convertible digits
  bare : (∀ c ∈ token.toList, c.isDigit) → token.toList.length ≤ maxDigits

theorem failsAs_unsupported {α : Type} (token : String) :
    FailsAs .keystroke (unsupported token : Outcome α) :=
  failsAs_error.mpr rfl

/-- Of the ways to fail for a single character only the one that refuses it is of that kind. -/
theorem failsAs_ofChar (c : Char) (token : String) :
    FailsAs .keystroke ((ofChar? c).getD (unsupported token)) ↔
      (isLetterLike (upperChar c) → (upperChar c).length = 1) := by
  rw [← checked_ofChar c token]
  have hrequired (name : String) :
      FailsAs .keystroke (required name) ↔ Checked (required name) := by
    unfold required
    cases ofName? name with
    | some code => exact iff_of_true (failsAs_ok _) (checked_ok _)
    | none => simp [Misuse.kind, Kind.isValue]
  unfold ofChar?
  simp only
  split
  · exact hrequired _
  · split
    · exact hrequired _
    · exact iff_of_true (failsAs_unsupported token) (checked_unsupported token)

/-- What a token is that has no more characters than are converted, and not the mark of codes. -/
theorem isClear_iff_isPlain {token : String} (hmark : ¬codeMark.toList <+: token.toList)
    (hlength : token.toList.length ≤ maxDigits) : IsClear token ↔ IsPlain token := by
  refine ⟨IsClear.plain, fun hplain => ⟨hplain, ?_, fun _ => hlength⟩⟩
  intro digits heq
  exact absurd (heq ▸ List.prefix_append _ _) hmark

/-- Names of keys are short. -/
theorem length_le_of_mem_table : ∀ entry ∈ table, entry.1.toList.length ≤ 14 := by
  decide

/-- A code after its mark. -/
theorem isClear_marked {token : String} {digits : List Char}
    (htoken : token.toList = codeMark.toList ++ digits) :
    IsClear token ↔ ((∀ c ∈ digits, isDigit c) → Convertible digits) := by
  constructor
  · intro hclear
    exact hclear.marked digits htoken
  · intro hdigits
    have hlength : codeMark.toList.length = 8 := rfl
    refine ⟨isPlain_of_length ?_, ?_, ?_⟩
    · rw [htoken, List.length_append]
      omega
    · intro digits' heq
      obtain rfl := List.append_cancel_left (htoken.symm.trans heq)
      exact hdigits
    · intro hall
      exact absurd (hall 'K' (htoken ▸ List.mem_append_left _ (by decide))) (by decide)

/-- A number without a mark. -/
theorem isClear_bare {token : String} (hmany : token.toList.length ≠ 1)
    (hdigits : ∀ c ∈ token.toList, c.isDigit) : IsClear token ↔ Convertible token.toList := by
  constructor
  · intro hclear
    exact ⟨fun c hc => isDecimal_of_isDigit (hdigits c hc), hclear.bare hdigits⟩
  · intro hconvertible
    refine ⟨isPlain_of_length hmany, ?_, fun _ => hconvertible.2⟩
    intro digits heq
    exact absurd (hdigits 'K' (heq ▸ List.mem_append_left _ (by decide))) (by decide)

/-- A code after its mark is a number, or no key has it as its name. -/
theorem failsAs_resolve_marked {token : String} {digits : List Char}
    (htoken : token.toList = codeMark.toList ++ digits) :
    FailsAs .keystroke (resolve token) ↔ IsClear token := by
  rw [resolve_of_mark htoken, isClear_marked htoken]
  by_cases hnumber : digits ≠ [] ∧ ∀ c ∈ digits, isDigit c
  · obtain ⟨hne, hall⟩ := hnumber
    rw [if_pos (by simpa [hne] using hall), forall_prop_of_true hall]
    have hiff := failsAs_number (s := String.ofList digits)
    rw [String.toList_ofList] at hiff
    exact hiff hall hne
  · rw [if_neg (by simpa using hnumber)]
    refine iff_of_true (failsAs_unsupported token) fun hall => ?_
    have hnil : digits = [] := by
      by_contra hne
      exact hnumber ⟨hne, hall⟩
    rw [hnil]
    exact ⟨List.forall_mem_nil _, Nat.zero_le _⟩

/-- Neither a mark nor a name nor a single character: a number, or no key has it as its name. -/
theorem failsAs_bare {token : String} (hmark : ¬codeMark.toList <+: token.toList)
    (hempty : token.toList ≠ []) (hmany : token.toList.length ≠ 1) :
    FailsAs .keystroke (if token.toList.all Char.isDigit then integerOfText token >>= checked
      else unsupported token) ↔ IsClear token := by
  by_cases hall : ∀ c ∈ token.toList, c.isDigit
  · rw [if_pos (List.all_eq_true.mpr hall), isClear_bare hmany hall]
    refine failsAs_number (fun c hc => ?_) hempty
    exact isDigit_of_isDecimal (isDecimal_of_isDigit (hall c hc))
  · rw [if_neg (by rwa [List.all_eq_true])]
    refine iff_of_true (failsAs_unsupported token) ⟨isPlain_of_length hmany, ?_, ?_⟩
    · intro digits heq
      exact absurd (heq ▸ List.prefix_append _ _) hmark
    · intro h
      exact absurd h hall

/-- A token is refused as one that names no key if it is clear, and only then. -/
theorem failsAs_resolve (token : String) : FailsAs .keystroke (resolve token) ↔ IsClear token := by
  have hlacks {n : Nat} (htoken : token.toList.length = n) (hn : n < 8) :
      ¬codeMark.toList <+: token.toList := by
    rw [← List.isPrefixOf_iff_prefix]
    exact not_mark_of_length (htoken ▸ hn)
  refine resolve_cases (P := (FailsAs .keystroke · ↔ IsClear token)) ?mark ?name ?empty ?single ?many
  case mark =>
    intro digits htoken
    rw [← resolve_of_mark htoken]
    exact failsAs_resolve_marked htoken
  case name =>
    intro code hmark hname
    rw [List.isPrefixOf_iff_prefix] at hmark
    obtain ⟨entry, hfind, -⟩ := Option.map_eq_some_iff.mp hname
    have hentry : entry.1 = token := by simpa using List.find?_some hfind
    have hlength := length_le_of_mem_table entry (List.mem_of_find?_eq_some hfind)
    rw [hentry] at hlength
    rw [isClear_iff_isPlain hmark (hlength.trans (by decide))]
    exact iff_of_true (failsAs_ok _) (isPlain_of_ofName? hname)
  case empty =>
    intro htoken
    have hlength : token.toList.length = 0 := by simp [htoken]
    rw [isClear_iff_isPlain (hlacks hlength (by decide)) (by omega)]
    exact iff_of_true (failsAs_unsupported token) (isPlain_of_length (by omega))
  case single =>
    intro c htoken
    have hlength : token.toList.length = 1 := by simp [htoken]
    rw [isClear_iff_isPlain (hlacks hlength (by decide)) (hlength ▸ by decide),
      isPlain_iff_of_single htoken]
    exact failsAs_ofChar c token
  case many =>
    intro hmark hmany
    rw [List.isPrefixOf_iff_prefix] at hmark
    exact failsAs_bare hmark (List.ne_nil_of_length_pos (by omega)) (by omega)

end KeyCode

namespace Keystroke

open KeyCode

theorem failsAs_ofShortcut (s : Shortcut) :
    FailsAs .keystroke (ofShortcut s) ↔ IsClear s.token := by
  unfold ofShortcut
  by_cases hempty : s.token = "" ∧ s.modifiers ≠ []
  · have hmark : ¬codeMark.toList <+: s.token.toList := by
      rw [hempty.1]
      decide
    rw [if_pos hempty, isClear_iff_isPlain hmark (by simp [hempty.1])]
    exact iff_of_true (failsAs_ok _) (isPlain_of_length (by simp [hempty.1]))
  · rw [if_neg hempty]
    exact failsAs_map.trans (failsAs_resolve s.token)

/-- The service answers a request for a keystroke, be it with the reason why there is none, and
unless the failure is of another kind. -/
theorem run_keystroke_iff (spec : KeystrokeSpec) (host : Host) :
    (∃ response, (Service.keystroke spec).run host = (.ok response, host)) ↔
      FailsAs .keystroke (normalize spec) := by
  unfold Service.keystroke
  cases hnormal : normalize spec with
  | ok k =>
    rw [Service.run_answering_of_ok (Work.run_ofOutcome _ _)]
    exact iff_of_true ⟨_, rfl⟩ (failsAs_ok k)
  | error f =>
    rw [Service.run_answering_of_error (Work.run_ofOutcome _ _), failsAs_error]
    by_cases hkind : f.kind = .keystroke
    · rw [if_pos (by simpa using hkind)]
      exact iff_of_true ⟨_, rfl⟩ hkind
    · rw [if_neg (by simpa using hkind)]
      refine iff_of_false ?_ hkind
      rintro ⟨_, ⟨⟩⟩

/-- A key code has a normal form or is refused as a keystroke if it can be written, and a shortcut
if its token is clear; otherwise the failure is of another kind. The service lets such a failure
through. -/
theorem normalize_refuses_iff (n : Int) (text : String) (spec : KeystrokeSpec) (host : Host) :
    (FailsAs .keystroke (normalize (.code n)) ↔
      (Decimal.natText n.natAbs).length ≤ Decimal.maxDigits) ∧
    (FailsAs .keystroke (normalize (.shortcut text)) ↔ IsClear (Shortcut.parse text).token) ∧
    ((∃ response, (Service.keystroke spec).run host = (.ok response, host)) ↔
      FailsAs .keystroke (normalize spec)) := by
  refine ⟨?_, failsAs_ofShortcut (Shortcut.parse text), run_keystroke_iff spec host⟩
  exact failsAs_map.trans (failsAs_checked n)

/-- A superscript is a digit but not a number, and the upper case of a sharp s is no letter. -/
theorem normalize_superscript :
    normalize (.shortcut "KeyCode:²") = misused (.malformedNumeral "'²'") ∧
      normalize (.shortcut "ß") = misused (.missingKey "KeySS") ∧
      ¬FailsAs .keystroke (normalize (.shortcut "KeyCode:²")) ∧
      ¬FailsAs .keystroke (normalize (.shortcut "ß")) := by
  have hsuperscript : normalize (.shortcut "KeyCode:²") = misused (.malformedNumeral "'²'") := by
    rfl
  have hsharp : normalize (.shortcut "ß") = misused (.missingKey "KeySS") := by
    rfl
  refine ⟨hsuperscript, hsharp, ?_, ?_⟩
  · rw [hsuperscript, failsAs_misused]
    decide
  · rw [hsharp, failsAs_misused]
    decide

end Keystroke
end MacroScribe
