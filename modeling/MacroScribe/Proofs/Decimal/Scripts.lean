import MacroScribe.Proofs.Decimal.Numeral
import Mathlib.Data.Nat.Digits.Defs

/-!
# MacroScribe.Proofs.Decimal.Scripts

Numerals in digits of any script. Not every digit takes part in positional notation: one that stands
alone, a superscript for instance, ends the numeral. So a text of digits is an integer if all of
them are positional digits, and not too many, and only then (`readInt_of_convertible`,
`readInt_of_not_convertible`).
-/

namespace MacroScribe.Decimal

open Text

/-! ### Digits -/

/-- The ranges of all digits. -/
def digitTable : List CodeRange :=
  zeros.map (fun z => ⟨z, z + 9⟩) ++ specialDigitTable

theorem inClass_of_isDigit {c : Char} (h : isDigit c) : inClass digitTable c := by
  rw [digitTable, inClass, List.any_append, Bool.or_eq_true]
  rw [isDigit, Bool.or_eq_true, isDecimal, decimalValue, Option.isSome_map] at h
  refine h.imp (fun h => ?_) id
  obtain ⟨z, hz⟩ := Option.isSome_iff_exists.mp h
  have hrange := List.find?_some hz
  rw [Bool.and_eq_true, decide_eq_true_eq, decide_eq_true_eq] at hrange
  refine List.any_eq_true.mpr ⟨_, List.mem_map_of_mem (List.mem_of_find?_eq_some hz), ?_⟩
  simp only [CodeRange.holds, Bool.and_eq_true, decide_eq_true_eq]
  omega

theorem decimalValue_lt {c : Char} {d : Nat} (h : decimalValue c = some d) : d < 10 := by
  obtain ⟨z, hz, rfl⟩ := Option.map_eq_some_iff.mp h
  have hrange := List.find?_some hz
  rw [Bool.and_eq_true, decide_eq_true_eq, decide_eq_true_eq] at hrange
  omega

/-- No digit is white space. -/
theorem isNumeralBlank_of_digit {c : Char} (h : isDigit c) : isNumeralBlank c = false := by
  have hapart : ∀ r ∈ blankTable, ∀ d ∈ digitTable, r.last < d.first ∨ d.last < r.first := by
    decide
  rw [isNumeralBlank, isBlank_of_inClass hapart (inClass_of_isDigit h), Bool.false_and]

/-! ### Runs of digits -/

theorem readDigits_cons_of_some {c : Char} {d : Nat} (h : decimalValue c = some d)
    (value count : Nat) (s : List Char) :
    readDigits value count (c :: s) = readDigits (value * 10 + d) (count + 1) s := by
  cases s with
  | nil => simp only [readDigits, h]
  | cons c' s => rw [readDigits, h]

theorem readDigits_cons_of_none {c : Char} (h : decimalValue c = none) (hc : c ≠ '_')
    (value count : Nat) (s : List Char) :
    readDigits value count (c :: s) = some ⟨value, count, c :: s⟩ := by
  cases s with
  | nil => simp only [readDigits, h, if_neg hc]
  | cons c' s => simp only [readDigits, h, if_neg hc]

/-- Positional digits are read to their end, as a number that has no more digits than there are. -/
theorem readDigits_of_isDecimal {s : List Char} (h : ∀ c ∈ s, isDecimal c) (value count : Nat) :
    ∃ v < (value + 1) * 10 ^ s.length,
      readDigits value count s = some ⟨v, count + s.length, []⟩ := by
  induction s generalizing value count with
  | nil => exact ⟨value, by simp, rfl⟩
  | cons c s ih =>
    obtain ⟨d, hd⟩ := Option.isSome_iff_exists.mp (h c List.mem_cons_self)
    have hlt := decimalValue_lt hd
    obtain ⟨v, hv, hread⟩ :=
      ih (fun c hc => h c (List.mem_cons_of_mem _ hc)) (value * 10 + d) (count + 1)
    refine ⟨v, ?_, ?_⟩
    · have hnext : value * 10 + d + 1 ≤ (value + 1) * 10 := by omega
      calc v < (value * 10 + d + 1) * 10 ^ s.length := hv
        _ ≤ (value + 1) * 10 * 10 ^ s.length := Nat.mul_le_mul_right _ hnext
        _ = (value + 1) * 10 ^ (c :: s).length := by
          rw [List.length_cons, Nat.pow_succ', Nat.mul_assoc]
    · rw [readDigits_cons_of_some hd, hread, List.length_cons, Nat.add_right_comm, Nat.add_assoc]

/-- A digit that stands alone ends the run. -/
theorem readDigits_of_not_isDecimal {s : List Char} (hs : ∀ c ∈ s, c ≠ '_')
    (h : ∃ c ∈ s, isDecimal c = false) (value count : Nat) :
    ∃ v n rest, readDigits value count s = some ⟨v, n, rest⟩ ∧ rest ≠ [] := by
  induction s generalizing value count with
  | nil => simp at h
  | cons c s ih =>
    rw [List.forall_mem_cons] at hs
    cases hvalue : decimalValue c with
    | none =>
      refine ⟨value, count, c :: s, ?_, List.cons_ne_nil _ _⟩
      exact readDigits_cons_of_none hvalue hs.1 value count s
    | some d =>
      have hlater : ∃ c ∈ s, isDecimal c = false := by
        simpa [isDecimal, hvalue] using h
      rw [readDigits_cons_of_some hvalue]
      exact ih hs.2 hlater _ _

/-! ### Integers -/

theorem ne_of_isDigit {c d : Char} (h : isDigit c) (hd : isDigit d = false) : c ≠ d := by
  rintro rfl
  exact absurd h (by simp [hd])

/-- Digits have no sign before them. -/
theorem readSign_of_digits {s : List Char} (h : ∀ c ∈ s, isDigit c) : readSign s = (false, s) := by
  unfold readSign
  split
  · exact absurd (h '-' List.mem_cons_self) (by decide +kernel)
  · exact absurd (h '+' List.mem_cons_self) (by decide +kernel)
  · rfl

/-- All characters are positional digits, and there are not more of them than are converted. -/
def Convertible (s : List Char) : Prop :=
  (∀ c ∈ s, isDecimal c) ∧ s.length ≤ maxDigits

theorem isDigit_of_isDecimal {c : Char} (h : isDecimal c) : isDigit c := by
  rw [isDigit, h, Bool.true_or]

/-- A text of convertible digits is an integer, and not a longer one than can be written. -/
theorem readInt_of_convertible {s : List Char} (hne : s ≠ []) (h : Convertible s) :
    ∃ n : Nat, readInt s = .ok n ∧ (natText n).length ≤ maxDigits := by
  obtain ⟨hdecimal, hlength⟩ := h
  have hdigits : ∀ c ∈ s, isDigit c := fun c hc => isDigit_of_isDecimal (hdecimal c hc)
  have hpos : 0 < s.length := List.length_pos_iff.mpr hne
  obtain ⟨v, hv, hread⟩ := readDigits_of_isDecimal hdecimal 0 0
  rw [Nat.zero_add] at hread
  refine ⟨v, ?_, ?_⟩
  · rw [readInt, dropEnds_of_forall fun c hc => isNumeralBlank_of_digit (hdigits c hc),
      readSign_of_digits hdigits]
    simp only [hread]
    rw [if_neg hpos.ne', if_neg (Nat.not_lt.mpr hlength)]
    rfl
  · have hbound : v < 10 ^ s.length := by simpa using hv
    exact Nat.le_trans (Nat.toDigits_length 10 v s.length hpos hbound) hlength

/-- Other texts of digits are none. -/
theorem readInt_of_not_convertible {s : List Char} (hdigits : ∀ c ∈ s, isDigit c)
    (h : ¬Convertible s) : ∃ f, readInt s = .error f := by
  have hbare : readSign (dropEnds isNumeralBlank s) = (false, s) := by
    rw [dropEnds_of_forall fun c hc => isNumeralBlank_of_digit (hdigits c hc),
      readSign_of_digits hdigits]
  by_cases hdecimal : ∀ c ∈ s, isDecimal c
  · obtain ⟨v, -, hread⟩ := readDigits_of_isDecimal hdecimal 0 0
    rw [Nat.zero_add] at hread
    have hlong : maxDigits < s.length := Nat.lt_of_not_le fun hle => h ⟨hdecimal, hle⟩
    have hpos : s.length ≠ 0 := Nat.ne_of_gt (Nat.lt_of_le_of_lt (Nat.zero_le _) hlong)
    refine ⟨.tooLong s.length, ?_⟩
    simp only [readInt, hbare, hread]
    rw [if_neg hpos, if_pos hlong]
  · have hunderscore : ∀ c ∈ s, c ≠ '_' := by
      intro c hc
      exact ne_of_isDigit (hdigits c hc) (by decide +kernel)
    obtain ⟨v, n, rest, hread, hrest⟩ :=
      readDigits_of_not_isDecimal hunderscore (by simpa using hdecimal) 0 0
    simp only [readInt, hbare, hread, List.isEmpty_eq_false_iff.mpr hrest]
    split
    · exact ⟨_, rfl⟩
    · split
      · exact ⟨_, rfl⟩
      · exact ⟨_, rfl⟩

end MacroScribe.Decimal
