import MacroScribe.Decimal.Text
import MacroScribe.Decimal.Reading
import MacroScribe.Proofs.Text.Collapse
import MacroScribe.Proofs.Text.Lines
import Mathlib.Data.List.Basic

/-!
# MacroScribe.Proofs.Decimal.Numeral

The characters that numbers are written with, and the integer that a decimal text stands for. No
numeral holds white space or markup, so that a number never needs escaping. A natural number that is
written is read back, also where numerals may be written more freely (`readInt_natText`).
-/

namespace MacroScribe.Decimal

/-! ### Characters -/

/-- The characters of numerals: digits, signs, the point, and the letters of exponents and of the
named floats. -/
def isNumeralChar (c : Char) : Bool :=
  c.isDigit || ['-', '+', '.', 'e', 'n', 'a', 'i', 'f'].contains c

theorem isNumeralChar_of_isDigit {c : Char} (h : c.isDigit) : isNumeralChar c := by
  simp [isNumeralChar, h]

theorem isDigit_of_mem_natText {n : Nat} {c : Char} (h : c ∈ natText n) : c.isDigit :=
  Nat.isDigit_of_mem_toDigits (by decide) (by decide) h

theorem all_natText (n : Nat) : (natText n).all isNumeralChar := by
  rw [List.all_eq_true]
  exact fun c hc => isNumeralChar_of_isDigit (isDigit_of_mem_natText hc)

theorem all_intText (n : Int) : (intText n).all isNumeralChar := by
  cases n with
  | ofNat n => exact all_natText n
  | negSucc n => exact all_natText (n + 1)

theorem all_paddedText (width n : Nat) : (paddedText width n).all isNumeralChar := by
  rw [paddedText, List.all_append, all_natText, Bool.and_true, List.all_eq_true]
  intro c hc
  rw [List.eq_of_mem_replicate hc]
  rfl

theorem all_replicate_zero (n : Nat) : (List.replicate n '0').all isNumeralChar := by
  rw [List.all_eq_true]
  intro c hc
  rw [List.eq_of_mem_replicate hc]
  rfl

section Layout

variable {digits : List Char} (h : digits.all isNumeralChar)

include h

theorem all_take (n : Nat) : (digits.take n).all isNumeralChar := by
  rw [List.all_eq_true] at h ⊢
  exact fun c hc => h c (List.mem_of_mem_take hc)

theorem all_drop (n : Nat) : (digits.drop n).all isNumeralChar := by
  rw [List.all_eq_true] at h ⊢
  exact fun c hc => h c (List.mem_of_mem_drop hc)

theorem all_positional (point : Int) : (positional digits point).all isNumeralChar := by
  unfold positional
  split
  · rw [List.cons_append, List.cons_append, List.all_cons, List.all_cons, List.all_append,
      all_replicate_zero, h]
    rfl
  · split
    · rw [List.all_append, List.all_append, all_replicate_zero, h]
      rfl
    · rw [List.all_append, List.all_cons, all_take h, all_drop h]
      rfl

theorem all_scientific (style : Style) (point : Int) :
    (scientific style digits point).all isNumeralChar := by
  have hfraction : (if (digits.drop 1).isEmpty then [] else '.' :: digits.drop 1).all
      isNumeralChar := by
    split
    · rfl
    · rw [List.all_cons, all_drop h]
      rfl
  have hsign (power : Int) : isNumeralChar (if power < 0 then '-' else '+') := by
    split <;> rfl
  unfold scientific
  rw [List.all_append, List.all_append, all_take h, hfraction, List.all_cons, List.all_cons,
    all_paddedText, hsign]
  rfl

theorem all_layout (style : Style) (point : Int) :
    (style.layout digits point).all isNumeralChar := by
  unfold Style.layout
  split
  · exact all_positional h point
  · exact all_scientific h style point

end Layout

theorem all_sign (negative : Bool) : (if negative then ['-'] else []).all isNumeralChar := by
  cases negative <;> rfl

theorem all_floatText (x : Float) : (floatText x).all isNumeralChar := by
  unfold floatText
  split
  · rfl
  · rw [List.all_append, all_sign]
    rfl
  · rw [List.all_append, all_sign, Bool.true_and]
    split
    · rfl
    · exact all_layout (all_natText _) _ _

/-- The compact text of a number is a numeral. -/
theorem all_compact (x : Number) : x.compact.all isNumeralChar := by
  cases x with
  | int n => exact all_intText n
  | float x =>
    simp only [Number.compact]
    split
    · exact all_intText _
    · exact all_floatText x

/-- A character that no numeral has does not occur in one. -/
theorem not_mem_of_all {s : List Char} (h : s.all isNumeralChar) {c : Char}
    (hc : isNumeralChar c = false) : c ∉ s := by
  intro hmem
  rw [List.all_eq_true] at h
  simp [h c hmem] at hc

/-! ### Reading integers -/

/-- The natural number that a text of digits stands for. -/
def naturalOfText? (s : List Char) : Option Nat :=
  if !s.isEmpty && s.all Char.isDigit then some (Nat.ofDigitChars 10 s 0) else none

/-- The integer that a text of digits, with a minus sign before them or not, stands for. -/
def integerOfText? : List Char → Option Int
  | '-' :: digits => (naturalOfText? digits).map fun n => -(n : Int)
  | digits => (naturalOfText? digits).map Int.ofNat

theorem naturalOfText?_natText (n : Nat) : naturalOfText? (natText n) = some n := by
  have hne : (natText n).isEmpty = false := by
    simp [natText, Nat.toDigits_ne_nil]
  have hall : (natText n).all Char.isDigit = true := by
    rw [List.all_eq_true]
    exact fun c hc => isDigit_of_mem_natText hc
  rw [naturalOfText?, hne, hall, if_pos (by rfl), natText,
    Nat.ofDigitChars_toDigits (by decide) (by decide)]

/-- Reading takes back the integer that was written. -/
theorem integerOfText?_intText (n : Int) : integerOfText? (intText n) = some n := by
  cases n with
  | ofNat n =>
    have hminus : ∀ digits, natText n ≠ '-' :: digits := by
      intro digits h
      have hdigit : Char.isDigit '-' := isDigit_of_mem_natText (n := n) (by simp [h])
      exact absurd hdigit (by decide)
    rw [intText, integerOfText?, naturalOfText?_natText]
    · rfl
    · exact hminus
  | negSucc n =>
    rw [intText, integerOfText?, naturalOfText?_natText]
    rfl

/-! ### Numerals that people write

A numeral may have digits of any script, underscores, a sign and white space around it. One that is
written by a machine has none of these, and is read as the number that was written. -/

open Text

theorem decimalValue_of_isDigit {c : Char} (h : c.isDigit) :
    decimalValue c = some (c.toNat - '0'.toNat) := by
  simp only [Char.isDigit, Bool.and_eq_true, decide_eq_true_eq] at h
  have hlow : 48 ≤ c.toNat := h.1
  have hhigh : c.toNat < 58 := Nat.lt_succ_of_le h.2
  rw [decimalValue, zeros, List.find?_cons_of_pos (by simp [hlow, hhigh])]
  rfl

theorem isDecimal_of_isDigit {c : Char} (h : c.isDigit) : isDecimal c := by
  rw [isDecimal, decimalValue_of_isDigit h]
  rfl

theorem isBlank_of_isDigit {c : Char} (h : c.isDigit) : isBlank c = false := by
  simp only [Char.isDigit, Bool.and_eq_true, decide_eq_true_eq] at h
  have hlow : 48 ≤ c.toNat := h.1
  have hhigh : c.toNat ≤ 57 := h.2
  exact isBlank_of_printable (by omega) (by omega)

theorem isNumeralBlank_of_isDigit {c : Char} (h : c.isDigit) : isNumeralBlank c = false := by
  rw [isNumeralBlank, isBlank_of_isDigit h, Bool.false_and]

/-- A run of digits is read to its end. -/
theorem readDigits_of_isDigit {s : List Char} (h : ∀ c ∈ s, c.isDigit) (value count : Nat) :
    readDigits value count s = some ⟨Nat.ofDigitChars 10 s value, count + s.length, []⟩ := by
  induction s generalizing value count with
  | nil => rfl
  | cons c s ih =>
    have hc := decimalValue_of_isDigit (h c List.mem_cons_self)
    have hnext : readDigits value count (c :: s) =
        readDigits (value * 10 + (c.toNat - '0'.toNat)) (count + 1) s := by
      cases s with
      | nil => simp only [readDigits, hc]
      | cons c' s => rw [readDigits, hc]
    rw [hnext, ih fun d hd => h d (List.mem_cons_of_mem c hd), Nat.ofDigitChars_cons,
      Nat.mul_comm 10, List.length_cons]
    congr 2
    omega

theorem readSign_of_isDigit {s : List Char} (h : ∀ c ∈ s, c.isDigit) : readSign s = (false, s) := by
  unfold readSign
  split
  · exact absurd (h '-' List.mem_cons_self) (by decide)
  · exact absurd (h '+' List.mem_cons_self) (by decide)
  · rfl

/-- A text of digits is read as the number that they stand for, if there are not more of them than
are converted. -/
theorem readInt_of_isDigit {s : List Char} (hne : s ≠ []) (h : ∀ c ∈ s, c.isDigit)
    (hlength : s.length ≤ maxDigits) : readInt s = .ok (Nat.ofDigitChars 10 s 0) := by
  have hcount : s.length ≠ 0 := fun hzero => hne (List.length_eq_zero_iff.mp hzero)
  rw [readInt, dropEnds_of_forall fun c hc => isNumeralBlank_of_isDigit (h c hc),
    readSign_of_isDigit h]
  simp only [readDigits_of_isDigit h, Nat.zero_add, if_neg hcount,
    if_neg (Nat.not_lt.mpr hlength), List.isEmpty_nil, if_true, Bool.false_eq_true, if_false]

/-- A natural number of a length that is converted is read back. -/
theorem readInt_natText {n : Nat} (h : (natText n).length ≤ maxDigits) :
    readInt (natText n) = .ok n := by
  have hne : natText n ≠ [] := Nat.toDigits_ne_nil
  rw [readInt_of_isDigit hne (fun c hc => isDigit_of_mem_natText hc) h, natText,
    Nat.ofDigitChars_toDigits (by decide) (by decide)]

end MacroScribe.Decimal
