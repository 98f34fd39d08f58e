import MacroScribe.Proofs.Decimal.Scripts
import MacroScribe.Proofs.Keystroke.Description
import MacroScribe.Proofs.Keystroke.Range
import MacroScribe.Proofs.Keystroke.Spelling

/-!
# MacroScribe.Proofs.Keystroke.Grammar

The grammar of tokens for keys. The rules that decide what a token means are tried in order; the
grammar says the same without an order. It has five forms (`KeyCode.Form`), a token has at most one
of them (`KeyCode.Spells.form_eq`), and each form stands for one code, which for a number may be too
large. `KeyCode.Spells.resolve_eq` says what becomes of a token of the grammar, and
`KeyCode.resolve_of_not_spells` that every other one is refused as unsupported.

The grammar is that of ASCII tokens. Beyond ASCII there are digits of other scripts, and letters of
which the upper case is an ASCII letter.
-/

namespace MacroScribe.KeyCode

open Outcome Decimal

/-! ### The grammar -/

/-- The forms of a token for a key. -/
inductive Form where
  /-- A code as a number, after the mark of codes. -/
  | marked
  /-- The name of a key. -/
  | named
  /-- The letter on a key. -/
  | letter
  /-- The digit on a key. -/
  | digit
  /-- A code as a number of several digits. -/
  | number
  deriving DecidableEq

/-- The forms in which the code is given as a number. -/
def Form.IsNumeric (form : Form) : Prop :=
  form = .marked ∨ form = .number

/-- A text of digits. -/
def AllDigits (s : List Char) : Prop :=
  ∀ c ∈ s, c.isDigit

instance (s : List Char) : Decidable (AllDigits s) :=
  List.decidableBAll (fun c : Char => c.isDigit = true) s

/-- The token has this form and stands for this code, be it one or not. -/
inductive Spells (token : String) : Form → Nat → Prop where
  | marked {digits : List Char} (htoken : token.toList = codeMark.toList ++ digits)
      (hdigits : AllDigits digits) (hne : digits ≠ []) :
      Spells token .marked (Nat.ofDigitChars 10 digits 0)
  | named {code : Nat} (hname : (token, code) ∈ table) : Spells token .named code
  | letter {c : Char} {code : Nat} (htoken : token.toList = [c]) (hletter : c.isAlpha)
      (hkey : ("Key" ++ String.ofList [c.toUpper], code) ∈ table) : Spells token .letter code
  | digit {c : Char} {code : Nat} (htoken : token.toList = [c]) (hdigit : c.isDigit)
      (hkey : ("Digit" ++ String.ofList [c], code) ∈ table) : Spells token .digit code
  | number (hdigits : AllDigits token.toList) (hmany : 2 ≤ token.toList.length) :
      Spells token .number (Nat.ofDigitChars 10 token.toList 0)

/-- The characters of the token are those of ASCII. -/
def IsAscii (token : String) : Prop :=
  ∀ c ∈ token.toList, c.toNat < 128

instance (token : String) : Decidable (IsAscii token) :=
  List.decidableBAll (fun c : Char => c.toNat < 128) token.toList

/-- If the token is a number, with or without the mark of codes, it has no more digits than are
converted. -/
def IsShort (token : String) : Prop :=
  ∀ digits, AllDigits digits → token.toList = codeMark.toList ++ digits ∨ token.toList = digits →
    digits.length ≤ maxDigits

/-! ### One form for each token -/

/-- The form that a token has if it has any. -/
def Form.of (token : String) : Form :=
  if codeMark.toList.isPrefixOf token.toList then .marked
  else if token.toList.length = 1 then
    if token.toList.all Char.isDigit then .digit else .letter
  else if token.toList.all Char.isDigit then .number else .named

/-- No name of the table is a number. -/
theorem not_all_digits_of_mem_table :
    ∀ entry ∈ table, entry.1.toList.all Char.isDigit = false := by
  decide +kernel

theorem not_isDigit_of_isAlpha {c : Char} (h : c.isAlpha) : c.isDigit = false := by
  unfold Char.isAlpha Char.isUpper Char.isLower at h
  unfold Char.isDigit
  grind

/-- A number does not begin with the mark of numeric codes. -/
theorem not_mark_of_allDigits {token : String} (h : AllDigits token.toList) :
    ¬codeMark.toList.isPrefixOf token.toList := by
  rw [List.isPrefixOf_iff_prefix]
  rintro ⟨digits, hdigits⟩
  exact absurd (h 'K' (hdigits ▸ List.mem_append_left _ (by decide))) (by decide)

/-- The form of a token can be told from its characters. -/
theorem Spells.form_eq {token : String} {form : Form} {code : Nat} (h : Spells token form code) :
    form = Form.of token := by
  -- The mark has eight characters, of which the first is no digit; names have more than one
  -- character and are not all digits.
  unfold Form.of
  cases h with
  | marked htoken =>
    rw [if_pos]
    rw [List.isPrefixOf_iff_prefix, htoken]
    exact List.prefix_append _ _
  | named hname =>
    have hmark := codeMark_of_mem_table _ hname
    have hlength := length_of_name _ hname
    have hdigits := not_all_digits_of_mem_table _ hname
    rw [if_neg (by simp [hmark]), if_neg hlength, if_neg (by simp [hdigits])]
  | letter htoken hletter =>
    rw [if_neg (not_mark_of_length (by simp [htoken])), if_pos (by simp [htoken]), if_neg]
    simp [htoken, not_isDigit_of_isAlpha hletter]
  | digit htoken hdigit =>
    rw [if_neg (not_mark_of_length (by simp [htoken])), if_pos (by simp [htoken]), if_pos]
    simp [htoken, hdigit]
  | number hdigits hmany =>
    rw [if_neg (not_mark_of_allDigits hdigits), if_neg (by omega), if_pos]
    exact List.all_eq_true.mpr hdigits

/-- Each name of the table stands for one code. -/
theorem code_eq_of_mem_table {name : String} {code code' : Nat} (h : (name, code) ∈ table)
    (h' : (name, code') ∈ table) : code = code' :=
  Option.some.inj ((ofName?_of_mem_table _ h).symm.trans (ofName?_of_mem_table _ h'))

/-- A token has one form and stands for one code. -/
theorem Spells.unique {token : String} {form form' : Form} {code code' : Nat}
    (h : Spells token form code) (h' : Spells token form' code') :
    form = form' ∧ code = code' := by
  have hform : form = form' := h.form_eq.trans h'.form_eq.symm
  refine ⟨hform, ?_⟩
  subst hform
  cases h with
  | marked htoken =>
    cases h' with
    | marked htoken' => rw [List.append_cancel_left (htoken.symm.trans htoken')]
  | named hname =>
    cases h' with
    | named hname' => exact code_eq_of_mem_table hname hname'
  | letter htoken _ hkey =>
    cases h' with
    | letter htoken' _ hkey' =>
      obtain rfl := List.singleton_inj.mp (htoken.symm.trans htoken')
      exact code_eq_of_mem_table hkey hkey'
  | digit htoken _ hkey =>
    cases h' with
    | digit htoken' _ hkey' =>
      obtain rfl := List.singleton_inj.mp (htoken.symm.trans htoken')
      exact code_eq_of_mem_table hkey hkey'
  | number =>
    cases h' with
    | number => rfl

theorem isCode_iff {code : Nat} : isCode code ↔ code ≤ 255 := by
  simp only [isCode, Bool.and_eq_true, decide_eq_true_eq]
  omega

/-- Only a number can stand for a code that is too large. -/
theorem Spells.isNumeric {token : String} {form : Form} {code : Nat} (h : Spells token form code)
    (hlarge : 255 < code) : form.IsNumeric := by
  have hsmall {name : String} (hkey : (name, code) ∈ table) : code ≤ 255 :=
    isCode_iff.mp (isCode_of_mem_table _ hkey)
  cases h with
  | marked => exact .inl rfl
  | number => exact .inr rfl
  | named hkey => exact absurd (hsmall hkey) (by omega)
  | letter _ _ hkey => exact absurd (hsmall hkey) (by omega)
  | digit _ _ hkey => exact absurd (hsmall hkey) (by omega)

/-! ### Numbers -/

/-- A short row of digits is read as the number in it. -/
theorem integerOfText_of_allDigits {s : String} (hdigits : AllDigits s.toList)
    (hne : s.toList ≠ []) (hlength : s.toList.length ≤ maxDigits) :
    integerOfText s = .ok (Nat.ofDigitChars 10 s.toList 0) := by
  rw [integerOfText, readInt_of_isDigit hne hdigits hlength]

/-- A number that was read can be written. -/
theorem length_natText_ofDigitChars {digits : List Char} (hdigits : AllDigits digits)
    (hne : digits ≠ []) (hlength : digits.length ≤ maxDigits) :
    (natText (Nat.ofDigitChars 10 digits 0)).length ≤ maxDigits := by
  have hconvertible : Convertible digits :=
    ⟨fun c hc => isDecimal_of_isDigit (hdigits c hc), hlength⟩
  obtain ⟨n, hn, hwritten⟩ := readInt_of_convertible hne hconvertible
  rw [readInt_of_isDigit hne hdigits hlength] at hn
  obtain rfl := Int.ofNat.inj (Except.ok.inj hn)
  exact hwritten

/-- What becomes of a number that stands for a code. -/
def ofNumber (code : Nat) : Outcome Int :=
  if code ≤ 255 then .ok code else .error (.keystroke (.outOfRange code))

/-- The check of a code is the check of its range. -/
theorem checked_eq_ofNumber {code : Nat} (h : (natText code).length ≤ maxDigits) :
    checked code = ofNumber code := by
  unfold checked ofNumber
  by_cases hcode : code ≤ 255
  · rw [if_pos (isCode_iff.mpr hcode), if_pos hcode]
  · have hlength : ¬maxDigits < (natText (code : Int).natAbs).length := Nat.not_lt.mpr h
    rw [if_neg (mt isCode_iff.mp hcode), if_neg hcode, if_neg hlength]

/-- The codes of the table are in range. -/
theorem ofNumber_of_mem_table {name : String} {code : Nat} (h : (name, code) ∈ table) :
    ofNumber code = .ok code :=
  if_pos (isCode_iff.mp (isCode_of_mem_table _ h))

/-- Digits in a token, once they are read. -/
theorem checked_of_allDigits {s : String} (hdigits : AllDigits s.toList) (hne : s.toList ≠ [])
    (hlength : s.toList.length ≤ maxDigits) :
    (integerOfText s >>= checked) = ofNumber (Nat.ofDigitChars 10 s.toList 0) := by
  rw [integerOfText_of_allDigits hdigits hne hlength]
  exact checked_eq_ofNumber (length_natText_ofDigitChars hdigits hne hlength)

/-! ### Characters of ASCII -/

/-- No character of ASCII has an upper case of several characters. -/
theorem upperExpansions_beyond : ∀ e ∈ Text.upperExpansions, 128 ≤ e.1 := by
  decide +kernel

/-- Of the runs with an upper case, only the first is in ASCII. -/
theorem upperRuns_beyond : ∀ r ∈ Text.upperRuns.tail, 128 ≤ r.first := by
  decide +kernel

/-- And so it is with decimal digits. -/
theorem digitTable_beyond : ∀ r ∈ digitTable.tail, 128 ≤ r.first := by
  decide +kernel

/-- In ASCII the first run of letters has all that have an upper case. -/
theorem upperChar_of_ascii {c : Char} (h : c.toNat < 128) :
    Text.upperChar c =
      [((Text.partner? (Text.upperRuns.take 1) c.toNat).map Char.ofNat).getD c] := by
  have hexpansions : Text.upperExpansions.find? (·.1 == c.toNat) = none := by
    rw [List.find?_eq_none]
    intro e he
    have hbeyond := upperExpansions_beyond e he
    simp only [beq_iff_eq]
    omega
  have hruns : Text.upperRuns.find? (·.holds c.toNat) =
      (Text.upperRuns.take 1).find? (·.holds c.toNat) := by
    have hlater : Text.upperRuns.tail.find? (·.holds c.toNat) = none := by
      rw [List.find?_eq_none]
      intro r hr
      have hbeyond := upperRuns_beyond r hr
      simp only [Text.CaseRun.holds, Bool.and_eq_true, decide_eq_true_eq]
      omega
    have hsplit : Text.upperRuns = Text.upperRuns.take 1 ++ Text.upperRuns.tail :=
      (List.take_append_drop 1 Text.upperRuns).symm
    conv_lhs => rw [hsplit, List.find?_append, hlater, Option.or_none]
  rw [Text.upperChar, hexpansions, Text.partner?, hruns, Text.partner?]

/-- In ASCII, letters and digits are what they are elsewhere, and so is upper case. -/
theorem ascii_spec : ∀ n < 128,
    ((Text.partner? (Text.upperRuns.take 1) n).map Char.ofNat).getD (Char.ofNat n) =
      (Char.ofNat n).toUpper ∧
    isLetterLike [(Char.ofNat n).toUpper] = (Char.ofNat n).isAlpha ∧
    (Char.ofNat n).toUpper.isDigit = (Char.ofNat n).isDigit ∧
    ((Char.ofNat n).isDigit → (Char.ofNat n).toUpper = Char.ofNat n) := by
  decide +kernel

theorem upperChar_eq_toUpper {c : Char} (h : c.toNat < 128) : Text.upperChar c = [c.toUpper] := by
  have hspec := (ascii_spec c.toNat h).1
  rw [Char.ofNat_toNat] at hspec
  rw [upperChar_of_ascii h, hspec]

/-- Of the digits of all scripts only the common ones are in ASCII. -/
theorem isDigit_of_ascii {c : Char} (h : c.toNat < 128) (hdigit : Text.isDigit c) : c.isDigit := by
  obtain ⟨r, hr, hholds⟩ := List.any_eq_true.mp (inClass_of_isDigit hdigit)
  simp only [Text.CodeRange.holds, Bool.and_eq_true, decide_eq_true_eq] at hholds
  have htable : digitTable = ⟨0x30, 0x39⟩ :: digitTable.tail := rfl
  rw [htable, List.mem_cons] at hr
  obtain rfl | hlater := hr
  · exact Bool.and_eq_true_iff.mpr ⟨decide_eq_true hholds.1, decide_eq_true hholds.2⟩
  · have hbeyond := digitTable_beyond r hlater
    omega

/-- What the character on a key means in ASCII: a letter, a digit, or nothing. -/
theorem ofChar?_of_ascii {c : Char} (h : c.toNat < 128) :
    ofChar? c =
      if c.isAlpha then some (required ("Key" ++ String.ofList [c.toUpper]))
      else if c.isDigit then some (required ("Digit" ++ String.ofList [c])) else none := by
  obtain ⟨-, hletter, hdigit, hupper⟩ := ascii_spec c.toNat h
  rw [Char.ofNat_toNat] at hletter hdigit hupper
  unfold ofChar?
  simp only [upperChar_eq_toUpper h, hletter, List.length_singleton, List.all_cons, List.all_nil,
    Bool.and_true, hdigit, true_and]
  by_cases hc : c.isDigit
  · rw [hupper hc]
  · simp only [hc, Bool.false_eq_true, if_false]

/-! ### Tokens of the grammar, and others -/

/-- What is found by name stands in the table. -/
theorem mem_table_of_ofName? {name : String} {code : Nat} (h : ofName? name = some code) :
    (name, code) ∈ table := by
  obtain ⟨entry, hfind, rfl⟩ := Option.map_eq_some_iff.mp h
  have hname := List.find?_some hfind
  obtain rfl : entry.1 = name := by simpa using hname
  exact List.mem_of_find?_eq_some hfind

theorem required_of_mem_table {name : String} {code : Nat} (h : (name, code) ∈ table) :
    required name = .ok code := by
  simp only [required, ofName?_of_mem_table _ h]

theorem toNat_lt_of_isAlpha {c : Char} (h : c.isAlpha) : c.toNat < 128 := by
  unfold Char.isAlpha Char.isUpper Char.isLower at h
  simp only [Bool.or_eq_true, Bool.and_eq_true, decide_eq_true_eq] at h
  have hhigh : c.toNat ≤ 90 ∨ c.toNat ≤ 122 := h.imp And.right And.right
  omega

theorem toNat_lt_of_isDigit {c : Char} (h : c.isDigit) : c.toNat < 128 := by
  simp only [Char.isDigit, Bool.and_eq_true, decide_eq_true_eq] at h
  have hhigh : c.toNat ≤ 57 := h.2
  omega

/-- Each letter is on a key. -/
theorem exists_letterKey {c : Char} (h : c.isAlpha) :
    ∃ code, ("Key" ++ String.ofList [c.toUpper], code) ∈ table := by
  obtain ⟨-, hletter, -, -⟩ := ascii_spec c.toNat (toNat_lt_of_isAlpha h)
  rw [Char.ofNat_toNat, h] at hletter
  obtain ⟨n, hn, hupper⟩ := exists_letter hletter
  rw [hupper]
  obtain ⟨code, hcode⟩ := Option.isSome_iff_exists.mp (letter_spec n hn)
  exact ⟨code, mem_table_of_ofName? hcode⟩

/-- Each digit is on a key. -/
theorem exists_digitKey {c : Char} (h : c.isDigit) :
    ∃ code, ("Digit" ++ String.ofList [c], code) ∈ table := by
  obtain ⟨n, hn, rfl⟩ := exists_digit h
  obtain ⟨code, hcode⟩ := Option.isSome_iff_exists.mp (digit_spec n hn)
  exact ⟨code, mem_table_of_ofName? hcode⟩

/-- Every letter of ASCII is a token. -/
theorem exists_spells_letter {token : String} {c : Char} (htoken : token.toList = [c])
    (hletter : c.isAlpha) : ∃ code, Spells token .letter code := by
  obtain ⟨code, hkey⟩ := exists_letterKey hletter
  exact ⟨code, .letter htoken hletter hkey⟩

/-- Every digit is a token. -/
theorem exists_spells_digit {token : String} {c : Char} (htoken : token.toList = [c])
    (hdigit : c.isDigit) : ∃ code, Spells token .digit code := by
  obtain ⟨code, hkey⟩ := exists_digitKey hdigit
  exact ⟨code, .digit htoken hdigit hkey⟩

/-- A number is not looked up by name. -/
theorem ofName?_eq_none_of_allDigits {token : String} (h : AllDigits token.toList) :
    ofName? token = none := by
  refine ofName?_eq_none_of_forall fun entry hentry heq => ?_
  have hdigits := not_all_digits_of_mem_table entry hentry
  rw [heq, List.all_eq_true.mpr h] at hdigits
  cases hdigits

/-- A token of the grammar means the code that it stands for, if that is one. -/
theorem Spells.resolve_eq {token : String} {form : Form} {code : Nat} (h : Spells token form code)
    (hshort : IsShort token) : resolve token = ofNumber code := by
  cases h with
  | @marked digits htoken hdigits hne =>
    have hall : digits.all Text.isDigit := by
      rw [List.all_eq_true]
      exact fun c hc => isDigit_of_isDecimal (isDecimal_of_isDigit (hdigits c hc))
    have hread := checked_of_allDigits (s := String.ofList digits)
    rw [String.toList_ofList] at hread
    rw [resolve_of_mark htoken, if_pos (by simp [hne, hall])]
    exact hread hdigits hne (hshort digits hdigits (.inl htoken))
  | named hname => rw [resolve_of_mem_table hname, ofNumber_of_mem_table hname]
  | letter htoken hletter hkey =>
    rw [resolve_of_single htoken, ofChar?_of_ascii (toNat_lt_of_isAlpha hletter), if_pos hletter,
      Option.getD_some, required_of_mem_table hkey, ofNumber_of_mem_table hkey]
  | @digit c _ htoken hdigit hkey =>
    have hletter : ¬c.isAlpha := fun h => absurd hdigit (by simp [not_isDigit_of_isAlpha h])
    rw [resolve_of_single htoken, ofChar?_of_ascii (toNat_lt_of_isDigit hdigit), if_neg hletter,
      if_pos hdigit, Option.getD_some, required_of_mem_table hkey, ofNumber_of_mem_table hkey]
  | number hdigits hmany =>
    have hne : token.toList ≠ [] := List.ne_nil_of_length_pos (by omega)
    have hmark := not_mark_of_allDigits hdigits
    rw [resolve_of_many hmark (ofName?_eq_none_of_allDigits hdigits) hmany,
      if_pos (List.all_eq_true.mpr hdigits)]
    exact checked_of_allDigits hdigits hne (hshort _ hdigits (.inr rfl))

/-- A token of no form is refused as unsupported. -/
theorem resolve_of_not_spells {token : String} (hascii : IsAscii token)
    (h : ∀ form code, ¬Spells token form code) : resolve token = unsupported token := by
  refine resolve_cases (P := (· = unsupported token)) ?mark ?name (fun _ => rfl) ?single ?many
  case mark =>
    intro digits htoken
    rw [if_neg]
    rw [Bool.and_eq_true, List.all_eq_true]
    rintro ⟨hne, hall⟩
    refine h _ _ (.marked htoken (fun c hc => ?_) (by simpa using hne))
    exact isDigit_of_ascii (hascii c (htoken ▸ List.mem_append_right _ hc)) (hall c hc)
  case name =>
    intro code _ hname
    exact absurd (.named (mem_table_of_ofName? hname)) (h _ _)
  case single =>
    intro c htoken
    have hc : c.toNat < 128 := hascii c (htoken ▸ List.mem_singleton_self c)
    have hletter : ¬c.isAlpha := fun hletter =>
      have ⟨code, hspells⟩ := exists_spells_letter htoken hletter
      h .letter code hspells
    have hdigit : ¬c.isDigit := fun hdigit =>
      have ⟨code, hspells⟩ := exists_spells_digit htoken hdigit
      h .digit code hspells
    rw [ofChar?_of_ascii hc, if_neg hletter, if_neg hdigit, Option.getD_none]
  case many =>
    intro _ hmany
    rw [if_neg]
    rw [List.all_eq_true]
    exact fun hdigits => h _ _ (.number hdigits hmany)

theorem ofNumber_eq_ok {code : Nat} {n : Int} : ofNumber code = .ok n ↔ code ≤ 255 ∧ n = code := by
  unfold ofNumber
  by_cases hcode : code ≤ 255
  · rw [if_pos hcode, Except.ok.injEq, eq_comm]
    exact (and_iff_right hcode).symm
  · rw [if_neg hcode]
    exact iff_of_false (by rintro ⟨⟩) fun h => hcode h.1

theorem ofNumber_eq_error {code : Nat} {f : Fault} :
    ofNumber code = .error f ↔ 255 < code ∧ f = .keystroke (.outOfRange code) := by
  unfold ofNumber
  by_cases hcode : code ≤ 255
  · rw [if_pos hcode]
    exact iff_of_false (by rintro ⟨⟩) fun h => Nat.not_lt.mpr hcode h.1
  · rw [if_neg hcode, Except.error.injEq, eq_comm]
    exact (and_iff_right (Nat.lt_of_not_le hcode)).symm

section Ascii

variable {token : String} (hascii : IsAscii token) (hshort : IsShort token)

include hascii hshort

/-- Accepted are the tokens of the grammar whose code is in range. -/
theorem resolve_eq_ok_iff {n : Int} : resolve token = .ok n ↔
    ∃ form code, Spells token form code ∧ code ≤ 255 ∧ n = code := by
  constructor
  · intro h
    by_cases hform : ∃ form code, Spells token form code
    · obtain ⟨form, code, hspells⟩ := hform
      rw [hspells.resolve_eq hshort] at h
      exact ⟨form, code, hspells, ofNumber_eq_ok.mp h⟩
    · rw [resolve_of_not_spells hascii (by simpa using hform)] at h
      cases h
  · rintro ⟨form, code, hspells, hcode⟩
    rw [hspells.resolve_eq hshort]
    exact ofNumber_eq_ok.mpr hcode

/-- Refused are numbers out of range, and what is not in the grammar. -/
theorem resolve_eq_error_iff {f : Fault} : resolve token = .error f ↔
    (∃ form code, Spells token form code ∧ form.IsNumeric ∧ 255 < code ∧
      f = .keystroke (.outOfRange code)) ∨
    (∀ form code, ¬Spells token form code) ∧ f = .keystroke (.unsupportedToken token) := by
  constructor
  · intro h
    by_cases hform : ∃ form code, Spells token form code
    · obtain ⟨form, code, hspells⟩ := hform
      rw [hspells.resolve_eq hshort] at h
      obtain ⟨hlarge, hf⟩ := ofNumber_eq_error.mp h
      exact .inl ⟨form, code, hspells, hspells.isNumeric hlarge, hlarge, hf⟩
    · have hnone : ∀ form code, ¬Spells token form code := by simpa using hform
      rw [resolve_of_not_spells hascii hnone] at h
      exact .inr ⟨hnone, (Except.error.inj h).symm⟩
  · rintro (⟨form, code, hspells, -, hcode⟩ | ⟨hnone, rfl⟩)
    · rw [hspells.resolve_eq hshort]
      exact ofNumber_eq_error.mpr hcode
    · exact resolve_of_not_spells hascii hnone

end Ascii

/-- Whether a token is a number matters only for one that is longer. -/
theorem isShort_of_length {token : String} (h : token.toList.length ≤ maxDigits) :
    IsShort token := by
  rintro digits - (htoken | htoken)
  · rw [htoken, List.length_append] at h
    omega
  · rwa [← htoken]

/-- A token of ASCII names a key exactly if it has one of the five forms and the code that it stands
for is at most 255; it then means that code. If the code is larger, which only a number can be, it
is refused as out of range, and a token of no form is refused as unsupported. A token has at most
one form, and there stands for one code. A single letter and a single digit always have theirs. -/
theorem resolve_grammar {token : String} (hascii : IsAscii token) (hshort : IsShort token) :
    (∀ n : Int, resolve token = .ok n ↔
      ∃ form code, Spells token form code ∧ code ≤ 255 ∧ n = code) ∧
    (∀ f, resolve token = .error f ↔
      (∃ form code, Spells token form code ∧ form.IsNumeric ∧ 255 < code ∧
        f = .keystroke (.outOfRange code)) ∨
      (∀ form code, ¬Spells token form code) ∧ f = .keystroke (.unsupportedToken token)) ∧
    (∀ form form' code code', Spells token form code → Spells token form' code' →
      form = form' ∧ code = code') ∧
    (∀ c, token.toList = [c] → (c.isAlpha → ∃ code, Spells token .letter code) ∧
      (c.isDigit → ∃ code, Spells token .digit code)) :=
  ⟨fun _ => resolve_eq_ok_iff hascii hshort, fun _ => resolve_eq_error_iff hascii hshort,
    fun _ _ _ _ h h' => h.unique h',
    fun _ htoken => ⟨exists_spells_letter htoken, exists_spells_digit htoken⟩⟩

/-- A number with leading zeros after the mark, a number that is too large, and a mark that is not
quite one. -/
theorem resolve_grammar_numbers :
    resolve "KeyCode:0036" = .ok 36 ∧
      resolve "256" = .error (.keystroke (.outOfRange 256)) ∧
      resolve "keycode:36" = .error (.keystroke (.unsupportedToken "keycode:36")) ∧
      ∀ form code, ¬Spells "keycode:36" form code := by
  have hmarked : Spells "KeyCode:0036" .marked 36 :=
    @Spells.marked _ "0036".toList (by decide) (by decide) (by decide)
  have hnumber : Spells "256" .number 256 := .number (by decide) (by decide)
  obtain ⟨hok, -, -⟩ := @resolve_grammar "KeyCode:0036" (by decide)
    (isShort_of_length (by decide))
  obtain ⟨-, herror, -⟩ := @resolve_grammar "256" (by decide)
    (isShort_of_length (by decide))
  obtain ⟨-, hrefused, -⟩ := @resolve_grammar "keycode:36" (by decide)
    (isShort_of_length (by decide))
  have hunsupported : resolve "keycode:36" = .error (.keystroke (.unsupportedToken "keycode:36")) :=
    rfl
  refine ⟨(hok 36).mpr ⟨_, _, hmarked, by decide, rfl⟩,
    (herror _).mpr (.inl ⟨_, _, hnumber, .inr rfl, by decide, rfl⟩), hunsupported, ?_⟩
  obtain ⟨_, _, -, -, -, ⟨⟩⟩ | ⟨hnone, -⟩ := (hrefused _).mp hunsupported
  exact hnone

end MacroScribe.KeyCode
