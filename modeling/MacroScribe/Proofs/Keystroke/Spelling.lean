import MacroScribe.Keystroke.Basic
import MacroScribe.Proofs.Outcome

/-!
# MacroScribe.Proofs.Keystroke.Spelling

Which keystrokes are refused as unacceptable values, and which make the table of keys fail. The key
of a letter is looked up by its upper case. The table has a key for each letter from `A` to `Z`, but
the upper case of a single character may be several: that of `ß` is `SS`, for which there is no key.

What a token means is decided by one of five rules, which are told apart once (`resolve_cases`).
-/

namespace MacroScribe

open Outcome

namespace KeyCode

/-- The token is no single character with an upper case of several letters. -/
def IsPlain (token : String) : Prop :=
  ∀ c, token.toList = [c] → isLetterLike (Text.upperChar c) → (Text.upperChar c).length = 1

/-- Only tokens of one character can fail to be plain. -/
theorem isPlain_of_length {token : String} (h : token.toList.length ≠ 1) : IsPlain token := by
  intro c hc
  exact absurd (by rw [hc]; rfl) h

theorem isPlain_iff_of_single {token : String} {c : Char} (h : token.toList = [c]) :
    IsPlain token ↔ (isLetterLike (Text.upperChar c) → (Text.upperChar c).length = 1) := by
  constructor
  · exact fun hplain => hplain c h
  · intro hupper c' hc'
    obtain rfl : c = c' := by simpa [h] using hc'
    exact hupper

theorem checked_unsupported {α : Type} (token : String) :
    Checked (unsupported token : Outcome α) :=
  checked_error.mpr rfl

theorem checked_checked (code : Int) : Checked (checked code) := by
  unfold checked
  split
  · exact checked_ok code
  · split
    · exact checked_error.mpr rfl
    · exact checked_error.mpr rfl

theorem checked_integerOfText (s : String) : Checked (integerOfText s) := by
  unfold integerOfText
  split
  · exact checked_ok _
  · exact checked_error.mpr rfl
  · exact checked_error.mpr rfl

/-- Looking up a name that is not in the table is no refusal, but a failure of another kind. -/
theorem checked_required {name : String} : Checked (required name) ↔ (ofName? name).isSome := by
  unfold required
  cases ofName? name with
  | none => simp [Misuse.kind, Kind.isValue]
  | some code => simp [checked_ok]

/-! ### The table -/

/-- The table has the names of all letters. -/
theorem letter_spec :
    ∀ n < 26, (ofName? ("Key" ++ String.ofList [Char.ofNat (65 + n)])).isSome := by
  decide

/-- And of all digits. -/
theorem digit_spec :
    ∀ n < 10, (ofName? ("Digit" ++ String.ofList [Char.ofNat (48 + n)])).isSome := by
  decide

/-- Names that begin like those of letters have one letter more. -/
theorem length_of_letterName :
    ∀ entry ∈ table, entry.1.toList.take 3 = "Key".toList → entry.1.toList.length = 4 := by
  decide

/-- No name in the table is one character. -/
theorem length_of_name : ∀ entry ∈ table, entry.1.toList.length ≠ 1 := by
  decide

theorem ofName?_eq_none_of_forall {name : String} (h : ∀ entry ∈ table, entry.1 ≠ name) :
    ofName? name = none := by
  rw [ofName?, Option.map_eq_none_iff, List.find?_eq_none]
  intro entry hentry heq
  exact h entry hentry (by simpa using heq)

/-- No name of a key is a single character. -/
theorem ofName?_of_single {name : String} {c : Char} (h : name.toList = [c]) :
    ofName? name = none := by
  refine ofName?_eq_none_of_forall fun entry hentry heq => length_of_name entry hentry ?_
  rw [heq, h, List.length_singleton]

/-- So the names of the table are plain. -/
theorem isPlain_of_ofName? {name : String} {code : Nat} (h : ofName? name = some code) :
    IsPlain name := by
  intro c hc
  rw [ofName?_of_single hc] at h
  cases h

/-- What counts as a letter is one of the 26 of the table. -/
theorem exists_letter {u : Char} (h : isLetterLike [u]) : ∃ n < 26, u = Char.ofNat (65 + n) := by
  simp only [isLetterLike, Bool.and_eq_true, Bool.or_eq_true, decide_eq_true_eq, beq_iff_eq,
    List.isEmpty_nil, and_true] at h
  obtain ⟨hlow, hhigh⟩ := h
  have hlow : 65 ≤ u.toNat := hlow
  have hhigh : u.toNat ≤ 90 := by
    rcases hhigh with hlt | rfl
    · exact Nat.le_of_lt hlt
    · decide
  refine ⟨u.toNat - 65, by omega, ?_⟩
  rw [Nat.add_sub_cancel' hlow, Char.ofNat_toNat]

theorem exists_digit {u : Char} (h : u.isDigit) : ∃ n < 10, u = Char.ofNat (48 + n) := by
  simp only [Char.isDigit, Bool.and_eq_true, decide_eq_true_eq] at h
  obtain ⟨hlow, hhigh⟩ := h
  have hlow : 48 ≤ u.toNat := hlow
  have hhigh : u.toNat ≤ 57 := hhigh
  refine ⟨u.toNat - 48, by omega, ?_⟩
  rw [Nat.add_sub_cancel' hlow, Char.ofNat_toNat]

/-- The table has the key of a letter if its upper case is one letter, and only then. -/
theorem isSome_letterKey {upper : List Char} (h : isLetterLike upper) :
    (ofName? ("Key" ++ String.ofList upper)).isSome ↔ upper.length = 1 := by
  match upper with
  | [] => exact absurd h (by decide)
  | [u] =>
    obtain ⟨n, hn, rfl⟩ := exists_letter h
    exact ⟨fun _ => rfl, fun _ => letter_spec n hn⟩
  | u :: u' :: rest =>
    have hnone : ofName? ("Key" ++ String.ofList (u :: u' :: rest)) = none := by
      refine ofName?_eq_none_of_forall fun entry hentry heq => ?_
      have hlist : entry.1.toList = 'K' :: 'e' :: 'y' :: u :: u' :: rest := by
        simp [heq]
      have hlength := length_of_letterName entry hentry (by rw [hlist]; rfl)
      rw [hlist] at hlength
      simp at hlength
    rw [hnone]
    simp

/-- What a character stands for fails in the table exactly if its upper case has several letters. -/
theorem checked_ofChar (c : Char) (token : String) :
    Checked ((ofChar? c).getD (unsupported token)) ↔
      (isLetterLike (Text.upperChar c) → (Text.upperChar c).length = 1) := by
  unfold ofChar?
  by_cases hletter : isLetterLike (Text.upperChar c)
  · simp only [hletter, if_true, Option.getD_some, forall_const]
    rw [checked_required, isSome_letterKey hletter]
  · simp only [hletter, Bool.false_eq_true, if_false, false_implies, iff_true]
    by_cases hdigit : (Text.upperChar c).length = 1 ∧ (Text.upperChar c).all Char.isDigit
    · rw [if_pos hdigit, Option.getD_some, checked_required]
      obtain ⟨hone, hall⟩ := hdigit
      obtain ⟨u, hu⟩ := List.length_eq_one_iff.mp hone
      rw [hu] at hall ⊢
      obtain ⟨n, hn, rfl⟩ := exists_digit (by simpa using hall)
      exact digit_spec n hn
    · rw [if_neg hdigit]
      exact checked_unsupported token

/-! ### The rules, one at a time -/

theorem not_mark_of_length {token : String} (h : token.toList.length < 8) :
    ¬codeMark.toList.isPrefixOf token.toList := by
  rw [List.isPrefixOf_iff_prefix]
  intro hprefix
  have hmark : codeMark.toList.length = 8 := rfl
  have hle := hprefix.length_le
  omega

/-- Behind the mark there must be digits, in any script. -/
theorem resolve_of_mark {token : String} {digits : List Char}
    (htoken : token.toList = codeMark.toList ++ digits) :
    resolve token = if !digits.isEmpty && digits.all Text.isDigit then
      integerOfText (String.ofList digits) >>= checked else unsupported token := by
  have hmark : codeMark.toList.isPrefixOf token.toList := by
    rw [List.isPrefixOf_iff_prefix, htoken]
    exact List.prefix_append _ _
  have hdrop : token.toList.drop codeMark.length = digits := by
    rw [htoken]
    exact List.drop_left' rfl
  unfold resolve
  simp only [if_pos hmark, hdrop]

/-- A name of the table stands for its code. -/
theorem resolve_of_name {token : String} {code : Nat}
    (hmark : ¬codeMark.toList.isPrefixOf token.toList) (hname : ofName? token = some code) :
    resolve token = .ok code := by
  unfold resolve
  simp only [if_neg hmark, hname]

/-- A single character is looked up as a letter or as a digit. -/
theorem resolve_of_single {token : String} {c : Char} (htoken : token.toList = [c]) :
    resolve token = (ofChar? c).getD (unsupported token) := by
  have hmark : ¬codeMark.toList.isPrefixOf token.toList :=
    not_mark_of_length (by simp [htoken])
  unfold resolve
  simp only [if_neg hmark, ofName?_of_single htoken]
  rw [htoken]

/-- What is left are numbers. -/
theorem resolve_of_many {token : String} (hmark : ¬codeMark.toList.isPrefixOf token.toList)
    (hname : ofName? token = none) (hmany : 2 ≤ token.toList.length) :
    resolve token = if token.toList.all Char.isDigit then integerOfText token >>= checked
      else unsupported token := by
  unfold resolve
  simp only [if_neg hmark, hname]
  split
  · next hnil => simp [hnil] at hmany
  · next c hsingle => simp [hsingle] at hmany
  · rfl

theorem resolve_empty {token : String} (htoken : token.toList = []) :
    resolve token = unsupported token := by
  obtain rfl : token = "" := by simpa using htoken
  rfl

/-- What becomes of a token is decided by one of five rules. -/
theorem resolve_cases {P : Outcome Int → Prop} {token : String}
    (mark : ∀ digits, token.toList = codeMark.toList ++ digits →
      P (if !digits.isEmpty && digits.all Text.isDigit then
        integerOfText (String.ofList digits) >>= checked else unsupported token))
    (name : ∀ code, ¬codeMark.toList.isPrefixOf token.toList → ofName? token = some code →
      P (.ok code))
    (empty : token.toList = [] → P (unsupported token))
    (single : ∀ c, token.toList = [c] → P ((ofChar? c).getD (unsupported token)))
    (many : ¬codeMark.toList.isPrefixOf token.toList → 2 ≤ token.toList.length →
      P (if token.toList.all Char.isDigit then integerOfText token >>= checked
        else unsupported token)) :
    P (resolve token) := by
  by_cases hmark : codeMark.toList.isPrefixOf token.toList
  · obtain ⟨digits, htoken⟩ := List.isPrefixOf_iff_prefix.mp hmark
    rw [resolve_of_mark htoken.symm]
    exact mark digits htoken.symm
  · cases hname : ofName? token with
    | some code =>
      rw [resolve_of_name hmark hname]
      exact name code hmark hname
    | none =>
      match hchars : token.toList with
      | [] =>
        rw [resolve_empty hchars]
        exact empty hchars
      | [c] =>
        rw [resolve_of_single hchars]
        exact single c hchars
      | c :: c' :: rest =>
        have hmany : 2 ≤ token.toList.length := by simp [hchars]
        rw [resolve_of_many hmark hname hmany]
        exact many hmark hmany

/-- A token is refused as an unacceptable value, or makes the table fail if it is not plain. -/
theorem checked_resolve (token : String) : Checked (resolve token) ↔ IsPlain token := by
  have hnumber (p : Prop) [Decidable p] (s : String) :
      Checked (if p then integerOfText s >>= checked else unsupported token) := by
    split
    · exact checked_bind.mpr ⟨checked_integerOfText _, fun n _ => checked_checked n⟩
    · exact checked_unsupported token
  refine resolve_cases (P := (Checked · ↔ IsPlain token)) ?mark ?name ?empty ?single ?many
  case mark =>
    intro digits htoken
    refine iff_of_true (hnumber _ _) (isPlain_of_length ?_)
    have hlength : codeMark.toList.length = 8 := rfl
    rw [htoken, List.length_append]
    omega
  case name =>
    intro code _ hname
    exact iff_of_true (checked_ok _) (isPlain_of_ofName? hname)
  case empty =>
    intro htoken
    exact iff_of_true (checked_unsupported token) (isPlain_of_length (by simp [htoken]))
  case single =>
    intro c htoken
    rw [checked_ofChar, isPlain_iff_of_single htoken]
  case many =>
    intro _ hmany
    exact iff_of_true (hnumber _ _) (isPlain_of_length (by omega))

end KeyCode

namespace Keystroke

/-- The value is no shortcut whose token makes the table of keys fail. -/
def IsSpelled {ω : Type} (v : Json ω) : Prop :=
  ∀ text, v = .str text → KeyCode.IsPlain (Shortcut.parse text).token

/-- A shortcut is refused in the right way exactly if its last token is plain. -/
theorem checked_ofShortcut (s : Shortcut) : Checked (ofShortcut s) ↔ KeyCode.IsPlain s.token := by
  unfold ofShortcut
  by_cases hempty : s.token = "" ∧ s.modifiers ≠ []
  · have hplain : KeyCode.IsPlain s.token := by
      intro c hc
      rw [hempty.1] at hc
      cases hc
    simp only [if_pos hempty, hplain, iff_true]
    exact checked_ok _
  · rw [if_neg hempty, checked_bind, KeyCode.checked_resolve]
    exact and_iff_left fun code _ => checked_pure _

/-- Keystrokes of the other forms are always refused in the right way. -/
theorem checked_normalize (s : KeystrokeSpec) :
    Checked (normalize s) ↔
      ∀ text, s = .shortcut text → KeyCode.IsPlain (Shortcut.parse text).token := by
  cases s with
  | shortcut text =>
    rw [normalize, checked_ofShortcut]
    constructor
    · rintro h _ ⟨⟩
      exact h
    · exact fun h => h text rfl
  | code n =>
    simp only [reduceCtorEq, false_implies, implies_true, iff_true]
    exact checked_bind.mpr ⟨KeyCode.checked_checked n, fun code _ => checked_pure _⟩
  | chord mask key =>
    simp only [reduceCtorEq, false_implies, implies_true, iff_true]
    rw [normalize]
    split
    · exact checked_ok _
    · exact checked_error.mpr rfl
  | mapping text =>
    simp only [reduceCtorEq, false_implies, implies_true, iff_true]
    exact checked_error.mpr rfl
  | other type =>
    simp only [reduceCtorEq, false_implies, implies_true, iff_true]
    exact checked_error.mpr rfl

/-- And so is data that describes no keystroke. -/
theorem checked_spec {ω : Type} [Described ω] (v : Json ω) : Checked (KeystrokeSpec.ofJson v) := by
  unfold KeystrokeSpec.ofJson
  split
  · exact checked_ok _
  · exact checked_ok _
  · split
    · exact checked_bind.mpr ⟨KeyCode.checked_integerOfText _, fun n _ => checked_pure _⟩
    · exact checked_ok _
  · exact checked_ok _
  · exact checked_ok _

theorem ofMasked_ne_shortcut {ω : Type} [Described ω] (mask : Int) (v : Json ω) (text : String) :
    KeystrokeSpec.ofMasked mask v ≠ .shortcut text := by
  unfold KeystrokeSpec.ofMasked
  split <;> rintro ⟨⟩

/-- Only a text is taken for a shortcut. -/
theorem spec_eq_shortcut {ω : Type} [Described ω] {v : Json ω} {text : String}
    (h : KeystrokeSpec.ofJson v = .ok (.shortcut text)) : v = .str text := by
  unfold KeystrokeSpec.ofJson at h
  split at h
  · cases h
  · obtain rfl := KeystrokeSpec.shortcut.inj (Except.ok.inj h)
    rfl
  · split at h
    · obtain ⟨mask, -, h⟩ := bind_eq_ok.mp h
      exact absurd (Except.ok.inj h) (ofMasked_ne_shortcut mask _ text)
    · cases h
  · cases h
  · cases h

/-- A value that specifies no keystroke is refused as an unacceptable value, unless it is a shortcut
that makes the table of keys fail. -/
theorem checked_ofJson {ω : Type} [Described ω] (v : Json ω) :
    Checked (Keystroke.ofJson v) ↔ IsSpelled v := by
  rw [Keystroke.ofJson, checked_bind]
  simp only [checked_spec, true_and, checked_normalize]
  constructor
  · intro h text hv
    subst hv
    exact h _ rfl text rfl
  · rintro h s hs text rfl
    exact h text (spec_eq_shortcut hs)

end Keystroke
end MacroScribe
