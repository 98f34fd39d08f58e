import MacroScribe.Proofs.Text.Collapse
import MacroScribe.Proofs.Text.Substitution
import MacroScribe.StyledText.Basic

/-!
# MacroScribe.Proofs.Rtf.Patterns

What the steps of a preview match. Documents give a meaning to backslashes and braces alone, and a
text escapes them, so what counts for each pattern is how it deals with these characters: where its
matches begin, and that none of them reaches across a special character that it does not begin with
(`hexEscape_bounded`, `controlWord_bounded`). The tables are the exception (`table_eq_some`).
-/

namespace MacroScribe.Rtf

open Text

/-- The characters that documents give a meaning. -/
def IsSpecial (c : Char) : Prop :=
  c = '\\' ∨ c = '\x7b' ∨ c = '\x7d'

instance (c : Char) : Decidable (IsSpecial c) :=
  inferInstanceAs (Decidable (c = '\\' ∨ c = '\x7b' ∨ c = '\x7d'))

/-- A text without special characters. -/
def Plain (s : List Char) : Prop :=
  ∀ c ∈ s, ¬IsSpecial c

/-- The text is at its end, or goes on with a special character. -/
def Stop (s : List Char) : Prop :=
  ∀ c ∈ s.head?, IsSpecial c

namespace Plain

variable {s t : List Char}

theorem backslash_not_mem (h : Plain s) : '\\' ∉ s :=
  fun hmem => h _ hmem (.inl rfl)

theorem opening_not_mem (h : Plain s) : '\x7b' ∉ s :=
  fun hmem => h _ hmem (.inr (.inl rfl))

theorem closing_not_mem (h : Plain s) : '\x7d' ∉ s :=
  fun hmem => h _ hmem (.inr (.inr rfl))

/-- Being plain is a matter of the characters. -/
theorem of_subset (h : Plain s) (hst : t ⊆ s) : Plain t :=
  fun c hc => h c (hst hc)

/-- Plain text is not escaped. -/
theorem escape_eq (h : Plain s) : s.flatMap escapeChar = s := by
  have hself : s.flatMap escapeChar = s.flatMap (fun c => [c]) :=
    List.flatMap_congr fun c hc => if_neg (h c hc)
  rw [hself, List.flatMap_singleton']

/-- What is seen of it does not end with a backslash. -/
theorem getLast?_visible_ne (h : Plain s) : (visible s).getLast? ≠ some '\\' :=
  fun hlast => h.backslash_not_mem (mem_visible.mp (List.mem_of_getLast? hlast)).1

end Plain

/-- Special characters are not blank. -/
theorem isBlank_of_isSpecial {c : Char} (h : IsSpecial c) : isBlank c = false := by
  rcases h with rfl | rfl | rfl <;> decide

/-- Hexadecimal digits and letters can be seen. -/
theorem isBlank_of_between (low high : Char) {c : Char} (hc : low ≤ c ∧ c ≤ high)
    (hlow : 0x21 ≤ low.toNat) (hhigh : high.toNat ≤ 0x7e) : isBlank c = false :=
  isBlank_of_printable (hlow.trans hc.1) (Nat.le_trans hc.2 hhigh)

/-! ### Hexadecimal escapes -/

theorem isBlank_of_hexValue? {c : Char} (h : hexValue? c ≠ none) : isBlank c = false := by
  unfold hexValue? at h
  simp only [Char.isDigit, Bool.and_eq_true, decide_eq_true_eq] at h
  split at h
  · next hc => exact isBlank_of_between '0' '9' hc (by decide) (by decide)
  · split at h
    · next hc => exact isBlank_of_between 'a' 'f' hc (by decide) (by decide)
    · split at h
      · next hc => exact isBlank_of_between 'A' 'F' hc (by decide) (by decide)
      · exact absurd rfl h

theorem hexValue?_of_isSpecial {c : Char} (h : IsSpecial c) : hexValue? c = none := by
  rcases h with rfl | rfl | rfl <;> decide

theorem hexEscape_starts : Pattern.Starts hexEscape '\\' := by
  intro c s hc
  unfold hexEscape
  split
  · next heq => exact absurd (List.cons.inj heq).1 hc
  · rfl

/-- A match is a backslash, an apostrophe, and two digits, and stands for one character. -/
theorem hexEscape_eq_some {s text : List Char} {n : Nat} (h : hexEscape s = some (n, text)) :
    ∃ a b r c, s = '\\' :: '\'' :: a :: b :: r ∧ hexValue? a ≠ none ∧ hexValue? b ≠ none ∧ n = 4 ∧
      text = [c] := by
  unfold hexEscape at h
  split at h
  · next a b r =>
    obtain ⟨high, hhigh, h⟩ := Option.bind_eq_some_iff.mp h
    obtain ⟨low, hlow, h⟩ := Option.bind_eq_some_iff.mp h
    obtain ⟨rfl, rfl⟩ := Prod.mk.inj (Option.some.inj h)
    exact ⟨a, b, r, _, rfl, by simp [hhigh], by simp [hlow], rfl, rfl⟩
  · cases h

theorem hexEscape_ends : Pattern.Ends hexEscape := by
  intro c s n text h
  obtain ⟨a, b, r, c, hs, -, -, rfl, -⟩ := hexEscape_eq_some h
  rw [(List.cons.inj hs).2]
  simp

/-- Only an apostrophe makes it an escape. -/
theorem hexEscape_of_ne {c : Char} (hc : c ≠ '\'') (s : List Char) :
    hexEscape ('\\' :: c :: s) = none := by
  cases hmatch : hexEscape ('\\' :: c :: s) with
  | none => rfl
  | some found =>
    obtain ⟨n, text⟩ := found
    obtain ⟨a, b, r, d, hs, -⟩ := hexEscape_eq_some hmatch
    exact absurd (List.cons.inj (List.cons.inj hs).2).1 hc

/-- An escape has no special character after its backslash. -/
theorem hexEscape_of_isSpecial {c : Char} (hc : IsSpecial c) {s : List Char} (hmem : c ∈ s.take 3) :
    hexEscape ('\\' :: s) = none := by
  cases hmatch : hexEscape ('\\' :: s) with
  | none => rfl
  | some found =>
    obtain ⟨n, text⟩ := found
    obtain ⟨a, b, r, d, hs, ha, hb, -⟩ := hexEscape_eq_some hmatch
    rw [(List.cons.inj hs).2] at hmem
    have hcases : c = '\'' ∨ c = a ∨ c = b := by simpa using hmem
    rcases hcases with rfl | rfl | rfl
    · exact absurd hc (by decide)
    · exact absurd (hexValue?_of_isSpecial hc) ha
    · exact absurd (hexValue?_of_isSpecial hc) hb

theorem hexEscape_of_length {c : Char} {s : List Char} (hs : s.length < 3) :
    hexEscape (c :: s) = none := by
  cases hmatch : hexEscape (c :: s) with
  | none => rfl
  | some found =>
    obtain ⟨n, text⟩ := found
    obtain ⟨a, b, r, d, heq, -⟩ := hexEscape_eq_some hmatch
    rw [(List.cons.inj heq).2] at hs
    simp only [List.length_cons] at hs
    omega

/-- Whether there is a match does not depend on what comes after a stop. -/
theorem hexEscape_bounded {b : List Char} (hb : Stop b) : Pattern.Bounded hexEscape b := by
  intro c r
  by_cases hc : c = '\\'
  · subst hc
    match r, b with
    | r, [] => rw [List.append_nil]
    | x :: y :: z :: r, b =>
      by_cases hx : x = '\''
      · subst hx
        rfl
      · rw [List.cons_append, hexEscape_of_ne hx, hexEscape_of_ne hx]
    | [], s :: b =>
      rw [hexEscape_of_isSpecial (hb s rfl) (by simp), hexEscape_of_length (by simp)]
    | [x], s :: b =>
      rw [hexEscape_of_isSpecial (hb s rfl) (by simp), hexEscape_of_length (by simp)]
    | [x, y], s :: b =>
      rw [hexEscape_of_isSpecial (hb s rfl) (by simp), hexEscape_of_length (by simp)]
  · rw [hexEscape_starts c _ hc, hexEscape_starts c _ hc]

/-! ### Control words -/

theorem isAlpha_of_isSpecial {c : Char} (h : IsSpecial c) : c.isAlpha = false := by
  rcases h with rfl | rfl | rfl <;> decide

theorem isDecimal_of_isSpecial {c : Char} (h : IsSpecial c) : isDecimal c = false := by
  rcases h with rfl | rfl | rfl <;> decide

theorem isBlank_of_isAlpha {c : Char} (h : c.isAlpha) : isBlank c = false := by
  unfold Char.isAlpha Char.isUpper Char.isLower at h
  simp only [Bool.or_eq_true, Bool.and_eq_true, decide_eq_true_eq] at h
  rcases h with hc | hc
  · exact isBlank_of_between 'A' 'Z' hc (by decide) (by decide)
  · exact isBlank_of_between 'a' 'z' hc (by decide) (by decide)

theorem controlWord_starts : Pattern.Starts controlWord '\\' := by
  intro c s hc
  unfold controlWord
  split
  · next heq => exact absurd (List.cons.inj heq).1 hc
  · rfl

/-- A run of characters of one sort ends before a text that does not begin with one. -/
theorem takeWhile_append_of_head {p : Char → Bool} {b : List Char} (hb : ∀ c ∈ b.head?, p c = false)
    (r : List Char) : (r ++ b).takeWhile p = r.takeWhile p := by
  induction r with
  | nil =>
    cases b with
    | nil => rfl
    | cons c b => rw [List.nil_append, List.takeWhile_cons, hb c rfl]; rfl
  | cons c r ih =>
    rw [List.cons_append, List.takeWhile_cons, List.takeWhile_cons, ih]

theorem length_takeWhile_le (p : Char → Bool) (s : List Char) : (s.takeWhile p).length ≤ s.length :=
  (List.takeWhile_prefix p).length_le

/-- What is left of a text behind its first characters of a kind. -/
theorem drop_takeWhile_append (p : Char → Bool) (r b : List Char) :
    (r ++ b).drop (r.takeWhile p).length = r.drop (r.takeWhile p).length ++ b :=
  List.drop_append_of_le_length (length_takeWhile_le p r)

/-- A control word does not reach over a stop. -/
theorem controlWord_bounded {b : List Char} (hb : Stop b) : Pattern.Bounded controlWord b := by
  intro c r
  by_cases hc : c = '\\'
  · subst hc
    have hletters := takeWhile_append_of_head (fun c h => isAlpha_of_isSpecial (hb c h)) r
    have hdigits := takeWhile_append_of_head (fun c h => isDecimal_of_isSpecial (hb c h))
      (r.drop (r.takeWhile Char.isAlpha).length)
    -- What the text goes on with is no blank that would belong to the control word.
    have hblank (s : List Char) :
        ((s ++ b).head?.map isBlank).getD false = (s.head?.map isBlank).getD false := by
      cases s with
      | cons c s => rfl
      | nil =>
        cases b with
        | nil => rfl
        | cons c b => exact isBlank_of_isSpecial (hb c rfl)
    simp only [controlWord, hletters, hdigits, drop_takeWhile_append, hblank]
  · rw [controlWord_starts c _ hc, controlWord_starts c _ hc]

/-- A blank that belongs to a control word is one of the characters that follow. -/
theorem blank_le_length (s : List Char) :
    (if (s.head?.map isBlank).getD false then 1 else 0) ≤ s.length := by
  cases s with
  | nil => simp
  | cons c s => split <;> simp

/-- A control word has a letter, and is shown as a blank. -/
theorem controlWord_eq_some {c : Char} {s text : List Char} {n : Nat}
    (h : controlWord (c :: s) = some (n, text)) :
    ∃ d r, s = d :: r ∧ d.isAlpha ∧ 2 ≤ n ∧ n - 1 ≤ s.length ∧ text = [' '] := by
  unfold controlWord at h
  split at h
  · next rest heq =>
    obtain ⟨rfl, rfl⟩ := List.cons.inj heq
    simp only at h
    split at h
    · cases h
    · next hletters =>
      obtain ⟨rfl, rfl⟩ := Prod.mk.inj (Option.some.inj h)
      have hle := length_takeWhile_le Char.isAlpha s
      have hdigits := length_takeWhile_le isDecimal (s.drop (s.takeWhile Char.isAlpha).length)
      have hblank := blank_le_length ((s.drop (s.takeWhile Char.isAlpha).length).drop
        ((s.drop (s.takeWhile Char.isAlpha).length).takeWhile isDecimal).length)
      rw [List.length_drop] at hdigits hblank
      rw [List.length_drop] at hblank
      obtain ⟨d, r, rfl, hd⟩ : ∃ d r, s = d :: r ∧ d.isAlpha := by
        cases s with
        | nil => exact absurd rfl hletters
        | cons d r =>
          refine ⟨d, r, rfl, ?_⟩
          by_contra hd
          exact hletters (by rw [List.takeWhile_cons_of_neg hd]; rfl)
      have hpos : 0 < ((d :: r).takeWhile Char.isAlpha).length := by
        rw [List.takeWhile_cons_of_pos hd]
        exact Nat.succ_pos _
      exact ⟨d, r, rfl, hd, by omega, by omega, rfl⟩
  · cases h

/-- Every control word is replaced by one blank. -/
theorem text_of_controlWord {c : Char} {s text : List Char} {n : Nat}
    (h : controlWord (c :: s) = some (n, text)) : text = [' '] := by
  obtain ⟨d, r, -, -, -, -, htext⟩ := controlWord_eq_some h
  exact htext

theorem controlWord_ends : Pattern.Ends controlWord := by
  intro c s n text h
  obtain ⟨d, r, -, -, -, hend, -⟩ := controlWord_eq_some h
  exact hend

/-- A backslash after a backslash begins no control word. -/
theorem controlWord_double (s : List Char) : controlWord ('\\' :: '\\' :: s) = none := by
  rfl

/-! ### Tables -/

theorem table_starts (name : String) : Pattern.Starts (table name) '\x7b' := by
  intro c s hc
  have hopening : ('\x7b' :: '\\' :: name.toList).isPrefixOf (c :: s) = false := by
    rw [List.isPrefixOf_cons_cons, beq_false_of_ne (Ne.symm hc), Bool.false_and]
  rw [table, hopening]
  rfl

/-- A table ends at a closing brace. -/
theorem tableLength_eq_some {inner : Bool} {s : List Char} {n : Nat}
    (h : tableLength inner s = some n) :
    ∃ seg rest, s = seg ++ '\x7d' :: rest ∧ n = seg.length + 1 := by
  induction s generalizing inner n with
  | nil => cases h
  | cons c s ih =>
    -- Unless the table ends here, it ends where it does in what follows.
    have hlater {inner' : Bool} (hmap : (tableLength inner' s).map (· + 1) = some n) :
        ∃ seg rest, c :: s = seg ++ '\x7d' :: rest ∧ n = seg.length + 1 := by
      obtain ⟨m, hm, rfl⟩ := Option.map_eq_some_iff.mp hmap
      obtain ⟨seg, rest, rfl, rfl⟩ := ih hm
      exact ⟨c :: seg, rest, rfl, rfl⟩
    rw [tableLength] at h
    split at h
    · next hc =>
      split at h
      · exact hlater h
      · cases h
        exact ⟨[], s, by rw [hc]; rfl, rfl⟩
    · split at h
      · split at h
        · cases h
        · exact hlater h
      · exact hlater h

/-- A table is a group that ends with a brace, and nothing is shown of it. -/
theorem table_eq_some {name : String} {s text : List Char} {n : Nat}
    (h : table name ('\x7b' :: s) = some (n, text)) :
    ∃ seg rest, s = seg ++ '\x7d' :: rest ∧ n = seg.length + 2 ∧ text = [] := by
  simp only [table] at h
  split at h
  · next hopening =>
    obtain ⟨m, hm, hpair⟩ := Option.map_eq_some_iff.mp h
    obtain ⟨rfl, rfl⟩ := Prod.mk.inj hpair
    obtain ⟨seg, rest, hdrop, rfl⟩ := tableLength_eq_some hm
    obtain ⟨tail, htail⟩ := List.isPrefixOf_iff_prefix.mp hopening
    have hs : s = '\\' :: name.toList ++ tail := (List.cons.inj htail).2.symm
    have htail' : tail = seg ++ '\x7d' :: rest := by
      rw [← hdrop, ← htail, List.drop_left]
    refine ⟨'\\' :: name.toList ++ seg, rest, by rw [hs, htail', List.append_assoc], ?_, rfl⟩
    simp only [List.length_cons, List.length_append]
    omega
  · cases h

end MacroScribe.Rtf
