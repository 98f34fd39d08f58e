import MacroScribe.Plist.Writer
import MacroScribe.Proofs.Decimal.Numeral
import MacroScribe.Proofs.Text.Base64
import MacroScribe.Proofs.Text.Lines

/-!
# MacroScribe.Proofs.Plist.Markup

The lexical side of the written form: no content of an element has a less-than sign in it
(`not_mem_escape`, `not_mem_compact`, `mem_wrapLines`), undoing the escapes gives the text back
(`unescape_escape`), and the lines of a byte string put together are its symbols
(`flatten_wrapLines`).
-/

namespace MacroScribe.Plist

open Text

/-! ### Escaped texts -/

theorem escape_cons (c : Char) (s : List Char) : escape (c :: s) = escapeChar c ++ escape s :=
  rfl

theorem escape_append (a b : List Char) : escape (a ++ b) = escape a ++ escape b :=
  List.flatMap_append

theorem escape_append_feed (a b : List Char) :
    escape (a ++ '\n' :: b) = escape a ++ '\n' :: escape b :=
  List.flatMap_append

/-- A character that stands for itself. -/
theorem escapeChar_of_ne {c : Char} (ha : c ≠ '&') (hl : c ≠ '<') (hg : c ≠ '>') :
    escapeChar c = [c] := by
  rw [escapeChar, if_neg ha, if_neg hl, if_neg hg]

/-- What a character is written as begins with the character itself or with an ampersand, and the
rest of it is letters and a semicolon. -/
theorem escapeChar_cases (c : Char) :
    (c ≠ '&' ∧ c ≠ '<' ∧ c ≠ '>' ∧ escapeChar c = [c]) ∨
    (c = '&' ∧ escapeChar c = ['&', 'a', 'm', 'p', ';']) ∨
    (c = '<' ∧ escapeChar c = ['&', 'l', 't', ';']) ∨
    (c = '>' ∧ escapeChar c = ['&', 'g', 't', ';']) := by
  by_cases ha : c = '&'
  · exact Or.inr (Or.inl ⟨ha, by rw [ha]; rfl⟩)
  by_cases hl : c = '<'
  · exact Or.inr (Or.inr (Or.inl ⟨hl, by rw [hl]; rfl⟩))
  by_cases hg : c = '>'
  · exact Or.inr (Or.inr (Or.inr ⟨hg, by rw [hg]; rfl⟩))
  exact Or.inl ⟨ha, hl, hg, escapeChar_of_ne ha hl hg⟩

/-- A sign that begins or ends a tag does not stand in an escaped text. -/
theorem not_mem_escape_of {c : Char} (h : c = '<' ∨ c = '>') (s : List Char) : c ∉ escape s := by
  intro hmem
  obtain ⟨d, -, hd⟩ := List.mem_flatMap.mp hmem
  rcases escapeChar_cases d with ⟨-, hl, hg, e⟩ | ⟨-, e⟩ | ⟨-, e⟩ | ⟨-, e⟩ <;> rw [e] at hd
  · obtain rfl := List.mem_singleton.mp hd
    exact h.elim hl hg
  · rcases h with rfl | rfl <;> exact absurd hd (by decide)
  · rcases h with rfl | rfl <;> exact absurd hd (by decide)
  · rcases h with rfl | rfl <;> exact absurd hd (by decide)

theorem not_mem_escape (s : List Char) : '<' ∉ escape s :=
  not_mem_escape_of (.inl rfl) s

theorem not_mem_greater_escape (s : List Char) : '>' ∉ escape s :=
  not_mem_escape_of (.inr rfl) s

theorem not_mem_feed_escape {s : List Char} (h : '\n' ∉ s) : '\n' ∉ escape s := by
  intro hmem
  obtain ⟨c, hcs, hc⟩ := List.mem_flatMap.mp hmem
  rcases escapeChar_cases c with ⟨-, -, -, e⟩ | ⟨-, e⟩ | ⟨-, e⟩ | ⟨-, e⟩ <;> rw [e] at hc
  · exact h (List.mem_singleton.mp hc ▸ hcs)
  · exact absurd hc (by decide)
  · exact absurd hc (by decide)
  · exact absurd hc (by decide)

/-- Escaping does not touch white space. -/
theorem allBlank_escape (s : List Char) : allBlank (escape s) = allBlank s := by
  induction s with
  | nil => rfl
  | cons c s ih =>
    rw [escape_cons, allBlank_append, allBlank_cons, ih]
    rcases escapeChar_cases c with ⟨-, -, -, e⟩ | ⟨rfl, e⟩ | ⟨rfl, e⟩ | ⟨rfl, e⟩ <;> rw [e]
    · rw [allBlank_cons]
      simp [allBlank]
    · rfl
    · rfl
    · rfl

/-- The text that character data stands for. -/
def unescape : List Char → List Char
  | '&' :: 'a' :: 'm' :: 'p' :: ';' :: rest => '&' :: unescape rest
  | '&' :: 'l' :: 't' :: ';' :: rest => '<' :: unescape rest
  | '&' :: 'g' :: 't' :: ';' :: rest => '>' :: unescape rest
  | c :: rest => c :: unescape rest
  | [] => []

theorem unescape_cons_of_ne {c : Char} (s : List Char) (h : c ≠ '&') :
    unescape (c :: s) = c :: unescape s := by
  rw [unescape] <;> rintro rest ⟨⟩ <;> exact absurd rfl h

/-- Undoing the escapes gives back the text. -/
theorem unescape_escape (s : List Char) : unescape (escape s) = s := by
  induction s with
  | nil => rfl
  | cons c s ih =>
    rw [escape_cons]
    rcases escapeChar_cases c with ⟨ha, -, -, e⟩ | ⟨rfl, e⟩ | ⟨rfl, e⟩ | ⟨rfl, e⟩ <;> rw [e]
    · rw [List.singleton_append, unescape_cons_of_ne _ ha, ih]
    · exact congrArg ('&' :: ·) ih
    · exact congrArg ('<' :: ·) ih
    · exact congrArg ('>' :: ·) ih

/-! ### Numbers -/

theorem not_mem_intText {c : Char} (n : Int) (hc : Decimal.isNumeralChar c = false) :
    c ∉ Decimal.intText n :=
  Decimal.not_mem_of_all (Decimal.all_intText n) hc

theorem not_mem_compact {c : Char} (x : Number) (hc : Decimal.isNumeralChar c = false) :
    c ∉ x.compact :=
  Decimal.not_mem_of_all (Decimal.all_compact x) hc

/-! ### Byte strings -/

theorem flatten_chunks {width : Nat} (hw : width ≠ 0) (s : List Char) :
    (chunks width s).flatten = s := by
  fun_induction chunks width s with
  | case1 s h => simp_all
  | case2 s h ih => rw [List.flatten_cons, ih, List.take_append_drop]

theorem mem_chunks {width : Nat} {s chunk : List Char} (h : chunk ∈ chunks width s) :
    chunk ≠ [] ∧ ∀ c ∈ chunk, c ∈ s := by
  fun_induction chunks width s with
  | case1 s hs => simp at h
  | case2 s hs ih =>
    rw [not_or] at hs
    rw [List.mem_cons] at h
    rcases h with rfl | h
    · exact ⟨by simp [hs.1, hs.2], fun c hc => List.mem_of_mem_take hc⟩
    · obtain ⟨hne, hmem⟩ := ih h
      exact ⟨hne, fun c hc => List.mem_of_mem_drop (hmem c hc)⟩

theorem flatten_wrapLines (s : List Char) : (wrapLines dataColumns s).flatten = s := by
  unfold wrapLines
  split
  · next h => simp_all
  · exact flatten_chunks (by decide) s

theorem mem_wrapLines {s chunk : List Char} (h : chunk ∈ wrapLines dataColumns s) :
    (s ≠ [] → chunk ≠ []) ∧ ∀ c ∈ chunk, c ∈ s := by
  unfold wrapLines at h
  split at h
  · next hs =>
    rw [List.mem_singleton] at h
    subst h
    simp_all
  · obtain ⟨hne, hmem⟩ := mem_chunks h
    exact ⟨fun _ => hne, hmem⟩

/-! ### Indentation -/

theorem indent_add (d e : Nat) : indent (d + e) = indent d ++ indent e :=
  List.replicate_add d e '\t'

@[simp] theorem indent_zero : indent 0 = [] := rfl

theorem eq_tab_of_mem_indent {d : Nat} {c : Char} (h : c ∈ indent d) : c = '\t' :=
  List.eq_of_mem_replicate h

theorem not_mem_indent (d : Nat) {c : Char} (hc : c ≠ '\t') : c ∉ indent d :=
  fun h => hc (eq_tab_of_mem_indent h)

theorem escape_indent (d : Nat) : escape (indent d) = indent d := by
  rw [escape, indent, List.flatMap_replicate]
  exact List.flatten_replicate_singleton

theorem allBlank_indent (d : Nat) : allBlank (indent d) = true := by
  rw [allBlank, List.all_eq_true]
  intro c hc
  rw [eq_tab_of_mem_indent hc]
  decide

/-- A line that has a character on it besides its indentation. -/
theorem allBlank_indent_append (d : Nat) (s : List Char) :
    allBlank (indent d ++ s) = allBlank s := by
  rw [allBlank_append, allBlank_indent, Bool.true_and]

theorem strip_indent_cons (d : Nat) {c : Char} (s : List Char) (hc : isBlank c = false) :
    strip (indent d ++ c :: s) = c :: dropTrailing isBlank s := by
  have hpos : ∀ a ∈ indent d, isBlank a = true := by
    intro a ha
    rw [eq_tab_of_mem_indent ha]
    decide
  rw [strip, dropEnds, List.dropWhile_append_of_pos hpos,
    List.dropWhile_cons_of_neg (by simp [hc])]
  exact dropTrailing_append_cons [] s hc

end MacroScribe.Plist
