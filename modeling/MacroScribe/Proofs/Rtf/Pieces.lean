import MacroScribe.Proofs.Rtf.Patterns
import MacroScribe.Proofs.Rtf.Shift

/-!
# MacroScribe.Proofs.Rtf.Pieces

What the steps of a preview make of an escaped text without braces. The text is cut before each of
its backslashes, and no step of the preview but the removal of tables reaches from one piece into
the next. A table joins the pieces from the one that opens it to the one that closes it. So after
each step what is left is, piece by piece, a backslash with less after it than before, or two
backslashes with all that there was (`Pieces`). The last step shows pieces as `Shifts` describes.
-/

namespace MacroScribe.Rtf

open Text

/-- Something can be seen of the text, and a backslash is not the last of it. -/
def EndsClear (s : List Char) : Prop :=
  ∃ c ∈ (visible s).getLast?, c ≠ '\\'

theorem EndsClear.append {s : List Char} (h : EndsClear s) (a : List Char) :
    EndsClear (a ++ s) := by
  obtain ⟨c, hlast, hc⟩ := h
  exact ⟨c, by rw [visible_append, List.getLast?_append, Option.mem_def.mp hlast]; rfl, hc⟩

theorem Plain.endsClear {s : List Char} (h : Plain s) (hs : visible s ≠ []) : EndsClear s := by
  refine ⟨(visible s).getLast hs, List.getLast?_eq_some_getLast hs, fun hlast => ?_⟩
  exact h.backslash_not_mem (mem_visible.mp (hlast ▸ List.getLast_mem hs)).1

/-- What is left of a backslash and what follows it, after some of the steps. -/
inductive Piece : List Char → List Char → Prop where
  | kept {q : List Char} (hq : Plain q) : Piece ('\\' :: q) ('\\' :: '\\' :: q)
  | cut {q y : List Char} (hhead : (visible q).head? ≠ some '\\')
      (hlength : (visible y).length + 2 ≤ (visible q).length) (hy : Plain y.tail)
      (hend : y ≠ [] → EndsClear q) : Piece ('\\' :: q) ('\\' :: y)

/-- What is left of pieces one after the other, and of the brace that closes the document. A table
that is left out may have taken the brace with it. -/
inductive Pieces : List Char → List Char → Prop where
  | nil : Pieces [] []
  | brace : Pieces [] ['\x7d']
  | cons {z o t s : List Char} (hfirst : Piece z o) (h : Pieces t s) : Pieces (z ++ t) (o ++ s)

theorem Pieces.stop {t s : List Char} (h : Pieces t s) : Stop s := by
  intro c hc
  cases h with
  | nil => cases hc
  | brace =>
    cases hc
    exact .inr (.inr rfl)
  | cons hfirst =>
    cases hfirst <;>
    · cases hc
      exact .inl rfl

/-! ### Escaping and hexadecimal escapes -/

theorem visible_cons_backslash (s : List Char) : visible ('\\' :: s) = '\\' :: visible s :=
  visible_cons_of_not_blank (by decide) s

theorem length_visible_cons_le (c : Char) (s : List Char) :
    (visible (c :: s)).length ≤ (visible s).length + 1 := by
  rw [← List.singleton_append, visible_append, List.length_append]
  have hone : (visible [c]).length ≤ 1 := List.length_filter_le _ _
  omega

/-- The second backslash of an escaped one may begin a hexadecimal escape. -/
theorem piece_hexEscape {q : List Char} (hq : Plain q) :
    Piece ('\\' :: q) ('\\' :: substitute hexEscape ('\\' :: q)) := by
  cases hmatch : hexEscape ('\\' :: q) with
  | none =>
    rw [substitute_cons_of_none hmatch, hexEscape_starts.substitute_eq hq.backslash_not_mem]
    exact .kept hq
  | some found =>
    obtain ⟨n, text⟩ := found
    obtain ⟨a, b, r, c, hs, ha, hb, rfl, rfl⟩ := hexEscape_eq_some hmatch
    obtain rfl : q = '\'' :: a :: b :: r := (List.cons.inj hs).2
    have hr : Plain r := hq.of_subset fun x hx => by simp [hx]
    have hvisible : visible ('\'' :: a :: b :: r) = '\'' :: a :: b :: visible r := by
      rw [visible_cons_of_not_blank (by decide),
        visible_cons_of_not_blank (isBlank_of_hexValue? ha),
        visible_cons_of_not_blank (isBlank_of_hexValue? hb)]
    rw [substitute_cons_of_some hmatch]
    have hrest : substitute hexEscape (('\'' :: a :: b :: r).drop (4 - 1)) = r :=
      hexEscape_starts.substitute_eq hr.backslash_not_mem
    rw [hrest]
    refine .cut ?_ ?_ hr fun _ => hq.endsClear ?_
    · rw [hvisible, List.head?_cons]
      decide
    · rw [hvisible]
      have hcut := length_visible_cons_le c r
      simp only [List.length_cons, List.singleton_append]
      omega
    · rw [hvisible]
      exact List.cons_ne_nil _ _

/-- A text up to its first special character, and what follows. -/
theorem exists_plain_append (s : List Char) : ∃ p t, s = p ++ t ∧ Plain p ∧ Stop t := by
  refine ⟨s.takeWhile (¬IsSpecial ·), s.dropWhile (¬IsSpecial ·),
    List.takeWhile_append_dropWhile.symm, fun c hc => ?_, fun c hc => ?_⟩
  · simpa using List.all_eq_true.mp List.all_takeWhile c hc
  · have hnot := List.head?_dropWhile_not (fun d => decide (¬IsSpecial d)) s
    rw [Option.mem_def.mp hc] at hnot
    simpa using hnot

/-- A text without braces that stops does so at a backslash. -/
theorem Stop.eq_backslash {c : Char} {t : List Char} (hstop : Stop (c :: t))
    (hopening : '\x7b' ∉ c :: t) (hclosing : '\x7d' ∉ c :: t) : c = '\\' := by
  rcases hstop c rfl with rfl | rfl | rfl
  · rfl
  · exact absurd List.mem_cons_self hopening
  · exact absurd List.mem_cons_self hclosing

theorem stop_escape {t : List Char} (hstop : Stop t) : Stop (t.flatMap escapeChar ++ ['\x7d']) := by
  intro c hc
  cases t with
  | nil =>
    cases hc
    exact .inr (.inr rfl)
  | cons d t =>
    have hd : escapeChar d = ['\\', d] := if_pos (hstop d rfl)
    rw [List.flatMap_cons, hd] at hc
    cases hc
    exact .inl rfl

/-- The escaped text and the brace that closes the document, with hexadecimal escapes resolved. -/
theorem pieces_hexEscape {t : List Char} (hstop : Stop t) (hopening : '\x7b' ∉ t)
    (hclosing : '\x7d' ∉ t) :
    Pieces t (substitute hexEscape (t.flatMap escapeChar ++ ['\x7d'])) := by
  match t with
  | [] => exact .brace
  | c :: t =>
    obtain ⟨q, t', heq, hq, hstop'⟩ := exists_plain_append t
    have hc := hstop.eq_backslash hopening hclosing
    rw [hc, heq] at hopening hclosing ⊢
    have hescaped : ('\\' :: (q ++ t')).flatMap escapeChar ++ ['\x7d'] =
        '\\' :: '\\' :: (q ++ (t'.flatMap escapeChar ++ ['\x7d'])) := by
      rw [List.flatMap_cons, List.flatMap_append, hq.escape_eq, List.append_assoc,
        List.append_assoc]
      rfl
    have hrest : substitute hexEscape ('\\' :: (q ++ (t'.flatMap escapeChar ++ ['\x7d']))) =
        substitute hexEscape ('\\' :: q) ++
          substitute hexEscape (t'.flatMap escapeChar ++ ['\x7d']) :=
      substitute_append hexEscape_ends (hexEscape_bounded (stop_escape hstop')) ('\\' :: q)
    rw [hescaped, substitute_cons_of_none (hexEscape_of_ne (by decide) _), hrest]
    refine Pieces.cons (piece_hexEscape hq) (pieces_hexEscape hstop' ?_ ?_)
    · exact fun hmem => hopening (by simp [hmem])
    · exact fun hmem => hclosing (by simp [hmem])
termination_by t.length
decreasing_by
  simp only [heq, List.length_cons, List.length_append]
  omega

/-! ### Tables -/

/-- A piece with an opening brace has it right after its backslash. -/
theorem Piece.opening {z o : List Char} (h : Piece z o) (ho : '\x7b' ∈ o) :
    ∃ q r, z = '\\' :: q ∧ o = '\\' :: '\x7b' :: r ∧ Plain r ∧ (visible q).head? ≠ some '\\' ∧
      (visible r).length + 3 ≤ (visible q).length ∧ EndsClear q := by
  cases h with
  | @kept q hq => exact absurd (by simpa using ho) hq.opening_not_mem
  | @cut q y hhead hlength hy hend =>
    cases y with
    | nil => simp at ho
    | cons c r =>
      obtain rfl : '\x7b' = c := by
        rcases List.mem_cons.mp ho with heq | hmem
        · exact absurd heq (by decide)
        · exact (List.mem_cons.mp hmem).resolve_right hy.opening_not_mem
      rw [visible_cons_of_not_blank (by decide), List.length_cons] at hlength
      exact ⟨q, r, rfl, rfl, hy, hhead, hlength, hend (List.cons_ne_nil _ _)⟩

/-- A piece with a closing brace has it right after its backslash. -/
theorem Piece.closing {z o seg r : List Char} (h : Piece z o) (ho : o = seg ++ '\x7d' :: r) :
    Plain r ∧ (visible r).length ≤ (visible z).length ∧ EndsClear z := by
  cases h with
  | @kept q hq =>
    have hmem : '\x7d' ∈ '\\' :: '\\' :: q := ho ▸ List.mem_append_right _ List.mem_cons_self
    exact absurd (by simpa using hmem) hq.closing_not_mem
  | @cut q y hhead hlength hy hend =>
    match seg with
    | [] => exact absurd (List.cons.inj ho).1 (by decide)
    | [_] =>
      obtain rfl : y = '\x7d' :: r := (List.cons.inj ho).2
      refine ⟨hy, ?_, (hend (List.cons_ne_nil _ _)).append ['\\']⟩
      rw [visible_cons_of_not_blank (by decide), List.length_cons] at hlength
      rw [visible_cons_backslash, List.length_cons]
      omega
    | _ :: c :: seg =>
      obtain rfl : y = c :: (seg ++ '\x7d' :: r) := (List.cons.inj ho).2
      exact absurd (List.mem_append_right _ List.mem_cons_self) hy.closing_not_mem

/-- A closing brace in what is left is in a piece, or it is the one that closes the document. -/
theorem Pieces.closing {t s seg rest : List Char} (h : Pieces t s)
    (hs : s = seg ++ '\x7d' :: rest) :
    ∃ t₁ t₂ y s₂, t = t₁ ++ t₂ ∧ rest = y ++ s₂ ∧ Pieces t₂ s₂ ∧ Plain y ∧
      (visible y).length ≤ (visible t₁).length ∧ (y ≠ [] → EndsClear t₁) := by
  induction h generalizing seg with
  | nil => simp at hs
  | brace =>
    have hrest : rest = [] := by
      cases seg with
      | nil => exact (List.cons.inj hs).2.symm
      | cons c seg => simp at hs
    exact ⟨[], [], [], [], rfl, hrest, .nil, List.forall_mem_nil _, Nat.le_refl _,
      fun hne => absurd rfl hne⟩
  | @cons z o t s hfirst hrest ih =>
    have hlater (seg' : List Char) (hs' : s = seg' ++ '\x7d' :: rest) :
        ∃ t₁ t₂ y s₂, z ++ t = t₁ ++ t₂ ∧ rest = y ++ s₂ ∧ Pieces t₂ s₂ ∧ Plain y ∧
          (visible y).length ≤ (visible t₁).length ∧ (y ≠ [] → EndsClear t₁) := by
      obtain ⟨t₁, t₂, y, s₂, rfl, hy, hpieces, hplain, hlength, hend⟩ := ih hs'
      have hlength' : (visible y).length ≤ (visible (z ++ t₁)).length := by
        rw [visible_append, List.length_append]
        omega
      exact ⟨z ++ t₁, t₂, y, s₂, (List.append_assoc ..).symm, hy, hpieces, hplain, hlength',
        fun hne => (hend hne).append z⟩
    rcases List.append_eq_append_iff.mp hs with ⟨seg', -, hs'⟩ | ⟨tail, ho, hs'⟩
    · exact hlater seg' hs'
    · cases tail with
      | nil => exact hlater [] hs'.symm
      | cons c tail =>
        obtain ⟨rfl, rfl⟩ := List.cons.inj hs'
        obtain ⟨hplain, hlength, hend⟩ := hfirst.closing ho
        exact ⟨z, t, tail, s, rfl, rfl, hrest, hplain, hlength, fun _ => hend⟩

/-- A group that does not close in what is plain stays, or it is a table that closes later. -/
theorem substitute_table {r : List Char} (hr : Plain r) (name : String) (s : List Char) :
    substitute (table name) ('\x7b' :: (r ++ s)) = '\x7b' :: r ++ substitute (table name) s ∨
      ∃ seg rest, s = seg ++ '\x7d' :: rest ∧
        substitute (table name) ('\x7b' :: (r ++ s)) = substitute (table name) rest := by
  cases hmatch : table name ('\x7b' :: (r ++ s)) with
  | none =>
    left
    rw [substitute_cons_of_none hmatch, (table_starts name).substitute_append hr.opening_not_mem,
      List.cons_append]
  | some found =>
    right
    obtain ⟨n, text⟩ := found
    obtain ⟨seg, rest, heq, rfl, rfl⟩ := table_eq_some hmatch
    have hdrop : (r ++ s).drop (seg.length + 2 - 1) = rest := by
      have hlast : seg.length + 2 - 1 = seg.length + 1 := by omega
      rw [heq, hlast, ← List.drop_drop, List.drop_left]
      rfl
    have hleft : substitute (table name) ('\x7b' :: (r ++ s)) = substitute (table name) rest := by
      rw [substitute_cons_of_some hmatch, hdrop, List.nil_append]
    rcases List.append_eq_append_iff.mp heq with ⟨seg', -, hs⟩ | ⟨tail, htail, hs⟩
    · exact ⟨seg', rest, hs, hleft⟩
    · cases tail with
      | nil => exact ⟨[], rest, hs.symm, hleft⟩
      | cons c tail =>
        rw [← (List.cons.inj hs).1] at htail
        exact absurd (htail ▸ by simp) hr.closing_not_mem

theorem Piece.length_pos {z o : List Char} (h : Piece z o) : 0 < o.length := by
  cases h <;> exact Nat.succ_pos _

/-- Leaving out tables keeps the pieces, or makes one piece of several. -/
theorem Pieces.table {t s : List Char} (h : Pieces t s) (name : String) :
    Pieces t (substitute (table name) s) := by
  cases h with
  | nil => exact .nil
  | brace =>
    rw [(table_starts name).substitute_eq (by decide)]
    exact .brace
  | @cons z o t s hfirst hrest =>
    have hpos := hfirst.length_pos
    by_cases ho : '\x7b' ∈ o
    · obtain ⟨q, r, rfl, rfl, hr, hhead, hlength, hend⟩ := hfirst.opening ho
      have hfirst' : substitute (Rtf.table name) ('\\' :: '\x7b' :: r ++ s) =
          '\\' :: substitute (Rtf.table name) ('\x7b' :: (r ++ s)) :=
        (table_starts name).substitute_cons (by decide) _
      rw [hfirst']
      rcases substitute_table hr name s with hkept | ⟨seg, rest, hs, hleft⟩
      · rw [hkept]
        exact .cons hfirst (hrest.table name)
      · obtain ⟨t₁, t₂, y, s₂, rfl, rfl, hpieces, hy, hclosed, hclear⟩ := hrest.closing hs
        rw [hleft, (table_starts name).substitute_append hy.opening_not_mem, ← List.append_assoc]
        have hseen : visible q ≠ [] := fun hnil => by simp [hnil] at hlength
        refine Pieces.cons (.cut (q := q ++ t₁) ?_ ?_ ?_ ?_) (hpieces.table name)
        · rwa [visible_append, List.head?_append_of_ne_nil _ hseen]
        · rw [visible_append, List.length_append]
          omega
        · exact hy.of_subset fun c hc => List.mem_of_mem_tail hc
        · exact fun hne => (hclear hne).append q
    · rw [(table_starts name).substitute_append ho]
      exact .cons hfirst (hrest.table name)
termination_by s.length
decreasing_by all_goals grind

/-! ### What is shown -/

/-- What a preview shows, before white space is collapsed, once the tables are left out. -/
def shown (s : List Char) : List Char :=
  (substitute controlWord s).filter fun c => c ≠ '\x7b' && c ≠ '\x7d'

/-- Nothing can be seen of a control word. -/
theorem length_visible_shown_le (s : List Char) :
    (visible (shown s)).length ≤ (visible s).length := by
  have hblank : ∀ s n text, controlWord s = some (n, text) → text.filter (!isBlank ·) = [] := by
    intro s n text h
    cases s with
    | nil => cases h
    | cons c s =>
      rw [text_of_controlWord h]
      decide
  have hfilter : (visible (shown s)).Sublist (visible (substitute controlWord s)) :=
    (List.filter_sublist (l := substitute controlWord s)).filter _
  exact (hfilter.trans (filter_substitute_sublist hblank s)).length_le

/-- Without special characters a text is shown as it is. -/
theorem Plain.shown_eq {s : List Char} (h : Plain s) : shown s = s := by
  rw [shown, controlWord_starts.substitute_eq h.backslash_not_mem, List.filter_eq_self]
  intro c hc
  have hspecial := h c hc
  simp only [IsSpecial, not_or] at hspecial
  simp [hspecial.2]

theorem Plain.shown_append {p : List Char} (hp : Plain p) (s : List Char) :
    shown (p ++ s) = p ++ shown s := by
  conv_rhs => rw [← hp.shown_eq]
  rw [shown, controlWord_starts.substitute_append hp.backslash_not_mem, List.filter_append, shown,
    controlWord_starts.substitute_eq hp.backslash_not_mem, shown]

theorem shown_cons_of_none {s : List Char} (h : controlWord ('\\' :: s) = none) :
    shown ('\\' :: s) = '\\' :: shown s := by
  rw [shown, substitute_cons_of_none h]
  rfl

theorem shown_cons_of_some {s text : List Char} {n : Nat}
    (h : controlWord ('\\' :: s) = some (n, text)) :
    shown ('\\' :: s) = ' ' :: shown (s.drop (n - 1)) := by
  rw [shown, substitute_cons_of_some h, text_of_controlWord h]
  rfl

/-- If a control word begins with a backslash that was escaped, a letter of it is not shown. -/
theorem shift_of_controlWord {q text : List Char} {n : Nat} (hq : Plain q)
    (h : controlWord ('\\' :: q) = some (n, text)) :
    Shift ('\\' :: visible q) ('\\' :: visible (q.drop (n - 1))) := by
  obtain ⟨c, r, rfl, hc, hn, -, -⟩ := controlWord_eq_some h
  have hblank := isBlank_of_isAlpha hc
  have hplain : '\\' ∉ c :: r := hq.backslash_not_mem
  have hne : c ≠ '\\' := fun heq => hplain (heq ▸ List.mem_cons_self)
  have hrest : (visible ((c :: r).drop (n - 1))).length ≤ (visible r).length := by
    have hsuffix : (c :: r).drop (n - 1) <:+ r := by
      obtain ⟨m, hm⟩ : ∃ m, n - 1 = m + 1 := ⟨n - 2, by omega⟩
      rw [hm, List.drop_succ_cons]
      exact List.drop_suffix m r
    exact (hsuffix.sublist.filter _).length_le
  rw [visible_cons_of_not_blank hblank]
  refine .short hne ?_ (fun heq => hne (List.cons.inj heq).1.symm) (.inr ?_)
  · rw [List.length_cons, List.length_cons]
    omega
  · rw [← visible_cons_of_not_blank hblank]
    exact hq.getLast?_visible_ne

/-- Two backslashes stay two, unless the second one begins a control word. -/
theorem shift_kept {q : List Char} (hq : Plain q) :
    Shift ('\\' :: visible q) (visible (shown ('\\' :: '\\' :: q))) := by
  rw [shown_cons_of_none (controlWord_double q), visible_cons_backslash]
  cases hmatch : controlWord ('\\' :: q) with
  | none =>
    rw [shown_cons_of_none hmatch, hq.shown_eq, visible_cons_backslash]
    exact .doubled fun hmem => hq.backslash_not_mem (mem_visible.mp hmem).1
  | some found =>
    obtain ⟨n, text⟩ := found
    have hrest : Plain (q.drop (n - 1)) := hq.of_subset (List.drop_subset _ _)
    rw [shown_cons_of_some hmatch, hrest.shown_eq, visible_cons_of_blank (by decide)]
    exact shift_of_controlWord hq hmatch

/-- What is shown of a backslash and less than what followed it. -/
theorem shift_cut {q y : List Char} (hhead : (visible q).head? ≠ some '\\')
    (hlength : (visible y).length + 2 ≤ (visible q).length) (hend : y ≠ [] → EndsClear q) :
    Shift ('\\' :: visible q) (visible (shown ('\\' :: y))) := by
  have hshown := length_visible_shown_le ('\\' :: y)
  rw [visible_cons_backslash, List.length_cons] at hshown
  have hshort : (visible (shown ('\\' :: y))).length < (visible q).length := by omega
  have hlast : visible (shown ('\\' :: y)) = ['\\'] ∨ (visible q).getLast? ≠ some '\\' := by
    by_cases hnil : y = []
    · left
      rw [hnil]
      rfl
    · right
      obtain ⟨d, hlast, hd⟩ := hend hnil
      rw [Option.mem_def.mp hlast]
      exact fun heq => hd (Option.some.inj heq)
  cases hseen : visible q with
  | nil => simp [hseen] at hlength
  | cons c v =>
    rw [hseen] at hhead hshort hlast
    refine .short ?_ hshort.le ?_ hlast
    · rintro rfl
      exact hhead rfl
    · intro heq
      exact absurd (congrArg List.length heq) hshort.ne

theorem Piece.shift {z o : List Char} (h : Piece z o) : Shift (visible z) (visible (shown o)) := by
  cases h with
  | kept hq =>
    rw [visible_cons_backslash]
    exact shift_kept hq
  | cut hhead hlength hy hend =>
    rw [visible_cons_backslash]
    exact shift_cut hhead hlength hend

theorem Pieces.shifts {t s : List Char} (h : Pieces t s) :
    Shifts (visible t) (visible (shown s)) := by
  induction h with
  | nil => exact .nil
  | brace => exact .nil
  | cons hfirst hrest ih =>
    rw [shown, substitute_append controlWord_ends (controlWord_bounded hrest.stop),
      List.filter_append, visible_append, visible_append]
    exact ih.cons hfirst.shift

end MacroScribe.Rtf
