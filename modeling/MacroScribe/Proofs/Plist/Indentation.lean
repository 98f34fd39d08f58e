import MacroScribe.Proofs.Plist.Markup
import MacroScribe.Proofs.Plist.Shape

/-!
# MacroScribe.Proofs.Plist.Indentation

The line scanner that moves written dictionaries in. `indentLines` looks at one line at a time and
keeps one flag, whether the lines stand inside a text; the property lists behind the lines are gone.
`Moves d ls ls'` says that it turns `ls` into `ls'` and has its flag down at the end, so that what
follows is not touched by what came before (`Moves.append`). The lines that the writer makes are
taken one kind after the other: tags (`Moves.tag`), texts with and without line feeds
(`Moves.text`), keys and the lines of a byte string.

Property lists are compared by their *rows*, the physical lines of their written form, since a line
of the writer may hold a text with line feeds.
-/

namespace MacroScribe.Plist

open Text

/-! ### Rows -/

/-- The physical lines of the written form. -/
def rows (depth : Nat) (v : Plist) : Outcome (List Line) :=
  (v.lines depth).map (·.flatMap Text.lines)

/-- The physical lines of the items of an array. -/
def itemRows (depth : Nat) (items : List Plist) : Outcome (List Line) :=
  (itemLines depth items).map (·.flatMap Text.lines)

theorem exists_itemLines_of_itemRows {depth : Nat} {items : List Plist} {ls : List Line}
    (h : itemRows depth items = .ok ls) :
    ∃ body, itemLines depth items = .ok body ∧ ls = body.flatMap Text.lines := by
  rw [itemRows, Outcome.map_eq_ok] at h
  obtain ⟨body, hbody, rfl⟩ := h
  exact ⟨body, hbody, rfl⟩

/-- The physical lines of the entries of a dictionary. -/
def entryRows (depth : Nat) (entries : List (String × Plist)) : Outcome (List Line) :=
  (entryLines depth entries).map (·.flatMap Text.lines)

theorem flatMap_lines_enclose {depth : Nat} {name : String} (body : List Line)
    (hn : '\n' ∉ name.toList) :
    (enclose depth name body).flatMap Text.lines =
      enclose depth name (body.flatMap Text.lines) := by
  have hindent : '\n' ∉ indent depth := not_mem_indent depth (by decide)
  have hopen : '\n' ∉ indent depth ++ openTag name := by simp [openTag, hindent, hn]
  have hclose : '\n' ∉ indent depth ++ closeTag name := by simp [closeTag, hindent, hn]
  have hempty : '\n' ∉ indent depth ++ emptyTag name := by simp [emptyTag, hindent, hn]
  cases body with
  | nil => simp [enclose, lines_of_not_mem hempty]
  | cons l ls =>
    have hne : ((l :: ls).flatMap Text.lines).isEmpty = false := by
      rw [List.isEmpty_eq_false_iff]
      exact flatMap_lines_ne_nil (by simp)
    rw [enclose, enclose, hne, if_neg (by simp), if_neg (by simp), List.cons_append,
      List.flatMap_cons, List.flatMap_append, lines_of_not_mem hopen, List.flatMap_singleton,
      lines_of_not_mem hclose]
    rfl

theorem rows_array (depth : Nat) (items : List Plist) :
    rows depth (array items) = (itemRows (depth + 1) items).map (enclose depth "array") := by
  rw [rows, itemRows, lines_array]
  cases itemLines (depth + 1) items with
  | error f => rfl
  | ok body => exact congrArg Except.ok (flatMap_lines_enclose body (by decide))

theorem rows_dict (depth : Nat) (entries : List (String × Plist)) :
    rows depth (dict entries) = (entryRows (depth + 1) entries).map (enclose depth "dict") := by
  rw [rows, entryRows, lines_dict]
  cases entryLines (depth + 1) entries with
  | error f => rfl
  | ok body => exact congrArg Except.ok (flatMap_lines_enclose body (by decide))

@[simp] theorem itemRows_nil (depth : Nat) : itemRows depth [] = .ok [] := rfl

@[simp] theorem entryRows_nil (depth : Nat) : entryRows depth [] = .ok [] := rfl

theorem itemRows_cons (depth : Nat) (v : Plist) (rest : List Plist) :
    itemRows depth (v :: rest) = do
      let first ← v.rows depth
      let others ← itemRows depth rest
      return first ++ others := by
  rw [itemRows, itemLines, rows, itemRows]
  cases v.lines depth with
  | error f => rfl
  | ok first =>
    cases itemLines depth rest with
    | error f => rfl
    | ok others => exact congrArg Except.ok List.flatMap_append

theorem itemRows_cons_eq_ok {depth : Nat} {v : Plist} {rest : List Plist} {ls : List Line} :
    itemRows depth (v :: rest) = .ok ls ↔
      ∃ first others, v.rows depth = .ok first ∧ itemRows depth rest = .ok others ∧
        first ++ others = ls := by
  rw [itemRows_cons]
  exact Outcome.map₂_eq_ok

theorem itemRows_append (depth : Nat) (as bs : List Plist) :
    itemRows depth (as ++ bs) = do
      let first ← itemRows depth as
      let others ← itemRows depth bs
      return first ++ others := by
  induction as with
  | nil =>
    rw [List.nil_append, itemRows_nil]
    cases itemRows depth bs <;> rfl
  | cons v as ih =>
    rw [List.cons_append, itemRows_cons, ih, itemRows_cons]
    cases v.rows depth with
    | error f => rfl
    | ok first =>
      cases itemRows depth as with
      | error f => rfl
      | ok middle =>
        cases itemRows depth bs with
        | error f => rfl
        | ok others => exact congrArg Except.ok (List.append_assoc ..).symm

/-- Rows are physical lines. -/
theorem flatMap_lines_itemRows {depth : Nat} {items : List Plist} {ls : List Line}
    (h : itemRows depth items = .ok ls) : ls.flatMap Text.lines = ls := by
  rw [itemRows, Outcome.map_eq_ok] at h
  obtain ⟨body, -, rfl⟩ := h
  refine flatMap_lines_of_not_mem fun l hl => ?_
  obtain ⟨line, -, hl⟩ := List.mem_flatMap.mp hl
  exact not_mem_of_mem_lines hl

theorem entryRows_cons (depth : Nat) (key : String) (v : Plist) (rest : List (String × Plist)) :
    entryRows depth ((key, v) :: rest) = do
      let first ← v.rows depth
      let others ← entryRows depth rest
      return Text.lines (keyLine depth key) ++ first ++ others := by
  rw [entryRows, entryLines, rows, entryRows]
  cases v.lines depth with
  | error f => rfl
  | ok first =>
    cases entryLines depth rest with
    | error f => rfl
    | ok others =>
      refine congrArg Except.ok ?_
      change ((keyLine depth key :: first) ++ others).flatMap Text.lines = _
      rw [List.cons_append, List.flatMap_cons, List.flatMap_append, List.append_assoc]

theorem entryRows_cons_eq_ok {depth : Nat} {key : String} {v : Plist}
    {rest : List (String × Plist)} {ls : List Line} :
    entryRows depth ((key, v) :: rest) = .ok ls ↔
      ∃ first others, v.rows depth = .ok first ∧ entryRows depth rest = .ok others ∧
        Text.lines (keyLine depth key) ++ first ++ others = ls := by
  rw [entryRows_cons]
  exact Outcome.map₂_eq_ok

theorem entryRows_append (depth : Nat) (as bs : List (String × Plist)) :
    entryRows depth (as ++ bs) = do
      let first ← entryRows depth as
      let others ← entryRows depth bs
      return first ++ others := by
  induction as with
  | nil =>
    rw [List.nil_append, entryRows_nil]
    cases entryRows depth bs <;> rfl
  | cons e as ih =>
    rw [List.cons_append, entryRows_cons, ih, entryRows_cons]
    cases e.2.rows depth with
    | error f => rfl
    | ok first =>
      cases entryRows depth as with
      | error f => rfl
      | ok middle =>
        cases entryRows depth bs with
        | error f => rfl
        | ok others => exact congrArg Except.ok (List.append_assoc ..).symm

/-! ### The scanner -/

/-- Whether lines that begin outside a text, or inside one, end inside one. -/
def textAfter (inText : Bool) : List Line → Bool
  | [] => inText
  | line :: rest => textAfter (if inText then !closesText line else opensText line) rest

theorem textAfter_append (inText : Bool) (ls rest : List Line) :
    textAfter inText (ls ++ rest) = textAfter (textAfter inText ls) rest := by
  induction ls generalizing inText with
  | nil => rfl
  | cons l ls ih => exact ih _

theorem indentLines_append (depth : Nat) (inText : Bool) (ls rest : List Line) :
    indentLines depth inText (ls ++ rest) =
      indentLines depth inText ls ++ indentLines depth (textAfter inText ls) rest := by
  induction ls generalizing inText with
  | nil => rfl
  | cons l ls ih =>
    cases inText
    · simpa [indentLines, textAfter] using ih (opensText l)
    · simpa [indentLines, textAfter] using ih (!closesText l)

/-- The scanner turns the lines `ls` into `ls'` and does not end inside a text. -/
structure Moves (depth : Nat) (ls ls' : List Line) : Prop where
  lines : indentLines depth false ls = ls'
  outside : textAfter false ls = false

theorem Moves.nil (depth : Nat) : Moves depth [] [] :=
  ⟨rfl, rfl⟩

theorem Moves.append {depth : Nat} {as as' bs bs' : List Line} (ha : Moves depth as as')
    (hb : Moves depth bs bs') : Moves depth (as ++ bs) (as' ++ bs') := by
  refine ⟨?_, ?_⟩
  · rw [indentLines_append, ha.lines, ha.outside, hb.lines]
  · rw [textAfter_append, ha.outside, hb.outside]

/-! ### Lines outside texts -/

theorem infix_strip (s : List Char) : strip s <:+: s := by
  have h : dropTrailing isBlank (s.dropWhile isBlank) <+: s.dropWhile isBlank := by
    rw [dropTrailing, ← List.reverse_suffix, List.reverse_reverse]
    exact List.dropWhile_suffix _
  exact h.isInfix.trans (List.dropWhile_suffix isBlank).isInfix

/-- A line opens a text only where the tag stands. -/
theorem opensText_eq_false {line : Line} (h : ¬ openTag "string" <:+: line) :
    opensText line = false := by
  have hp : startsWith (openTag "string") (strip line) = false := by
    rw [startsWith, Bool.eq_false_iff, ne_eq, List.isPrefixOf_iff_prefix]
    exact fun hp => h (hp.isInfix.trans (infix_strip line))
  simp [opensText, hp]

/-- A tag is found at a less-than sign. -/
theorem infix_append_cons {tag s t : List Char} (h : '<' :: tag <:+: s ++ '<' :: t)
    (hs : '<' ∉ s) : tag <+: t ∨ '<' :: tag <:+: t := by
  induction s with
  | nil =>
    rcases List.infix_cons_iff.mp h with h | h
    · exact Or.inl (List.cons_prefix_cons.mp h).2
    · exact Or.inr h
  | cons c s ih =>
    rw [List.mem_cons, not_or] at hs
    rw [List.cons_append] at h
    rcases List.infix_cons_iff.mp h with h | h
    · exact absurd (List.cons_prefix_cons.mp h).1 hs.1
    · exact ih h hs.2

/-- Without a less-than sign there is no tag. -/
theorem not_infix_of_not_mem {tag s : List Char} (h : '<' ∉ s) : ¬ '<' :: tag <:+: s :=
  fun hi => h (hi.subset (List.mem_cons_self ..))

/-- A line outside texts is moved in if it is not blank and no text begins on it. -/
theorem Moves.line (depth : Nat) {line : Line} (hb : allBlank line = false)
    (ho : ¬ openTag "string" <:+: line) : Moves depth [line] [indent depth ++ line] := by
  refine ⟨?_, ?_⟩
  · simp [indentLines, hb]
  · exact opensText_eq_false ho

/-- A line with one tag or element on it that is not a text. -/
theorem Moves.tag (depth e : Nat) {t : List Char} (hp : ¬ "string>".toList <+: t)
    (ht : ¬ openTag "string" <:+: t) :
    Moves depth [indent e ++ '<' :: t] [indent (depth + e) ++ '<' :: t] := by
  rw [indent_add, List.append_assoc]
  refine Moves.line depth ?_ ?_
  · rw [allBlank_indent_append, allBlank_cons]
    rfl
  · intro h
    rcases infix_append_cons h (not_mem_indent e (by decide)) with h | h
    · exact hp h
    · exact ht h

theorem not_prefix_of_head {t : List Char} (h : t.head? ≠ some 's') :
    ¬ "string>".toList <+: t := by
  rintro ⟨u, rfl⟩
  exact h rfl

/-- An element that is not a text, on one line. -/
theorem Moves.elementLine (depth e : Nat) {name : String} {s : List Char}
    (hn : '<' ∉ name.toList) (hs : '<' ∉ s) (hname : (name.toList ++ ['>']).head? ≠ some 's') :
    Moves depth [indent e ++ element name s] [indent (depth + e) ++ element name s] := by
  have hcontent : '<' ∉ name.toList ++ ['>'] ++ s := by simp [hn, hs]
  have hsplit : element name s = '<' :: (name.toList ++ ['>'] ++ s ++ closeTag name) := by
    simp [element, openTag]
  rw [hsplit]
  refine Moves.tag depth e (not_prefix_of_head ?_) fun h => ?_
  · cases hc : name.toList <;> simp_all
  · rcases infix_append_cons h hcontent with h | h
    · exact not_prefix_of_head (by simp) h
    · exact not_infix_of_not_mem (by simp [hn]) h

/-- Lines of which none is blank and no text begins on one. -/
theorem Moves.each (depth e : Nat) {ls : List Line}
    (h : ∀ l ∈ ls, allBlank l = false ∧ ¬ openTag "string" <:+: indent e ++ l) :
    Moves depth (ls.map (indent e ++ ·)) (ls.map (indent (depth + e) ++ ·)) := by
  induction ls with
  | nil => exact Moves.nil depth
  | cons l ls ih =>
    obtain ⟨hb, ho⟩ := h l (by simp)
    have hline := Moves.line depth ((allBlank_indent_append e l).trans hb) ho
    rw [← List.append_assoc, ← indent_add] at hline
    exact hline.append (ih fun l hl => h l (by simp [hl]))

/-- The lines of a byte string that is not empty. -/
theorem Moves.data (depth e : Nat) {bytes : List UInt8} (h : bytes ≠ []) :
    Moves depth (dataLines e bytes) (dataLines (depth + e) bytes) := by
  refine Moves.each depth e fun l hl => ?_
  rw [List.cons_append, List.mem_cons, List.mem_append, List.mem_singleton] at hl
  -- The lines of the two tags, and the lines of symbols between them.
  rcases hl with rfl | hl | rfl
  · refine ⟨by decide, fun h => ?_⟩
    rcases infix_append_cons h (not_mem_indent e (by decide)) with h | h
    · exact absurd h (by decide)
    · exact absurd h (by decide)
  · obtain ⟨hne, hmem⟩ := mem_wrapLines hl
    have hsymbol : ∀ c ∈ l, isBlank c = false :=
      fun c hc => Base64.isBlank_of_mem_encode (hmem c hc)
    have hencode : Text.Base64.encode bytes ≠ [] := fun he => h (Base64.encode_eq_nil_iff.mp he)
    refine ⟨?_, not_infix_of_not_mem ?_⟩
    · obtain ⟨c, s, rfl⟩ := List.exists_cons_of_ne_nil (hne hencode)
      rw [allBlank_cons, hsymbol c (by simp), Bool.false_and]
    · rw [List.mem_append, not_or]
      exact ⟨not_mem_indent e (by decide), fun hc => Base64.ne_of_mem_encode (hmem _ hc) rfl⟩
  · refine ⟨by decide, fun h => ?_⟩
    rcases infix_append_cons h (not_mem_indent e (by decide)) with h | h
    · exact absurd h (by decide)
    · exact absurd h (by decide)

/-! ### Texts

The first line of a text with line feeds raises the flag, since a less-than sign after the tag could
only come from the closing one; the same reason keeps it up until the last line. -/

/-- A text goes on after a line without a less-than sign. -/
theorem closesText_eq_false {line : Line} (h : '<' ∉ line) : closesText line = false := by
  rw [closesText, endsWith, Bool.eq_false_iff, ne_eq, List.isSuffixOf_iff_suffix]
  exact fun hs => h (hs.subset (by decide))

theorem closesText_append (s : List Char) : closesText (s ++ closeTag "string") = true := by
  rw [closesText, endsWith, List.isSuffixOf_iff_suffix]
  exact List.suffix_append s _

/-- The rest of a text, from the line after a line feed on, stays as it is. -/
theorem indentLines_within (depth : Nat) (s : List Char) :
    indentLines depth true (Text.lines (escape s ++ closeTag "string")) =
        Text.lines (escape s ++ closeTag "string") ∧
      textAfter true (Text.lines (escape s ++ closeTag "string")) = false := by
  -- By the number of characters: the flag stays up until the line with the closing tag.
  rcases line_or_feed s with hs | ⟨a, b, rfl, ha⟩
  · have hline : '\n' ∉ escape s ++ closeTag "string" := by
      rw [List.mem_append, not_or]
      exact ⟨not_mem_feed_escape hs, by decide⟩
    rw [lines_of_not_mem hline]
    simp [indentLines, textAfter, closesText_append]
  · have ih := indentLines_within depth b
    have hopen : closesText (escape a) = false := closesText_eq_false (not_mem_escape a)
    rw [escape_append_feed, List.append_assoc, List.cons_append, lines_append_feed,
      lines_of_not_mem (not_mem_feed_escape ha), List.singleton_append]
    exact ⟨by simp [indentLines, hopen, ih.1], by simp [textAfter, hopen, ih.2]⟩
termination_by s.length
decreasing_by simp_all; omega

/-- A text that does not end on the line of its tag. -/
theorem opensText_open (e : Nat) {s : List Char} (hs : '<' ∉ s) :
    opensText (indent e ++ (openTag "string" ++ s)) = true := by
  -- Stripping takes the tabs away, and perhaps white space at the end of the line.
  have hbare : strip (indent e ++ (openTag "string" ++ s)) =
      openTag "string" ++ dropTrailing isBlank s := by
    have h := strip_indent_cons e ("string>".toList ++ s) (c := '<') (by decide)
    have ht := dropTrailing_append_cons (p := isBlank) "<string".toList s (c := '>') (by decide)
    have hl := dropTrailing_append_cons (p := isBlank) [] ("string>".toList ++ s) (c := '<')
      (by decide)
    exact h.trans (hl.symm.trans ht)
  have hopen : startsWith (openTag "string") (strip (indent e ++ (openTag "string" ++ s))) := by
    rw [hbare, startsWith, List.isPrefixOf_iff_prefix]
    exact List.prefix_append _ _
  have hrest : '<' ∉ "string>".toList ++ dropTrailing isBlank s := by
    rw [List.mem_append, not_or]
    exact ⟨by decide, fun h => hs (mem_of_mem_dropTrailing h)⟩
  have hclose : endsWith (closeTag "string") (strip (indent e ++ (openTag "string" ++ s))) =
      false := by
    rw [hbare, endsWith, Bool.eq_false_iff, ne_eq, List.isSuffixOf_iff_suffix]
    intro hsuf
    have hsuf' : closeTag "string" <:+ '<' :: ("string>".toList ++ dropTrailing isBlank s) := hsuf
    rcases List.suffix_cons_iff.mp hsuf' with h | h
    · exact absurd (List.cons.inj (List.cons.inj h).2).1 (by decide)
    · exact hrest (h.subset (by decide))
  simp [opensText, hopen, hclose]

/-- A text that ends on the line of its tag. -/
theorem opensText_element (e : Nat) (s : List Char) :
    opensText (indent e ++ element "string" s) = false := by
  have hstrip := strip_indent_cons e ("string>".toList ++ s ++ closeTag "string") (c := '<')
    (by decide)
  have hend : "string>".toList ++ s ++ closeTag "string" =
      ("string>".toList ++ s ++ "</string".toList) ++ ['>'] := by
    rw [List.append_assoc _ _ ['>']]
    rfl
  rw [hend, dropTrailing_append_of_not _ (by decide), ← hend] at hstrip
  have hclose : endsWith (closeTag "string") (strip (indent e ++ element "string" s)) := by
    rw [endsWith, List.isSuffixOf_iff_suffix]
    exact hstrip ▸ List.suffix_append (openTag "string" ++ s) _
  simp [opensText, hclose]

theorem allBlank_indent_element (e : Nat) (name : String) (s : List Char) :
    allBlank (indent e ++ element name s) = false := by
  rw [allBlank_indent_append]
  rfl

/-- The scanner moves a text in: its first line, and nothing after a line feed inside it. -/
theorem Moves.text (depth e : Nat) (s : List Char) :
    Moves depth (Text.lines (indent e ++ element "string" (escape s)))
      (Text.lines (indent (depth + e) ++ element "string" (escape s))) := by
  rcases line_or_feed s with hs | ⟨a, b, rfl, ha⟩
  · have hline (e : Nat) : '\n' ∉ indent e ++ element "string" (escape s) := by
      simp only [element, List.mem_append, not_or]
      exact ⟨not_mem_indent e (by decide), ⟨by decide, not_mem_feed_escape hs⟩, by decide⟩
    rw [lines_of_not_mem (hline e), lines_of_not_mem (hline _), indent_add, List.append_assoc]
    refine ⟨?_, opensText_element e _⟩
    simp [indentLines, allBlank_indent_element]
  · have hfirst (e : Nat) : Text.lines (indent e ++ element "string" (escape (a ++ '\n' :: b))) =
        (indent e ++ (openTag "string" ++ escape a)) ::
          Text.lines (escape b ++ closeTag "string") := by
      have hline : '\n' ∉ indent e ++ (openTag "string" ++ escape a) := by
        simp only [List.mem_append, not_or]
        exact ⟨not_mem_indent e (by decide), by decide, not_mem_feed_escape ha⟩
      have hcut := lines_append_feed (indent e ++ (openTag "string" ++ escape a))
        (escape b ++ closeTag "string")
      rw [lines_of_not_mem hline, List.singleton_append] at hcut
      rw [← hcut, escape_append_feed, element]
      simp only [List.append_assoc, List.cons_append]
    obtain ⟨hmoved, houtside⟩ := indentLines_within depth b
    have hopen := opensText_open e (not_mem_escape a)
    have hblank : allBlank (indent e ++ (openTag "string" ++ escape a)) = false := by
      rw [allBlank_indent_append]
      rfl
    rw [hfirst, hfirst, indent_add, List.append_assoc (indent depth)]
    refine ⟨?_, ?_⟩
    · rw [indentLines, if_neg (by simp), hblank, if_neg (by simp), hopen, hmoved]
    · rw [textAfter, if_neg (by simp), hopen, houtside]

end MacroScribe.Plist
