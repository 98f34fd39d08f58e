import MacroScribe.Proofs.Outcome
import MacroScribe.Proofs.Plist.Indentation

/-!
# MacroScribe.Proofs.Plist.Moving

Moving a written property list in. The scanner has nothing but lines, and still makes no mistake:
the lines of a property list at depth `e`, moved in by `d` tabs, are the lines of the same property
list at depth `d + e` (`rows_moved`). The one thing that changes is a key with line feeds, for the
lines inside a key are moved in like any other; `moved` says how.
-/

namespace MacroScribe.Plist

open Text

/-! ### Keys

The scanner does not know keys. It puts tabs in front of every line of a key but the first, unless
the line is blank; the last line of a key is not, since the tag that closes it stands there. -/

/-- The text has a line feed, and nothing but white space before the first one. -/
def blankLineAhead : List Char → Bool
  | [] => false
  | c :: s => c == '\n' || (isBlank c && blankLineAhead s)

/-- The text of a key after it was moved in. -/
def moveText (depth : Nat) : List Char → List Char
  | [] => []
  | c :: s =>
    c :: (if c = '\n' ∧ blankLineAhead s = false then indent depth else []) ++ moveText depth s

/-- A key after it was moved in. -/
def moveKey (depth : Nat) (key : String) : String :=
  String.ofList (moveText depth key.toList)

/-- What a text becomes that follows a line feed in a key. -/
def moveRest (depth : Nat) (s : List Char) : List Char :=
  (if blankLineAhead s then [] else indent depth) ++ moveText depth s

theorem blankLineAhead_of_not_mem {s : List Char} (h : '\n' ∉ s) : blankLineAhead s = false := by
  induction s with
  | nil => rfl
  | cons c s ih =>
    rw [List.mem_cons, not_or] at h
    simp [blankLineAhead, Ne.symm h.1, ih h.2]

/-- Whether the rest of the line is blank depends on the line only. -/
theorem blankLineAhead_append_feed {a : List Char} (b : List Char) (h : '\n' ∉ a) :
    blankLineAhead (a ++ '\n' :: b) = allBlank a := by
  induction a with
  | nil => simp [blankLineAhead, allBlank]
  | cons c a ih =>
    rw [List.mem_cons, not_or] at h
    simp [blankLineAhead, Ne.symm h.1, ih h.2, allBlank_cons]

/-- A text on one line is not moved. -/
theorem moveText_of_not_mem {s : List Char} (depth : Nat) (h : '\n' ∉ s) :
    moveText depth s = s := by
  induction s with
  | nil => rfl
  | cons c s ih =>
    rw [List.mem_cons, not_or] at h
    simp [moveText, Ne.symm h.1, ih h.2]

/-- The first line of a text stays, and the rest is moved. -/
theorem moveText_append_feed {a : List Char} (depth : Nat) (b : List Char) (h : '\n' ∉ a) :
    moveText depth (a ++ '\n' :: b) = a ++ '\n' :: moveRest depth b := by
  induction a with
  | nil => cases hb : blankLineAhead b <;> simp [moveText, moveRest, hb]
  | cons c a ih =>
    rw [List.mem_cons, not_or] at h
    simp [moveText, Ne.symm h.1, ih h.2]

theorem moveRest_of_not_mem {s : List Char} (depth : Nat) (h : '\n' ∉ s) :
    moveRest depth s = indent depth ++ s := by
  rw [moveRest, blankLineAhead_of_not_mem h, moveText_of_not_mem depth h]
  rfl

/-- Each further line is moved, unless it is blank. -/
theorem moveRest_append_feed {a : List Char} (depth : Nat) (b : List Char) (h : '\n' ∉ a) :
    moveRest depth (a ++ '\n' :: b) =
      ((if allBlank a then [] else indent depth) ++ a) ++ '\n' :: moveRest depth b := by
  rw [moveRest, blankLineAhead_append_feed b h, moveText_append_feed depth b h, List.append_assoc]

/-- A key on one line is not moved. -/
theorem moveKey_of_onLine {key : String} (depth : Nat) (h : KeyOnLine key) :
    moveKey depth key = key := by
  rw [moveKey, moveText_of_not_mem depth h, String.ofList_toList]

/-- The lines of a key after its first one. -/
theorem Moves.keyRest (depth : Nat) (s : List Char) :
    Moves depth (Text.lines (escape s ++ closeTag "key"))
      (Text.lines (escape (moveRest depth s) ++ closeTag "key")) := by
  -- By the number of characters: after a line feed the rest of the key follows.
  rcases line_or_feed s with hs | ⟨a, b, rfl, ha⟩
  · have hline (t : List Char) (ht : '\n' ∉ t) : '\n' ∉ escape t ++ closeTag "key" := by
      rw [List.mem_append, not_or]
      exact ⟨not_mem_feed_escape ht, by decide⟩
    have hmoved : '\n' ∉ indent depth ++ s := by
      rw [List.mem_append, not_or]
      exact ⟨not_mem_indent depth (by decide), hs⟩
    rw [moveRest_of_not_mem depth hs, lines_of_not_mem (hline s hs),
      lines_of_not_mem (hline _ hmoved), escape_append, escape_indent, List.append_assoc]
    refine Moves.line depth ?_ ?_
    · rw [allBlank_append, Bool.and_eq_false_iff]
      exact Or.inr (by decide)
    · intro h
      rcases infix_append_cons h (not_mem_escape s) with h | h
      · exact absurd h (by decide)
      · exact not_infix_of_not_mem (by decide) h
  · have hcut (t : List Char) (ht : '\n' ∉ t) (u : List Char) :
        Text.lines (escape (t ++ '\n' :: u) ++ closeTag "key") =
          [escape t] ++ Text.lines (escape u ++ closeTag "key") := by
      rw [escape_append_feed, List.append_assoc, List.cons_append, lines_append_feed,
        lines_of_not_mem (not_mem_feed_escape ht)]
    have hmoved : '\n' ∉ (if allBlank a then [] else indent depth) ++ a := by
      rw [List.mem_append, not_or]
      refine ⟨?_, ha⟩
      split
      · exact List.not_mem_nil
      · exact not_mem_indent depth (by decide)
    have hopen : opensText (escape a) = false :=
      opensText_eq_false (not_infix_of_not_mem (not_mem_escape a))
    rw [moveRest_append_feed depth b ha, hcut a ha, hcut _ hmoved]
    refine Moves.append ⟨?_, hopen⟩ (Moves.keyRest depth b)
    cases hblank : allBlank a <;>
      simp [indentLines, allBlank_escape, hblank, escape_append, escape_indent]
termination_by s.length
decreasing_by simp_all; omega

/-- The lines of a key are the lines of the moved key, deeper by so much. -/
theorem Moves.key (depth e : Nat) (key : String) :
    Moves depth (Text.lines (keyLine e key))
      (Text.lines (keyLine (depth + e) (moveKey depth key))) := by
  rw [moveKey, keyLine, keyLine, String.toList_ofList]
  -- The first line of a key has its tag and is moved in whatever else is on it.
  rcases line_or_feed key.toList with hs | ⟨a, b, hab, ha⟩
  · have hline (e : Nat) : '\n' ∉ indent e ++ element "key" (escape key.toList) := by
      simp only [element, List.mem_append, not_or]
      exact ⟨not_mem_indent e (by decide), ⟨by decide, not_mem_feed_escape hs⟩, by decide⟩
    rw [moveText_of_not_mem depth hs, lines_of_not_mem (hline e), lines_of_not_mem (hline _)]
    exact Moves.elementLine depth e (by decide) (not_mem_escape _) (by decide)
  · have hcut (e : Nat) (b : List Char) :
        Text.lines (indent e ++ element "key" (escape (a ++ '\n' :: b))) =
          [indent e ++ (openTag "key" ++ escape a)] ++ Text.lines (escape b ++ closeTag "key") := by
      have hline : '\n' ∉ indent e ++ (openTag "key" ++ escape a) := by
        simp only [List.mem_append, not_or]
        exact ⟨not_mem_indent e (by decide), by decide, not_mem_feed_escape ha⟩
      rw [← lines_of_not_mem hline, ← lines_append_feed, escape_append_feed, element]
      simp only [List.append_assoc, List.cons_append]
    have hrest : '<' ∉ "key>".toList ++ escape a := by
      rw [List.mem_append, not_or]
      exact ⟨by decide, not_mem_escape a⟩
    rw [hab, moveText_append_feed depth b ha, hcut, hcut]
    exact (Moves.tag depth e (not_prefix_of_head (by simp))
      (not_infix_of_not_mem hrest)).append (Moves.keyRest depth b)

/-! ### Property lists -/

mutual

/-- The property list after its lines were moved in. -/
def moved (depth : Nat) : Plist → Plist
  | array items => array (movedItems depth items)
  | dict entries => dict (movedEntries depth entries)
  | v => v

def movedItems (depth : Nat) : List Plist → List Plist
  | [] => []
  | v :: rest => v.moved depth :: movedItems depth rest

def movedEntries (depth : Nat) : List (String × Plist) → List (String × Plist)
  | [] => []
  | (key, v) :: rest => (moveKey depth key, v.moved depth) :: movedEntries depth rest

end

mutual

/-- Keys on one line are not changed. -/
theorem moved_of_keysOnLines (depth : Nat) : ∀ {v : Plist}, v.KeysOnLines → v.moved depth = v
  | string _ _, _ | integer _, _ | real _, _ | bool _, _ | data _, _ | fragment _, _
  | broken _, _ => rfl
  | array _, h => congrArg array (movedItems_of_keysOnLines depth h)
  | dict _, h => congrArg dict (movedEntries_of_keysOnLines depth h)

/-- Moving changes nothing where all keys are on one line. -/
theorem movedItems_of_keysOnLines (depth : Nat) :
    ∀ {items : List Plist}, EveryItem (fun _ => True) KeyOnLine items →
      movedItems depth items = items
  | [], _ => rfl
  | _ :: _, h => by
    rw [movedItems, moved_of_keysOnLines depth h.1, movedItems_of_keysOnLines depth h.2]

theorem movedEntries_of_keysOnLines (depth : Nat) :
    ∀ {entries : List (String × Plist)}, EveryEntry (fun _ => True) KeyOnLine entries →
      movedEntries depth entries = entries
  | [], _ => rfl
  | (_, _) :: _, h => by
    rw [movedEntries, moveKey_of_onLine depth h.1.1, moved_of_keysOnLines depth h.1.2,
      movedEntries_of_keysOnLines depth h.2]

end

mutual

/-- Leaves are not changed. -/
theorem every_moved {leaf : Plist → Prop} (depth : Nat) :
    ∀ {v : Plist}, v.Every leaf (fun _ => True) → (v.moved depth).Every leaf fun _ => True
  | string _ _, h | integer _, h | real _, h | bool _, h | data _, h | fragment _, h
  | broken _, h => h
  | array _, h => everyItem_moved depth h
  | dict _, h => everyEntry_moved depth h

/-- Moving changes keys only, so what holds of the leaves still holds. -/
theorem everyItem_moved {leaf : Plist → Prop} (depth : Nat) :
    ∀ {items : List Plist}, EveryItem leaf (fun _ => True) items →
      EveryItem leaf (fun _ => True) (movedItems depth items)
  | [], _ => trivial
  | _ :: _, h => ⟨every_moved depth h.1, everyItem_moved depth h.2⟩

theorem everyEntry_moved {leaf : Plist → Prop} (depth : Nat) :
    ∀ {entries : List (String × Plist)}, EveryEntry leaf (fun _ => True) entries →
      EveryEntry leaf (fun _ => True) (movedEntries depth entries)
  | [], _ => trivial
  | (_, _) :: _, h => ⟨⟨trivial, every_moved depth h.1.2⟩, everyEntry_moved depth h.2⟩

end

theorem movedItems_eq_map (depth : Nat) (items : List Plist) :
    movedItems depth items = items.map (moved depth) := by
  induction items with
  | nil => rfl
  | cons v rest ih => rw [movedItems, ih, List.map_cons]

theorem movedEntries_eq_map (depth : Nat) (entries : List (String × Plist)) :
    movedEntries depth entries = entries.map fun e => (moveKey depth e.1, e.2.moved depth) := by
  induction entries with
  | nil => rfl
  | cons e rest ih => rw [movedEntries, ih, List.map_cons]

/-- A container moves in if what is inside does. -/
theorem Moves.container {depth e : Nat} {name : String} {body body' : List Line}
    (h : Moves depth body body') (hn : '<' ∉ name.toList)
    (hname : (name.toList ++ ['>']).head? ≠ some 's') :
    Moves depth (enclose e name body) (enclose (depth + e) name body') := by
  have htag (close : List Char) (hc : '<' ∉ close) (hp : (name.toList ++ close).head? ≠ some 's') :
      Moves depth [indent e ++ '<' :: (name.toList ++ close)]
        [indent (depth + e) ++ '<' :: (name.toList ++ close)] :=
    Moves.tag depth e (not_prefix_of_head hp) (not_infix_of_not_mem (by simp [hn, hc]))
  have hclose : Moves depth [indent e ++ closeTag name] [indent (depth + e) ++ closeTag name] :=
    Moves.tag depth e (not_prefix_of_head (by simp)) (not_infix_of_not_mem (by simp [hn]))
  cases body with
  | nil =>
    obtain rfl : [] = body' := h.lines
    refine htag ['/', '>'] (by decide) ?_
    cases hc : name.toList <;> simp_all
  | cons l ls =>
    have hbody' : body'.isEmpty = false := by
      rw [List.isEmpty_eq_false_iff, ← h.lines]
      simp [indentLines]
    rw [enclose, if_neg (by simp), enclose, hbody', if_neg (by simp)]
    exact ((htag ['>'] (by decide) hname).append h).append hclose

theorem not_mem_feed_indent_append (depth : Nat) {s : List Char} (h : '\n' ∉ s) :
    '\n' ∉ indent depth ++ s := by
  rw [List.mem_append, not_or]
  exact ⟨not_mem_indent depth (by decide), h⟩

/-- A line that is moved in and has no line feed. -/
theorem Moves.row {depth e : Nat} {l : Line}
    (h : Moves depth [indent e ++ l] [indent (depth + e) ++ l]) (hl : '\n' ∉ l) :
    Moves depth (List.flatMap Text.lines [indent e ++ l])
      (List.flatMap Text.lines [indent (depth + e) ++ l]) := by
  rwa [List.flatMap_singleton, List.flatMap_singleton,
    lines_of_not_mem (not_mem_feed_indent_append _ hl),
    lines_of_not_mem (not_mem_feed_indent_append _ hl)]

theorem not_mem_feed_element {name : String} {s : List Char} (hn : '\n' ∉ name.toList)
    (hs : '\n' ∉ s) : '\n' ∉ element name s := by
  simp [element, openTag, closeTag, hn, hs]

/-- The lines of data are lines already. -/
theorem flatMap_lines_dataLines (depth : Nat) (bytes : List UInt8) :
    (dataLines depth bytes).flatMap Text.lines = dataLines depth bytes := by
  refine flatMap_lines_of_not_mem fun l hl => ?_
  obtain ⟨t, ht, rfl⟩ := List.mem_map.mp hl
  refine not_mem_feed_indent_append depth ?_
  rw [List.cons_append, List.mem_cons, List.mem_append, List.mem_singleton] at ht
  rcases ht with rfl | ht | rfl
  · decide
  · intro hf
    exact absurd (Base64.isBlank_of_mem_encode ((mem_wrapLines ht).2 _ hf)) (by decide)
  · decide

mutual

/-- The lines of a property list, moved in, are those of the moved property list further in. -/
theorem rows_moved (d : Nat) {e : Nat} :
    ∀ {v : Plist} {ls : List Line}, v.Solid → v.rows e = .ok ls →
      ∃ ls', (v.moved d).rows (d + e) = .ok ls' ∧ Moves d ls ls'
  | string s compact, ls, _, h => by
    obtain rfl := Except.ok.inj h
    refine ⟨_, rfl, ?_⟩
    rw [textElement]
    split
    · exact (Moves.tag d e (by decide) (by decide)).row (by decide)
    · simpa only [List.flatMap_singleton] using Moves.text d e s.toList
  | integer n, _, _, h => by
    obtain rfl := Except.ok.inj h
    exact ⟨_, rfl, (Moves.elementLine d e (by decide) (not_mem_intText n (by decide))
      (by decide)).row (not_mem_feed_element (by decide) (not_mem_intText n (by decide)))⟩
  | real x, _, _, h => by
    obtain rfl := Except.ok.inj h
    exact ⟨_, rfl, (Moves.elementLine d e (by decide) (not_mem_compact x (by decide))
      (by decide)).row (not_mem_feed_element (by decide) (not_mem_compact x (by decide)))⟩
  | bool b, _, _, h => by
    obtain rfl := Except.ok.inj h
    refine ⟨_, rfl, ?_⟩
    cases b
    · exact (Moves.tag d e (by decide) (by decide)).row (by decide)
    · exact (Moves.tag d e (by decide) (by decide)).row (by decide)
  | data bytes, _, hv, h => by
    obtain rfl := Except.ok.inj h
    refine ⟨_, rfl, ?_⟩
    simp only [flatMap_lines_dataLines]
    exact Moves.data d e hv
  | array items, _, hv, h => by
    rw [rows_array, Outcome.map_eq_ok] at h
    obtain ⟨body, hbody, rfl⟩ := h
    obtain ⟨body', hbody', hmoves⟩ := itemRows_moved d hv hbody
    refine ⟨enclose (d + e) "array" body', ?_, hmoves.container (by decide) (by decide)⟩
    rw [moved, rows_array, Nat.add_assoc, hbody']
    rfl
  | dict entries, _, hv, h => by
    rw [rows_dict, Outcome.map_eq_ok] at h
    obtain ⟨body, hbody, rfl⟩ := h
    obtain ⟨body', hbody', hmoves⟩ := entryRows_moved d hv hbody
    refine ⟨enclose (d + e) "dict" body', ?_, hmoves.container (by decide) (by decide)⟩
    rw [moved, rows_dict, Nat.add_assoc, hbody']
    rfl

/-- The rows of a moved list, one item after the other. -/
theorem itemRows_moved (d : Nat) {e : Nat} :
    ∀ {items : List Plist} {ls : List Line}, EveryItem SolidLeaf (fun _ => True) items →
      itemRows e items = .ok ls →
      ∃ ls', itemRows (d + e) (movedItems d items) = .ok ls' ∧ Moves d ls ls'
  | [], _, _, h => by
    obtain rfl := Except.ok.inj h
    exact ⟨[], rfl, Moves.nil d⟩
  | v :: rest, _, hv, h => by
    obtain ⟨first, others, hfirst, hothers, rfl⟩ := itemRows_cons_eq_ok.mp h
    obtain ⟨first', hfirst', hmove⟩ := rows_moved d hv.1 hfirst
    obtain ⟨others', hothers', hmoves⟩ := itemRows_moved d hv.2 hothers
    refine ⟨first' ++ others', ?_, hmove.append hmoves⟩
    rw [movedItems, itemRows_cons, hfirst', hothers']
    rfl

/-- The rows of moved entries, each with its key in front. -/
theorem entryRows_moved (d : Nat) {e : Nat} :
    ∀ {entries : List (String × Plist)} {ls : List Line},
      EveryEntry SolidLeaf (fun _ => True) entries → entryRows e entries = .ok ls →
      ∃ ls', entryRows (d + e) (movedEntries d entries) = .ok ls' ∧ Moves d ls ls'
  | [], _, _, h => by
    obtain rfl := Except.ok.inj h
    exact ⟨[], rfl, Moves.nil d⟩
  | (key, v) :: rest, _, hv, h => by
    obtain ⟨first, others, hfirst, hothers, rfl⟩ := entryRows_cons_eq_ok.mp h
    obtain ⟨first', hfirst', hmove⟩ := rows_moved d hv.1.2 hfirst
    obtain ⟨others', hothers', hmoves⟩ := entryRows_moved d hv.2 hothers
    refine ⟨Text.lines (keyLine (d + e) (moveKey d key)) ++ first' ++ others', ?_,
      ((Moves.key d e key).append hmove).append hmoves⟩
    rw [movedEntries, entryRows_cons, hfirst', hothers']
    rfl

end

/-! ### Splicing -/

/-- The text begins with a tag and ends with one. -/
structure Tagged (s : List Char) : Prop where
  first : ∃ t, s = '<' :: t
  last : ∃ t, s = t ++ ['>']

/-- Between two tags there may be anything. -/
theorem Tagged.append {s t : List Char} (hs : Tagged s) (ht : Tagged t) (u : List Char) :
    Tagged (s ++ u ++ t) := by
  obtain ⟨s', rfl⟩ := hs.first
  obtain ⟨t', rfl⟩ := ht.last
  exact ⟨⟨_, rfl⟩, ⟨'<' :: s' ++ u ++ t', by simp⟩⟩

theorem Tagged.ne_nil_of_unlines {s : List Char} {ls : List Line} (h : Tagged s)
    (hls : s = unlines ls) : ls ≠ [] := by
  rintro rfl
  obtain ⟨t, rfl⟩ := h.first
  exact List.cons_ne_nil _ _ hls

theorem tagged_openTag (name : String) : Tagged (openTag name) :=
  ⟨⟨_, rfl⟩, ⟨'<' :: name.toList, rfl⟩⟩

theorem tagged_closeTag (name : String) : Tagged (closeTag name) :=
  ⟨⟨_, rfl⟩, ⟨'<' :: '/' :: name.toList, rfl⟩⟩

theorem tagged_emptyTag (name : String) : Tagged (emptyTag name) :=
  ⟨⟨_, rfl⟩, ⟨'<' :: name.toList ++ ['/'], by simp [emptyTag]⟩⟩

theorem tagged_element (name : String) (s : List Char) : Tagged (element name s) :=
  (tagged_openTag name).append (tagged_closeTag name) s

/-- The text is indented by `e` tabs, and begins and ends with a tag otherwise. -/
def TaggedAt (e : Nat) (s : List Char) : Prop :=
  ∃ t, s = indent e ++ t ∧ Tagged t

theorem TaggedAt.tagged {s : List Char} (h : TaggedAt 0 s) : Tagged s := by
  obtain ⟨t, rfl, ht⟩ := h
  exact ht

theorem TaggedAt.append {e : Nat} {s t : List Char} (hs : TaggedAt e s) (ht : TaggedAt e t) :
    TaggedAt e (s ++ '\n' :: t) := by
  obtain ⟨s, rfl, hs⟩ := hs
  obtain ⟨t, rfl, ht⟩ := ht
  exact ⟨s ++ '\n' :: indent e ++ t, by simp, hs.append ht _⟩

theorem TaggedAt.ne_nil_of_unlines {e : Nat} {ls : List Line} (h : TaggedAt e (unlines ls)) :
    ls ≠ [] := by
  rintro rfl
  obtain ⟨t, ht, htagged⟩ := h
  obtain ⟨u, rfl⟩ := htagged.first
  exact List.append_ne_nil_of_right_ne_nil _ (List.cons_ne_nil _ _) ht.symm

/-- A line with tags is tagged at its depth. -/
theorem taggedAt_line (e : Nat) {t : List Char} (h : Tagged t) :
    TaggedAt e (unlines [indent e ++ t]) :=
  ⟨t, joinWith_singleton _ _, h⟩

/-- Whatever stands between two tags at a depth. -/
theorem taggedAt_between (e : Nat) (name : String) (body : List Line) :
    TaggedAt e (unlines ((indent e ++ openTag name) :: body ++ [indent e ++ closeTag name])) := by
  have hbody : ∃ u,
      unlines ((indent e ++ openTag name) :: body) = indent e ++ openTag name ++ u := by
    cases body with
    | nil => exact ⟨[], by simp [unlines]⟩
    | cons l ls => exact ⟨_, joinWith_cons _ _ (by simp)⟩
  obtain ⟨u, hu⟩ := hbody
  refine ⟨openTag name ++ (u ++ '\n' :: indent e) ++ closeTag name, ?_,
    (tagged_openTag name).append (tagged_closeTag name) _⟩
  rw [unlines_append (by simp) (by simp), hu]
  simp [unlines]

/-- So are lines inside an element, whatever they are. -/
theorem taggedAt_enclose (e : Nat) (name : String) (body : List Line) :
    TaggedAt e (unlines (enclose e name body)) := by
  rw [enclose]
  split
  · exact taggedAt_line e (tagged_emptyTag name)
  · exact taggedAt_between e name body

/-- Dictionaries that are written already are spliced in as the scanner moves their lines. -/
theorem fragmentLines_unlines (depth : Nat) {ls : List Line} (hls : ls.flatMap Text.lines = ls)
    (h : Tagged (unlines ls)) :
    fragmentLines depth (unlines ls) = indentLines depth false ls := by
  obtain ⟨t, ht⟩ := h.first
  obtain ⟨u, hu⟩ := h.last
  have hne : ls ≠ [] := h.ne_nil_of_unlines rfl
  have hblank : allBlank (unlines ls) = false := by
    rw [ht, allBlank_cons]
    rfl
  rw [fragmentLines, hblank, if_neg (by simp), indentFragment,
    dropEnds_of_ends ht hu (by decide) (by decide), lines_unlines hne, hls]

end MacroScribe.Plist
