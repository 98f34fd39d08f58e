import MacroScribe.Proofs.Outcome
import MacroScribe.Proofs.Plist.Reader
import MacroScribe.Proofs.Plist.Shape

/-!
# MacroScribe.Proofs.Plist.RoundTrip

Reading undoes writing. Each line of the writer is looked at together with the line feed before it:
`run_line` reads a line with one tag on it, `run_leaf` one with an element, and `run_lines` all
lines of a property list, from wherever the reader is. It follows that the reader finds in a written
property list what there is to be found of it (`read_lines`), so that two property lists of which
there is something different to be found are never written alike.
-/

namespace MacroScribe.Plist

open Text Reader

namespace Reader

/-! ### Tags -/

theorem run_text {t : List Char} (s : State) (before rest : List Char) (ht : '<' ∉ t) :
    run s before none (t ++ '<' :: rest) = run s (before ++ t) (some []) rest := by
  induction t generalizing before with
  | nil => simp [run]
  | cons c t ih =>
    rw [List.mem_cons, not_or] at ht
    rw [List.cons_append, run, if_neg (Ne.symm ht.1), ih _ ht.2, List.append_assoc]
    rfl

theorem run_name {tag : List Char} (s : State) (before t rest : List Char) (htag : '>' ∉ tag) :
    run s before (some t) (tag ++ '>' :: rest) =
      (s.step before (String.ofList (t ++ tag))).bind fun s => run s [] none rest := by
  induction tag generalizing t with
  | nil => simp [run]
  | cons c tag ih =>
    rw [List.mem_cons, not_or] at htag
    rw [List.cons_append, run, if_neg (Ne.symm htag.1), ih _ htag.2, List.append_assoc]
    rfl

/-- Characters and the tag after them. -/
theorem run_tag {t tag : List Char} (s : State) (rest : List Char) (ht : '<' ∉ t)
    (htag : '>' ∉ tag) :
    run s [] none (t ++ '<' :: tag ++ '>' :: rest) =
      (s.step t (String.ofList tag)).bind fun s => run s [] none rest := by
  rw [List.append_assoc, List.cons_append, run_text s [] _ ht, run_name s _ [] rest htag]
  rfl

theorem isGap_feed_indent (d : Nat) : isGap ('\n' :: indent d) = true := by
  rw [isGap, List.all_eq_true]
  intro c hc
  rcases List.mem_cons.mp hc with rfl | hc
  · rfl
  · rw [eq_tab_of_mem_indent hc]
    rfl

theorem not_mem_feed_indent (d : Nat) : '<' ∉ '\n' :: indent d := by
  rw [List.mem_cons, not_or]
  exact ⟨by decide, not_mem_indent d (by decide)⟩

/-- A line with one tag. -/
theorem run_line {s : State} (d : Nat) (tag rest : List Char) (hs : s.leaf = none)
    (htag : '>' ∉ tag) :
    run s [] none ('\n' :: (indent d ++ '<' :: tag ++ ['>']) ++ rest) =
      (s.tag (String.ofList tag)).bind fun s => run s [] none rest := by
  have h := run_tag s rest (not_mem_feed_indent d) htag
  rw [State.step, hs] at h
  simp only [isGap_feed_indent, if_true] at h
  simpa only [List.cons_append, List.append_assoc, List.nil_append] using h

/-! ### Leaves -/

theorem tag_leaf (s : State) (leaf : Leaf) :
    s.tag leaf.name = some { s with leaf := some leaf } := by
  cases leaf <;> rfl

theorem not_mem_name (leaf : Leaf) : '>' ∉ leaf.name.toList := by
  cases leaf <;> decide

/-- A leaf and what is in it. -/
theorem run_leaf {s : State} (d : Nat) (leaf : Leaf) {content : List Char} (rest : List Char)
    (hs : s.leaf = none) (hc : '<' ∉ content) :
    run s [] none ('\n' :: (indent d ++ element leaf.name content) ++ rest) =
      (s.close content leaf).bind fun s => run s [] none rest := by
  have hopen := run_line d _ (content ++ closeTag leaf.name ++ rest) hs (not_mem_name leaf)
  have hclose : '>' ∉ '/' :: leaf.name.toList := by simp [not_mem_name leaf]
  have hrest := run_tag { s with leaf := some leaf } rest hc hclose
  rw [String.ofList_toList, tag_leaf, Option.bind_some] at hopen
  have hname : String.ofList ('/' :: leaf.name.toList) = "/" ++ leaf.name := by
    cases leaf <;> rfl
  have hsame : ({ s with leaf := none } : State) = s := by
    cases s
    exact congrArg _ hs.symm
  rw [hname, State.step] at hrest
  simp only [if_true, hsame] at hrest
  rw [← hrest]
  simpa [element, openTag, closeTag] using hopen

/-- The lines of a byte string, with the line feed before each, are one leaf. -/
theorem flatMap_feed_dataLines (d : Nat) (bytes : List UInt8) :
    (dataLines d bytes).flatMap ('\n' :: ·) =
      '\n' :: (indent d ++ element Leaf.data.name
        ((wrapLines dataColumns (Base64.encode bytes)).flatMap (fun l => '\n' :: (indent d ++ l)) ++
          '\n' :: indent d)) := by
  simp [dataLines, element, Leaf.name, List.flatMap_map]

/-- Without white space the characters of a byte string are its symbols. -/
theorem filter_dataContent (d : Nat) (bytes : List UInt8) :
    ((wrapLines dataColumns (Base64.encode bytes)).flatMap (fun l => '\n' :: (indent d ++ l)) ++
      '\n' :: indent d).filter (!isBlank ·) = Base64.encode bytes := by
  have hindent : ('\n' :: indent d).filter (!isBlank ·) = [] := by
    rw [List.filter_eq_nil_iff]
    intro c hc
    rcases List.mem_cons.mp hc with rfl | hc
    · decide
    · rw [eq_tab_of_mem_indent hc]
      decide
  have hline : ∀ l ∈ wrapLines dataColumns (Base64.encode bytes),
      ('\n' :: (indent d ++ l)).filter (!isBlank ·) = l := by
    intro l hl
    rw [← List.cons_append, List.filter_append, hindent, List.nil_append, List.filter_eq_self]
    intro c hc
    rw [Base64.isBlank_of_mem_encode ((mem_wrapLines hl).2 c hc)]
    rfl
  rw [List.filter_append, hindent, List.append_nil, List.filter_flatMap,
    List.flatMap_congr hline, List.flatMap_id', flatten_wrapLines]

theorem not_mem_dataContent (d : Nat) (bytes : List UInt8) :
    '<' ∉ (wrapLines dataColumns (Base64.encode bytes)).flatMap
      (fun l => '\n' :: (indent d ++ l)) ++ '\n' :: indent d := by
  rw [List.mem_append, not_or]
  refine ⟨fun h => ?_, not_mem_feed_indent d⟩
  obtain ⟨l, hl, h⟩ := List.mem_flatMap.mp h
  rw [← List.cons_append, List.mem_append] at h
  rcases h with h | h
  · exact not_mem_feed_indent d h
  · exact Base64.ne_of_mem_encode ((mem_wrapLines hl).2 _ h) rfl

/-! ### Values -/

/-- A container, from the reading of what is inside it. -/
theorem run_enclose {s s' : State} (d : Nat) {name : String} {body : List Line}
    (level level' : Level) (rest : List Char) (hs : s.leaf = none) (hn : '>' ∉ name.toList)
    (hopen : s.tag name = some (s.enter level))
    (hbody : ∀ rest, run (s.enter level) [] none (body.flatMap ('\n' :: ·) ++ rest) =
      run (s.enter level') [] none rest)
    (hclose : (s.enter level').tag (String.ofList ('/' :: name.toList)) = some s')
    (hempty : level = level' → s.tag (String.ofList (name.toList ++ ['/'])) = some s') :
    run s [] none ((enclose d name body).flatMap ('\n' :: ·) ++ rest) = run s' [] none rest := by
  cases body with
  | nil =>
    -- Nothing was read inside, so that the container is as it was opened.
    have hsame : level = level' := by
      have h := hbody []
      simp only [List.flatMap_nil, List.append_nil, run, State.enter, hs] at h
      exact (State.mk.inj (Option.some.inj h)).1
    have h := run_line d (name.toList ++ ['/']) rest hs (by simp [hn])
    rw [hempty hsame, Option.bind_some] at h
    rw [← h]
    simp [enclose, emptyTag]
  | cons l ls =>
    have hfirst := run_line d _ ((l :: ls).flatMap ('\n' :: ·) ++
      ('\n' :: (indent d ++ closeTag name) ++ rest)) hs hn
    have hlast := run_line (s := s.enter level') d ('/' :: name.toList) rest hs (by simp [hn])
    rw [String.ofList_toList, hopen, Option.bind_some, hbody] at hfirst
    rw [hclose, Option.bind_some] at hlast
    rw [← hlast]
    refine Eq.trans ?_ (hfirst.trans ?_)
    · simp [enclose, openTag]
    · simp [closeTag]

/-- A line with a leaf on it. -/
theorem run_leafLine {s s' : State} (d : Nat) (leaf : Leaf) {content : List Char}
    (rest : List Char) (hs : s.leaf = none) (hc : '<' ∉ content)
    (hclose : s.close content leaf = some s') :
    run s [] none ([indent d ++ element leaf.name content].flatMap ('\n' :: ·) ++ rest) =
      run s' [] none rest := by
  rw [List.flatMap_singleton, run_leaf d leaf rest hs hc, hclose, Option.bind_some]

/-- A line with a tag on it that is a value. -/
theorem run_emptyTag {s : State} (d : Nat) {name : String} (rest : List Char)
    (hs : s.leaf = none) (hn : '>' ∉ name.toList) :
    run s [] none ([indent d ++ emptyTag name].flatMap ('\n' :: ·) ++ rest) =
      (s.tag (String.ofList (name.toList ++ ['/']))).bind fun s => run s [] none rest := by
  rw [← run_line d _ rest hs (by simp [hn])]
  simp [emptyTag]

mutual

/-- The lines of a property list put what there is to be found of it where the reader is. -/
theorem run_lines (d : Nat) : ∀ {v : Plist} {ls : List Line} {s s' : State} (rest : List Char),
    v.Whole → v.lines d = .ok ls → s.leaf = none → s.put v.view = some s' →
      run s [] none (ls.flatMap ('\n' :: ·) ++ rest) = run s' [] none rest
  | string text compact, _, s, s', rest, _, h, hs, hput => by
    obtain rfl := Except.ok.inj h
    rw [textElement]
    split
    -- Only an empty text is written as one tag.
    · next he =>
      have htext : text = "" := by simpa using he.1
      rw [run_emptyTag d rest hs (by decide)]
      rw [view, htext] at hput
      exact congrArg (Option.bind · _) hput
    · refine run_leafLine d .string rest hs (not_mem_escape _) ?_
      rw [State.close, unescape_escape, String.ofList_toList]
      exact hput
  | integer n, _, s, s', rest, _, h, hs, hput => by
    obtain rfl := Except.ok.inj h
    refine run_leafLine d .integer rest hs (not_mem_intText n (by decide)) ?_
    rw [State.close, Decimal.integerOfText?_intText]
    exact hput
  | real x, _, s, s', rest, _, h, hs, hput => by
    obtain rfl := Except.ok.inj h
    exact run_leafLine d .real rest hs (not_mem_compact x (by decide)) hput
  | bool b, _, s, s', rest, _, h, hs, hput => by
    obtain rfl := Except.ok.inj h
    cases b
    · rw [if_neg (by decide), run_emptyTag d rest hs (by decide)]
      exact congrArg (Option.bind · _) hput
    · rw [if_pos rfl, run_emptyTag d rest hs (by decide)]
      exact congrArg (Option.bind · _) hput
  | data bytes, _, s, s', rest, _, h, hs, hput => by
    obtain rfl := Except.ok.inj h
    rw [flatMap_feed_dataLines, run_leaf d .data rest hs (not_mem_dataContent d bytes),
      State.close, filter_dataContent, Base64.decode?_encode, Option.bind_some]
    exact congrArg (Option.bind · _) hput
  | array items, _, ⟨inner, outer, _⟩, s', rest, hv, h, hs, hput => by
    subst hs
    rw [lines_array, Outcome.map_eq_ok] at h
    obtain ⟨body, hbody, rfl⟩ := h
    refine run_enclose d (.array []) (.array (viewItems items)) rest rfl (by decide) rfl
      (fun rest => run_itemLines (d + 1) [] (inner :: outer) rest hv hbody) hput fun hsame => ?_
    rw [view, ← Level.array.inj hsame] at hput
    exact hput
  | dict entries, _, ⟨inner, outer, _⟩, s', rest, hv, h, hs, hput => by
    subst hs
    rw [lines_dict, Outcome.map_eq_ok] at h
    obtain ⟨body, hbody, rfl⟩ := h
    refine run_enclose d (.dict [] none) (.dict (viewEntries entries) none) rest rfl (by decide) rfl
      (fun rest => run_entryLines (d + 1) [] (inner :: outer) rest hv hbody) hput fun hsame => ?_
    rw [view, ← (Level.dict.inj hsame).1] at hput
    exact hput

/-- The lines of items add what there is to be found of them to an array. -/
theorem run_itemLines (d : Nat) : ∀ {items : List Plist} {ls : List Line} (acc : List Reading)
    (outer : List Level) (rest : List Char), EveryItem WholeLeaf (fun _ => True) items →
      itemLines d items = .ok ls →
      run ⟨.array acc, outer, none⟩ [] none (ls.flatMap ('\n' :: ·) ++ rest) =
        run ⟨.array (acc ++ viewItems items), outer, none⟩ [] none rest
  | [], _, acc, outer, rest, _, h => by
    obtain rfl := Except.ok.inj h
    simp [viewItems]
  | v :: items, _, acc, outer, rest, hv, h => by
    obtain ⟨first, others, hfirst, hothers, rfl⟩ := itemLines_cons_eq_ok.mp h
    rw [List.flatMap_append, List.append_assoc, run_lines d _ hv.1 hfirst rfl rfl,
      run_itemLines d _ _ _ hv.2 hothers, viewItems, List.append_assoc, List.singleton_append]

/-- The lines of entries add what there is to be found of them to a dictionary. -/
theorem run_entryLines (d : Nat) : ∀ {entries : List (String × Plist)} {ls : List Line}
    (acc : List (String × Reading)) (outer : List Level) (rest : List Char),
      EveryEntry WholeLeaf (fun _ => True) entries → entryLines d entries = .ok ls →
      run ⟨.dict acc none, outer, none⟩ [] none (ls.flatMap ('\n' :: ·) ++ rest) =
        run ⟨.dict (acc ++ viewEntries entries) none, outer, none⟩ [] none rest
  | [], _, acc, outer, rest, _, h => by
    obtain rfl := Except.ok.inj h
    simp [viewEntries]
  | (key, v) :: entries, _, acc, outer, rest, hv, h => by
    obtain ⟨first, others, hfirst, hothers, rfl⟩ := entryLines_cons_eq_ok.mp h
    -- The key is read first and waits for the value whose lines follow.
    have hkey := run_leaf (s := ⟨.dict acc none, outer, none⟩) d .key
      (first.flatMap ('\n' :: ·) ++ (others.flatMap ('\n' :: ·) ++ rest)) rfl
      (not_mem_escape key.toList)
    rw [State.close, unescape_escape, String.ofList_toList] at hkey
    rw [List.cons_append, List.flatMap_cons, List.flatMap_append, List.append_assoc,
      List.append_assoc]
    refine hkey.trans ?_
    rw [State.putKey, Option.bind_some, run_lines d _ hv.1.2 hfirst rfl rfl,
      run_entryLines d _ _ _ hv.2 hothers, viewEntries, List.append_assoc, List.singleton_append]

end

/-! ### Whole texts -/

/-- A gap before the text of a tag makes no difference. -/
theorem run_gap {s : State} (gap : List Char) (hs : s.leaf = none) (hgap : isGap gap = true)
    (before : List Char) (tag : Option (List Char)) (text : List Char) :
    run s (gap ++ before) tag text = run s before tag text := by
  have hall (t : List Char) : isGap (gap ++ t) = isGap t := by
    rw [isGap, List.all_append]
    exact congrArg (· && isGap t) hgap
  induction text generalizing before tag with
  | nil =>
    cases tag with
    | none => simp [run, hs, hall]
    | some tag => rfl
  | cons c text ih =>
    cases tag with
    | none => rw [run, run, ih, List.append_assoc, ih]
    | some tag => rw [run, run, ih, State.step, State.step, hs, hall]

theorem run_start_unlines {ls : List Line} (h : ls ≠ []) :
    run start [] none (unlines ls) = run start [] none (ls.flatMap ('\n' :: ·) ++ []) := by
  rw [List.append_nil, ← cons_unlines h, run, if_neg (by decide)]
  exact (run_gap ['\n'] rfl rfl [] none _).symm

end Reader

/-- The reader finds what there is to be found of property lists that are written one after the
other. -/
theorem readAll_itemLines {d : Nat} {items : List Plist} {ls : List Line}
    (hv : ∀ v ∈ items, v.Whole) (h : itemLines d items = .ok ls) :
    readAll (unlines ls) = some (items.map view) := by
  have hrun : run start [] none (unlines ls) =
      run ⟨.array (viewItems items), [], none⟩ [] none [] := by
    have hitems := run_itemLines d [] [] [] (everyItem_iff.mpr hv) h
    by_cases hls : ls = []
    · subst hls
      exact hitems
    · exact (run_start_unlines hls).trans hitems
  rw [readAll, hrun, ← viewItems_eq_map]
  rfl

/-- Reading the written form of a property list gives back what there is to be found of it, whatever
characters its texts and keys consist of. So from two property lists of which there is something
different to be found, written at whatever depths, there never comes the same text. -/
theorem read_lines {v : Plist} (hv : v.Whole) (d : Nat) :
    ∃ ls, v.lines d = .ok ls ∧ read (unlines ls) = some v.view ∧
      ∀ (w : Plist) (e : Nat) (ls' : List Line), w.Whole → w.lines e = .ok ls' →
        unlines ls' = unlines ls → w.view = v.view := by
  have hread (w : Plist) (e : Nat) (ls : List Line) (hw : w.Whole) (h : w.lines e = .ok ls) :
      read (unlines ls) = some w.view := by
    have hitems : itemLines e [w] = .ok ls := by
      rw [itemLines, h]
      exact congrArg Except.ok (List.append_nil ls)
    rw [read, readAll_itemLines (by simpa using hw) hitems]
    rfl
  obtain ⟨ls, hls⟩ := exists_lines (d := d) hv.writable
  refine ⟨ls, hls, hread v d ls hv hls, fun w e ls' hw h heq => ?_⟩
  have hsame := hread w e ls' hw h
  rw [heq, hread v d ls hv hls] at hsame
  exact (Option.some.inj hsame).symm

/-- A text and a key that look like tags, and a text with a line feed, inside a dictionary. -/
theorem read_lines_dict :
    (dict [("<key>", string "</string>\n<array/>" false),
        ("", array [data [0], real (.int 2)])]).Whole ∧
      ∃ ls, (dict [("<key>", string "</string>\n<array/>" false),
          ("", array [data [0], real (.int 2)])]).lines 1 = .ok ls ∧
        read (unlines ls) = some (.dict [("<key>", .string "</string>\n<array/>"),
          ("", .array [.data [0], .real "2"])]) := by
  have hwhole : (dict [("<key>", string "</string>\n<array/>" false),
      ("", array [data [0], real (.int 2)])]).Whole := by
    simp [Whole, WholeLeaf, Every, EveryItem, EveryEntry]
  obtain ⟨ls, hls, hread, -⟩ := read_lines hwhole 1
  exact ⟨hwhole, ls, hls, hread⟩

/-- The property list is written at every depth, and the text is read as the property list. -/
def Legible (v : Plist) : Prop :=
  ∀ depth, ∃ text, v.write depth = .ok text ∧ read text.toList = some v.view

theorem Whole.legible {v : Plist} (h : v.Whole) : v.Legible := by
  intro depth
  obtain ⟨ls, hls⟩ := exists_lines (d := depth) h.writable
  have hitems : itemLines depth [v] = .ok ls := by
    rw [itemLines, hls]
    exact congrArg Except.ok (List.append_nil ls)
  refine ⟨String.ofList (unlines ls), by rw [write, hls]; rfl, ?_⟩
  rw [String.toList_ofList, read, readAll_itemLines (by simpa using h) hitems]
  rfl

end MacroScribe.Plist
