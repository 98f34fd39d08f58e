import MacroScribe.Proofs.Plist.Moving

/-!
# MacroScribe.Proofs.Plist.Additivity

Moving in by `d` tabs what was written at depth `e` gives what is written at depth `d + e`
(`indentFragment_lines`). This holds of all property lists that leave no blank line and whose keys
are on one line, also of those that hold dictionaries in written form: these were moved in once when
they were spliced in, and are moved in a second time with everything around them.

The value behind a fragment is gone, so that the induction is not on the property list but on how it
was put together (`Regular`). What is kept is that the rows at each depth are those at any smaller
one, moved in by the difference (`MovesIn`).
-/

namespace MacroScribe.Plist

open Text

/-- A property list of texts, numbers, flags and byte strings that are not empty, in arrays and
dictionaries with keys on one line. It may hold fragments that are the written forms of such
dictionaries, one after the other. -/
inductive Regular : Plist → Prop where
  | string (s : String) (compact : Bool) : Regular (string s compact)
  | integer (n : Int) : Regular (integer n)
  | real (x : Number) : Regular (real x)
  | bool (b : Bool) : Regular (bool b)
  | data {bytes : List UInt8} (h : bytes ≠ []) : Regular (data bytes)
  | array {items : List Plist} (h : ∀ v ∈ items, Regular v) : Regular (array items)
  | dict {entries : List Entry} (hkeys : ∀ e ∈ entries, KeyOnLine e.1)
      (h : ∀ e ∈ entries, Regular e.2) : Regular (dict entries)
  | fragment {dicts : List (List Entry)} {ls : List Line}
      (h : ∀ entries ∈ dicts, Regular (dict entries))
      (hls : itemLines 0 (dicts.map dict) = .ok ls) :
      Regular (fragment (String.ofList (unlines ls)))

/-! ### Rows at two depths -/

/-- There are rows at each depth, and those at one depth are moved in to those at another. -/
structure MovesIn (rows : Nat → Outcome (List Line)) : Prop where
  exists_ok : ∀ e, ∃ ls, rows e = .ok ls
  moves : ∀ {d e : Nat} {ls ls' : List Line},
    rows e = .ok ls → rows (d + e) = .ok ls' → Moves d ls ls'

/-- A property list without fragments. -/
theorem MovesIn.of_solid {v : Plist} (hs : v.Solid) (hw : v.Writable) (hk : v.KeysOnLines) :
    MovesIn v.rows where
  exists_ok e := by
    obtain ⟨ls, hls⟩ := exists_lines (d := e) hw
    exact ⟨_, congrArg (Except.map _) hls⟩
  moves {d e ls ls'} h h' := by
    obtain ⟨moved, hmoved, hmoves⟩ := rows_moved d hs h
    rw [moved_of_keysOnLines d hk, h'] at hmoved
    exact Except.ok.inj hmoved ▸ hmoves

variable {rows : Nat → Outcome (List Line)}

/-- The rows inside a container are one level further in than its tags. -/
theorem MovesIn.container (h : MovesIn rows) {name : String} (hn : '<' ∉ name.toList)
    (hname : (name.toList ++ ['>']).head? ≠ some 's') :
    MovesIn fun e => (rows (e + 1)).map (enclose e name) where
  exists_ok e := by
    obtain ⟨body, hbody⟩ := h.exists_ok (e + 1)
    exact ⟨_, congrArg (Except.map _) hbody⟩
  moves hrows hrows' := by
    obtain ⟨body, hbody, rfl⟩ := Outcome.map_eq_ok.mp hrows
    obtain ⟨body', hbody', rfl⟩ := Outcome.map_eq_ok.mp hrows'
    exact (h.moves hbody hbody').container hn hname

theorem MovesIn.nil : MovesIn fun _ => .ok [] where
  exists_ok _ := ⟨[], rfl⟩
  moves := by
    rintro d e _ _ ⟨⟩ ⟨⟩
    exact Moves.nil d

theorem MovesIn.items {items : List Plist} (h : ∀ v ∈ items, MovesIn v.rows) :
    MovesIn fun e => itemRows e items := by
  induction items with
  | nil => exact .nil
  | cons v rest ih =>
    obtain ⟨hv, hrest⟩ := List.forall_mem_cons.mp h
    refine ⟨fun e => ?_, fun hrows hrows' => ?_⟩
    · obtain ⟨first, hfirst⟩ := hv.exists_ok e
      obtain ⟨others, hothers⟩ := (ih hrest).exists_ok e
      exact ⟨_, itemRows_cons_eq_ok.mpr ⟨first, others, hfirst, hothers, rfl⟩⟩
    · obtain ⟨first, others, hfirst, hothers, rfl⟩ := itemRows_cons_eq_ok.mp hrows
      obtain ⟨first', others', hfirst', hothers', rfl⟩ := itemRows_cons_eq_ok.mp hrows'
      exact (hv.moves hfirst hfirst').append ((ih hrest).moves hothers hothers')

theorem MovesIn.entries {entries : List Entry} (hkeys : ∀ e ∈ entries, KeyOnLine e.1)
    (h : ∀ e ∈ entries, MovesIn e.2.rows) : MovesIn fun e => entryRows e entries := by
  induction entries with
  | nil => exact .nil
  | cons entry rest ih =>
    obtain ⟨key, v⟩ := entry
    obtain ⟨hkey, hkeys⟩ := List.forall_mem_cons.mp hkeys
    obtain ⟨hv, hrest⟩ := List.forall_mem_cons.mp h
    have hothers := ih hkeys hrest
    refine ⟨fun e => ?_, fun {d e _ _} hrows hrows' => ?_⟩
    · obtain ⟨first, hfirst⟩ := hv.exists_ok e
      obtain ⟨others, hrows⟩ := hothers.exists_ok e
      exact ⟨_, entryRows_cons_eq_ok.mpr ⟨first, others, hfirst, hrows, rfl⟩⟩
    · obtain ⟨first, others, hfirst, hrest, rfl⟩ := entryRows_cons_eq_ok.mp hrows
      obtain ⟨first', others', hfirst', hrest', rfl⟩ := entryRows_cons_eq_ok.mp hrows'
      have hline := Moves.key d e key
      rw [moveKey_of_onLine d hkey] at hline
      exact (hline.append (hv.moves hfirst hfirst')).append (hothers.moves hrest hrest')

/-! ### Fragments -/

/-- Nothing but tabs stands before the first tag, so that no line feed is taken off at the ends. -/
theorem TaggedAt.dropEnds_eq {e : Nat} {s : List Char} (h : TaggedAt e s) :
    dropEnds (· == '\n') s = s := by
  obtain ⟨t, rfl, ht⟩ := h
  obtain ⟨u, hu⟩ := ht.last
  have hend : indent e ++ t = (indent e ++ u) ++ ['>'] := by rw [hu, List.append_assoc]
  cases e with
  | zero =>
    obtain ⟨w, rfl⟩ := ht.first
    exact dropEnds_of_ends rfl hend (by decide) (by decide)
  | succ e => exact dropEnds_of_ends (a := '\t') rfl hend (by decide) (by decide)

/-- The written forms of dictionaries, one after the other. -/
theorem taggedAt_itemRows {e : Nat} {dicts : List (List Entry)} {ls : List Line}
    (h : itemRows e (dicts.map dict) = .ok ls) (hne : dicts ≠ []) : TaggedAt e (unlines ls) := by
  induction dicts generalizing ls with
  | nil => exact absurd rfl hne
  | cons entries dicts ih =>
    obtain ⟨first, others, hfirst, hothers, rfl⟩ := itemRows_cons_eq_ok.mp h
    rw [rows_dict] at hfirst
    obtain ⟨body, -, rfl⟩ := Outcome.map_eq_ok.mp hfirst
    have hdict := taggedAt_enclose e "dict" body
    by_cases hdicts : dicts = []
    · subst hdicts
      obtain rfl : [] = others := Except.ok.inj hothers
      rwa [List.append_nil]
    · have hrest := ih hothers hdicts
      rw [unlines_append hdict.ne_nil_of_unlines hrest.ne_nil_of_unlines]
      exact hdict.append hrest

/-- A fragment has the rows of the dictionaries that it is the written form of. -/
theorem rows_fragment_of_written {dicts : List (List Entry)} {ls : List Line}
    (hls : itemLines 0 (dicts.map dict) = .ok ls)
    (h : MovesIn fun e => itemRows e (dicts.map dict)) (e : Nat) :
    (fragment (String.ofList (unlines ls))).rows e = itemRows e (dicts.map dict) := by
  by_cases hne : dicts = []
  · subst hne
    obtain rfl : [] = ls := Except.ok.inj hls
    rfl
  · have hrows : itemRows 0 (dicts.map dict) = .ok (ls.flatMap Text.lines) :=
      congrArg (Except.map _) hls
    have htagged := (taggedAt_itemRows hrows hne).tagged
    obtain ⟨moved, hmoved⟩ := h.exists_ok e
    have hmoves := h.moves (d := e) hrows hmoved
    have hspliced := fragmentLines_unlines e (flatMap_lines_itemRows hrows) htagged
    rw [hmoves.lines, unlines_flatMap_lines] at hspliced
    rw [Plist.rows, lines, String.toList_ofList, hspliced, hmoved, Except.map,
      flatMap_lines_itemRows hmoved]

/-! ### Property lists -/

theorem Regular.movesIn {v : Plist} (h : v.Regular) : MovesIn v.rows := by
  induction h with
  | string | integer | real | bool => exact .of_solid trivial trivial trivial
  | data h => exact .of_solid h trivial trivial
  | array _ ih =>
    simp only [funext (rows_array · _)]
    exact (MovesIn.items ih).container (by decide) (by decide)
  | dict hkeys _ ih =>
    simp only [funext (rows_dict · _)]
    exact (MovesIn.entries hkeys ih).container (by decide) (by decide)
  | fragment _ hls ih =>
    have hitems := MovesIn.items (List.forall_mem_map.mpr ih)
    rwa [funext (rows_fragment_of_written hls hitems)]

/-- Apart from the fragment of no dictionaries, what is written begins and ends with a tag. -/
theorem Regular.taggedAt {v : Plist} (h : v.Regular) (hne : v ≠ .fragment "") {e : Nat}
    {ls : List Line} (hls : v.lines e = .ok ls) : TaggedAt e (unlines ls) := by
  cases h with
  | string s compact =>
    obtain rfl := Except.ok.inj hls
    refine taggedAt_line e ?_
    rw [textElement]
    split
    · exact tagged_emptyTag _
    · exact tagged_element _ _
  | integer n =>
    obtain rfl := Except.ok.inj hls
    exact taggedAt_line e (tagged_element _ _)
  | real x =>
    obtain rfl := Except.ok.inj hls
    exact taggedAt_line e (tagged_element _ _)
  | bool b =>
    obtain rfl := Except.ok.inj hls
    exact taggedAt_line e (tagged_emptyTag _)
  | data =>
    obtain rfl := Except.ok.inj hls
    simp only [dataLines, List.map_append, List.map_cons]
    exact taggedAt_between e "data" _
  | array =>
    rw [lines_array] at hls
    obtain ⟨body, -, rfl⟩ := Outcome.map_eq_ok.mp hls
    exact taggedAt_enclose e "array" body
  | dict =>
    rw [lines_dict] at hls
    obtain ⟨body, -, rfl⟩ := Outcome.map_eq_ok.mp hls
    exact taggedAt_enclose e "dict" body
  | @fragment dicts flat hdicts hflat =>
    have hempty : dicts ≠ [] := by
      rintro rfl
      obtain rfl : [] = flat := Except.ok.inj hflat
      exact hne rfl
    have hrows := congrArg (Except.map (·.flatMap Text.lines)) hls
    have hitems := MovesIn.items (List.forall_mem_map.mpr fun es hes => (hdicts es hes).movesIn)
    rw [← Plist.rows, rows_fragment_of_written hflat hitems] at hrows
    have htagged := taggedAt_itemRows hrows hempty
    rwa [unlines_flatMap_lines] at htagged

/-- Moving in by `d` what is written at depth `e` gives the physical lines of what is written at
depth `d + e`. The fragment of no dictionaries has no lines, and an empty text is one empty line. -/
theorem indentFragment_lines {v : Plist} (h : v.Regular) (d e : Nat) :
    ∃ ls ls', v.lines e = .ok ls ∧ v.lines (d + e) = .ok ls' ∧
      indentFragment d (unlines ls) = Text.lines (unlines ls') ∧
      (v ≠ .fragment "" → indentFragment d (unlines ls) = ls'.flatMap Text.lines) := by
  obtain ⟨rows, hrows⟩ := h.movesIn.exists_ok e
  obtain ⟨rows', hrows'⟩ := h.movesIn.exists_ok (d + e)
  have hmoves := h.movesIn.moves hrows hrows'
  obtain ⟨ls, hls, rfl⟩ := Outcome.map_eq_ok.mp hrows
  obtain ⟨ls', hls', rfl⟩ := Outcome.map_eq_ok.mp hrows'
  refine ⟨ls, ls', hls, hls', ?_⟩
  by_cases hempty : v = .fragment ""
  · subst hempty
    obtain rfl : [] = ls := Except.ok.inj hls
    obtain rfl : [] = ls' := Except.ok.inj hls'
    exact ⟨rfl, fun hne => absurd rfl hne⟩
  · have htagged := h.taggedAt hempty hls
    have htagged' := h.taggedAt hempty hls'
    have hlines : indentFragment d (unlines ls) = ls'.flatMap Text.lines := by
      rw [indentFragment, htagged.dropEnds_eq, lines_unlines htagged.ne_nil_of_unlines,
        hmoves.lines]
    exact ⟨by rw [hlines, lines_unlines htagged'.ne_nil_of_unlines], fun _ => hlines⟩

/-- A list with a dictionary in written form. A text in it looks like its own end, after a blank
line and a tab. -/
def splicedNote : Plist :=
  .dict [("Notes", .array [.fragment
    "<dict>\n\t<key>Body</key>\n\t<string>a\n\n\t&lt;/string&gt;</string>\n</dict>"])]

theorem splicedNote_regular : splicedNote.Regular := by
  have hnote : Regular (dict [("Body", text "a\n\n\t</string>")]) :=
    .dict (by decide) (List.forall_mem_singleton.mpr (.string _ _))
  have hfragment : Regular (fragment
      "<dict>\n\t<key>Body</key>\n\t<string>a\n\n\t&lt;/string&gt;</string>\n</dict>") :=
    @Regular.fragment [_] _ (List.forall_mem_singleton.mpr hnote) rfl
  have hnotes : Regular (array [_]) := .array (List.forall_mem_singleton.mpr hfragment)
  exact .dict (by decide) (List.forall_mem_singleton.mpr hnotes)

theorem indentFragment_lines_splicedNote :
    splicedNote.Regular ∧
      ∃ ls ls', splicedNote.lines 1 = .ok ls ∧ splicedNote.lines (2 + 1) = .ok ls' ∧
        indentFragment 2 (unlines ls) = Text.lines (unlines ls') ∧
        (splicedNote ≠ .fragment "" → indentFragment 2 (unlines ls) = ls'.flatMap Text.lines) :=
  ⟨splicedNote_regular, indentFragment_lines splicedNote_regular 2 1⟩

end MacroScribe.Plist
