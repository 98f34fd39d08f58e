import MacroScribe.Proofs.Action.Documents
import MacroScribe.Proofs.StyledText.Encoding
import MacroScribe.Proofs.StyledText.Search

/-!
# MacroScribe.Proofs.StyledText.Replacement

Changing the document of a written action is writing the action with the changed document. The
written form of an action with a document has a fixed `layout`: entries before the document, the
document, entries between, and perhaps the plain text as the last entry. The search finds the two
places because no key among the other entries is like theirs, and what is put there has the same
layout (`update_layout`).
-/

namespace MacroScribe

open Text Plist

namespace StyledText

/-! ### Layout -/

/-- What stands between the tags of a byte string. -/
def dataContent (d : Nat) (bytes : List UInt8) : List Char :=
  (wrapLines dataColumns (Base64.encode bytes)).flatMap (fun l => '\n' :: (indent d ++ l)) ++
    '\n' :: indent d

/-- A key and the opening tag of its value. -/
def opening (d : Nat) (key tag : String) : List Char :=
  element "key" (escape key.toList) ++ '\n' :: (indent d ++ openTag tag)

/-- The end of an action: its plain text, if it has one, and the closing tag. -/
def ending (d : Nat) : Option (List Char) → List Char
  | none => '\n' :: (indent d ++ closeTag "dict")
  | some text =>
    '\n' :: indent (d + 1) ++ (opening (d + 1) "Text" "string" ++ (escape text ++
      (closeTag "string" ++ '\n' :: (indent d ++ closeTag "dict"))))

/-- The written form of an action with a document. -/
def layout (d : Nat) (before between rtf : List Char) (text : Option (List Char)) : List Char :=
  before ++ '\n' :: indent (d + 1) ++ payload (indent (d + 1)) rtf ++ (between ++ ending d text)

/-- The lines of a key and of an element under it. -/
theorem feed_element (d : Nat) (key tag : String) (content : List Char) :
    '\n' :: keyLine d key ++ '\n' :: (indent d ++ element tag content) =
      '\n' :: indent d ++ (opening d key tag ++ (content ++ closeTag tag)) := by
  simp [keyLine, opening, element]

theorem not_mem_dataContent (d : Nat) (bytes : List UInt8) : '<' ∉ dataContent d bytes :=
  Reader.not_mem_dataContent d bytes

theorem decode_dataContent (d : Nat) (rtf : List Char) :
    decode (dataContent d (utf8 rtf)) = .ok rtf :=
  decode_of_filter (Reader.filter_dataContent d (utf8 rtf))

theorem margin_append {pad : List Char} (before : List Char) (hfeed : '\n' ∉ pad)
    (hblank : allBlank pad = true) : margin (before ++ '\n' :: pad) = pad := by
  have hpad : ((before ++ '\n' :: pad).reverse.takeWhile (· != '\n')).reverse = pad := by
    have hreverse : (before ++ '\n' :: pad).reverse = pad.reverse ++ '\n' :: before.reverse := by
      simp
    rw [hreverse, List.takeWhile_append_of_pos, List.takeWhile_cons_of_neg (by simp),
      List.append_nil, List.reverse_reverse]
    intro c hc
    simpa using fun he : c = '\n' => hfeed (he ▸ List.mem_reverse.mp hc)
  simp only [margin, hpad, hblank, if_true]

/-- What a document is replaced with is laid out as the writer lays documents out. -/
theorem feed_payload (d : Nat) (rtf : List Char) :
    '\n' :: keyLine d "StyledText" ++ (dataLines d (utf8 rtf)).flatMap ('\n' :: ·) =
      '\n' :: indent d ++ payload (indent d) rtf := by
  have hlines : (("<data>".toList :: splitOn '\n' (encode rtf true)) ++ ["</data>".toList]).map
      (indent d ++ ·) = dataLines d (utf8 rtf) := by
    rw [splitOn_encode]
    rfl
  have hne : dataLines d (utf8 rtf) ≠ [] := by simp [dataLines]
  rw [payload, hlines, unlines, joinWith_cons _ _ hne, ← unlines, cons_unlines hne, keyLine,
    List.cons_append, List.append_assoc]
  rfl

theorem payload_eq (d : Nat) (rtf : List Char) :
    payload (indent d) rtf =
      opening d "StyledText" "data" ++ (dataContent d (utf8 rtf) ++ closeTag "data") := by
  have hfeed := (feed_payload d rtf).symm
  rw [Reader.flatMap_feed_dataLines] at hfeed
  exact List.append_cancel_left
    (hfeed.trans (feed_element d "StyledText" "data" (dataContent d (utf8 rtf))))

theorem dropWhile_feed_indent (d : Nat) {c : Char} (s : List Char) (hc : isBlank c = false) :
    ('\n' :: (indent d ++ c :: s)).dropWhile isBlank = c :: s := by
  have hpad : ∀ b ∈ '\n' :: indent d, isBlank b := by
    intro b hb
    rcases List.mem_cons.mp hb with rfl | hb
    · decide
    · rw [eq_tab_of_mem_indent hb]
      decide
  rw [← List.cons_append, List.dropWhile_append_of_pos hpad,
    List.dropWhile_cons_of_neg (by simp [hc])]

/-- The key of a value is found where it stands. -/
theorem afterOpening?_opening (key tag k : String) (d : Nat) (hkey : '<' ∉ key.toList)
    (hk : likes key (escape k.toList)) (htag : (openTag tag).map foldChar = openTag tag)
    (t : List Char) : afterOpening? key tag (opening d k tag ++ t) = some t := by
  have hopen : (s!"<{tag}>").toList = openTag tag := by simp [openTag, toString]
  have hvalue : opening d k tag ++ t = element "key" (escape k.toList) ++
      '\n' :: (indent d ++ '<' :: (tag.toList ++ ['>'] ++ t)) := by
    simp [opening, openTag]
  rw [hvalue, afterOpening?_key _ hkey (not_mem_escape _), if_pos hk,
    dropWhile_feed_indent d _ (by decide)]
  exact afterWord?_append (p := openTag tag) t (htag.trans hopen.symm)

/-! ### Replacing -/

variable {before between : List Char}

/-- Nothing in a document looks like the key of a plain text. -/
theorem skipped_payload (d : Nat) (rtf : List Char) :
    Skipped "text" "string" (payload (indent d) rtf) := by
  have hkey : Skipped "text" "string" (element "key" (escape "StyledText".toList)) :=
    .otherKey (by decide) (by decide) (by decide)
  have hopen : Skipped "text" "string" (openTag "data") :=
    .otherTag (by decide) (by decide) (by decide)
  have hclose : Skipped "text" "string" (closeTag "data") :=
    .markup (show TagName "/data".toList by decide)
  rw [payload_eq]
  exact (hkey.append ((Skipped.feed d).append hopen)).append
    ((Skipped.gap (not_mem_dataContent d _)).append hclose)

/-- The layout up to the plain text. -/
theorem skipped_layout (hbefore : Skipped "text" "string" before)
    (hbetween : Skipped "text" "string" between) (d : Nat) (rtf : List Char) :
    Skipped "text" "string"
      (before ++ '\n' :: indent (d + 1) ++ payload (indent (d + 1)) rtf ++ between) :=
  ((hbefore.append (.feed _)).append (skipped_payload _ _)).append hbetween

theorem skipped_ending {key tag : String} (d : Nat) : Skipped key tag (ending d none) :=
  (Skipped.feed d).append (.markup (show TagName "/dict".toList by decide))

theorem update_of_find {f : List Char → List Char} {xml rtf : List Char} {e : Element}
    (hfind : Element.find? "styledtext" "data" xml = some e) (hdecode : decode e.content = .ok rtf) :
    update f xml = .ok (replaceText (escape (Rtf.toText (f rtf)))
      (e.before ++ payload (margin e.before) (f rtf) ++ e.after)) := by
  rw [update, hfind]
  simp only [hdecode]
  rfl

/-- The first document of a text is changed where it stands, whatever comes after it. -/
theorem update_payload (hbefore : Skipped "styledtext" "data" before) (f : List Char → List Char)
    (d : Nat) (rtf after : List Char) :
    update f (before ++ '\n' :: indent d ++ payload (indent d) rtf ++ after) =
      .ok (replaceText (escape (Rtf.toText (f rtf)))
        (before ++ '\n' :: indent d ++ payload (indent d) (f rtf) ++ after)) := by
  have hopen := afterOpening?_opening "styledtext" "data" "StyledText" d (by decide) (by decide)
    (by decide)
  have hfind := find?_element after (hbefore.append (.feed d)) hopen (by decide)
    (not_mem_dataContent d (utf8 rtf))
  have hmargin : margin (before ++ '\n' :: indent d) = indent d :=
    margin_append before (not_mem_indent d (by decide)) (allBlank_indent d)
  have hsplit : before ++ '\n' :: indent d ++ payload (indent d) rtf ++ after =
      before ++ '\n' :: indent d ++ (opening d "StyledText" "data" ++
        (dataContent d (utf8 rtf) ++ (closeTag "data" ++ after))) := by
    rw [payload_eq]
    simp only [List.append_assoc]
  rw [hsplit, update_of_find hfind (decode_dataContent d rtf)]
  simp only [hmargin]

/-- What a search for a plain text passes over stays in front. -/
theorem replaceText_skipped {front : List Char} (h : Skipped "text" "string" front)
    (new s : List Char) : replaceText new (front ++ s) = front ++ replaceText new s := by
  rw [replaceText, replaceText, h]
  cases Element.find? "text" "string" s with
  | none => rfl
  | some e => simp

/-- A plain text is replaced under its key. -/
theorem replaceText_opening (d : Nat) (text new rest : List Char) :
    replaceText new
        (opening d "Text" "string" ++ (escape text ++ (closeTag "string" ++ rest))) =
      opening d "Text" "string" ++ (new ++ (closeTag "string" ++ rest)) := by
  have hnil : Skipped "text" "string" [] := .gap List.not_mem_nil
  have hopen := afterOpening?_opening "text" "string" "Text" d (by decide) (by decide) (by decide)
  have hfind := find?_element rest hnil hopen (by decide) (not_mem_escape text)
  rw [List.nil_append] at hfind
  rw [replaceText, hfind]
  simp

/-- Replacing the plain text of an action. Where it has none, there must be none after it. -/
theorem replaceText_layout (hbefore : Skipped "text" "string" before)
    (hbetween : Skipped "text" "string" between) (d : Nat) (rtf new : List Char)
    {text : Option (List Char)} {after : List Char}
    (hafter : text = none → Element.find? "text" "string" after = none) :
    replaceText (escape new) (layout d before between rtf text ++ after) =
      layout d before between rtf (text.map fun _ => new) ++ after := by
  have hskip := skipped_layout hbefore hbetween d rtf
  cases text with
  | none =>
    have hnone := hskip.append (skipped_ending d) after
    rw [hafter rfl, Option.map_none] at hnone
    have hsame : layout d before between rtf none ++ after = before ++ '\n' :: indent (d + 1) ++
        payload (indent (d + 1)) rtf ++ between ++ ending d none ++ after := by
      simp [layout]
    rw [Option.map_none, replaceText, hsame, hnone]
  | some text =>
    have hsplit (text : List Char) : layout d before between rtf (some text) ++ after =
        before ++ '\n' :: indent (d + 1) ++ payload (indent (d + 1)) rtf ++ between ++
          '\n' :: indent (d + 1) ++ (opening (d + 1) "Text" "string" ++ (escape text ++
            (closeTag "string" ++ ('\n' :: (indent d ++ closeTag "dict") ++ after)))) := by
      simp [layout, ending]
    rw [hsplit, replaceText_skipped (hskip.append (.feed (d + 1))), replaceText_opening,
      Option.map_some, hsplit]

/-- Changing the document in the written form of an action. -/
theorem update_layout (hbefore : Skipped "styledtext" "data" before)
    (hbefore' : Skipped "text" "string" before) (hbetween : Skipped "text" "string" between)
    (f : List Char → List Char) (d : Nat) (rtf : List Char) {text : Option (List Char)}
    {after : List Char} (hafter : text = none → Element.find? "text" "string" after = none) :
    update f (layout d before between rtf text ++ after) =
      .ok (layout d before between (f rtf) (text.map fun _ => Rtf.toText (f rtf)) ++ after) := by
  have hsplit (rtf : List Char) : layout d before between rtf text ++ after =
      before ++ '\n' :: indent (d + 1) ++ payload (indent (d + 1)) rtf ++
        (between ++ ending d text ++ after) := List.append_assoc _ _ _
  rw [← replaceText_layout hbefore' hbetween d (f rtf) _ hafter, hsplit, hsplit,
    update_payload hbefore]

end StyledText

/-! ### Written forms -/

namespace Plist

theorem entryLines_append_eq_ok {d : Nat} {as bs : List Entry} {ls : List Line} :
    entryLines d (as ++ bs) = .ok ls ↔
      ∃ first others, entryLines d as = .ok first ∧ entryLines d bs = .ok others ∧
        first ++ others = ls := by
  induction as generalizing ls with
  | nil =>
    constructor
    · exact fun h => ⟨[], ls, rfl, h, rfl⟩
    · rintro ⟨first, others, hfirst, hothers, rfl⟩
      obtain rfl := Except.ok.inj hfirst
      exact hothers
  | cons e as ih =>
    obtain ⟨k, v⟩ := e
    rw [List.cons_append, entryLines_cons_eq_ok]
    constructor
    · rintro ⟨value, rest, hvalue, hrest, rfl⟩
      obtain ⟨first, others, hfirst, hothers, rfl⟩ := ih.mp hrest
      exact ⟨_, others, entryLines_cons_eq_ok.mpr ⟨value, first, hvalue, hfirst, rfl⟩, hothers,
        by simp⟩
    · rintro ⟨first, others, hfirst, hothers, rfl⟩
      obtain ⟨value, rest, hvalue, hrest, rfl⟩ := entryLines_cons_eq_ok.mp hfirst
      exact ⟨value, rest ++ others, hvalue, ih.mpr ⟨rest, others, hrest, hothers, rfl⟩, by simp⟩

theorem enclose_ne_nil (d : Nat) (name : String) (body : List Line) : enclose d name body ≠ [] := by
  rw [enclose]
  split <;> simp

theorem ne_nil_of_lines_dict {d : Nat} {entries : List Entry} {ls : List Line}
    (h : (dict entries).lines d = .ok ls) : ls ≠ [] := by
  rw [lines_dict, Outcome.map_eq_ok] at h
  obtain ⟨body, -, rfl⟩ := h
  exact enclose_ne_nil _ _ _

/-- The lines of a container that is not empty. -/
theorem feed_enclose (d : Nat) (name : String) {body : List Line} (hne : body ≠ []) :
    (enclose d name body).flatMap ('\n' :: ·) = '\n' :: (indent d ++ openTag name) ++
      (body.flatMap ('\n' :: ·) ++ '\n' :: (indent d ++ closeTag name)) := by
  rw [enclose, if_neg (by simpa using hne)]
  simp

/-- The written form of a dictionary with entries. -/
theorem write_dict_eq_ok {entries : List Entry} (hne : entries ≠ []) {text : String} :
    Plist.write 0 (.dict entries) = .ok text ↔
      ∃ body, entryLines 1 entries = .ok body ∧ text = String.ofList
        (openTag "dict" ++ (body.flatMap ('\n' :: ·) ++ '\n' :: closeTag "dict")) := by
  rw [Plist.write, Outcome.bind_eq_ok, lines_dict]
  have hunlines {body : List Line} (hbody : entryLines 1 entries = .ok body) :
      unlines (enclose 0 "dict" body) =
        openTag "dict" ++ (body.flatMap ('\n' :: ·) ++ '\n' :: closeTag "dict") := by
    have hbody : body ≠ [] := by
      obtain ⟨⟨k, v⟩, rest, rfl⟩ := List.exists_cons_of_ne_nil hne
      obtain ⟨first, others, -, -, rfl⟩ := entryLines_cons_eq_ok.mp hbody
      exact List.cons_ne_nil _ _
    have hfeed := feed_enclose 0 "dict" hbody
    rw [← cons_unlines (enclose_ne_nil _ _ _)] at hfeed
    exact (List.cons.inj hfeed).2
  constructor
  · rintro ⟨ls, hls, htext⟩
    obtain ⟨body, hbody, rfl⟩ := Outcome.map_eq_ok.mp hls
    obtain rfl := Except.ok.inj htext
    exact ⟨body, hbody, congrArg _ (hunlines hbody)⟩
  · rintro ⟨body, hbody, rfl⟩
    exact ⟨_, Outcome.map_eq_ok.mpr ⟨body, hbody, rfl⟩,
      congrArg Except.ok (congrArg String.ofList (hunlines hbody))⟩

end Plist

namespace StyledText

/-- The entries of a step with a document: those before it, those between it and the plain text, and
the plain text, if there is one. -/
def entries (before between : List Entry) (rtf : String) (text : Option Slot) : List Entry :=
  before ++ (Frame.styled (.text rtf) ++ (between ++ Frame.slot? "Text" text))

/-- The lines of the plain text. -/
def textLines (d : Nat) : Option String → List Line
  | none => []
  | some text => [keyLine d "Text", indent d ++ element "string" (escape text.toList)]

theorem entryLines_text {d : Nat} {text : Option Slot} {ls : List Line} :
    entryLines d (Frame.slot? "Text" text) = .ok ls ↔
      ∃ t : Option String, text = t.map Slot.text ∧ textLines d t = ls := by
  have hsome (t : String) : entryLines d (Frame.slot? "Text" (some (.text t))) =
      .ok (textLines d (some t)) := by
    have hline : textElement t.toList false = element "string" (escape t.toList) :=
      if_neg (by simp)
    rw [textLines, ← hline]
    rfl
  constructor
  · intro h
    rcases text with _ | ⟨t | cause⟩
    · exact ⟨none, rfl, Except.ok.inj h⟩
    · exact ⟨some t, rfl, Except.ok.inj ((hsome t).symm.trans h)⟩
    · cases h
  · rintro ⟨t, rfl, rfl⟩
    cases t with
    | none => rfl
    | some t => exact hsome t

theorem feed_textLines (d : Nat) (t : Option String) :
    (textLines (d + 1) t).flatMap ('\n' :: ·) ++ '\n' :: (indent d ++ closeTag "dict") =
      ending d (t.map String.toList) := by
  cases t with
  | none => rfl
  | some text =>
    have hfeed := feed_element (d + 1) "Text" "string" (escape text.toList)
    rw [textLines, List.flatMap_cons, List.flatMap_singleton, hfeed, Option.map_some, ending]
    simp only [List.append_assoc, List.cons_append]

/-- The lines of the entries of a step with a document. -/
def stepLines (d : Nat) (las lbs : List Line) (rtf : List Char) (t : Option String) : List Line :=
  las ++ ((keyLine d "StyledText" :: dataLines d (utf8 rtf)) ++ (lbs ++ textLines d t))

/-- The lines of the entries, with a line feed before each and what stands around them. -/
theorem feeds_eq_layout (d : Nat) (start : List Char) (las lbs : List Line) (rtf : List Char)
    (t : Option String) :
    start ++ ((stepLines (d + 1) las lbs rtf t).flatMap ('\n' :: ·) ++
      '\n' :: (indent d ++ closeTag "dict")) =
    layout d (start ++ las.flatMap ('\n' :: ·)) (lbs.flatMap ('\n' :: ·)) rtf
      (t.map String.toList) := by
  rw [stepLines, List.flatMap_append, List.flatMap_append, List.flatMap_cons, List.flatMap_append,
    feed_payload, layout, ← feed_textLines]
  simp only [List.append_assoc, List.cons_append]

theorem entryLines_entries {d : Nat} {before between : List Entry} {rtf : String}
    {text : Option Slot} {body : List Line} :
    entryLines d (entries before between rtf text) = .ok body ↔
      ∃ (las lbs : List Line) (t : Option String), entryLines d before = .ok las ∧
        entryLines d between = .ok lbs ∧ text = t.map Slot.text ∧
          body = stepLines d las lbs rtf.toList t := by
  have hstyled : entryLines d (Frame.styled (.text rtf)) =
      .ok (keyLine d "StyledText" :: dataLines d (utf8 rtf.toList)) :=
    congrArg (fun ls => Except.ok (_ :: ls)) (List.append_nil _)
  constructor
  · intro hbody
    obtain ⟨las, others, hbefore, hothers, rfl⟩ := entryLines_append_eq_ok.mp hbody
    obtain ⟨doc, rest, hdoc, hrest, rfl⟩ := entryLines_append_eq_ok.mp hothers
    obtain ⟨lbs, last, hbetween, hlast, rfl⟩ := entryLines_append_eq_ok.mp hrest
    obtain ⟨t, rfl, rfl⟩ := entryLines_text.mp hlast
    obtain rfl := Except.ok.inj (hstyled.symm.trans hdoc)
    exact ⟨las, lbs, t, hbefore, hbetween, rfl, rfl⟩
  · rintro ⟨las, lbs, t, hbefore, hbetween, rfl, rfl⟩
    exact entryLines_append_eq_ok.mpr ⟨las, _, hbefore, entryLines_append_eq_ok.mpr
      ⟨_, _, hstyled, entryLines_append_eq_ok.mpr ⟨lbs, _, hbetween, entryLines_text.mpr
        ⟨t, rfl, rfl⟩, rfl⟩, rfl⟩, rfl⟩

theorem write_entries {before between : List Entry} {rtf xml : String} {text : Option Slot} :
    Plist.write 0 (.dict (entries before between rtf text)) = .ok xml ↔
      ∃ (las lbs : List Line) (t : Option String), entryLines 1 before = .ok las ∧
        entryLines 1 between = .ok lbs ∧ text = t.map Slot.text ∧ xml = String.ofList (layout 0
          (openTag "dict" ++ las.flatMap ('\n' :: ·)) (lbs.flatMap ('\n' :: ·)) rtf.toList
            (t.map String.toList)) := by
  have hne : entries before between rtf text ≠ [] := by simp [entries, Frame.styled]
  rw [write_dict_eq_ok hne]
  constructor
  · rintro ⟨body, hbody, rfl⟩
    obtain ⟨las, lbs, t, hbefore, hbetween, rfl, rfl⟩ := entryLines_entries.mp hbody
    exact ⟨las, lbs, t, hbefore, hbetween, rfl, congrArg _ (feeds_eq_layout 0 _ las lbs _ t)⟩
  · rintro ⟨las, lbs, t, hbefore, hbetween, rfl, rfl⟩
    exact ⟨_, entryLines_entries.mpr ⟨las, lbs, t, hbefore, hbetween, rfl, rfl⟩,
      congrArg _ (feeds_eq_layout 0 _ las lbs _ t).symm⟩

/-- A key that is not like those of a document and of a plain text. -/
def OtherKey (k : String) : Prop :=
  WrittenKey (Unlike "styledtext") k ∧ WrittenKey (Unlike "text") k

instance : DecidablePred OtherKey := fun k =>
  inferInstanceAs (Decidable (Unlike "styledtext" (escape k.toList) ∧
    Unlike "text" (escape k.toList)))

/-- Both searches pass over entries with other keys. -/
theorem skipped_entryLines {key tag : String} (hkey : '<' ∉ key.toList) {es : List Entry}
    (hes : EveryEntry FreshLeaf OtherKey es) (hunlike : ∀ k, OtherKey k → WrittenKey (Unlike key) k)
    {d : Nat} {ls : List Line} (hls : entryLines d es = .ok ls) :
    Skipped key tag (ls.flatMap ('\n' :: ·)) :=
  skipped_marked hkey (marked_entryLines d (EveryEntry.mono (fun _ => id) hunlike hes) hls)

/-- The document in the written form of a dictionary is changed where it stands, and the plain text
with it. -/
theorem update_write {before between : List Entry} {rtf xml : String} {text : Option Slot}
    (hbefore : EveryEntry FreshLeaf OtherKey before)
    (hbetween : EveryEntry FreshLeaf OtherKey between) (f : List Char → List Char)
    (h : Plist.write 0 (.dict (entries before between rtf text)) = .ok xml) :
    ∃ xml', Plist.write 0 (.dict (entries before between (String.ofList (f rtf.toList))
        (text.map fun _ => .text (String.ofList (Rtf.toText (f rtf.toList)))))) = .ok xml' ∧
      update f xml.toList = .ok xml'.toList := by
  obtain ⟨las, lbs, t, hlas, hlbs, rfl, rfl⟩ := write_entries.mp h
  refine ⟨_, write_entries.mpr ⟨las, lbs, t.map fun _ => String.ofList (Rtf.toText (f rtf.toList)),
    hlas, hlbs, ?_, rfl⟩, ?_⟩
  · rw [Option.map_map, Option.map_map]
    rfl
  · have hopen (key tag : String) : Skipped key tag (openTag "dict") :=
      .markup (show TagName "dict".toList by decide)
    have hstyled : Skipped "styledtext" "data" (las.flatMap ('\n' :: ·)) :=
      skipped_entryLines (by decide) hbefore (fun _ hk => hk.1) hlas
    have htext : Skipped "text" "string" (las.flatMap ('\n' :: ·)) :=
      skipped_entryLines (by decide) hbefore (fun _ hk => hk.2) hlas
    have hbetween : Skipped "text" "string" (lbs.flatMap ('\n' :: ·)) :=
      skipped_entryLines (by decide) hbetween (fun _ hk => hk.2) hlbs
    have hafter : t.map String.toList = none → Element.find? "text" "string" [] = none :=
      fun _ => rfl
    have hupdate := update_layout ((hopen _ _).append hstyled) ((hopen _ _).append htext) hbetween
      f 0 rtf.toList hafter
    rw [List.append_nil, List.append_nil] at hupdate
    rw [String.toList_ofList, hupdate, String.toList_ofList, String.toList_ofList, Option.map_map,
      Option.map_map]
    simp only [Function.comp_def, String.toList_ofList]

theorem other_stop (policy : FailurePolicy) :
    EveryEntry FreshLeaf OtherKey policy.stopEntries := by
  rcases policy with ⟨_ | stop, silent⟩
  · trivial
  · exact ⟨⟨by decide, trivial⟩, trivial⟩

theorem other_silent (policy : FailurePolicy) :
    EveryEntry FreshLeaf OtherKey policy.notifyEntries := by
  unfold FailurePolicy.notifyEntries
  split
  · exact ⟨⟨by decide, trivial⟩, trivial⟩
  · trivial

theorem other_clipboard (c : Clipboard) : EveryEntry FreshLeaf OtherKey (c.entries "Target") := by
  have hleaf (s : Slot) : s.leaf.Every FreshLeaf OtherKey := by
    cases s <;> trivial
  have hflag {k : String} (hk : OtherKey k) : EveryEntry FreshLeaf OtherKey [(k, .bool true)] :=
    ⟨⟨hk, trivial⟩, trivial⟩
  cases c with
  | system => trivial
  | trigger => exact hflag (by decide)
  | named name uid =>
    refine everyEntry_append.mpr ⟨everyEntry_append.mpr ⟨⟨⟨by decide, hleaf name⟩, trivial⟩, ?_⟩,
      hflag (by decide)⟩
    cases uid with
    | none => trivial
    | some uid => exact ⟨⟨by decide, hleaf uid⟩, trivial⟩

end StyledText

end MacroScribe
