import MacroScribe.Proofs.StyledText.Marks

/-!
# MacroScribe.Proofs.StyledText.Strewn

The marks of a property list in its written form. `Strewn s marks` says that both searches of an
update, going through `s`, come across these marks in this order and pass over everything else. A
key is passed over together with the tag after it, as a key alone does not settle whether the search
stops there; so what is said of a value is what follows its first tag (`exists_lead`).
-/

namespace MacroScribe.StyledText

open Text Plist

/-! ### Plain texts -/

/-- The first plain text of `s` is found in it, whatever follows. -/
def HoldsText (s : List Char) : Prop :=
  ∃ before opening content after, '<' ∉ content ∧ '>' ∉ content ∧
    s = before ++ (opening ++ '>' :: (content ++ (closeTag "string" ++ after))) ∧
    ∀ rest, Element.find? "text" "string" (s ++ rest) =
      some ⟨before, opening ++ ['>'], content, closeTag "string", after ++ rest⟩

variable {s t : List Char}

theorem HoldsText.append_right (h : HoldsText s) (t : List Char) : HoldsText (s ++ t) := by
  obtain ⟨before, opening, content, after, hlt, hgt, rfl, hfind⟩ := h
  refine ⟨before, opening, content, after ++ t, hlt, hgt, by simp, fun rest => ?_⟩
  rw [List.append_assoc, hfind, List.append_assoc after]

theorem HoldsText.append_left (hs : Skipped "text" "string" s) (h : HoldsText t) :
    HoldsText (s ++ t) := by
  obtain ⟨before, opening, content, after, hlt, hgt, rfl, hfind⟩ := h
  refine ⟨s ++ before, opening, content, after, hlt, hgt, by simp, fun rest => ?_⟩
  rw [List.append_assoc, hs, hfind]
  rfl

/-- A search for a plain text stops in `s`, or passes over it. -/
def Texts (stops : Bool) (s : List Char) : Prop :=
  if stops then HoldsText s else Skipped "text" "string" s

theorem Texts.append {b c : Bool} (hs : Texts b s) (ht : Texts c t) : Texts (b || c) (s ++ t) := by
  cases b with
  | true => exact HoldsText.append_right hs t
  | false =>
    cases c with
    | true => exact HoldsText.append_left hs ht
    | false => exact Skipped.append hs ht

/-! ### Keys with the tags after them -/

/-- A key is passed over that is not like the one that is looked for, or that has another tag after
it. -/
theorem Skipped.opening {key tag k name : String} (d : Nat) (hkey : '<' ∉ key.toList)
    (htag : '>' ∉ tag.toList) (hname : TagName name.toList)
    (h : likes key (escape k.toList) = false ∨ name.toList.map foldChar ≠ tag.toList) :
    Skipped key tag (opening d k name) := by
  have hsplit : StyledText.opening d k name = '<' :: ("key>".toList ++ escape k.toList ++
      closeTag "key" ++ '\n' :: indent d ++ openTag name) := by
    simp [StyledText.opening, element, openTag]
  have hinner : Skipped key tag ("key>".toList ++ escape k.toList ++ closeTag "key" ++
      '\n' :: indent d ++ openTag name) :=
    (((gap (by simp [not_mem_escape])).append
      (.markup (show TagName "/key".toList by decide))).append (.feed d)).append (.markup hname)
  have hopen : (s!"<{tag}>").toList = '<' :: (tag.toList ++ ['>']) := by simp [toString]
  rw [hsplit]
  refine cons (fun rest => here?_eq_none ?_) hinner
  have hrest : '<' :: ("key>".toList ++ escape k.toList ++ closeTag "key" ++ '\n' :: indent d ++
      openTag name) ++ rest = element "key" (escape k.toList) ++
        '\n' :: (indent d ++ '<' :: (name.toList ++ ['>'] ++ rest)) := by
    simp [element, openTag]
  rw [hrest, afterOpening?_key _ hkey (not_mem_escape _), dropWhile_feed_indent d _ (by decide),
    ← List.cons_append, afterWord?_tag rest hopen htag hname.2.1]
  rcases h with h | h
  · rw [h]
    rfl
  · rw [if_neg h, ite_self]

/-! ### Pieces -/

/-- The searches come across the marks in the text, one after the other, and pass over the rest. -/
inductive Strewn : List Char → List Mark → Prop where
  | pass {s : List Char} : Skipped "text" "string" s → Skipped "styledtext" "data" s → Strewn s []
  | plain {s : List Char} : HoldsText s → Skipped "styledtext" "data" s → Strewn s [.plain]
  | styled {d : Nat} {step : Step} {rtf : String} {n : Int} {entries : List Entry}
      {ls : List Line} : Styles step rtf n entries → (dict entries).lines d = .ok ls →
      Strewn ('\n' :: unlines ls) [.styled entries]
  | append {s t : List Char} {as bs : List Mark} : Strewn s as → Strewn t bs →
      Strewn (s ++ t) (as ++ bs)

namespace Strewn

variable {marks : List Mark}

theorem gap (hs : '<' ∉ s) : Strewn s [] :=
  .pass (.gap hs) (.gap hs)

theorem tag {name : String} (hn : TagName name.toList) : Strewn (openTag name) [] :=
  .pass (.markup hn) (.markup hn)

theorem close {name : String} (hn : TagName name.toList) : Strewn (closeTag name) [] :=
  .pass (.markup hn.close) (.markup hn.close)

theorem append_right (hs : Strewn s marks) (ht : Strewn t []) : Strewn (s ++ t) marks :=
  List.append_nil marks ▸ hs.append ht

theorem feed (d : Nat) (ht : Strewn t marks) : Strewn ('\n' :: (indent d ++ t)) marks :=
  (gap (Reader.not_mem_feed_indent d)).append ht

end Strewn

/-! ### First tags -/

/-- The written form of a value: a tag on a new line, and what follows it. -/
structure Lead (d : Nat) (v : Plist) (s : List Char) (name : String) (tail : List Char) : Prop where
  eq : s = '\n' :: (indent d ++ (openTag name ++ tail))
  tag : TagName name.toList
  text : name.toList.map foldChar = "string".toList → v.isText

theorem emptyTag_eq (name : String) : emptyTag name = openTag (name ++ "/") ++ [] := by
  simp [emptyTag, openTag]

theorem feed_singleton (d : Nat) (line : Line) :
    [indent d ++ line].flatMap ('\n' :: ·) = '\n' :: (indent d ++ line) :=
  List.flatMap_singleton _ _

/-- An element on one line. -/
theorem lead_element {d : Nat} {v : Plist} {name : String} {content : List Char}
    (hn : TagName name.toList) (hc : '<' ∉ content)
    (htext : name.toList.map foldChar = "string".toList → v.isText) :
    ∃ name' tail, Lead d v ([indent d ++ element name content].flatMap ('\n' :: ·)) name' tail ∧
      Strewn tail [] := by
  refine ⟨name, content ++ closeTag name, ⟨?_, hn, htext⟩, (Strewn.gap hc).append (.close hn)⟩
  rw [feed_singleton, element, List.append_assoc (openTag name)]

/-- A container. -/
theorem lead_enclose {d : Nat} {v : Plist} {name : String} {body : List Line} {marks : List Mark}
    (hn : TagName name.toList) (hempty : TagName (name ++ "/").toList)
    (hname : name.toList.map foldChar ≠ "string".toList)
    (hname' : (name ++ "/").toList.map foldChar ≠ "string".toList)
    (hbody : Strewn (body.flatMap ('\n' :: ·)) marks) :
    ∃ name' tail, Lead d v ((enclose d name body).flatMap ('\n' :: ·)) name' tail ∧
      Strewn tail marks := by
  rw [enclose]
  by_cases h : body.isEmpty
  · rw [if_pos h]
    rw [List.isEmpty_iff.mp h] at hbody
    exact ⟨name ++ "/", [], ⟨by rw [feed_singleton, emptyTag_eq], hempty,
      fun he => absurd he hname'⟩, hbody⟩
  · rw [if_neg h]
    refine ⟨name, body.flatMap ('\n' :: ·) ++ '\n' :: (indent d ++ closeTag name),
      ⟨by simp, hn, fun he => absurd he hname⟩, hbody.append_right ((Strewn.close hn).feed d)⟩

/-! ### Written forms -/

theorem isText_string {text : String} {compact : Bool} :
    (string text compact).isText = false ↔ text.toList.isEmpty ∧ compact := by
  simp [isText]

/-- A plain text is found under its key. -/
theorem holdsText_opening (d : Nat) {k : String} (hk : likes "text" (escape k.toList))
    (text : List Char) :
    HoldsText (opening d k "string" ++ (escape text ++ closeTag "string")) := by
  have hopen := afterOpening?_opening "text" "string" k d (by decide) hk (by decide)
  have hnil : Skipped "text" "string" [] := .gap List.not_mem_nil
  have hsplit : opening d k "string" =
      element "key" (escape k.toList) ++ '\n' :: (indent d ++ "<string".toList) ++ ['>'] := by
    simp [opening, openTag]
  refine ⟨[], element "key" (escape k.toList) ++ '\n' :: (indent d ++ "<string".toList),
    escape text, [], not_mem_escape _, not_mem_greater_escape _, by simp [hsplit], fun rest => ?_⟩
  have hfind := find?_element rest hnil hopen (by decide) (not_mem_escape text)
  rw [List.nil_append] at hfind ⊢
  rw [← hsplit, List.append_assoc, List.append_assoc, hfind]

/-- A plain text with its key. -/
theorem Strewn.text (d : Nat) {k text : String} {compact : Bool}
    (h : isPlainText (k, .string text compact)) :
    Strewn ('\n' :: keyLine d k ++
      [indent d ++ textElement text.toList compact].flatMap ('\n' :: ·)) [.plain] := by
  obtain ⟨hkey, htext⟩ := Bool.and_eq_true_iff.mp h
  have helement : textElement text.toList compact = element "string" (escape text.toList) := by
    refine if_neg fun hempty => ?_
    rw [isText_string.mpr hempty] at htext
    cases htext
  have hopen : Skipped "styledtext" "data" (opening d k "string") :=
    .opening d (by decide) (by decide) (by decide) (.inr (by decide))
  have hclose : Skipped "styledtext" "data" (closeTag "string") :=
    .markup (show TagName "/string".toList by decide)
  rw [feed_singleton, helement, feed_element]
  exact (gap (Reader.not_mem_feed_indent d)).append (plain (holdsText_opening d hkey text.toList)
    (hopen.append ((Skipped.gap (not_mem_escape _)).append hclose)))

/-- A value with its key that is no plain text. -/
theorem Strewn.entry {d : Nat} {k name : String} {v : Plist} {s tail : List Char}
    {marks : List Mark} (hlead : Lead d v s name tail) (htail : Strewn tail marks)
    (h : isPlainText (k, v) = false) : Strewn ('\n' :: keyLine d k ++ s) marks := by
  have hsplit : '\n' :: keyLine d k ++ s = '\n' :: indent d ++ (opening d k name ++ tail) := by
    rw [hlead.eq]
    simp [keyLine, opening]
  have htext : likes "text" (escape k.toList) = false ∨
      name.toList.map foldChar ≠ "string".toList := by
    by_contra hcon
    rw [not_or, Bool.not_eq_false, not_not] at hcon
    rw [isPlainText, hcon.1, hlead.text hcon.2] at h
    cases h
  have hdata : name.toList.map foldChar ≠ "data".toList := fun he => hlead.tag.2.2 (by simp [he])
  rw [hsplit]
  exact (gap (Reader.not_mem_feed_indent d)).append
    ((pass (.opening d (by decide) (by decide) hlead.tag htext)
      (.opening d (by decide) (by decide) hlead.tag (.inr hdata))).append htail)

theorem Lead.strewn {d : Nat} {v : Plist} {s tail : List Char} {name : String} {marks : List Mark}
    (h : Lead d v s name tail) (htail : Strewn tail marks) : Strewn s marks := by
  rw [h.eq]
  exact .feed d ((Strewn.tag h.tag).append htail)

mutual

/-- The written form of a value that is no document begins with a tag, and its marks come after
that. -/
theorem exists_lead (d : Nat) : ∀ {v : Plist} {ls : List Line},
    v.Every FreshLeaf (fun _ => True) → v.Arranged → v.isDocument = false → v.lines d = .ok ls →
      ∃ name tail, Lead d v (ls.flatMap ('\n' :: ·)) name tail ∧ Strewn tail v.marks
  | .string text compact, _, _, _, _, h => by
    obtain rfl := Except.ok.inj h
    rw [textElement]
    split
    · exact ⟨"string/", [], ⟨by rw [feed_singleton, emptyTag_eq]; rfl, by decide,
        fun he => absurd he (by decide)⟩, .gap List.not_mem_nil⟩
    · next hfull =>
      refine lead_element (by decide) (not_mem_escape _) fun _ => ?_
      rw [← Bool.not_eq_false, isText_string]
      exact hfull
  | .integer n, _, _, _, _, h => by
    obtain rfl := Except.ok.inj h
    exact lead_element (by decide) (not_mem_intText n (by decide)) fun he => absurd he (by decide)
  | .real x, _, _, _, _, h => by
    obtain rfl := Except.ok.inj h
    exact lead_element (by decide) (not_mem_compact x (by decide)) fun he => absurd he (by decide)
  | .bool b, _, _, _, _, h => by
    obtain rfl := Except.ok.inj h
    refine ⟨(if b then "true" else "false") ++ "/", [], ⟨?_, ?_, ?_⟩, .gap List.not_mem_nil⟩
    · rw [feed_singleton, ← emptyTag_eq]
    · cases b <;> decide
    · cases b <;> exact fun he => absurd he (by decide)
  | .data bytes, _, _, _, hdoc, _ => nomatch hdoc
  | .broken _, _, _, _, _, h => nomatch h
  | .array items, _, hv, harranged, _, h => by
    rw [lines_array, Outcome.map_eq_ok] at h
    obtain ⟨body, hbody, rfl⟩ := h
    exact lead_enclose (by decide) (by decide) (by decide) (by decide)
      (strewn_itemLines (d + 1) hv (fun _ => harranged.of_mem_items) hbody)
  | .dict entries, _, hv, harranged, hdoc, h => by
    rw [lines_dict, Outcome.map_eq_ok] at h
    obtain ⟨body, hbody, rfl⟩ := h
    rw [marks_dict hdoc]
    rcases harranged.styles_or with ⟨step, rtf, n, hstyles⟩ | hentries
    · exact absurd hstyles.any_isData (Bool.eq_false_iff.mp hdoc)
    · exact lead_enclose (by decide) (by decide) (by decide) (by decide)
        (strewn_entryLines (d + 1) hv hentries hbody)

/-- The marks of values are strewn in their lines. -/
theorem strewn_itemLines (d : Nat) : ∀ {items : List Plist} {ls : List Line},
    EveryItem FreshLeaf (fun _ => True) items → (∀ v ∈ items, v.Arranged) →
      itemLines d items = .ok ls → Strewn (ls.flatMap ('\n' :: ·)) (marksItems items)
  | [], _, _, _, h => by
    obtain rfl := Except.ok.inj h
    exact .gap List.not_mem_nil
  | v :: items, _, hv, harranged, h => by
    obtain ⟨first, others, hfirst, hothers, rfl⟩ := itemLines_cons_eq_ok.mp h
    obtain ⟨hfirstArranged, harranged⟩ := List.forall_mem_cons.mp harranged
    rw [List.flatMap_append]
    refine Strewn.append ?_ (strewn_itemLines d hv.2 harranged hothers)
    by_cases hdoc : v.isDocument
    · obtain ⟨step, rtf, n, entries, rfl, hstyles⟩ := hfirstArranged.of_isDocument hdoc
      rw [hstyles.marks, ← cons_unlines (ne_nil_of_lines_dict hfirst)]
      exact .styled hstyles hfirst
    · obtain ⟨name, tail, hlead, htail⟩ :=
        exists_lead d hv.1 hfirstArranged (Bool.eq_false_iff.mpr hdoc) hfirst
      exact hlead.strewn htail

theorem strewn_entryLines (d : Nat) : ∀ {entries : List (String × Plist)} {ls : List Line},
    EveryEntry FreshLeaf (fun _ => True) entries →
      (∀ e ∈ entries, e.2.isDocument = false ∧ e.2.Arranged) → entryLines d entries = .ok ls →
        Strewn (ls.flatMap ('\n' :: ·)) (marksEntries entries)
  | [], _, _, _, h => by
    obtain rfl := Except.ok.inj h
    exact .gap List.not_mem_nil
  | (k, v) :: entries, _, hv, harranged, h => by
    obtain ⟨first, others, hfirst, hothers, rfl⟩ := entryLines_cons_eq_ok.mp h
    obtain ⟨⟨hdoc, hfirstArranged⟩, harranged⟩ := List.forall_mem_cons.mp harranged
    rw [List.cons_append, List.flatMap_cons, List.flatMap_append, ← List.append_assoc]
    refine Strewn.append ?_ (strewn_entryLines d hv.2 harranged hothers)
    by_cases htext : isPlainText (k, v)
    · obtain ⟨text, compact, rfl⟩ := exists_string htext
      obtain rfl := Except.ok.inj hfirst
      rw [if_pos htext]
      exact .text d htext
    · obtain ⟨name, tail, hlead, htail⟩ := exists_lead d hv.1.2 hfirstArranged hdoc hfirst
      rw [if_neg htext]
      exact .entry hlead htail (Bool.eq_false_iff.mpr htext)

end

/-! ### The written form of a step -/

theorem any_isPlainText_of_other {entries : List Entry}
    (h : EveryEntry FreshLeaf OtherKey entries) : entries.any isPlainText = false := by
  induction entries with
  | nil => rfl
  | cons e entries ih =>
    have hkey : likes "text" (escape e.1.toList) = false := h.1.1.2.likes_eq_false
    rw [List.any_cons, ih h.2, isPlainText, hkey]
    rfl

theorem any_isPlainText_entries {before between : List Entry} {rtf : String}
    (hbefore : EveryEntry FreshLeaf OtherKey before)
    (hbetween : EveryEntry FreshLeaf OtherKey between) (t : Option String) :
    (entries before between rtf (t.map .text)).any isPlainText = t.isSome := by
  have hstyled : (Frame.styled (.text rtf)).any isPlainText = false := by
    simp [Frame.styled, isPlainText, isText]
  have htext : (Frame.slot? "Text" (t.map .text)).any isPlainText = t.isSome := by
    cases t with
    | none => rfl
    | some t =>
      have hkey : likes "text" (escape "Text".toList) = true := by decide
      have htext : isPlainText ("Text", .string t false) := by
        rw [isPlainText, hkey]
        simp [isText]
      exact Bool.or_eq_true_iff.mpr (.inl htext)
  rw [entries, List.any_append, List.any_append, List.any_append,
    any_isPlainText_of_other hbefore, any_isPlainText_of_other hbetween, hstyled, htext]
  rfl

/-- The written form of a step with a document is a layout, and that of the step with another
document is the layout with the other document. -/
theorem layout_of_styles {step : Step} {rtf : String} {n : Int} {entries : List Entry} {d : Nat}
    {ls : List Line} (h : Styles step rtf n entries) (hls : (dict entries).lines d = .ok ls) :
    ∃ (start between : List Char) (text : Option (List Char)),
      Skipped "styledtext" "data" ('\n' :: start) ∧ Skipped "text" "string" ('\n' :: start) ∧
      Skipped "text" "string" between ∧ text.isSome = entries.any isPlainText ∧
      '\n' :: unlines ls = layout d ('\n' :: start) between rtf.toList text ∧
      ∀ rtf', ∃ entries' ls', (step.withDocument rtf').Writes n entries' ∧
        (dict entries').lines d = .ok ls' ∧ '\n' :: unlines ls' = layout d ('\n' :: start)
          between rtf'.toList (text.map fun _ => Rtf.toText rtf'.toList) := by
  obtain ⟨before, between, text, hbefore, hbetween, rfl, hother⟩ := h.parts
  rw [lines_dict, Outcome.map_eq_ok] at hls
  obtain ⟨body, hbody, rfl⟩ := hls
  obtain ⟨las, lbs, t, hlas, hlbs, rfl, rfl⟩ := entryLines_entries.mp hbody
  have hfeeds (rtf : List Char) (t : Option String) :
      '\n' :: unlines (enclose d "dict" (stepLines (d + 1) las lbs rtf t)) =
        layout d ('\n' :: (indent d ++ openTag "dict" ++ las.flatMap ('\n' :: ·)))
          (lbs.flatMap ('\n' :: ·)) rtf (t.map String.toList) := by
    have hne : stepLines (d + 1) las lbs rtf t ≠ [] := by simp [stepLines]
    rw [cons_unlines (enclose_ne_nil _ _ _), feed_enclose d "dict" hne, feeds_eq_layout,
      List.cons_append]
  have hopen (key tag : String) : Skipped key tag ('\n' :: (indent d ++ openTag "dict")) :=
    (Skipped.feed d).append (.markup (show TagName "dict".toList by decide))
  refine ⟨indent d ++ openTag "dict" ++ las.flatMap ('\n' :: ·), _, t.map String.toList, ?_, ?_, ?_,
    ?_, hfeeds rtf.toList t, fun rtf' => ?_⟩
  · exact (hopen _ _).append (skipped_entryLines (by decide) hbefore (fun _ hk => hk.1) hlas)
  · exact (hopen _ _).append (skipped_entryLines (by decide) hbefore (fun _ hk => hk.2) hlas)
  · exact skipped_entryLines (by decide) hbetween (fun _ hk => hk.2) hlbs
  · rw [any_isPlainText_entries hbefore hbetween, Option.isSome_map]
  · have hwrites := hother rtf'
    rw [Option.map_map] at hwrites
    refine ⟨_, _, hwrites, ?_, (hfeeds rtf'.toList
      (t.map fun _ => String.ofList (Rtf.toText rtf'.toList))).trans ?_⟩
    · rw [lines_dict, Outcome.map_eq_ok]
      refine ⟨_, entryLines_entries.mpr ⟨las, lbs, _, hlas, hlbs, ?_, rfl⟩, rfl⟩
      cases t <;> rfl
    · rw [Option.map_map, Option.map_map]
      simp only [Function.comp_def, String.toList_ofList]

/-- A search for a plain text stops in a layout that has one. -/
theorem texts_layout {before between : List Char} (hbefore : Skipped "text" "string" before)
    (hbetween : Skipped "text" "string" between) (d : Nat) (rtf : List Char)
    (text : Option (List Char)) : Texts text.isSome (layout d before between rtf text) := by
  have hskip := skipped_layout hbefore hbetween d rtf
  rw [layout, ← List.append_assoc]
  cases text with
  | none => exact Skipped.append hskip (skipped_ending d)
  | some text =>
    refine HoldsText.append_left hskip (.append_left (.feed _) ?_)
    have hholds := holdsText_opening (d + 1) (k := "Text") (by decide) text
    have happend := hholds.append_right ('\n' :: (indent d ++ closeTag "dict"))
    rwa [List.append_assoc, List.append_assoc] at happend

namespace Strewn

variable {marks : List Mark}

/-- A search for a plain text stops exactly at the marks that have one. -/
theorem texts (h : Strewn s marks) : Texts (marks.any Mark.hasText) s := by
  induction h with
  | pass htext _ => exact htext
  | plain htext _ => exact htext
  | styled hstyles hls =>
    obtain ⟨start, between, text, -, hbefore, hbetween, htext, hlayout, -⟩ :=
      layout_of_styles hstyles hls
    rw [hlayout, List.any_cons, Mark.hasText, ← htext, List.any_nil, Bool.or_false]
    exact texts_layout hbefore hbetween _ _ text
  | append _ _ ihs iht =>
    rw [List.any_append]
    exact ihs.append iht

theorem holdsText (h : Strewn s marks) (hany : marks.any Mark.hasText = true) : HoldsText s := by
  have htexts := h.texts
  rwa [hany] at htexts

theorem skipped_text (h : Strewn s marks) (hnone : marks.any Mark.hasText = false) :
    Skipped "text" "string" s := by
  have htexts := h.texts
  rwa [hnone] at htexts

/-- A search for a document passes over a text without one. -/
theorem skipped (h : Strewn s marks) (hnone : marks.any Mark.isStyled = false) :
    Skipped "styledtext" "data" s := by
  induction h with
  | pass _ hdata => exact hdata
  | plain _ hdata => exact hdata
  | styled => cases hnone
  | append _ _ ihs iht =>
    rw [List.any_append, Bool.or_eq_false_iff] at hnone
    exact (ihs hnone.1).append (iht hnone.2)

/-- The text around the dictionary of a step with a document. -/
theorem split (h : Strewn s marks) : ∀ {as bs : List Mark} {entries : List Entry},
    marks = as ++ .styled entries :: bs → ∃ a b d step rtf n ls,
      s = a ++ ('\n' :: unlines ls ++ b) ∧ Styles step rtf n entries ∧
      (dict entries).lines d = .ok ls ∧ Strewn a as ∧ Strewn b bs := by
  induction h with
  | pass => exact fun he => absurd he (by simp)
  | plain =>
    intro as bs entries he
    rcases List.singleton_eq_append_iff.mp he with ⟨-, he⟩ | ⟨-, he⟩
    · cases he
    · cases he
  | @styled d step rtf n entries ls hstyles hls =>
    intro as bs entries' he
    rcases List.singleton_eq_append_iff.mp he with ⟨rfl, he⟩ | ⟨-, he⟩
    · cases he
      exact ⟨[], [], d, step, rtf, n, ls, by simp, hstyles, hls, .gap List.not_mem_nil,
        .gap List.not_mem_nil⟩
    · cases he
  | @append s t ms ns hs ht ihs iht =>
    intro as bs entries he
    rcases List.append_eq_append_iff.mp he with ⟨x, rfl, rfl⟩ | ⟨_ | ⟨mark, x⟩, rfl, hx⟩
    · obtain ⟨a, b, d, step, rtf, n, ls, rfl, hstyles, hls, ha, hb⟩ := iht rfl
      exact ⟨s ++ a, b, d, step, rtf, n, ls, by simp, hstyles, hls, hs.append ha, hb⟩
    -- The dictionary is the first mark of the second part.
    · have hfirst : ns = [] ++ .styled entries :: bs := hx.symm
      obtain ⟨a, b, d, step, rtf, n, ls, rfl, hstyles, hls, ha, hb⟩ := iht hfirst
      refine ⟨s ++ a, b, d, step, rtf, n, ls, by simp, hstyles, hls, ?_, hb⟩
      rw [List.append_nil] at hs
      rw [← List.append_nil as]
      exact hs.append ha
    · obtain ⟨rfl, rfl⟩ := List.cons.inj hx
      obtain ⟨a, b, d, step, rtf, n, ls, rfl, hstyles, hls, ha, hb⟩ := ihs rfl
      exact ⟨a, b ++ t, d, step, rtf, n, ls, by simp, hstyles, hls, ha, hb.append ht⟩

end Strewn

end MacroScribe.StyledText
