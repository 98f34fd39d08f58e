import MacroScribe.Proofs.Action.Numbering
import MacroScribe.Proofs.StyledText.Strewn

/-!
# MacroScribe.Proofs.StyledText.Confinement

What an update of a rendered text leaves alone. The two searches of an update are independent of one
another: the first document is changed where it stands, and then the first plain text of the whole
text is replaced, whether or not it is that of the same action. So an update changes nothing but the
dictionary of the first action with a document exactly if the first plain text, if there is one, is
in that dictionary (`Confined`).
-/

namespace MacroScribe

open Text Plist

/-- No plain text stands before the mark, and if it has none itself, none stands after it. -/
def Plist.Mark.Confined (mark : Mark) (as bs : List Mark) : Prop :=
  as.any hasText = false ∧ (mark.hasText = true ∨ bs.any hasText = false)

namespace StyledText

/-! ### A line feed before the text -/

theorem find?_feed {key tag : String} (s : List Char) : Element.find? key tag ('\n' :: s) =
    (Element.find? key tag s).map fun e => { e with before := '\n' :: e.before } :=
  find?_cons_of_none (here?_of_ne s (by decide))

theorem margin_feed (s : List Char) : margin ('\n' :: s) = margin s := by
  have hpad : ('\n' :: s).reverse.takeWhile (· != '\n') = s.reverse.takeWhile (· != '\n') := by
    rw [List.reverse_cons, List.takeWhile_append]
    split
    · next h =>
      have hall : s.reverse.takeWhile (· != '\n') = s.reverse :=
        (List.takeWhile_prefix _).eq_of_length h
      rw [hall]
      simp
    · rfl
  rw [margin, margin, hpad]

theorem update_feed (f : List Char → List Char) (s : List Char) :
    update f ('\n' :: s) = (update f s).map ('\n' :: ·) := by
  rw [update, update, find?_feed]
  cases hfind : Element.find? "styledtext" "data" s with
  | none => rfl
  | some e =>
    simp only [Option.map_some, margin_feed]
    cases hdecode : decode e.content with
    | error fault => rfl
    | ok rtf =>
      have hfront : Skipped "text" "string" ['\n'] := .gap (by decide)
      exact congrArg Except.ok (replaceText_skipped hfront _ _)

/-- A line feed before a text has no part in an update. -/
theorem update_feed_eq_ok {f : List Char → List Char} {s t : List Char} :
    update f ('\n' :: s) = .ok ('\n' :: t) ↔ update f s = .ok t := by
  rw [update_feed, Outcome.map_eq_ok]
  constructor
  · rintro ⟨t', ht', he⟩
    exact ht'.trans (congrArg Except.ok (List.cons.inj he).2)
  · exact fun h => ⟨t, h, rfl⟩

/-- A text without a document stays as it is. -/
theorem update_skipped {s : List Char} (h : Skipped "styledtext" "data" ('\n' :: s))
    (f : List Char → List Char) : update f s = .ok s := by
  have hfind := h []
  rw [List.append_nil] at hfind
  rw [← update_feed_eq_ok, update, hfind]
  rfl

/-- The line feed between two parts of a text can be taken to the first part. -/
theorem exists_front {s a t : List Char} (h : '\n' :: s = a ++ '\n' :: t) :
    ∃ front, ∀ rest, a ++ '\n' :: rest = '\n' :: (front ++ rest) := by
  cases a with
  | nil => exact ⟨[], fun _ => rfl⟩
  | cons c a =>
    obtain rfl := (List.cons.inj h).1
    exact ⟨a ++ ['\n'], fun rest => by simp⟩

/-! ### Plain texts around the dictionary -/

variable {s a b before between : List Char}

/-- Where a search for a plain text stops, the text is replaced, and what stands around it stays. -/
theorem HoldsText.replaceText (h : HoldsText s) :
    ∃ start content tail, '<' ∉ content ∧ '>' ∉ content ∧
      s = start ++ '>' :: (content ++ '<' :: tail) ∧
      ∀ new rest, StyledText.replaceText new (s ++ rest) =
        start ++ '>' :: (new ++ '<' :: (tail ++ rest)) := by
  obtain ⟨before, opening, content, after, hlt, hgt, rfl, hfind⟩ := h
  refine ⟨before ++ opening, content, "/string>".toList ++ after, hlt, hgt, by simp [closeTag],
    fun new rest => ?_⟩
  rw [StyledText.replaceText, hfind]
  simp [closeTag]

/-- If the text in front stays as it is, it is because its plain text is replaced with itself. -/
theorem HoldsText.eq_of_front (h : HoldsText s) : ∃ content, ∀ new rest rest', '<' ∉ new →
    StyledText.replaceText new (s ++ rest) = s ++ rest' → new = content := by
  obtain ⟨start, content, tail, hlt, -, rfl, hreplace⟩ := h.replaceText
  refine ⟨content, fun new rest rest' hnew h => ?_⟩
  rw [hreplace, List.append_assoc, List.append_cancel_left_eq, List.cons_append, List.cons_inj_right,
    List.append_assoc, List.cons_append] at h
  exact eq_of_append_cons h hnew hlt

/-- The same, where the text comes after others without a plain text. -/
theorem HoldsText.eq_of_back (h : HoldsText s) : ∃ content, ∀ new front front',
    Skipped "text" "string" front → '>' ∉ new →
    StyledText.replaceText new (front ++ s) = front' ++ s → new = content := by
  obtain ⟨start, content, tail, -, hgt, rfl, hreplace⟩ := h.replaceText
  refine ⟨content, fun new front front' hfront hnew h => ?_⟩
  have hnil := hreplace new []
  rw [List.append_nil, List.append_nil] at hnil
  rw [replaceText_skipped hfront, hnil] at h
  have hends : front ++ start ++ '>' :: new ++ '<' :: tail =
      front' ++ start ++ '>' :: content ++ '<' :: tail := by simpa using h
  exact eq_of_cons_append (List.append_cancel_right hends) hnew hgt

/-- A change that gives another plain text. -/
theorem exists_toText_ne (content : List Char) :
    ∃ f : List Char → List Char, ∀ rtf, escape (Rtf.toText (f rtf)) ≠ content := by
  have hempty : escape (Rtf.toText []) = [] := by decide +kernel
  have hletter : escape (Rtf.toText ['a']) ≠ [] := by decide +kernel
  by_cases h : content = []
  · exact ⟨fun _ => ['a'], fun _ => h ▸ hletter⟩
  · exact ⟨fun _ => [], fun _ he => h (he.symm.trans hempty)⟩

/-- A document after other texts is changed where it stands. -/
theorem update_append (ha : Skipped "styledtext" "data" a)
    (hbefore : Skipped "styledtext" "data" before) (f : List Char → List Char) (d : Nat)
    (rtf : List Char) (text : Option (List Char)) :
    update f (a ++ (layout d before between rtf text ++ b)) =
      .ok (replaceText (escape (Rtf.toText (f rtf)))
        (a ++ (layout d before between (f rtf) text ++ b))) := by
  have hsplit (rtf : List Char) : a ++ (layout d before between rtf text ++ b) =
      a ++ before ++ '\n' :: indent (d + 1) ++ payload (indent (d + 1)) rtf ++
        (between ++ ending d text ++ b) := by
    simp [layout]
  rw [hsplit, hsplit, update_payload (ha.append hbefore)]

variable (b between) in
/-- A plain text before the first document is replaced with that of the document, and the plain text
of the document stays as it is. -/
theorem update_earlier {front back : List Char} (hfront : Skipped "styledtext" "data" front)
    (hfront' : Skipped "text" "string" front) (hback : Skipped "styledtext" "data" back)
    (hbefore : Skipped "styledtext" "data" before) (f : List Char → List Char) (d d' : Nat)
    (rtf earlier : List Char) (text : Option (List Char)) :
    update f (front ++ (opening d' "Text" "string" ++ (escape earlier ++ (closeTag "string" ++
      (back ++ (layout d before between rtf text ++ b)))))) =
    .ok (front ++ (opening d' "Text" "string" ++ (escape (Rtf.toText (f rtf)) ++
      (closeTag "string" ++ (back ++ (layout d before between (f rtf) text ++ b)))))) := by
  have hopen : Skipped "styledtext" "data" (opening d' "Text" "string") :=
    .opening d' (by decide) (by decide) (by decide) (.inr (by decide))
  have hclose : Skipped "styledtext" "data" (closeTag "string") :=
    .markup (show TagName "/string".toList by decide)
  have hskip := ((hfront.append hopen).append (.gap (not_mem_escape earlier))).append
    (hclose.append hback)
  have hsplit (rtf : List Char) :
      front ++ (opening d' "Text" "string" ++ (escape earlier ++ (closeTag "string" ++
        (back ++ (layout d before between rtf text ++ b))))) =
      front ++ opening d' "Text" "string" ++ escape earlier ++ (closeTag "string" ++ back) ++
        (layout d before between rtf text ++ b) := by
    simp
  rw [hsplit, update_append hskip hbefore, ← hsplit, replaceText_skipped hfront',
    replaceText_opening]

variable (b between) in
/-- The first document is the one in the layout. -/
theorem find?_layout (ha : Skipped "styledtext" "data" a)
    (hbefore : Skipped "styledtext" "data" before) (d : Nat) (rtf : List Char)
    (text : Option (List Char)) :
    ∃ e, Element.find? "styledtext" "data" (a ++ (layout d before between rtf text ++ b)) = some e ∧
      a ++ before <+: e.before ∧ b <:+ e.after ∧ decode e.content = .ok rtf := by
  have hopen := afterOpening?_opening "styledtext" "data" "StyledText" (d + 1) (by decide)
    (by decide) (by decide)
  have hfind := find?_element (between ++ ending d text ++ b)
    ((ha.append hbefore).append (.feed (d + 1))) hopen (by decide)
    (not_mem_dataContent (d + 1) (utf8 rtf))
  have hsplit : a ++ (layout d before between rtf text ++ b) =
      a ++ before ++ '\n' :: indent (d + 1) ++ (opening (d + 1) "StyledText" "data" ++
        (dataContent (d + 1) (utf8 rtf) ++
          (closeTag "data" ++ (between ++ ending d text ++ b)))) := by
    rw [layout, payload_eq]
    simp
  exact ⟨_, hsplit ▸ hfind, List.prefix_append _ _, List.suffix_append _ _,
    decode_dataContent (d + 1) rtf⟩

/-- The same, where the line feed before the dictionary is taken to the text in front. -/
theorem exists_find? {start front rtf : List Char} {d : Nat} {text : Option (List Char)}
    (ha : Skipped "styledtext" "data" a) (hbefore : Skipped "styledtext" "data" ('\n' :: start))
    (hs : '\n' :: s = a ++ (layout d ('\n' :: start) between rtf text ++ b))
    (hfront : ∀ rest, a ++ '\n' :: rest = '\n' :: (front ++ rest)) :
    ∃ e, Element.find? "styledtext" "data" s = some e ∧ front <+: e.before ∧ b <:+ e.after ∧
      decode e.content = .ok rtf := by
  obtain ⟨e, hfind, he, hafter, hcontent⟩ := find?_layout b between
    ha hbefore d rtf text
  rw [← hs, find?_feed, Option.map_eq_some_iff] at hfind
  obtain ⟨e, hfind, rfl⟩ := hfind
  rw [hfront, List.prefix_cons_inj] at he
  exact ⟨e, hfind, (List.prefix_append front start).trans he, hafter, hcontent⟩

/-- The document and its plain text are changed where they stand if no other plain text is found
before. -/
theorem update_own (ha : Skipped "styledtext" "data" a) (ha' : Skipped "text" "string" a)
    (hbefore : Skipped "styledtext" "data" before) (hbefore' : Skipped "text" "string" before)
    (hbetween : Skipped "text" "string" between) (f : List Char → List Char) (d : Nat)
    (rtf : List Char) {text : Option (List Char)} (hb : text = none → Skipped "text" "string" b) :
    update f (a ++ (layout d before between rtf text ++ b)) =
      .ok (a ++ (layout d before between (f rtf) (text.map fun _ => Rtf.toText (f rtf)) ++ b)) := by
  have hsplit (rtf : List Char) (text : Option (List Char)) :
      a ++ (layout d before between rtf text ++ b) =
        layout d (a ++ before) between rtf text ++ b := by
    simp [layout]
  have hnone : text = none → Element.find? "text" "string" b = none := by
    intro he
    rw [← List.append_nil b, hb he]
    rfl
  rw [hsplit, hsplit, update_layout (ha.append hbefore) (ha'.append hbefore') hbetween f d rtf hnone]

section Surroundings

variable {as bs : List Mark} {mark : Mark} {rtf : List Char} {text : Option (List Char)}
  (ha : Strewn a as) (hb : Strewn b bs) (hnone : as.any Mark.isStyled = false)
  (hbefore : Skipped "styledtext" "data" before) (hbefore' : Skipped "text" "string" before)
  (hbetween : Skipped "text" "string" between) (d : Nat) (htext : text.isSome = mark.hasText)

include ha hb hnone hbefore hbefore' hbetween htext

/-- Where the first plain text is not around the dictionary, what is around it stays. -/
theorem update_confined (hconfined : mark.Confined as bs) (f : List Char → List Char) :
    update f (a ++ (layout d before between rtf text ++ b)) =
      .ok (a ++ (layout d before between (f rtf) (text.map fun _ => Rtf.toText (f rtf)) ++ b)) := by
  refine update_own (ha.skipped hnone) (ha.skipped_text hconfined.1) hbefore hbefore' hbetween f d
    rtf fun he => hb.skipped_text ?_
  rw [he, Option.isSome_none] at htext
  exact hconfined.2.resolve_left (htext ▸ Bool.false_ne_true)

/-- Where the first plain text is around the dictionary, some update changes it. -/
theorem confined_of_update (h : ∀ f, ∃ inside,
    update f (a ++ (layout d before between rtf text ++ b)) = .ok (a ++ (inside ++ b))) :
    mark.Confined as bs := by
  have hreplace (f : List Char → List Char) : ∃ inside, replaceText (escape (Rtf.toText (f rtf)))
      (a ++ (layout d before between (f rtf) text ++ b)) = a ++ (inside ++ b) := by
    obtain ⟨inside, hinside⟩ := h f
    rw [update_append (ha.skipped hnone) hbefore] at hinside
    exact ⟨inside, Except.ok.inj hinside⟩
  have hfront : as.any Mark.hasText = false := by
    by_contra hcon
    obtain ⟨content, hcontent⟩ := (ha.holdsText (eq_true_of_ne_false hcon)).eq_of_front
    obtain ⟨f, hf⟩ := exists_toText_ne content
    obtain ⟨inside, hinside⟩ := hreplace f
    exact hf rtf (hcontent _ _ _ (not_mem_escape _) hinside)
  refine ⟨hfront, ?_⟩
  by_contra hcon
  rw [not_or] at hcon
  -- The search passes over everything up to the dictionary's end.
  have hskipped (rtf : List Char) :
      Skipped "text" "string" (a ++ layout d before between rtf text) := by
    have hown := texts_layout hbefore' hbetween d rtf text
    rw [htext, Bool.eq_false_iff.mpr hcon.1] at hown
    exact (ha.skipped_text hfront).append hown
  obtain ⟨content, hcontent⟩ := (hb.holdsText (eq_true_of_ne_false hcon.2)).eq_of_back
  obtain ⟨f, hf⟩ := exists_toText_ne content
  obtain ⟨inside, hinside⟩ := hreplace f
  rw [← List.append_assoc, ← List.append_assoc] at hinside
  exact hf rtf (hcontent _ _ _ (hskipped _) (not_mem_greater_escape _) hinside)

end Surroundings

end StyledText

/-! ### Rendered actions -/

/-- The marks of what actions write are strewn in their text. -/
theorem strewn_renderActions {actions : List Action} {n m : Int} {text : String}
    (hmade : ∀ a ∈ actions, a.Accepted) (h : (renderActions actions).run n = (.ok text, m)) :
    StyledText.Strewn ('\n' :: text.toList) (marksItems (expandEach moved n actions)) := by
  have hsound := everyAction_iff.mpr fun a ha => (hmade a ha).sound
  have hsolid := everyAction_iff.mpr fun a ha => (hmade a ha).solid
  obtain ⟨⟨texts, rfl, heach⟩, -⟩ := written_renderActions hsolid h
  obtain ⟨ls, hls, htext⟩ := heach.spells.exists_lines
  have hfresh : EveryItem FreshLeaf (fun _ => True) (expandEach moved n actions) :=
    everyItem_iff.mpr fun v hv => Every.mono (fun _ => SolidLeaf.fresh) (fun _ => id)
      (heach.solid v hv)
  have hstrewn := StyledText.strewn_itemLines 0 hfresh (arranged_expandEach n hsound) hls
  rw [htext, String.toList_ofList]
  by_cases hne : ls = []
  · subst hne
    exact (StyledText.Strewn.gap (s := ['\n']) (by decide)).append hstrewn
  · rw [cons_unlines hne]
    exact hstrewn

/-! ### Main result -/

/-- Where the first document of a text stands: in the dictionary of a step, with what stands before
and after the dictionary. -/
structure StyledText.FirstDocument (text : List Char) (entries : List Entry) where
  step : Step
  rtf : String
  uid : Int
  depth : Nat
  before : List Char
  after : List Char
  styles : Styles step rtf uid entries
  lines : ∃ ls, (dict entries).lines depth = .ok ls ∧ text = before ++ (unlines ls ++ after)
  found : ∃ e, Element.find? "styledtext" "data" text = some e ∧ before <+: e.before ∧
    after <:+ e.after ∧ decode e.content = .ok rtf.toList

open StyledText in
/-- What an update of rendered actions changes. Without a document it changes nothing. Otherwise the
first document in the text is in the dictionary of a step, and whatever the document is changed to,
all that stands before and after this dictionary stays as it is exactly if no plain text comes
before it and none comes after it either if it has none itself. Then the update puts the dictionary
of the step with the changed document in its place, with the plain text of that document if the step
has a plain text. -/
theorem update_confined_iff {actions : List Action} {n m : Int} {text : String}
    (hmade : ∀ a ∈ actions, a.Accepted) (h : (renderActions actions).run n = (.ok text, m)) :
    let marks := marksItems (expandEach moved n actions)
    (marks.any Mark.isStyled = false → ∀ f, update f text.toList = .ok text.toList) ∧
    ∀ as entries bs, marks = as ++ .styled entries :: bs → as.any Mark.isStyled = false →
      ∃ first : FirstDocument text.toList entries,
        ((∀ f, ∃ inside, update f text.toList = .ok (first.before ++ (inside ++ first.after))) ↔
          (Mark.styled entries).Confined as bs) ∧
        ((Mark.styled entries).Confined as bs → ∀ f, ∃ entries' ls,
          (first.step.withDocument (String.ofList (f first.rtf.toList))).Writes first.uid entries' ∧
          (dict entries').lines first.depth = .ok ls ∧
          update f text.toList = .ok (first.before ++ (unlines ls ++ first.after))) := by
  intro marks
  have hstrewn := strewn_renderActions hmade h
  refine ⟨fun hnone f => ?_, fun as entries bs hmarks hnone => ?_⟩
  · exact update_skipped (hstrewn.skipped hnone) f
  obtain ⟨a, b, d, step, rtf, uid, ls, hsplit, hstyles, hls, ha, hb⟩ := hstrewn.split hmarks
  obtain ⟨start, between, own, hbefore, hbefore', hbetween, hown, hlayout, hother⟩ :=
    layout_of_styles hstyles hls
  obtain ⟨before, hfront⟩ := exists_front hsplit
  have hupdate (hconfined : (Mark.styled entries).Confined as bs) (f : List Char → List Char) :
      ∃ entries' ls', (step.withDocument (String.ofList (f rtf.toList))).Writes uid entries' ∧
        (dict entries').lines d = .ok ls' ∧
        update f text.toList = .ok (before ++ (unlines ls' ++ b)) := by
    obtain ⟨entries', ls', hwrites, hls', hlayout'⟩ := hother (String.ofList (f rtf.toList))
    refine ⟨entries', ls', hwrites, hls', ?_⟩
    rw [String.toList_ofList] at hlayout'
    rw [← update_feed_eq_ok, hsplit, ← hfront, ← List.cons_append, hlayout, hlayout']
    exact update_confined ha hb hnone hbefore hbefore' hbetween d hown hconfined f
  refine ⟨⟨step, rtf, uid, d, before, b, hstyles, ⟨ls, hls, ?_⟩, ?_⟩,
    ⟨fun hsame => ?_, fun hconfined f => ?_⟩, hupdate⟩
  · exact (List.cons.inj (hsplit.trans (hfront _))).2
  · exact exists_find? (ha.skipped hnone) hbefore (hlayout ▸ hsplit) hfront
  · have hkept (f : List Char → List Char) : ∃ inside,
        update f (a ++ (layout d ('\n' :: start) between rtf.toList own ++ b)) =
          .ok (a ++ (inside ++ b)) := by
      obtain ⟨inside, hinside⟩ := hsame f
      refine ⟨'\n' :: inside, ?_⟩
      rw [← hlayout, ← hsplit, List.cons_append, hfront, update_feed_eq_ok]
      exact hinside
    exact confined_of_update ha hb hnone hbefore hbefore' hbetween d hown hkept
  · obtain ⟨_, ls', -, -, hls'⟩ := hupdate hconfined f
    exact ⟨unlines ls', hls'⟩

/-- A text that is returned. -/
def keptText : Action :=
  .step (.returnText (.text "kept"))

/-- A clipboard that is set to a document. -/
def styledClipboard : Action :=
  .step (styledCopy "own" "\\b own")

theorem keptText_accepted : keptText.Accepted := by
  have hbuild : Builder.returnText.apply [("text", .str "kept")] = .ok keptText := rfl
  exact Made.action (by simp [Builder.all]) (by simp [Json.embeddedFields, Json.embedded]) hbuild

theorem styledClipboard_accepted : styledClipboard.Accepted := by
  have hbuild : Builder.setClipboard.apply [("text", .str "own"),
      ("include_styled_text", .bool true), ("rtf_content", .str "\\b own"),
      ("destination", .obj [("name", .str "Text")])] = .ok styledClipboard := rfl
  exact Made.action (by simp [Builder.all]) (by simp [Json.embeddedFields, Json.embedded]) hbuild

open StyledText in
/-- A text that is returned after the clipboard was set stays as it is. -/
theorem update_confined_styledClipboard :
    (∀ a ∈ [styledClipboard, keptText], a.Accepted) ∧
    ∃ text, (renderActions [styledClipboard, keptText]).run 1 = (.ok text, 3) ∧
      ∃ entries, ∃ first : FirstDocument text.toList entries,
        ∀ f, ∃ inside, update f text.toList = .ok (first.before ++ (inside ++ first.after)) := by
  have hmade : ∀ a ∈ [styledClipboard, keptText], a.Accepted :=
    List.forall_mem_cons.mpr ⟨styledClipboard_accepted, by simpa using keptText_accepted⟩
  obtain ⟨-, hstyled⟩ := update_confined_iff hmade (n := 1) (m := 3) rfl
  obtain ⟨first, hiff, -⟩ := hstyled [] _ [.plain] rfl rfl
  exact ⟨hmade, _, rfl, _, first, hiff.mpr ⟨rfl, .inl rfl⟩⟩

open StyledText in
/-- A text that is returned before the clipboard is set is rewritten, and that of the clipboard is
not. -/
theorem update_rewrites_keptText :
    (∀ a ∈ [keptText, styledClipboard], a.Accepted) ∧
    ∃ text text', (renderActions [keptText, styledClipboard]).run 1 = (.ok text, 3) ∧
      (renderActions [.step (.returnText (.text "new")), .step (styledCopy "own" "\\b new")]).run 1 =
        (.ok text', 3) ∧
      update (fun _ => "\\b new".toList) text.toList = .ok text'.toList := by
  refine ⟨List.forall_mem_cons.mpr ⟨keptText_accepted, by simpa using styledClipboard_accepted⟩,
    _, _, rfl, rfl, ?_⟩
  have hkept : EveryEntry FreshLeaf OtherKey (Frame.uid 1 ++ Frame.type "Return") := by
    simp +decide [Frame.uid, Frame.type, Every, FreshLeaf, Plist.text]
  have hstyled : EveryEntry FreshLeaf OtherKey (Frame.uid 2 ++ (Frame.flag "JustDisplay" false ++
      Frame.type "SetClipboardToText")) := by
    simp +decide [Frame.uid, Frame.type, Frame.flag, Every, FreshLeaf, Plist.text]
  have hlines := (rfl : entryLines 1 (Frame.uid 1 ++ Frame.type "Return") = .ok _)
  have hlines' := (rfl : entryLines 1 (Frame.uid 2 ++ (Frame.flag "JustDisplay" false ++
    Frame.type "SetClipboardToText")) = .ok _)
  have hopen (key tag : String) : Skipped key tag ('\n' :: indent 0 ++ openTag "dict") :=
    (Skipped.feed 0).append (.markup (show TagName "dict".toList by decide))
  have hupdate := update_earlier [] ("\n\t<key>TargetNamedClipboardRedundantDisplayName</key>" ++
      "\n\t<string>Text</string>\n\t<key>TargetUseNamedClipboard</key>\n\t<true/>").toList
    (((hopen _ _).append (skipped_entryLines (by decide) hkept (fun _ hk => hk.1) hlines)).append
      (.feed 1))
    (((hopen _ _).append (skipped_entryLines (by decide) hkept (fun _ hk => hk.2) hlines)).append
      (.feed 1))
    (skipped_ending 0)
    ((hopen _ _).append (skipped_entryLines (by decide) hstyled (fun _ hk => hk.1) hlines'))
    (fun _ => "\\b new".toList) 0 1 "\\b own".toList "kept".toList (some "own".toList)
  rw [← update_feed_eq_ok]
  have htext (a b : List Char) : (Rendering.joined [Rendering.joined [String.ofList a],
      Rendering.joined [String.ofList b]]).toList = a ++ '\n' :: b := by
    simp [Rendering.joined]
  rw [htext, htext]
  refine Eq.trans (congrArg _ ?_) (hupdate.trans (congrArg Except.ok ?_))
  · decide +kernel
  · decide +kernel

end MacroScribe
