import MacroScribe.Proofs.Action.Documents
import MacroScribe.Proofs.Action.Textual
import MacroScribe.Proofs.Action.Tree
import MacroScribe.Proofs.StyledText.Encoding
import MacroScribe.Proofs.StyledText.Search

/-!
# MacroScribe.Proofs.StyledText.RoundTrip

Documents survive being written. What an encoded document decodes to is the document, on one line or
on several, and so is what stands between the data tags of rendered actions, however deep the
actions are nested and whether or not the text is wrapped in an envelope (`decode_round_trip`).
-/

namespace MacroScribe

open Plist Text StyledText

/-! ### Written texts -/

/-- Any key. -/
def anyKey (_ : List Char) : Prop := True

theorem marked_itemLines_of_solid {d : Nat} {items : List Plist} {ls : List Line}
    (hv : ∀ v ∈ items, v.Solid) (h : itemLines d items = .ok ls) :
    Marked anyKey (ls.flatMap ('\n' :: ·)) (payloadItems items) :=
  marked_itemLines d (everyItem_iff.mpr fun v hm =>
    Every.mono (fun _ => SolidLeaf.fresh) (fun _ _ => trivial) (hv v hm)) h

/-- A search through the text of dictionaries, and one through the document around it, comes across
the byte strings of the dictionaries. -/
theorem Written.marked {text : String} {dicts : List Plist} (h : Written text dicts) :
    Marked anyKey ('\n' :: text.toList) (payloadItems dicts) ∧
      Marked anyKey (Plist.wrap text).toList (payloadItems dicts) := by
  obtain ⟨ls, hls, htext⟩ := h.exists_rows
  have htagged := h.tagged
  rw [htext] at htagged
  obtain ⟨ls', hls', hmoves⟩ := itemRows_moved 1 (everyItem_iff.mpr h.solid) hls
  obtain ⟨flat, hflat, rfl⟩ := exists_itemLines_of_itemRows hls
  obtain ⟨inner, hinner, rfl⟩ := exists_itemLines_of_itemRows hls'
  have hsolid : ∀ v ∈ movedItems 1 dicts, v.Solid := by
    rw [movedItems_eq_map]
    exact List.forall_mem_map.mpr fun v hv => every_moved 1 (h.solid v hv)
  constructor
  · have hne : flat ≠ [] := by
      rintro rfl
      exact htagged.ne_nil_of_unlines rfl rfl
    rw [htext, unlines_flatMap_lines, cons_unlines hne]
    exact marked_itemLines_of_solid h.solid hflat
  · have hwrap : fragmentLines 1 text.toList = inner.flatMap Text.lines := by
      rw [htext, fragmentLines_unlines 1 (flatMap_lines_itemRows hls) htagged, hmoves.lines]
    rw [wrap_of_fragmentLines hwrap, ← payloadItems_moved 1 dicts]
    exact (marked_itemLines_of_solid hsolid hinner).document

/-- What stands between the data tags of a text that has the byte strings of documents is decoded to
the documents. -/
theorem decode_dataTexts {s : List Char} {docs : List String}
    (h : Marked anyKey s (docs.map StyledText.bytes)) :
    (dataTexts s).map decode = docs.map fun rtf => .ok rtf.toList := by
  obtain ⟨texts, htexts, hrest⟩ := dataTexts_marked h
  have hs : dataTexts s = texts := by simpa [dataTexts] using hrest []
  rw [hs]
  clear h hrest hs
  induction docs generalizing texts with
  | nil =>
    rw [List.map_nil, List.map_nil, List.map_eq_nil_iff] at htexts
    rw [htexts]
    rfl
  | cons rtf docs ih =>
    rw [List.map_cons, List.map_cons] at htexts
    obtain ⟨payload, texts, rfl, hpayload, htexts⟩ := List.map_eq_cons_iff.mp htexts
    rw [List.map_cons, List.map_cons, decode_of_filter hpayload, ih texts htexts]

theorem decode_written {text : String} {dicts : List Plist} {docs : List String}
    (h : Written text dicts) (hdocs : payloadItems dicts = docs.map StyledText.bytes) :
    ∀ xml ∈ [text, Plist.wrap text],
      (dataTexts xml.toList).map decode = docs.map fun rtf => .ok rtf.toList := by
  obtain ⟨hflat, hwrapped⟩ := h.marked
  rw [hdocs] at hflat hwrapped
  rw [List.forall_mem_cons, List.forall_mem_singleton]
  have hfeed := decode_dataTexts hflat
  rw [← List.singleton_append, dataTexts_gap _ (by decide)] at hfeed
  exact ⟨hfeed, decode_dataTexts hwrapped⟩

/-- The documents of actions, from their text and from the document around it. -/
theorem decode_renderActions {actions : List Action} {n m : Int} {text : String}
    (hsound : ∀ a ∈ actions, a.Sound) (h : (renderActions actions).run n = (.ok text, m)) :
    ∀ xml ∈ [text, Plist.wrap text],
      (dataTexts xml.toList).map decode = (documentsEach actions).map fun rtf => .ok rtf.toList := by
  have hsolid := everyAction_iff.mpr fun a ha => (hsound a ha).solid
  have hdocs := payloads_expandEach n (everyAction_iff.mpr hsound)
  obtain ⟨⟨texts, rfl, heach⟩, -⟩ := written_renderActions hsolid h
  by_cases hne : texts = []
  -- Without actions there is nothing but the envelope.
  · subst hne
    generalize expandEach moved n actions = dicts at heach hdocs
    cases heach
    rw [List.map_eq_nil_iff.mp hdocs.symm]
    have hnone : fragmentLines 1 (Rendering.joined []).toList = List.flatMap Text.lines [] := rfl
    have hgap : Marked anyKey (List.flatMap ('\n' :: ·) []) ([].map StyledText.bytes) :=
      .gap List.not_mem_nil
    rw [List.forall_mem_cons, List.forall_mem_singleton, wrap_of_fragmentLines hnone]
    exact ⟨rfl, decode_dataTexts hgap.document⟩
  · exact decode_written (heach.joined hne) hdocs

/-! ### Comments in groups -/

/-- An action inside groups, the outermost first. -/
def Action.within (a : Action) (groups : List (String × TimeoutPolicy)) : Action :=
  groups.foldr (fun g inner => .group (.text g.1) [inner] g.2) a

theorem Action.sound_within {a : Action} (ha : a.Sound) (groups : List (String × TimeoutPolicy)) :
    (a.within groups).Sound := by
  induction groups with
  | nil => exact ha
  | cons g groups ih => exact ⟨trivial, ih, trivial⟩

theorem Action.textual_within {a : Action} (ha : a.Textual)
    (groups : List (String × TimeoutPolicy)) : (a.within groups).Textual := by
  induction groups with
  | nil => exact ha
  | cons g groups ih => exact ⟨trivial, ih, trivial⟩

theorem Action.documents_within (a : Action) (groups : List (String × TimeoutPolicy)) :
    (a.within groups).documents = a.documents := by
  induction groups with
  | nil => rfl
  | cons g groups ih => exact (List.append_nil _).trans ih

/-- A comment inside groups is rendered, and its document is the only one in its text. -/
theorem decode_comment_within {title rtf : String} (h : rtf ≠ "")
    (groups : List (String × TimeoutPolicy)) (n : Int) :
    ∃ text m, ((Action.step (.comment (.text title) (.text rtf))).within groups).render.run n =
        (.ok text, m) ∧
      ∀ xml ∈ [text, Plist.wrap text],
        ∃ payload, dataTexts xml.toList = [payload] ∧ decode payload = .ok rtf.toList := by
  have hsound : (Action.step (.comment (.text title) (.text rtf))).Sound :=
    fun he => h (Slot.text.inj he)
  have htextual : (Action.step (.comment (.text title) (.text rtf))).Textual := by
    simp [Action.Textual, Action.Every, Step.Textual, Step.slots]
  have hwithin := Action.sound_within hsound groups
  obtain ⟨text, m, hrun, -⟩ :=
    (Action.render_yields n hwithin).mpr (Action.textual_within htextual groups)
  obtain ⟨hwritten, -⟩ := Action.written_render hwithin.solid hrun
  have hdocs := Action.payloads_expand n hwithin
  rw [Action.documents_within] at hdocs
  refine ⟨text, m, hrun, fun xml hxml => ?_⟩
  exact List.map_eq_singleton_iff.mp (decode_written hwritten hdocs xml hxml)

/-! ### Main result -/

/-- Decoding undoes encoding of any document, on one line or on several. Of several lines all have
76 symbols but the last, which may have less. Between the data tags of rendered actions, wrapped in
an envelope or not, stand texts that are decoded to the documents of the actions, one after the
other; so a comment with a document is rendered inside groups of any number, and its document is
what the one text between data tags is decoded to. -/
theorem decode_round_trip :
    (∀ (rtf : List Char) (wrapped : Bool), decode (encode rtf wrapped) = .ok rtf) ∧
    (∀ rtf : List Char, ∃ full last, splitOn '\n' (encode rtf true) = full ++ [last] ∧
      (∀ l ∈ full, l.length = 76) ∧ last.length ≤ 76) ∧
    (∀ (actions : List Action) (n m : Int) (text : String), (∀ a ∈ actions, a.Accepted) →
      (renderActions actions).run n = (.ok text, m) → ∀ xml ∈ [text, Plist.wrap text],
        (dataTexts xml.toList).map decode =
          (documentsEach actions).map fun rtf => .ok rtf.toList) ∧
    (∀ (title rtf : String) (groups : List (String × TimeoutPolicy)) (n : Int), rtf ≠ "" →
      ∃ text m, ((Action.step (.comment (.text title) (.text rtf))).within groups).render.run n =
          (.ok text, m) ∧
        ∀ xml ∈ [text, Plist.wrap text],
          ∃ payload, dataTexts xml.toList = [payload] ∧ decode payload = .ok rtf.toList) := by
  refine ⟨fun rtf wrapped => decode_of_filter (filter_encode rtf wrapped), fun rtf => ?_,
    fun actions n m text hmade h => decode_renderActions (fun a ha => (hmade a ha).sound) h,
    fun title rtf groups n h => decode_comment_within h groups n⟩
  rw [splitOn_encode]
  exact exists_full_lines _

/-- A comment with a document of characters that take one to four bytes. -/
def wideComment : Action :=
  .step (.comment (.text "<data>") (.text "aé€𝄞"))

theorem wideComment_accepted : wideComment.Accepted := by
  have hbuild : Builder.comment.apply [("title", .str "<data>"), ("rtf_content", .str "aé€𝄞")] =
      .ok wideComment := rfl
  exact Made.action (by simp [Builder.all]) (by simp [Json.embeddedFields, Json.embedded]) hbuild

/-- The document is encoded and decoded, and found again in the comment, also inside two groups. -/
theorem decode_round_trip_wideComment :
    decode (encode "aé€𝄞".toList true) = .ok "aé€𝄞".toList ∧
    (∃ text, (renderActions [wideComment]).run 5 = (.ok text, 6) ∧
      ∀ xml ∈ [text, Plist.wrap text],
        (dataTexts xml.toList).map decode = [.ok "aé€𝄞".toList]) ∧
    ∃ text m, (wideComment.within [("a", ⟨true, none⟩), ("<data>", ⟨false, some true⟩)]).render.run
        5 = (.ok text, m) ∧
      ∀ xml ∈ [text, Plist.wrap text],
        ∃ payload, dataTexts xml.toList = [payload] ∧ decode payload = .ok "aé€𝄞".toList := by
  have hmade : ∀ a ∈ [wideComment], a.Accepted := by simpa using wideComment_accepted
  obtain ⟨hdecode, -, hactions, hcomment⟩ := decode_round_trip
  exact ⟨hdecode _ true, ⟨_, rfl, hactions [wideComment] 5 6 _ hmade rfl⟩,
    hcomment "<data>" "aé€𝄞" _ 5 (by decide)⟩

end MacroScribe
