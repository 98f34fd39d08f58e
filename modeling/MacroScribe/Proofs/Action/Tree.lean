import MacroScribe.Proofs.Action.Splicing
import MacroScribe.Proofs.Builder.Made

/-!
# MacroScribe.Proofs.Action.Tree

Rendering from the inside out is rendering at once. `renderActions_eq_lines` says of all actions
that builders accept, whatever they hold and however deep they are nested: the text that rendering
puts together from texts is the written form of their expansion, and so is the document that it is
wrapped in.
-/

namespace MacroScribe

open Plist Text

/-! ### Keys on one line

Where no key of a condition has a line feed, splicing changes nothing. -/

theorem map_moved_of_keysOnLines {dicts : List Plist} (depth : Nat)
    (h : ∀ v ∈ dicts, v.KeysOnLines) :
    dicts.map (moved depth) = dicts.map (Placement.plain depth) :=
  List.map_congr_left fun v hv => moved_of_keysOnLines depth (h v hv)

theorem keysOnLines_list {dicts : List Plist} (depth : Nat) (h : ∀ v ∈ dicts, v.KeysOnLines) :
    (array (dicts.map (Placement.plain depth))).KeysOnLines := by
  rw [KeysOnLines, every_array]
  intro v hv
  obtain ⟨w, hw, rfl⟩ := List.mem_map.mp hv
  exact h w hw

theorem keysOnLines_numbered {frames : List Frame} (n : Int) (hf : ∀ f ∈ frames, f.Numbered) :
    ∀ v ∈ numbered n frames, v.KeysOnLines := by
  induction frames generalizing n with
  | nil => exact fun v hv => absurd hv List.not_mem_nil
  | cons f frames ih =>
    intro v hv
    rcases List.mem_cons.mp hv with rfl | hv
    · exact (hf f (by simp)).every .keysOnLines
    · exact ih (n + 1) (fun f hf' => hf f (by simp [hf'])) v hv

mutual

theorem Action.expand_of_keysOnLines :
    ∀ {a : Action} (n : Int), a.Solid → a.KeysOnLines →
      a.expand moved n = a.expand .plain n ∧ ∀ v ∈ a.expand .plain n, v.KeysOnLines
  | .step s, n, ha, _ =>
    ⟨rfl, keysOnLines_numbered n fun f hf => Step.numbered_of_mem_frames ha hf⟩
  | .group name actions timeout, n, ha, hk => by
    obtain ⟨hsame, hkeys⟩ := expandEach_of_keysOnLines (n + 1) ha.2 hk.2
    simp only [Action.expand, hsame, map_moved_of_keysOnLines 2 hkeys, List.mem_singleton,
      forall_eq, true_and]
    exact Frame.every_group .keysOnLines (keysOnLines_list 2 hkeys)
  | .switch source cases, n, ha, hk => by
    obtain ⟨hsame, hkeys⟩ := expandCases_of_keysOnLines (n + 1) ha.2 hk.2
    simp only [Action.expand, hsame, List.mem_singleton, forall_eq, true_and]
    exact Frame.every_switch .keysOnLines (every_array.mpr hkeys)
  | .ifThenElse conditions thenActions elseActions aborts, n, ha, hk => by
    obtain ⟨hsame, hkeys⟩ := expandEach_of_keysOnLines (n + 1) ha.2.2 hk.2.2
    obtain ⟨hsame', hkeys'⟩ :=
      expandEach_of_keysOnLines (n + 1 + dictCountEach elseActions) ha.2.1 hk.2.1
    simp only [Action.expand, hsame, hsame', map_moved_of_keysOnLines 2 hkeys,
      map_moved_of_keysOnLines 2 hkeys', List.mem_singleton, forall_eq, true_and]
    exact Frame.every_ifThenElse .keysOnLines hk.1 (keysOnLines_list 2 hkeys)
      (keysOnLines_list 2 hkeys')
  | .whileLoop conditions actions aborts notify, n, ha, hk => by
    obtain ⟨hsame, hkeys⟩ := expandEach_of_keysOnLines (n + 1) ha.2 hk.2
    simp only [Action.expand, hsame, map_moved_of_keysOnLines 2 hkeys, List.mem_singleton,
      forall_eq, true_and]
    exact Frame.every_whileLoop .keysOnLines hk.1 (keysOnLines_list 2 hkeys)

theorem expandEach_of_keysOnLines :
    ∀ {actions : List Action} (n : Int),
      EveryAction Step.Styled Plist.Solid (fun _ => True) actions →
      EveryAction (fun _ => True) Plist.KeysOnLines (fun _ => True) actions →
      expandEach moved n actions = expandEach .plain n actions ∧
        ∀ v ∈ expandEach .plain n actions, v.KeysOnLines
  | [], n, _, _ => ⟨rfl, fun v hv => absurd hv List.not_mem_nil⟩
  | a :: rest, n, ha, hk => by
    obtain ⟨hsame, hkeys⟩ := Action.expand_of_keysOnLines n ha.1 hk.1
    obtain ⟨hsame', hkeys'⟩ := expandEach_of_keysOnLines (n + a.dictCount) ha.2 hk.2
    refine ⟨by rw [expandEach, hsame, hsame', expandEach], fun v hv => ?_⟩
    rcases List.mem_append.mp hv with hv | hv
    · exact hkeys v hv
    · exact hkeys' v hv

theorem expandCases_of_keysOnLines :
    ∀ {cases : List SwitchCase} (n : Int),
      EveryCase Step.Styled Plist.Solid (fun _ => True) cases →
      EveryCase (fun _ => True) Plist.KeysOnLines (fun _ => True) cases →
      expandCases moved n cases = expandCases .plain n cases ∧
        ∀ v ∈ expandCases .plain n cases, v.KeysOnLines
  | [], n, _, _ => ⟨rfl, fun v hv => absurd hv List.not_mem_nil⟩
  | .mk operator testValue actions :: rest, n, ha, hk => by
    obtain ⟨hsame, hkeys⟩ := expandEach_of_keysOnLines n ha.1.2 hk.1.2
    obtain ⟨hsame', hkeys'⟩ := expandCases_of_keysOnLines (n + dictCountEach actions) ha.2 hk.2
    refine ⟨by rw [expandCases, hsame, hsame', map_moved_of_keysOnLines 4 hkeys, expandCases],
      fun v hv => ?_⟩
    rcases List.mem_cons.mp hv with rfl | hv
    · exact Frame.every_switchCase .keysOnLines (keysOnLines_list 4 hkeys)
    · exact hkeys' v hv

end

/-! ### Whole texts -/

/-- A document around the lines of its dictionaries. -/
theorem wrap_of_fragmentLines {body : String} {inner : List Line}
    (h : fragmentLines 1 body.toList = inner.flatMap Text.lines) :
    Plist.wrap body = header ++ String.ofList (inner.flatMap (· ++ ['\n'])) ++ footer := by
  simp only [Plist.wrap, h]
  -- Without dictionaries there is no line between header and footer.
  by_cases hinner : inner = []
  · subst hinner
    rfl
  · have hne : (inner.flatMap Text.lines).isEmpty = false := by
      rw [List.isEmpty_eq_false_iff]
      exact flatMap_lines_ne_nil hinner
    rw [hne, if_neg (by simp), unlines_flatMap_lines, ← unlines_append_feed hinner,
      String.ofList_append]

/-- What the written form of dictionaries with keys on one line is, by itself and in a document. -/
theorem Written.lines_eq {text : String} {dicts : List Plist} (h : Written text dicts)
    (hkeys : ∀ v ∈ dicts, v.KeysOnLines) :
    ∃ flat inner, itemLines 0 dicts = .ok flat ∧ text = String.ofList (unlines flat) ∧
      itemLines 1 dicts = .ok inner ∧
      Plist.wrap text = header ++ String.ofList (inner.flatMap (· ++ ['\n'])) ++ footer := by
  obtain ⟨ls, hls, htext⟩ := h.exists_rows
  have htagged := h.tagged
  rw [htext] at htagged
  obtain ⟨ls', hls', hmoves⟩ := itemRows_moved 1 (everyItem_iff.mpr h.solid) hls
  rw [movedItems_of_keysOnLines 1 (everyItem_iff.mpr hkeys)] at hls'
  obtain ⟨flat, hflat, rfl⟩ := exists_itemLines_of_itemRows hls
  obtain ⟨inner, hinner, rfl⟩ := exists_itemLines_of_itemRows hls'
  refine ⟨flat, inner, hflat, ?_, hinner, wrap_of_fragmentLines ?_⟩
  · rw [← unlines_flatMap_lines, ← htext, String.ofList_toList]
  · rw [htext, fragmentLines_unlines 1 (flatMap_lines_itemRows hls) htagged, hmoves.lines]

/-- Rendering actions that builders accept, from any first identifier, gives the written form of
their expansion, and the document around that text has the written form of the same dictionaries one
level further in. Texts may have any characters; keys of conditions have no line feed. -/
theorem renderActions_eq_lines {actions : List Action} {n m : Int} {text : String}
    (hmade : ∀ a ∈ actions, a.Accepted) (hkeys : ∀ a ∈ actions, a.KeysOnLines)
    (h : (renderActions actions).run n = (.ok text, m)) :
    ∃ flat inner, itemLines 0 (expandEach .plain n actions) = .ok flat ∧
      text = String.ofList (unlines flat) ∧
      itemLines 1 (expandEach .plain n actions) = .ok inner ∧
      Plist.wrap text = header ++ String.ofList (inner.flatMap (· ++ ['\n'])) ++ footer := by
  have hsolid := everyAction_iff.mpr fun a ha => (hmade a ha).solid
  obtain ⟨⟨texts, rfl, heach⟩, -⟩ := written_renderActions hsolid h
  obtain ⟨hsame, hdicts⟩ := expandEach_of_keysOnLines n hsolid (everyAction_iff.mpr hkeys)
  rw [hsame] at heach
  -- Without actions the text is empty, and is not the written form of a dictionary.
  by_cases hne : texts = []
  · subst hne
    generalize expandEach .plain n actions = dicts at heach
    cases heach
    exact ⟨[], [], rfl, rfl, rfl, rfl⟩
  · exact (heach.joined hne).lines_eq hdicts

/-- A loop around a text that looks like tags and has a blank line in it. -/
def tagLikeLoop : Action :=
  .whileLoop (.dict [("ConditionList", .array []), ("ConditionListMatch", .text "All")])
    [.step (.returnText (.text "</string>\n\n<dict>"))] true none

theorem tagLikeLoop_accepted : tagLikeLoop.Accepted := by
  have hreturn : Builder.returnText.apply [("text", .str "</string>\n\n<dict>")] =
      .ok (.step (.returnText (.text "</string>\n\n<dict>"))) := rfl
  have hloop : Builder.whileLoop.apply [("conditions", .list []), ("actions",
      .list [.embed (.action (.step (.returnText (.text "</string>\n\n<dict>"))))])] =
      .ok tagLikeLoop := rfl
  refine Made.action (by simp [Builder.all]) (fun p hp => ?_) hloop
  obtain rfl : p = .action (.step (.returnText (.text "</string>\n\n<dict>"))) := by
    simpa [Json.embeddedFields, Json.embedded, Json.embeddedItems] using hp
  exact Made.action (by simp [Builder.all])
    (by simp [Json.embeddedFields, Json.embedded]) hreturn

theorem renderActions_tagLikeLoop :
    (∀ a ∈ [tagLikeLoop], a.Accepted) ∧ (∀ a ∈ [tagLikeLoop], a.KeysOnLines) ∧
      ∃ text, (renderActions [tagLikeLoop]).run 7 = (.ok text, 9) ∧
        ∃ flat inner, itemLines 0 (expandEach .plain 7 [tagLikeLoop]) = .ok flat ∧
          text = String.ofList (unlines flat) ∧
          itemLines 1 (expandEach .plain 7 [tagLikeLoop]) = .ok inner ∧
          Plist.wrap text = header ++ String.ofList (inner.flatMap (· ++ ['\n'])) ++ footer := by
  have hmade : ∀ a ∈ [tagLikeLoop], a.Accepted := by simpa using tagLikeLoop_accepted
  have hkeys : ∀ a ∈ [tagLikeLoop], a.KeysOnLines := by
    simp +decide [tagLikeLoop, Action.KeysOnLines, Action.Every, EveryAction, KeysOnLines, Every,
      EveryItem, Plist.text]
  exact ⟨hmade, hkeys, _, rfl, renderActions_eq_lines hmade hkeys rfl⟩

end MacroScribe
