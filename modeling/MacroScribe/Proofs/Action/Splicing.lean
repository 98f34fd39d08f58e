import MacroScribe.Plist.Markup
import MacroScribe.Proofs.Action.Expansion
import MacroScribe.Proofs.Action.Rendering

/-!
# MacroScribe.Proofs.Action.Splicing

Rendering from the inside out writes the expansion.
-/

namespace MacroScribe

open Plist Text

/-- The text is the written form of dictionaries that leave no blank line. -/
structure Written (text : String) (dicts : List Plist) : Prop where
  solid : ∀ v ∈ dicts, v.Solid
  exists_rows : ∃ ls, itemRows 0 dicts = .ok ls ∧ text.toList = unlines ls
  tagged : Tagged text.toList

/-- Each text is the written form of some of the dictionaries, in order. -/
inductive WrittenEach : List String → List Plist → Prop where
  | nil : WrittenEach [] []
  | cons {text : String} {texts : List String} {dicts others : List Plist} :
      Written text dicts → WrittenEach texts others → WrittenEach (text :: texts) (dicts ++ others)

/-- The written form of dictionaries, spliced in, has the rows of the dictionaries themselves. -/
theorem Written.rows_fragment {text : String} {dicts : List Plist} (h : Written text dicts)
    (depth : Nat) : (fragment text).rows depth = itemRows depth (movedItems depth dicts) := by
  obtain ⟨ls, hls, htext⟩ := h.exists_rows
  have htagged := h.tagged
  rw [htext] at htagged
  obtain ⟨ls', hls', hmoves⟩ := itemRows_moved depth (everyItem_iff.mpr h.solid) hls
  rw [Nat.add_zero] at hls'
  -- The text begins and ends with a tag, so that nothing is stripped from it.
  rw [Plist.rows, Plist.lines, htext,
    fragmentLines_unlines depth (flatMap_lines_itemRows hls) htagged, hmoves.lines, hls',
    Except.map, flatMap_lines_itemRows hls']

theorem WrittenEach.rows_fragments {texts : List String} {dicts : List Plist}
    (h : WrittenEach texts dicts) (depth : Nat) :
    itemRows depth (texts.map .fragment) = itemRows depth (dicts.map (moved depth)) := by
  induction h with
  | nil => rfl
  | cons hw _ ih =>
    rw [List.map_cons, itemRows_cons, hw.rows_fragment, ih, List.map_append, itemRows_append,
      movedItems_eq_map]

/-- A list of written dictionaries has the rows of a list of the dictionaries themselves. -/
theorem WrittenEach.rows_list {texts : List String} {dicts : List Plist}
    (h : WrittenEach texts dicts) (depth : Nat) :
    (Rendering.fragments texts).rows depth =
      (array (dicts.map (moved (depth + 1)))).rows depth := by
  rw [Rendering.fragments, rows_array, rows_array, h.rows_fragments]

theorem WrittenEach.solid {texts : List String} {dicts : List Plist} (h : WrittenEach texts dicts) :
    ∀ v ∈ dicts, v.Solid := by
  induction h with
  | nil => exact fun v hv => absurd hv List.not_mem_nil
  | cons hw _ ih =>
    intro v hv
    rcases List.mem_append.mp hv with hv | hv
    · exact hw.solid v hv
    · exact ih v hv

theorem WrittenEach.solid_list {texts : List String} {dicts : List Plist}
    (h : WrittenEach texts dicts) (depth : Nat) : (array (dicts.map (moved depth))).Solid := by
  rw [Solid, every_array]
  intro v hv
  obtain ⟨w, hw, rfl⟩ := List.mem_map.mp hv
  exact every_moved depth (h.solid w hw)

/-- Texts one after the other are the written form of their dictionaries one after the other. -/
theorem WrittenEach.joined {texts : List String} {dicts : List Plist} (h : WrittenEach texts dicts)
    (hne : texts ≠ []) : Written (Rendering.joined texts) dicts := by
  induction h with
  | nil => exact absurd rfl hne
  | @cons text texts dicts others hw h ih =>
    by_cases htexts : texts = []
    · subst htexts
      cases h
      rw [List.append_nil]
      rwa [Rendering.joined, String.intercalate_singleton]
    · have hrest := ih htexts
      obtain ⟨ls, hls, htext⟩ := hw.exists_rows
      obtain ⟨ls', hls', htexts'⟩ := hrest.exists_rows
      have hjoined : (Rendering.joined (text :: texts)).toList =
          text.toList ++ ['\n'] ++ (Rendering.joined texts).toList := by
        rw [Rendering.joined, String.intercalate_cons_of_ne_nil htexts, String.toList_append,
          String.toList_append]
        rfl
      refine ⟨fun v hv => ?_, ⟨ls ++ ls', ?_, ?_⟩, ?_⟩
      · rcases List.mem_append.mp hv with hv | hv
        · exact hw.solid v hv
        · exact hrest.solid v hv
      · rw [itemRows_append, hls, hls']
        rfl
      -- Neither part is empty, so that one line feed stands between their rows.
      · rw [hjoined, htext, htexts', List.append_assoc]
        exact (unlines_append (hw.tagged.ne_nil_of_unlines htext)
          (hrest.tagged.ne_nil_of_unlines htexts')).symm
      · rw [hjoined]
        exact hw.tagged.append hrest.tagged ['\n']

/-- A dictionary that is written in one form and has the same rows in another. -/
theorem Written.of_write {entries entries' : List Entry} {text : String}
    (h : Plist.write 0 (.dict entries) = .ok text)
    (hrows : entryRows 1 entries = entryRows 1 entries')
    (hsolid : (dict entries').Solid) : Written text [.dict entries'] := by
  rw [Plist.write, Outcome.bind_eq_ok] at h
  obtain ⟨ls, hls, h⟩ := h
  obtain rfl := Except.ok.inj h
  have hrow : (dict entries').rows 0 = .ok (ls.flatMap Text.lines) := by
    rw [rows_dict, ← hrows, ← rows_dict, Plist.rows, hls]
    rfl
  refine ⟨by simpa using hsolid, ⟨ls.flatMap Text.lines, ?_, ?_⟩, ?_⟩
  · rw [itemRows_cons, hrow, itemRows_nil]
    exact congrArg Except.ok (List.append_nil _)
  · rw [String.toList_ofList, unlines_flatMap_lines]
  · rw [lines_dict, Outcome.map_eq_ok] at hls
    obtain ⟨body, -, rfl⟩ := hls
    rw [String.toList_ofList]
    exact (taggedAt_enclose 0 "dict" body).tagged

/-! ### Frames of composite actions

What the actions inside are written as does not matter, as long as the rows are the same. -/

namespace Frame

variable {x y : Plist}

theorem entryRows_group {name : Slot} {timeout : TimeoutPolicy} {n : Int}
    (h : x.rows 1 = y.rows 1) :
    entryRows 1 (group name timeout x n) = entryRows 1 (group name timeout y n) := by
  simp only [group, entryRows_append, entryRows_cons, h]

theorem entryRows_switch {source : SwitchSource} {n : Int} (h : x.rows 1 = y.rows 1) :
    entryRows 1 (switch source x n) = entryRows 1 (switch source y n) := by
  simp only [switch, entryRows_append, entryRows_cons, h]

theorem entryRows_switchCase {operator : String} {testValue : Slot} (h : x.rows 3 = y.rows 3) :
    entryRows 3 (switchCase operator testValue x) =
      entryRows 3 (switchCase operator testValue y) := by
  simp only [switchCase, entryRows_append, entryRows_cons, h]

theorem entryRows_ifThenElse {conditions x' y' : Plist} {aborts : Bool} {n : Int}
    (h : x.rows 1 = y.rows 1) (h' : x'.rows 1 = y'.rows 1) :
    entryRows 1 (ifThenElse conditions aborts x x' n) =
      entryRows 1 (ifThenElse conditions aborts y y' n) := by
  simp only [ifThenElse, entryRows_append, entryRows_cons, h, h']

theorem entryRows_whileLoop {conditions : Plist} {aborts : Bool} {notify : Option Bool} {n : Int}
    (h : x.rows 1 = y.rows 1) :
    entryRows 1 (whileLoop conditions aborts notify x n) =
      entryRows 1 (whileLoop conditions aborts notify y n) := by
  simp only [whileLoop, entryRows_append, entryRows_cons, h]

end Frame

theorem written_writeFrames {frames : List Frame} {n m : Int} {texts : List String}
    (hf : ∀ f ∈ frames, f.Numbered) (h : (Rendering.writeFrames frames).run n = (.ok texts, m)) :
    WrittenEach texts (numbered n frames) ∧ m = n + frames.length := by
  induction frames generalizing n texts with
  | nil =>
    obtain ⟨rfl, rfl⟩ := Rendering.run_pure_eq_ok.mp h
    exact ⟨.nil, by simp⟩
  | cons f frames ih =>
    rw [Rendering.writeFrames, Rendering.run_nextUid_bind, Rendering.run_bind_eq_ok] at h
    obtain ⟨first, k, hfirst, h⟩ := h
    obtain ⟨hwrite, rfl⟩ := Rendering.run_write_eq_ok.mp hfirst
    rw [Rendering.run_bind_eq_ok] at h
    obtain ⟨others, k, hothers, h⟩ := h
    obtain ⟨rfl, rfl⟩ := Rendering.run_pure_eq_ok.mp h
    obtain ⟨heach, rfl⟩ := ih (fun f hf' => hf f (by simp [hf'])) hothers
    have hsolid : (dict (f n)).Solid := (hf f (by simp)).every .solid
    refine ⟨WrittenEach.cons (Written.of_write hwrite rfl hsolid) heach, ?_⟩
    rw [List.length_cons]
    push_cast
    omega

theorem Step.length_frames (s : Step) : s.frames.length = s.dictCount := by
  cases s with
  | notification title body subtitle sound => cases sound <;> rfl
  | typeKey key modifiers press => cases press <;> rfl
  | _ => rfl

theorem Step.frames_ne_nil (s : Step) : s.frames ≠ [] := by
  cases s with
  | notification title body subtitle sound => cases sound <;> exact List.cons_ne_nil _ _
  | typeKey key modifiers press => cases press <;> exact List.cons_ne_nil _ _
  | _ => exact List.cons_ne_nil _ _

theorem WrittenEach.texts_ne_nil {texts : List String} {n : Int} {frames : List Frame}
    (h : WrittenEach texts (numbered n frames)) (hne : frames ≠ []) : texts ≠ [] := by
  rintro rfl
  cases frames with
  | nil => exact hne rfl
  | cons f frames =>
    generalize hdicts : numbered n (f :: frames) = dicts at h
    cases h
    exact List.cons_ne_nil _ _ hdicts

/-! ### Actions -/

open Rendering

mutual

/-- An action that renders writes its expansion, and takes one identifier for each dictionary. -/
theorem Action.written_render :
    ∀ {a : Action} {n m : Int} {text : String}, a.Solid → a.render.run n = (.ok text, m) →
      Written text (a.expand moved n) ∧ m = n + a.dictCount
  | .step s, n, m, text, ha, h => by
    rw [Action.render, run_bind_eq_ok] at h
    obtain ⟨texts, k, htexts, h⟩ := h
    obtain ⟨rfl, rfl⟩ := run_pure_eq_ok.mp h
    -- Each frame takes its identifier when it is begun.
    obtain ⟨heach, hk⟩ := written_writeFrames (fun f hf => Step.numbered_of_mem_frames ha hf) htexts
    refine ⟨heach.joined (heach.texts_ne_nil s.frames_ne_nil), ?_⟩
    rw [hk, s.length_frames, Action.dictCount]
  | .group name actions timeout, n, m, text, ha, h => by
    rw [Action.render, run_nextUid_bind, run_bind_eq_ok] at h
    obtain ⟨texts, k, htexts, h⟩ := h
    obtain ⟨hwrite, rfl⟩ := run_write_eq_ok.mp h
    -- When the group is written its actions are texts, with the rows of their expansion.
    obtain ⟨heach, rfl⟩ := written_renderEach ha.2 htexts
    refine ⟨Written.of_write hwrite (Frame.entryRows_group (heach.rows_list 1))
      (Frame.every_group .solid (heach.solid_list 2)), ?_⟩
    rw [Action.dictCount]
    push_cast
    omega
  | .switch source cases, n, m, text, ha, h => by
    rw [Action.render, run_nextUid_bind, run_bind_eq_ok] at h
    obtain ⟨children, k, hchildren, h⟩ := h
    obtain ⟨hwrite, rfl⟩ := run_write_eq_ok.mp h
    obtain ⟨hrows, hsolid, rfl⟩ := rows_renderCases ha.2 hchildren
    have hlist : (array children).rows 1 = (array (expandCases moved (n + 1) cases)).rows 1 := by
      rw [rows_array, rows_array, hrows]
    refine ⟨Written.of_write hwrite (Frame.entryRows_switch hlist)
      (Frame.every_switch .solid (every_array.mpr hsolid)), ?_⟩
    rw [Action.dictCount]
    push_cast
    omega
  | .ifThenElse conditions thenActions elseActions aborts, n, m, text, ha, h => by
    rw [Action.render, run_nextUid_bind, run_bind_eq_ok] at h
    obtain ⟨elseTexts, k, helseTexts, h⟩ := h
    rw [run_bind_eq_ok] at h
    obtain ⟨thenTexts, k', hthenTexts, h⟩ := h
    obtain ⟨hwrite, rfl⟩ := run_write_eq_ok.mp h
    -- The `else` branch takes its identifiers first.
    obtain ⟨helse, rfl⟩ := written_renderEach ha.2.2 helseTexts
    obtain ⟨hthen, rfl⟩ := written_renderEach ha.2.1 hthenTexts
    refine ⟨Written.of_write hwrite
      (Frame.entryRows_ifThenElse (helse.rows_list 1) (hthen.rows_list 1))
      (Frame.every_ifThenElse .solid ha.1 (helse.solid_list 2) (hthen.solid_list 2)), ?_⟩
    rw [Action.dictCount]
    push_cast
    omega
  | .whileLoop conditions actions aborts notify, n, m, text, ha, h => by
    rw [Action.render, run_nextUid_bind, run_bind_eq_ok] at h
    obtain ⟨texts, k, htexts, h⟩ := h
    obtain ⟨hwrite, rfl⟩ := run_write_eq_ok.mp h
    obtain ⟨heach, rfl⟩ := written_renderEach ha.2 htexts
    refine ⟨Written.of_write hwrite (Frame.entryRows_whileLoop (heach.rows_list 1))
      (Frame.every_whileLoop .solid ha.1 (heach.solid_list 2)), ?_⟩
    rw [Action.dictCount]
    push_cast
    omega

theorem written_renderEach :
    ∀ {actions : List Action} {n m : Int} {texts : List String},
      EveryAction Step.Styled Plist.Solid (fun _ => True) actions →
      (renderEach actions).run n = (.ok texts, m) →
      WrittenEach texts (expandEach moved n actions) ∧ m = n + dictCountEach actions
  | [], n, m, texts, _, h => by
    obtain ⟨rfl, rfl⟩ := run_pure_eq_ok.mp h
    exact ⟨.nil, by simp [dictCountEach]⟩
  | a :: rest, n, m, texts, ha, h => by
    rw [renderEach, run_bind_eq_ok] at h
    obtain ⟨first, k, hfirst, h⟩ := h
    rw [run_bind_eq_ok] at h
    obtain ⟨others, k', hothers, h⟩ := h
    obtain ⟨rfl, rfl⟩ := run_pure_eq_ok.mp h
    obtain ⟨hwritten, rfl⟩ := Action.written_render ha.1 hfirst
    obtain ⟨heach, rfl⟩ := written_renderEach ha.2 hothers
    refine ⟨.cons hwritten heach, ?_⟩
    rw [dictCountEach]
    push_cast
    omega

/-- The cases of a switch have the rows of their expansion. -/
theorem rows_renderCases :
    ∀ {cases : List SwitchCase} {n m : Int} {children : List Plist},
      EveryCase Step.Styled Plist.Solid (fun _ => True) cases →
      (renderCases cases).run n = (.ok children, m) →
      itemRows 2 children = itemRows 2 (expandCases moved n cases) ∧
        (∀ v ∈ expandCases moved n cases, v.Solid) ∧ m = n + dictCountCases cases
  | [], n, m, children, _, h => by
    obtain ⟨rfl, rfl⟩ := run_pure_eq_ok.mp h
    exact ⟨rfl, fun v hv => absurd hv List.not_mem_nil, by simp [dictCountCases]⟩
  | .mk operator testValue actions :: rest, n, m, children, ha, h => by
    rw [renderCases, run_bind_eq_ok] at h
    obtain ⟨texts, k, htexts, h⟩ := h
    rw [run_bind_eq_ok] at h
    obtain ⟨others, k', hothers, h⟩ := h
    obtain ⟨rfl, rfl⟩ := run_pure_eq_ok.mp h
    obtain ⟨heach, rfl⟩ := written_renderEach ha.1.2 htexts
    obtain ⟨hrows, hsolid, rfl⟩ := rows_renderCases ha.2 hothers
    refine ⟨?_, fun v hv => ?_, ?_⟩
    -- The list of the actions is two levels further in than the case, and they are one more.
    · rw [expandCases, itemRows_cons, itemRows_cons, hrows, rows_dict, rows_dict,
        Frame.entryRows_switchCase (heach.rows_list 3)]
    · rw [expandCases, List.mem_cons] at hv
      rcases hv with rfl | hv
      · exact Frame.every_switchCase .solid (heach.solid_list 4)
      · exact hsolid v hv
    · rw [dictCountCases]
      push_cast
      omega

end

/-- The text of actions is put together from the written forms of their expansion. -/
theorem written_renderActions {actions : List Action} {n m : Int} {text : String}
    (ha : EveryAction Step.Styled Plist.Solid (fun _ => True) actions)
    (h : (renderActions actions).run n = (.ok text, m)) :
    (∃ texts, text = Rendering.joined texts ∧ WrittenEach texts (expandEach moved n actions)) ∧
      m = n + dictCountEach actions := by
  rw [renderActions, run_bind_eq_ok] at h
  obtain ⟨texts, k, htexts, h⟩ := h
  obtain ⟨rfl, rfl⟩ := run_pure_eq_ok.mp h
  obtain ⟨heach, hm⟩ := written_renderEach ha htexts
  exact ⟨⟨texts, rfl, heach⟩, hm⟩

end MacroScribe
