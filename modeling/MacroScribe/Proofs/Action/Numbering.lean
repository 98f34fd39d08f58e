import MacroScribe.Proofs.Action.Identifiers
import MacroScribe.Proofs.Action.Splicing
import MacroScribe.Proofs.Action.Textual
import MacroScribe.Proofs.Action.Tree
import MacroScribe.Proofs.Plist.RoundTrip

/-!
# MacroScribe.Proofs.Action.Numbering

Which identifiers rendered actions have. They are taken while the text is put together from the
inside out, and yet stand in it in order: from the first one on, each is one more than the one
before (`renderActions_identifiers`). Rendering from another first identifier succeeds as well and
adds the same to all of them, and nothing else in the text changes.
-/

namespace MacroScribe

open Plist Text

/-- The `k` identifiers from `n` on. -/
def consecutive (n : Int) (k : Nat) : List Int :=
  (List.range k).map fun i : Nat => n + (i : Int)

theorem consecutive_add (n : Int) (k l : Nat) :
    consecutive n (k + l) = consecutive n k ++ consecutive (n + k) l := by
  rw [consecutive, List.range_add, List.map_append, List.map_map]
  refine congrArg (consecutive n k ++ ·) (List.map_congr_left fun i _ => ?_)
  simp only [Function.comp_apply]
  push_cast
  omega

theorem consecutive_one_add (n : Int) (k : Nat) :
    consecutive n (1 + k) = n :: consecutive (n + 1) k := by
  rw [consecutive_add]
  simp [consecutive]

/-! ### Expansions -/

theorem numbered_numbers {frames : List Frame} (hf : ∀ f ∈ frames, f.Numbered) (j n : Int) :
    NumbersEach j (numbered n frames) (consecutive n frames.length) (numbered (n + j) frames) := by
  induction frames generalizing n with
  | nil => exact .nil
  | cons f frames ih =>
    have hrest := ih (fun g hg => hf g (List.mem_cons_of_mem f hg)) (n + 1)
    rw [Int.add_right_comm] at hrest
    rw [List.length_cons, Nat.add_comm, consecutive_one_add]
    exact ((hf f List.mem_cons_self).numbers n).dict.append hrest

mutual

/-- An action has the identifiers from the first one on, in order, and a different first identifier
makes the same difference to all of them. -/
theorem Action.expand_numbers (j : Int) :
    ∀ {a : Action} (n : Int), a.Solid →
      NumbersEach j (a.expand moved n) (consecutive n a.dictCount) (a.expand moved (n + j))
  | .step s, n, h => by
    rw [Action.dictCount, ← s.length_frames]
    exact numbered_numbers (fun f hf => Step.numbered_of_mem_frames h hf) j n
  | .group name actions timeout, n, h => by
    have hactions := (expandEach_numbers j (n + 1) h.2).moved 2
    rw [Int.add_right_comm] at hactions
    rw [Action.dictCount, consecutive_one_add]
    exact (Frame.group_numbers name timeout n hactions).dict
  | .switch source cases, n, h => by
    have hcases := expandCases_numbers j (n + 1) h.2
    rw [Int.add_right_comm] at hcases
    rw [Action.dictCount, consecutive_one_add]
    exact (Frame.switch_numbers source n hcases).dict
  | .ifThenElse conditions thenActions elseActions aborts, n, h => by
    -- The `else` branch is written first, and it is the first to take identifiers.
    have helse := (expandEach_numbers j (n + 1) h.2.2).moved 2
    have hthen := (expandEach_numbers j (n + 1 + dictCountEach elseActions) h.2.1).moved 2
    rw [Int.add_right_comm] at helse
    rw [Int.add_right_comm (n + 1), Int.add_right_comm n 1 j] at hthen
    rw [Action.dictCount, Nat.add_assoc, consecutive_one_add, consecutive_add]
    exact (Frame.ifThenElse_numbers conditions aborts n helse hthen).dict
  | .whileLoop conditions actions aborts notify, n, h => by
    have hactions := (expandEach_numbers j (n + 1) h.2).moved 2
    rw [Int.add_right_comm] at hactions
    rw [Action.dictCount, consecutive_one_add]
    exact (Frame.whileLoop_numbers conditions aborts notify n hactions).dict

theorem expandEach_numbers (j : Int) :
    ∀ {actions : List Action} (n : Int),
      EveryAction Step.Styled Plist.Solid (fun _ => True) actions →
      NumbersEach j (expandEach moved n actions) (consecutive n (dictCountEach actions))
        (expandEach moved (n + j) actions)
  | [], _, _ => .nil
  | a :: rest, n, h => by
    have hrest := expandEach_numbers j (n + a.dictCount) h.2
    rw [Int.add_right_comm] at hrest
    rw [dictCountEach, consecutive_add]
    exact (Action.expand_numbers j n h.1).append hrest

theorem expandCases_numbers (j : Int) :
    ∀ {cases : List SwitchCase} (n : Int),
      EveryCase Step.Styled Plist.Solid (fun _ => True) cases →
      NumbersEach j (expandCases moved n cases) (consecutive n (dictCountCases cases))
        (expandCases moved (n + j) cases)
  | [], _, _ => .nil
  | .mk operator testValue actions :: rest, n, h => by
    have hrest := expandCases_numbers j (n + dictCountEach actions) h.2
    rw [Int.add_right_comm] at hrest
    rw [dictCountCases, consecutive_add]
    exact (Frame.switchCase_numbers operator testValue
      ((expandEach_numbers j n h.1.2).moved 4)).dict.append hrest

end

/-! ### Texts -/

/-- The text is the written form of the dictionaries, one after the other, and is read as them. -/
structure Spells (text : String) (dicts : List Plist) : Prop where
  exists_lines : ∃ ls, itemLines 0 dicts = .ok ls ∧ text = String.ofList (unlines ls)
  read : readAll text.toList = some (dicts.map view)

theorem Written.spells {text : String} {dicts : List Plist} (h : Written text dicts) :
    Spells text dicts := by
  obtain ⟨rows, hrows, htext⟩ := h.exists_rows
  obtain ⟨ls, hls, rfl⟩ := exists_itemLines_of_itemRows hrows
  rw [unlines_flatMap_lines] at htext
  have hwritable := everyItem_iff.mp (writableItems_of_itemLines hls)
  refine ⟨⟨ls, hls, by rw [← htext, String.ofList_toList]⟩, ?_⟩
  rw [htext]
  exact readAll_itemLines (fun v hv => (h.solid v hv).whole (hwritable v hv)) hls

theorem WrittenEach.spells {texts : List String} {dicts : List Plist}
    (h : WrittenEach texts dicts) :
    Spells (Rendering.joined texts) dicts := by
  by_cases hne : texts = []
  · subst hne
    cases h
    exact ⟨⟨[], rfl, rfl⟩, rfl⟩
  · exact (h.joined hne).spells

/-- Actions that builders accept write their expansion. -/
theorem renderActions_spells {actions : List Action} {n m : Int} {text : String}
    (hmade : ∀ a ∈ actions, a.Accepted) (h : (renderActions actions).run n = (.ok text, m)) :
    Spells text (expandEach moved n actions) ∧ m = n + dictCountEach actions := by
  have hsolid := everyAction_iff.mpr fun a ha => (hmade a ha).solid
  obtain ⟨⟨texts, rfl, heach⟩, hm⟩ := written_renderActions hsolid h
  exact ⟨heach.spells, hm⟩

/-- Actions that render from one first identifier do so from any other. -/
theorem renderActions_succeeds {actions : List Action} {n m : Int} {text : String}
    (hmade : ∀ a ∈ actions, a.Accepted) (h : (renderActions actions).run n = (.ok text, m))
    (n' : Int) : ∃ text' m', (renderActions actions).run n' = (.ok text', m') := by
  have hsound := everyAction_iff.mpr fun a ha => (hmade a ha).sound
  rw [renderActions, Rendering.run_bind_eq_ok] at h
  obtain ⟨texts, k, htexts, -⟩ := h
  have htextual := (renderEach_yields n hsound).mp ⟨texts, k, htexts, trivial⟩
  obtain ⟨texts', m', htexts', -⟩ := (renderEach_yields n' hsound).mpr htextual
  exact ⟨_, m', Rendering.run_bind_eq_ok.mpr ⟨texts', m', htexts', rfl⟩⟩

/-- The identifiers in the text of actions that builders accept are the consecutive ones from the
first one on, one for each dictionary of an action, and the next identifier is the one after them.
From any other first identifier the text is the same but for the difference in each of these
identifiers. Identifiers in conditions are not among them. -/
theorem renderActions_identifiers {actions : List Action} {n m : Int} {text : String}
    (hmade : ∀ a ∈ actions, a.Accepted) (h : (renderActions actions).run n = (.ok text, m)) :
    ∃ dicts, Spells text dicts ∧
      (dicts.map view).flatMap Reading.identifiers = consecutive n (dictCountEach actions) ∧
      m = n + dictCountEach actions ∧
      ∀ n', ∃ text', (renderActions actions).run n' = (.ok text', n' + dictCountEach actions) ∧
        Spells text' (dicts.map (shift (n' - n))) := by
  have hsolid := everyAction_iff.mpr fun a ha => (hmade a ha).solid
  obtain ⟨hspells, hm⟩ := renderActions_spells hmade h
  refine ⟨_, hspells, (expandEach_numbers 0 n hsolid).identifiers, hm, fun n' => ?_⟩
  -- From `n'` the actions write their expansion from `n'`, which is the shifted one.
  obtain ⟨text', m', h'⟩ := renderActions_succeeds hmade h n'
  obtain ⟨hspells', rfl⟩ := renderActions_spells hmade h'
  refine ⟨text', h', ?_⟩
  have hstart : n + (n' - n) = n' := by omega
  rwa [(expandEach_numbers (n' - n) n hsolid).shifted, hstart]

/-- A key that is held. -/
def heldKey : Action := .step (.typeKey 36 0 (.held "1"))

/-- A notification with a sound file. -/
def ringing : Action :=
  .step (.notification (.text "a") (.text "") (.text "") (.file (.text "/b")))

/-- A held key under a condition, and otherwise a notification with a sound file. -/
def keyOrRinging : Action :=
  .ifThenElse (.dict [("ConditionList", .array []), ("ConditionListMatch", .text "All")])
    [heldKey] [ringing] true

theorem keyOrRinging_accepted : keyOrRinging.Accepted := by
  have hkey : Builder.typeKeystroke.apply [("keystroke", .int 36), ("hold_time", .int 1)] =
      .ok heldKey := rfl
  have hring : Builder.notification.apply [("title", .str "a"), ("sound", .str "/b")] =
      .ok ringing := rfl
  have hif : Builder.ifThenElse.apply [("conditions", .list []),
      ("then", .list [.embed (.action heldKey)]), ("else_", .list [.embed (.action ringing)])] =
      .ok keyOrRinging := rfl
  refine Made.action (by simp [Builder.all]) (fun p hp => ?_) hif
  have hp' : p = .action heldKey ∨ p = .action ringing := by
    simpa [Json.embeddedFields, Json.embedded, Json.embeddedItems] using hp
  rcases hp' with rfl | rfl
  · exact Made.action (by simp [Builder.all])
      (by simp [Json.embeddedFields, Json.embedded]) hkey
  · exact Made.action (by simp [Builder.all])
      (by simp [Json.embeddedFields, Json.embedded]) hring

/-- The `else` branch has the identifiers after the first one, and the held key the last three. -/
theorem renderActions_identifiers_keyOrRinging :
    (∀ a ∈ [keyOrRinging], a.Accepted) ∧
      ∃ text, (renderActions [keyOrRinging]).run 7 = (.ok text, 13) ∧
        ∃ dicts, Spells text dicts ∧
          (dicts.map view).flatMap Reading.identifiers = [7, 8, 9, 10, 11, 12] ∧
          ∀ n', ∃ text', (renderActions [keyOrRinging]).run n' = (.ok text', n' + 6) ∧
            Spells text' (dicts.map (shift (n' - 7))) := by
  have hmade : ∀ a ∈ [keyOrRinging], a.Accepted := by simpa using keyOrRinging_accepted
  obtain ⟨dicts, hspells, hids, -, hshifted⟩ :=
    renderActions_identifiers hmade (n := 7) (m := 13) rfl
  exact ⟨hmade, _, rfl, dicts, hspells, hids, hshifted⟩

end MacroScribe
