import MacroScribe.Proofs.Action.Tree
import MacroScribe.Proofs.Plist.Character

/-!
# MacroScribe.Proofs.Action.Readable

Which documents can be read. The document of actions that builders accept is one that a reader of
XML takes character by character as it stands, exactly if that can be said of each text and of each
key in the dictionaries that the actions write (`document_readable_iff`). Builders do not see to
it: a text with a carriage return is accepted and is written as it is.
-/

namespace MacroScribe

open Plist Text

namespace Plist

/-! ### Moving in -/

/-- Splicing puts nothing into a key but tabs. -/
theorem readable_moveText {depth : Nat} {s : List Char} :
    Readable (moveText depth s) ↔ Readable s := by
  induction s with
  | nil => rfl
  | cons c s ih =>
    have htabs : Readable (if c = '\n' ∧ blankLineAhead s = false then indent depth else []) := by
      split
      · exact readable_indent depth
      · exact readable_nil
    simp [moveText, htabs, ih]

theorem readable_moveKey {depth : Nat} {key : String} :
    Readable (moveKey depth key).toList ↔ Readable key.toList := by
  rw [moveKey, String.toList_ofList, readable_moveText]

mutual

theorem readableTexts_moved (depth : Nat) :
    ∀ v : Plist, (v.moved depth).ReadableTexts ↔ v.ReadableTexts
  | string .. | integer _ | real _ | bool _ | data _ | fragment _ | broken _ => Iff.rfl
  | array items => readableItems_moved depth items
  | dict entries => readableEntries_moved depth entries

theorem readableItems_moved (depth : Nat) :
    ∀ items : List Plist,
      EveryItem ReadableLeaf (fun key => Readable key.toList) (movedItems depth items) ↔
        EveryItem ReadableLeaf (fun key => Readable key.toList) items
  | [] => Iff.rfl
  | v :: rest => and_congr (readableTexts_moved depth v) (readableItems_moved depth rest)

theorem readableEntries_moved (depth : Nat) :
    ∀ entries : List (String × Plist),
      EveryEntry ReadableLeaf (fun key => Readable key.toList) (movedEntries depth entries) ↔
        EveryEntry ReadableLeaf (fun key => Readable key.toList) entries
  | [] => Iff.rfl
  | (_, v) :: rest =>
    and_congr (and_congr readable_moveKey (readableTexts_moved depth v))
      (readableEntries_moved depth rest)

end

end Plist

/-! ### Expansions -/

/-- Each text and each key of the property lists is readable. -/
def ReadableEach (dicts : List Plist) : Prop :=
  ∀ v ∈ dicts, v.ReadableTexts

theorem readableEach_append {dicts others : List Plist} :
    ReadableEach (dicts ++ others) ↔ ReadableEach dicts ∧ ReadableEach others :=
  List.forall_mem_append

theorem readableEach_cons {v : Plist} {others : List Plist} :
    ReadableEach (v :: others) ↔ v.ReadableTexts ∧ ReadableEach others :=
  List.forall_mem_cons

theorem readableEach_singleton {v : Plist} : ReadableEach [v] ↔ v.ReadableTexts :=
  List.forall_mem_singleton

theorem readable_array {dicts : List Plist} :
    (array dicts).ReadableTexts ↔ ReadableEach dicts :=
  every_array

/-- Lists whose items were moved in, and lists of the same items as they are. -/
theorem readable_lists {dicts others : List Plist} (depth : Nat)
    (h : ReadableEach dicts ↔ ReadableEach others) :
    (array (dicts.map (moved depth))).ReadableTexts ↔
      (array (others.map (Placement.plain depth))).ReadableTexts := by
  have hmoved : ReadableEach (dicts.map (moved depth)) ↔ ReadableEach dicts := by
    simp only [ReadableEach, List.forall_mem_map, Plist.readableTexts_moved]
  have hplain : ReadableEach (others.map (Placement.plain depth)) ↔ ReadableEach others := by
    simp only [ReadableEach, List.forall_mem_map, Placement.plain]
  rw [readable_array, readable_array, hmoved, hplain, h]

namespace Frame

variable {x y : Plist} (h : x.ReadableTexts ↔ y.ReadableTexts)
include h

theorem readable_group (name : Slot) (timeout : TimeoutPolicy) (n : Int) :
    (dict (group name timeout x n)).ReadableTexts ↔
      (dict (group name timeout y n)).ReadableTexts := by
  unfold ReadableTexts at h ⊢
  simp only [Every, group, everyEntry_append, everyEntry_cons, h]

theorem readable_switch (source : SwitchSource) (n : Int) :
    (dict (switch source x n)).ReadableTexts ↔ (dict (switch source y n)).ReadableTexts := by
  unfold ReadableTexts at h ⊢
  simp only [Every, switch, everyEntry_append, everyEntry_cons, h]

theorem readable_switchCase (operator : String) (testValue : Slot) :
    (dict (switchCase operator testValue x)).ReadableTexts ↔
      (dict (switchCase operator testValue y)).ReadableTexts := by
  unfold ReadableTexts at h ⊢
  simp only [Every, switchCase, everyEntry_append, everyEntry_cons, h]

theorem readable_whileLoop (conditions : Plist) (aborts : Bool) (notify : Option Bool) (n : Int) :
    (dict (whileLoop conditions aborts notify x n)).ReadableTexts ↔
      (dict (whileLoop conditions aborts notify y n)).ReadableTexts := by
  unfold ReadableTexts at h ⊢
  simp only [Every, whileLoop, everyEntry_append, everyEntry_cons, h]

theorem readable_ifThenElse {x' y' : Plist} (h' : x'.ReadableTexts ↔ y'.ReadableTexts)
    (conditions : Plist) (aborts : Bool) (n : Int) :
    (dict (ifThenElse conditions aborts x x' n)).ReadableTexts ↔
      (dict (ifThenElse conditions aborts y y' n)).ReadableTexts := by
  unfold ReadableTexts at h h' ⊢
  simp only [Every, ifThenElse, everyEntry_append, everyEntry_cons, h, h']

end Frame

mutual

/-- Moving the dictionaries inside an action in makes no difference to whether they can be read. -/
theorem Action.readable_expand :
    ∀ (a : Action) (n : Int), ReadableEach (a.expand moved n) ↔ ReadableEach (a.expand .plain n)
  | .step _, _ => Iff.rfl
  | .group name actions timeout, n => by
    have hactions := readable_lists 2 (readable_expandEach actions (n + 1))
    rw [Action.expand, Action.expand, readableEach_singleton, readableEach_singleton]
    exact Frame.readable_group hactions name timeout n
  | .switch source cases, n => by
    have hcases := readable_expandCases cases (n + 1)
    rw [← readable_array, ← readable_array] at hcases
    rw [Action.expand, Action.expand, readableEach_singleton, readableEach_singleton]
    exact Frame.readable_switch hcases source n
  | .ifThenElse conditions thenActions elseActions aborts, n => by
    have helse := readable_lists 2 (readable_expandEach elseActions (n + 1))
    have hthen := readable_lists 2
      (readable_expandEach thenActions (n + 1 + dictCountEach elseActions))
    rw [Action.expand, Action.expand, readableEach_singleton, readableEach_singleton]
    exact Frame.readable_ifThenElse helse hthen conditions aborts n
  | .whileLoop conditions actions aborts notify, n => by
    have hactions := readable_lists 2 (readable_expandEach actions (n + 1))
    rw [Action.expand, Action.expand, readableEach_singleton, readableEach_singleton]
    exact Frame.readable_whileLoop hactions conditions aborts notify n

theorem readable_expandEach :
    ∀ (actions : List Action) (n : Int),
      ReadableEach (expandEach moved n actions) ↔ ReadableEach (expandEach .plain n actions)
  | [], _ => Iff.rfl
  | a :: rest, n => by
    rw [expandEach, expandEach, readableEach_append, readableEach_append,
      Action.readable_expand a n, readable_expandEach rest (n + a.dictCount)]

theorem readable_expandCases :
    ∀ (cases : List SwitchCase) (n : Int),
      ReadableEach (expandCases moved n cases) ↔ ReadableEach (expandCases .plain n cases)
  | [], _ => Iff.rfl
  | .mk operator testValue actions :: rest, n => by
    have hactions := readable_lists 4 (readable_expandEach actions n)
    rw [expandCases, expandCases, readableEach_cons, readableEach_cons,
      Frame.readable_switchCase hactions operator testValue,
      readable_expandCases rest (n + dictCountEach actions)]

end

/-! ### Documents -/

/-- A document can be read exactly if the dictionaries in it can. -/
theorem Written.readable_wrap {text : String} {dicts : List Plist} (h : Written text dicts) :
    Readable (Plist.wrap text).toList ↔ ReadableEach dicts := by
  obtain ⟨ls, hls, htext⟩ := h.exists_rows
  have htagged := h.tagged
  rw [htext] at htagged
  obtain ⟨ls', hls', hmoves⟩ := itemRows_moved 1 (everyItem_iff.mpr h.solid) hls
  have hsolid : ∀ v ∈ movedItems 1 dicts, v.Solid := by
    rw [movedItems_eq_map]
    intro v hv
    obtain ⟨w, hw, rfl⟩ := List.mem_map.mp hv
    exact every_moved 1 (h.solid w hw)
  rw [Plist.readable_wrap, htext, fragmentLines_unlines 1 (flatMap_lines_itemRows hls) htagged,
    hmoves.lines, readable_itemRows hsolid hls', movedItems_eq_map]
  simp only [ReadableEach, List.forall_mem_map, Plist.readableTexts_moved]

/-- The document of actions that builders accept consists of characters that XML 1.0 allows, with no
carriage return, exactly if all texts and all keys in the dictionaries that the actions write do. -/
theorem document_readable_iff {actions : List Action} {n m : Int} {text : String}
    (hmade : ∀ a ∈ actions, a.Accepted) (h : (renderActions actions).run n = (.ok text, m)) :
    ((∀ c ∈ (Plist.wrap text).toList, isXmlChar c) ∧ '\r' ∉ (Plist.wrap text).toList) ↔
      ∀ v ∈ expandEach .plain n actions, v.ReadableTexts := by
  have hsolid := everyAction_iff.mpr fun a ha => (hmade a ha).solid
  obtain ⟨⟨texts, rfl, heach⟩, -⟩ := written_renderActions hsolid h
  rw [← readable_iff, ← ReadableEach, ← readable_expandEach]
  by_cases hne : texts = []
  -- Without actions there is nothing but the envelope.
  · subst hne
    generalize expandEach moved n actions = dicts at heach
    cases heach
    exact iff_of_true (Plist.readable_wrap.mpr (List.forall_mem_nil _)) (List.forall_mem_nil _)
  · exact (heach.joined hne).readable_wrap

/-- A loop around a text with tags and line feeds in it can be read. -/
theorem document_readable_tagLikeLoop :
    (∀ a ∈ [tagLikeLoop], a.Accepted) ∧
      ∃ text, (renderActions [tagLikeLoop]).run 7 = (.ok text, 9) ∧
        (∀ c ∈ (Plist.wrap text).toList, isXmlChar c) ∧ '\r' ∉ (Plist.wrap text).toList := by
  have hmade : ∀ a ∈ [tagLikeLoop], a.Accepted := by simpa using tagLikeLoop_accepted
  refine ⟨hmade, _, rfl, (document_readable_iff hmade rfl).mpr ?_⟩
  simp +decide [tagLikeLoop, expandEach, Action.expand, numbered, Step.frames, Placement.plain,
    ReadableTexts, ReadableLeaf, Every, EveryItem, Frame.whileLoop, Plist.text, Frame.uid,
    Frame.type, Slot.leaf]

/-- A text with a carriage return. -/
def returned : Action :=
  .step (.returnText (.text "a\rb"))

/-- It is accepted and rendered, and the carriage return stands in the document. -/
theorem document_returned :
    returned.Accepted ∧ ∃ text, (renderActions [returned]).run 1 = (.ok text, 2) ∧
      '\r' ∈ (Plist.wrap text).toList := by
  have hmade : returned.Accepted := by
    have hbuild : Builder.returnText.apply [("text", .str "a\rb")] = .ok returned := rfl
    exact Made.action (by simp [Builder.all]) (by simp [Json.embeddedFields, Json.embedded]) hbuild
  refine ⟨hmade, _, rfl, ?_⟩
  simp only [Rendering.joined, String.intercalate_singleton, Plist.wrap, String.toList_append,
    String.toList_ofList, List.mem_append]
  refine .inl (.inr ?_)
  rw [if_neg (by decide +kernel), String.toList_append, String.toList_ofList, List.mem_append]
  refine .inl ?_
  decide +kernel

end MacroScribe
