import MacroScribe.Assembly
import MacroScribe.Proofs.Action.Numbering
import MacroScribe.Proofs.Action.Readable
import MacroScribe.Proofs.Plist.Document

/-!
# MacroScribe.Proofs.Export.Documents

The documents that hold rendered actions. The text of actions goes into three of them: the envelope,
the importable document, where it is moved in by four tabs, and, as a text, the document of the
action that shows it. What is read in each of them is stated here in terms of the dictionaries that
the actions are written as.
-/

namespace MacroScribe

open Plist Text

/-! ### The envelope -/

/-- A document around the written form of dictionaries is read as the dictionaries. -/
theorem Written.readDocument_wrap {text : String} {dicts : List Plist} (h : Written text dicts)
    (hkeys : ∀ v ∈ dicts, v.KeysOnLines) :
    readDocument (Plist.wrap text).toList = some (dicts.map view) := by
  obtain ⟨flat, inner, -, -, hinner, hwrap⟩ := h.lines_eq hkeys
  have hwritable := everyItem_iff.mp (writableItems_of_itemLines hinner)
  rw [hwrap]
  exact readDocument_envelope (fun v hv => (h.solid v hv).whole (hwritable v hv)) hinner

section Joined

variable {texts : List String} {dicts : List Plist}

theorem WrittenEach.eq_nil (h : WrittenEach [] dicts) : dicts = [] := by
  cases h
  rfl

theorem WrittenEach.readDocument_wrap (h : WrittenEach texts dicts)
    (hkeys : ∀ v ∈ dicts, v.KeysOnLines) :
    readDocument (Plist.wrap (Rendering.joined texts)).toList = some (dicts.map view) := by
  by_cases hne : texts = []
  · subst hne
    have hempty : Plist.wrap (Rendering.joined []) =
        header ++ String.ofList ([].flatMap (· ++ ['\n'])) ++ footer := wrap_of_fragmentLines rfl
    rw [h.eq_nil, hempty]
    exact readDocument_envelope (List.forall_mem_nil _) rfl
  · exact (h.joined hne).readDocument_wrap hkeys

/-- The text of actions, spliced in, has the rows of the dictionaries. -/
theorem WrittenEach.rows_joined (h : WrittenEach texts dicts) (hkeys : ∀ v ∈ dicts, v.KeysOnLines)
    (depth : Nat) : (fragment (Rendering.joined texts)).rows depth = itemRows depth dicts := by
  by_cases hne : texts = []
  · subst hne
    rw [h.eq_nil]
    rfl
  · rw [(h.joined hne).rows_fragment, movedItems_of_keysOnLines depth (everyItem_iff.mpr hkeys)]

end Joined

/-! ### The importable document -/

namespace Assembly

/-- The macro in an importable document, with these actions. -/
def macroEntries (label : Label) (actions : List Plist) : List Entry :=
  [("Actions", .array actions), ("CreationDate", label.date),
    ("ModificationDate", label.date), ("Name", label.name.leaf), ("Triggers", .array []),
    ("UID", label.nameUid.leaf)]

/-- The group in an importable document, with these actions. -/
def groupEntries (label : Label) (actions : List Plist) : List Entry :=
  [("Activate", .text "Normal"), ("CreationDate", label.date),
    ("Macros", .array [.dict (macroEntries label actions)]), ("Name", label.group.leaf),
    ("ToggleMacroUID", .text noMacro), ("UID", label.groupUid.leaf)]

theorem labelledGroup_eq (label : Label) (body : String) :
    labelledGroup label body = .dict (groupEntries label [.fragment body]) := rfl

/-- How actions are written does not matter, as long as the rows are the same. -/
theorem entryRows_groupEntries {label : Label} {as bs : List Plist}
    (h : itemRows 4 as = itemRows 4 bs) :
    entryRows 1 (groupEntries label as) = entryRows 1 (groupEntries label bs) := by
  have hinner : (dict (macroEntries label as)).rows 2 = (dict (macroEntries label bs)).rows 2 := by
    have hactions : (array as).rows 3 = (array bs).rows 3 := by rw [rows_array, rows_array, h]
    simp only [rows_dict, macroEntries, entryRows_cons, hactions]
  have hmacros : (array [.dict (macroEntries label as)]).rows 1 =
      (array [.dict (macroEntries label bs)]).rows 1 := by
    rw [rows_array, rows_array, itemRows_cons, itemRows_cons, hinner]
  simp only [groupEntries, entryRows_cons, hmacros]

variable {label : Label} {actions : List Plist}

theorem every_leaf {leaf : Plist → Prop} {key : String → Prop} (s : Slot)
    (htext : ∀ s, leaf (.text s)) (hbroken : ∀ cause, leaf (.broken cause)) :
    s.leaf.Every leaf key := by
  cases s with
  | text s => exact htext s
  | broken cause => exact hbroken _

/-- What holds of texts, of broken leaves, of the date and of the actions holds of the group. -/
theorem every_groupEntries {leaf : Plist → Prop} {key : String → Prop}
    (htext : ∀ s, leaf (.text s)) (hbroken : ∀ cause, leaf (.broken cause))
    (hdate : label.date.Every leaf key) (hactions : ∀ v ∈ actions, v.Every leaf key)
    (hkey : ∀ k ∈ ["Activate", "CreationDate", "Macros", "Name", "ToggleMacroUID", "UID", "Actions",
      "ModificationDate", "Triggers"], key k) :
    (dict (groupEntries label actions)).Every leaf key := by
  have hslot (s : Slot) : s.leaf.Every leaf key := every_leaf s htext hbroken
  have hstring (s : String) : (Plist.text s).Every leaf key := htext s
  simp only [groupEntries, macroEntries, every_dict, every_array, List.forall_mem_cons, hslot,
    hdate, hstring, and_true] at hkey ⊢
  simp [hkey]
  exact hactions

theorem exists_text_of_writable {s : Slot} (h : s.leaf.Writable) : ∃ text, s = .text text := by
  cases s with
  | text s => exact ⟨s, rfl⟩
  | broken cause => exact h.elim

/-- The group that is read in an importable document, with a macro that has these actions. -/
def groupReading (group name groupUid nameUid date : String) (actions : List Reading) : Reading :=
  .dict [("Activate", .string "Normal"), ("CreationDate", .real date),
    ("Macros", .array [.dict [("Actions", .array actions), ("CreationDate", .real date),
      ("ModificationDate", .real date), ("Name", .string name), ("Triggers", .array []),
      ("UID", .string nameUid)]]),
    ("Name", .string group), ("ToggleMacroUID", .string noMacro), ("UID", .string groupUid)]

theorem view_groupEntries (group name groupUid nameUid : String) (date : Number)
    (actions : List Plist) :
    view (.dict (groupEntries ⟨.text group, .text name, .text groupUid, .text nameUid, .real date⟩
      actions)) =
      groupReading group name groupUid nameUid (String.ofList date.compact) (actions.map view) := by
  simp only [groupEntries, macroEntries, view, viewItems, viewEntries, viewItems_eq_map,
    groupReading, Slot.leaf, Plist.text]

/-- The importable document is read as one group with one macro, whose actions are the dictionaries
that the text of the actions consists of. -/
theorem readDocument_importable {texts : List String} {dicts : List Plist} {group name : Slot}
    {groupUid nameUid : String} {date : Number} {document : String}
    (h : WrittenEach texts dicts) (hkeys : ∀ v ∈ dicts, v.KeysOnLines)
    (hdocument : importable ⟨group, name, .text groupUid, .text nameUid, .real date⟩
      (Rendering.joined texts) = .ok document) :
    ∃ groupName macroName, group = .text groupName ∧ name = .text macroName ∧
      readDocument document.toList = some [groupReading groupName macroName groupUid nameUid
        (String.ofList date.compact) (dicts.map view)] := by
  obtain ⟨text, htext, rfl⟩ := Outcome.map_eq_ok.mp hdocument
  rw [labelledGroup_eq] at htext
  have hrows : itemRows 4 [.fragment (Rendering.joined texts)] = itemRows 4 dicts := by
    rw [itemRows_cons, h.rows_joined hkeys, itemRows_nil]
    cases itemRows 4 dicts with
    | error e => rfl
    | ok ls => exact congrArg Except.ok (List.append_nil ls)
  have hwritten : Written text [_] := Written.of_write htext (entryRows_groupEntries hrows)
    (every_groupEntries (fun _ => trivial) (fun _ => trivial) trivial h.solid fun _ _ => trivial)
  have hread := hwritten.readDocument_wrap (List.forall_mem_singleton.mpr
    (every_groupEntries (fun _ => trivial) (fun _ => trivial) trivial hkeys (by decide)))
  -- What has a written form has texts for its names.
  obtain ⟨ls, hls, -⟩ := Outcome.bind_eq_ok.mp htext
  have hgroup := every_dict.mp (writable_of_lines hls)
  obtain ⟨groupName, rfl⟩ : ∃ text, group = .text text :=
    exists_text_of_writable (hgroup ("Name", group.leaf) (by simp [groupEntries])).2
  have hmacros := (hgroup ("Macros", .array [.dict (macroEntries
    ⟨.text groupName, name, .text groupUid, .text nameUid, .real date⟩
    [.fragment (Rendering.joined texts)])]) (by simp [groupEntries])).2
  have hinner := every_dict.mp (every_array.mp hmacros _ (List.mem_singleton_self _))
  obtain ⟨macroName, rfl⟩ : ∃ text, name = .text text :=
    exists_text_of_writable (hinner ("Name", name.leaf) (by simp [macroEntries])).2
  refine ⟨groupName, macroName, rfl, rfl, hread.trans ?_⟩
  rw [List.map_singleton, view_groupEntries]

/-- A document for texts has a written form, whatever the actions and the date are. -/
theorem exists_importable (group name groupUid nameUid body : String) (date : Number) :
    ∃ document,
      importable ⟨.text group, .text name, .text groupUid, .text nameUid, .real date⟩ body =
        .ok document := by
  have hwritable : (dict (groupEntries ⟨.text group, .text name, .text groupUid, .text nameUid,
      .real date⟩ [.fragment body])).Writable := by
    simp [groupEntries, macroEntries, Writable, Every, EveryItem, EveryEntry, WritableLeaf,
      Slot.leaf, Plist.text]
  obtain ⟨ls, hls⟩ := exists_lines (d := 0) hwritable
  refine ⟨Plist.wrap (String.ofList (Text.unlines ls)), ?_⟩
  rw [importable, labelledGroup_eq, write, hls]
  rfl

end Assembly

/-! ### The document that shows a text -/

namespace Export

/-- The action that shows a text in a window. -/
def window (text : String) : Step :=
  .insertText (.text text) "DisplayWindow" (some "Nothing") none

/-- What is read of the action that shows a text. -/
def windowReading (n : Int) (text : String) : Reading :=
  .dict [("Action", .string "DisplayWindow"), ("ActionUID", .integer n),
    ("MacroActionType", .string "InsertText"), ("ProcessingMode", .string "Nothing"),
    ("Text", .string text)]

variable {text document : String} {n m : Int}

theorem window_styled (text : String) : (window text).Styled := by
  intro rtf hrtf
  cases hrtf

theorem numbered_window (n : Int) (text : String) :
    numbered n (window text).frames =
      [.dict [("Action", .text "DisplayWindow"), ("ActionUID", .integer n),
        ("MacroActionType", .text "InsertText"), ("ProcessingMode", .text "Nothing"),
        ("Text", .text text)]] := rfl

/-- The document around the action that shows a text. -/
theorem written_window (h : (Assembly.ephemeral [.step (window text)] none).run n =
    (.ok document, m)) :
    ∃ body, document = Plist.wrap body ∧ Written body (numbered n (window text).frames) := by
  obtain ⟨body, k, hbody, h⟩ := Rendering.run_bind_eq_ok.mp h
  obtain ⟨rfl, rfl⟩ := Rendering.run_pure_eq_ok.mp h
  have hsolid : EveryAction Step.Styled Solid (fun _ => True) [.step (window text)] :=
    ⟨window_styled text, trivial⟩
  obtain ⟨⟨texts, rfl, heach⟩, -⟩ := written_renderActions hsolid hbody
  have hne : texts ≠ [] := by
    rintro rfl
    exact absurd heach.eq_nil (by simp [expandEach, Action.expand, numbered_window])
  exact ⟨_, rfl, heach.joined hne⟩

/-- The document that shows a text is read as the one action that shows it. -/
theorem readDocument_window (h : (Assembly.ephemeral [.step (window text)] none).run n =
    (.ok document, m)) :
    readDocument document.toList = some [windowReading n text] := by
  obtain ⟨body, rfl, hwritten⟩ := written_window h
  refine (hwritten.readDocument_wrap ?_).trans ?_
  · exact keysOnLines_numbered n fun f hf => Step.numbered_of_mem_frames (window_styled text) hf
  · rw [numbered_window, List.map_singleton]
    rfl

/-- Each character of the document is read as it stands there if that holds of the text. -/
theorem readable_window (h : (Assembly.ephemeral [.step (window text)] none).run n =
    (.ok document, m)) :
    Readable document.toList ↔ Readable text.toList := by
  obtain ⟨body, rfl, hwritten⟩ := written_window h
  rw [hwritten.readable_wrap, numbered_window, readableEach_singleton]
  simp +decide [ReadableTexts, ReadableLeaf, Every, Plist.text]

end Export
end MacroScribe
