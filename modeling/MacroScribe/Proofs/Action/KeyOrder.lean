import MacroScribe.Proofs.Keystroke.Held

/-!
# MacroScribe.Proofs.Action.KeyOrder

The order of keys. The dictionary of an action has its keys in ascending order, and each of them
once, with two exceptions that come last (`LateKeys`): the entries about waiting of a click that
waits for its image, and those of a switch that name a clipboard.

Many keys are only written for some values of the options. What can be said without knowing the
values is which keys there may be and how these are ordered (`HasLayout`). The keys that are written
are some of those, in the same order, so that it is enough that the layout ascends.
-/

namespace MacroScribe

open Plist

/-! ### Layouts -/

/-- The keys that the entries may have, in their order, whatever the values are. -/
class HasLayout (entries : List Entry) (layout : outParam (List String)) : Prop where
  sublist : (entries.map (·.1)).Sublist layout

namespace HasLayout

variable {as bs : List Entry} {l l' : List String} {k : String} {v : Plist}

instance : HasLayout [] [] := ⟨.refl _⟩

instance [h : HasLayout as l] : HasLayout ((k, v) :: as) (k :: l) :=
  ⟨h.sublist.cons_cons k⟩

instance [ha : HasLayout as l] [hb : HasLayout bs l'] : HasLayout (as ++ bs) (l ++ l') where
  sublist := by
    rw [List.map_append]
    exact ha.sublist.append hb.sublist

instance {p : Prop} [Decidable p] [h : HasLayout as l] :
    HasLayout (if p then as else []) l where
  sublist := by
    split
    · exact h.sublist
    · exact List.nil_sublist l

instance {p : Prop} [Decidable p] [h : HasLayout as l] :
    HasLayout (if p then [] else as) l where
  sublist := by
    split
    · exact List.nil_sublist l
    · exact h.sublist

instance {α : Type} {f : α → List Entry} {o : Option α} [h : ∀ a, HasLayout (f a) l] :
    HasLayout ((o.map f).getD []) l where
  sublist := by
    cases o with
    | none => exact List.nil_sublist l
    | some a => exact (h a).sublist

instance {v : Option Plist} : HasLayout (optionalEntry k v) [k] where
  sublist := by cases v <;> simp [optionalEntry]

end HasLayout

section Parts

open MacroScribe.Frame

variable {k : String}

instance {n : Int} : HasLayout (uid n) ["ActionUID"] := ⟨.refl _⟩

instance {name : String} : HasLayout (Frame.type name) ["MacroActionType"] := ⟨.refl _⟩

instance {s : String} : HasLayout (text k s) [k] := ⟨.refl _⟩

instance {s : Slot} : HasLayout (slot k s) [k] := ⟨.refl _⟩

instance {s : Option Slot} : HasLayout (slot? k s) [k] :=
  inferInstanceAs (HasLayout (optionalEntry k _) _)

instance {s : Option String} : HasLayout (text? k s) [k] :=
  inferInstanceAs (HasLayout (optionalEntry k _) _)

instance {n : Int} : HasLayout (integer k n) [k] := ⟨.refl _⟩

instance {b : Bool} : HasLayout (flag k b) [k] := ⟨.refl _⟩

instance {b : Bool} : HasLayout (raised k b) [k] :=
  inferInstanceAs (HasLayout (if b then flag k true else []) _)

instance {rtf : Slot} : HasLayout (styled rtf) ["StyledText"] := ⟨.refl _⟩

instance {rtf : Option Slot} : HasLayout (styled? rtf) ["StyledText"] :=
  inferInstanceAs (HasLayout ((rtf.map styled).getD []) _)

instance {app : Application} : HasLayout (application k app) [k] := ⟨.refl _⟩

instance {app : Application} : HasLayout (target k app) [k] := ⟨.refl _⟩

instance {app : Application} : HasLayout (opener app) ["Application", "IsDefaultApplication"] :=
  inferInstanceAs (HasLayout ((if app.isEmpty then [] else _) ++ _) (["Application"] ++ _))

instance {policy : FailurePolicy} : HasLayout policy.stopEntries ["StopOnFailure"] :=
  inferInstanceAs (HasLayout (optionalEntry _ _) _)

instance {policy : FailurePolicy} : HasLayout policy.notifyEntries ["NotifyOnFailure"] :=
  inferInstanceAs (HasLayout (if policy.silent then [_] else []) _)

instance {policy : TimeoutPolicy} : HasLayout policy.notifyEntries ["NotifyOnTimeOut"] :=
  inferInstanceAs (HasLayout (optionalEntry _ _) _)

instance {policy : TimeoutPolicy} : HasLayout policy.abortEntries ["TimeOutAbortsMacro"] :=
  ⟨.refl _⟩

instance {policy : TimeoutPolicy} :
    HasLayout policy.entries ["NotifyOnTimeOut", "TimeOutAbortsMacro"] :=
  inferInstanceAs (HasLayout (policy.notifyEntries ++ policy.abortEntries) _)

/-- One kind of source has one or two of these keys, and the others have none. -/
instance {source : ImageSource} : HasLayout (imageSource source)
    ["ImageNamedClipboardName", "ImageNamedClipboardRedundandDisplayName", "ImagePath",
      "ImageScreenArea"] where
  sublist := by cases source <;> simp [imageSource, slot, Frame.text]

instance {r : Reference} : HasLayout (imageTarget r)
    ["ImageNamedClipboardName", "ImageNamedClipboardRedundandDisplayName", "ImagePath",
      "ImageScreenArea", "ImageSelection", "ImageSource"] where
  sublist := by
    cases r with
    | other name => exact List.nil_sublist _
    | image target =>
      have h : HasLayout (imageSource target.source ++
          text? "ImageSelection" ((some target.selection).filter (· != "Unique")) ++
          text? "ImageSource" (imageSourceName? target.source)) _ := inferInstance
      exact h.sublist

instance {r : Reference} : HasLayout (searchedArea r) ["ScreenArea"] where
  sublist := by cases r <;> simp [searchedArea]

instance {c : Clipboard} : HasLayout (c.entries "Target")
    ["TargetNamedClipboardRedundantDisplayName", "TargetNamedClipboardUID",
      "TargetUseNamedClipboard", "TargetUseTriggerClipboard"] where
  sublist := by
    cases c with
    | named name uid => cases uid <;> simp [Clipboard.entries]
    | _ => simp [Clipboard.entries]

instance {source : SwitchSource} : HasLayout source.leading ["Calculation"] where
  sublist := by cases source <;> simp [SwitchSource.leading]

end Parts

/-! ### Dictionaries -/

namespace Plist

/-- The type of the action that was read. -/
def Reading.typeName? (r : Reading) : Option String :=
  (r.value? "MacroActionType").bind text?

/-- The keys at the end of the dictionary of an action of some type, after all those in order. -/
inductive LateKeys (type : Option String) : List String → Prop where
  | none : LateKeys type []
  | waiting (h : type = some "MouseMoveAndClick") :
      LateKeys type ["TimeOutAbortsMacro", "WaitForImage"]
  | clipboard (h : type = some "Switch") :
      LateKeys type ["ClipboardSourceNamedClipboardUID",
        "ClipboardSourceNamedClipboardRedundantDisplayName"]

/-- No key is there twice, and all keys ascend but those that come last in two kinds of actions. -/
structure InOrder (entries : List (String × Reading)) : Prop where
  /-- Such keys stay as they are wherever the dictionary is put. -/
  onLine : ∀ k ∈ entries.map (·.1), KeyOnLine k
  distinct : (entries.map (·.1)).Nodup
  ascending : ∃ front late, entries.map (·.1) = front ++ late ∧ front.Pairwise (· < ·) ∧
    LateKeys (Reading.dict entries).typeName? late

/-- The late keys of an action are distinct. -/
theorem LateKeys.nodup {type : Option String} {late : List String} (h : LateKeys type late) :
    late.Nodup := by
  cases h <;> decide

/-- And none of them is changed by moving in. -/
theorem LateKeys.onLine {type : Option String} {late : List String} (h : LateKeys type late) :
    ∀ k ∈ late, KeyOnLine k := by
  cases h <;> decide

theorem keys_viewEntries (entries : List Entry) :
    (viewEntries entries).map (·.1) = entries.map (·.1) := by
  rw [viewEntries_eq_map, List.map_map]
  rfl

/-- Keys that ascend are distinct. -/
theorem nodup_of_ascending {keys : List String} (h : keys.Pairwise (· < ·)) : keys.Nodup :=
  List.Pairwise.imp (S := (· ≠ ·)) (fun hlt heq => String.lt_irrefl _ (heq ▸ hlt)) h

/-- Keys that ascend and have no line feeds. -/
def Tidy (layout : List String) : Prop :=
  layout.IsChain (· < ·) ∧ ∀ k ∈ layout, KeyOnLine k

instance : DecidablePred Tidy := fun layout =>
  inferInstanceAs (Decidable (layout.IsChain (· < ·) ∧ ∀ k ∈ layout, KeyOnLine k))

/-- It is enough to look at the keys that there may be, and at those that come after them. -/
theorem inOrder_of_late {front late : List Entry} {layout : List String}
    [h : HasLayout front layout] (hlayout : Tidy layout) (hother : ∀ k ∈ late.map (·.1), k ∉ layout)
    (hlate : LateKeys (view (.dict (front ++ late))).typeName? (late.map (·.1))) :
    InOrder (viewEntries (front ++ late)) := by
  have hkeys := keys_viewEntries (front ++ late)
  rw [List.map_append] at hkeys
  have hascending := (List.isChain_iff_pairwise.mp hlayout.1).sublist h.sublist
  refine ⟨?_, ?_, _, _, hkeys, hascending, hlate⟩
  · rw [hkeys, List.forall_mem_append]
    exact ⟨fun k hk => hlayout.2 k (h.sublist.subset hk), hlate.onLine⟩
  · rw [hkeys, List.nodup_append]
    refine ⟨nodup_of_ascending hascending, hlate.nodup, ?_⟩
    rintro k hfront _ hk rfl
    exact hother k hk (h.sublist.subset hfront)

/-- What a layout says of the keys of a frame holds of the dict. -/
theorem inOrder_of_layout {entries : List Entry} {layout : List String} [HasLayout entries layout]
    (hlayout : Tidy layout) : InOrder (viewEntries entries) := by
  have h : InOrder (viewEntries (entries ++ [])) :=
    inOrder_of_late hlayout (List.forall_mem_nil _) .none
  rwa [List.append_nil] at h

end Plist

/-! ### All dictionaries -/

namespace Plist

mutual

/-- The entries of each dictionary of an action or of the case of a switch satisfy `P`. Conditions
are not looked at: they are found under none of `childKeys`. -/
def Reading.EachDict (P : List (String × Reading) → Prop) : Reading → Prop
  | .array items => EachDictIn P items
  | .dict entries => P entries ∧ EachDictUnder P entries
  | _ => True

/-- This holds within each of the values. -/
def EachDictIn (P : List (String × Reading) → Prop) : List Reading → Prop
  | [] => True
  | r :: rest => r.EachDict P ∧ EachDictIn P rest

/-- This holds within the values under `childKeys`. -/
def EachDictUnder (P : List (String × Reading) → Prop) : List (String × Reading) → Prop
  | [] => True
  | (key, r) :: rest => (key ∈ childKeys → r.EachDict P) ∧ EachDictUnder P rest

end

variable {P : List (String × Reading) → Prop}

theorem eachDictIn_iff {items : List Reading} :
    EachDictIn P items ↔ ∀ r ∈ items, r.EachDict P := by
  induction items with
  | nil => simp [EachDictIn]
  | cons r rest ih => rw [EachDictIn, ih, List.forall_mem_cons]

/-- Only dicts under keys that hold actions are looked at. -/
theorem eachDictUnder_iff {entries : List (String × Reading)} :
    EachDictUnder P entries ↔ ∀ e ∈ entries, e.1 ∈ childKeys → e.2.EachDict P := by
  induction entries with
  | nil => simp [EachDictUnder]
  | cons e rest ih =>
    obtain ⟨key, r⟩ := e
    rw [EachDictUnder, ih, List.forall_mem_cons]

theorem eachDict_array {items : List Plist} :
    (view (.array items)).EachDict P ↔ ∀ v ∈ items, v.view.EachDict P := by
  rw [view, Reading.EachDict, eachDictIn_iff, viewItems_eq_map, List.forall_mem_map]

theorem eachDict_dict {entries : List Entry} :
    (view (.dict entries)).EachDict P ↔
      P (viewEntries entries) ∧ EveryChild (fun v => v.view.EachDict P) entries := by
  rw [view, Reading.EachDict, eachDictUnder_iff, viewEntries_eq_map, List.forall_mem_map]
  exact Iff.rfl

/-- A property of dictionaries that does not change when they are moved in. -/
def Kept (P : List (String × Reading) → Prop) : Prop :=
  ∀ depth entries, P (viewEntries entries) → P (viewEntries (movedEntries depth entries))

mutual

/-- What moving in keeps of one dict, it keeps of all dicts inside. -/
theorem Kept.eachDict_moved (hP : Kept P) (depth : Nat) :
    ∀ {v : Plist}, v.view.EachDict P → (v.moved depth).view.EachDict P
  | .string _ _, h | .integer _, h | .real _, h | .bool _, h | .data _, h | .fragment _, h
  | .broken _, h => h
  | .array _, h => hP.eachDictIn_moved depth h
  | .dict _, h => ⟨hP depth _ h.1, hP.eachDictUnder_moved depth h.2⟩

theorem Kept.eachDictIn_moved (hP : Kept P) (depth : Nat) :
    ∀ {items : List Plist}, EachDictIn P (viewItems items) →
      EachDictIn P (viewItems (movedItems depth items))
  | [], _ => trivial
  | _ :: _, h => ⟨hP.eachDict_moved depth h.1, hP.eachDictIn_moved depth h.2⟩

theorem Kept.eachDictUnder_moved (hP : Kept P) (depth : Nat) :
    ∀ {entries : List (String × Plist)}, EachDictUnder P (viewEntries entries) →
      EachDictUnder P (viewEntries (movedEntries depth entries))
  | [], _ => trivial
  | (_, _) :: _, h =>
    ⟨fun hmem => hP.eachDict_moved depth (h.1 (moveKey_mem_childKeys.mp hmem)),
      hP.eachDictUnder_moved depth h.2⟩

end

/-- The kind of an action is not moved. -/
theorem typeName?_moved (depth : Nat) (v : Plist) :
    (v.moved depth).view.typeName? = v.view.typeName? :=
  value?_moved (by decide) depth (text?_moved depth) v

/-- Keys on one line stay as they are. -/
theorem InOrder.kept : Kept InOrder := by
  intro depth entries h
  have hkeys : (viewEntries (movedEntries depth entries)).map (·.1) =
      (viewEntries entries).map (·.1) := by
    have honLine := h.onLine
    rw [keys_viewEntries] at honLine
    rw [keys_viewEntries, keys_viewEntries, movedEntries_eq_map, List.map_map]
    exact List.map_congr_left fun e he =>
      moveKey_of_onLine depth (honLine _ (List.mem_map_of_mem he))
  obtain ⟨front, late, heq, hfront, hlate⟩ := h.ascending
  refine ⟨hkeys ▸ h.onLine, hkeys ▸ h.distinct, front, late, hkeys.trans heq, hfront, ?_⟩
  exact (typeName?_moved depth (.dict entries)).symm ▸ hlate

end Plist

/-! ### Frames -/

open MacroScribe.Frame

theorem inOrder_pause (time : String) (unit : Option String) (n : Int) :
    InOrder (viewEntries (Frame.pause time unit n)) := by
  unfold Frame.pause
  exact inOrder_of_layout (by decide)

theorem inOrder_notification (title body subtitle sound : Slot) (n : Int) :
    InOrder (viewEntries (Frame.notification title body subtitle sound n)) := by
  unfold Frame.notification
  exact inOrder_of_layout (by decide)

theorem inOrder_playback (p : Playback) (n : Int) : InOrder (viewEntries (playback p n)) := by
  unfold playback
  exact inOrder_of_layout (by decide)

theorem inOrder_stroke (key modifiers : Int) (press : Option String) (n : Int) :
    InOrder (viewEntries (stroke key modifiers press n)) := by
  unfold stroke
  exact inOrder_of_layout (by decide)

/-- The two entries about waiting come last, or are missing. -/
theorem inOrder_click (c : Click) (n : Int) : InOrder (viewEntries (Frame.click c n)) := by
  have htype : (view (.dict (Frame.click c n))).typeName? = some "MouseMoveAndClick" :=
    congrArg (Option.bind · Reading.text?) (found?_click c n)
  unfold Frame.click at htype ⊢
  rw [List.append_assoc] at htype ⊢
  refine inOrder_of_late (by decide) ?_ ?_
  · generalize c.waits = waits
    cases waits <;> decide
  · generalize c.waits = waits at htype ⊢
    cases waits with
    | false => exact .none
    | true => exact .waiting htype

/-- The frames of every step are in order. -/
theorem Step.inOrder_of_mem_frames {s : Step} {f : Frame} (hf : f ∈ s.frames) (n : Int) :
    InOrder (viewEntries (f n)) := by
  cases s with
  | notification title body subtitle sound =>
    cases sound with
    | named name =>
      obtain rfl := List.mem_singleton.mp hf
      exact inOrder_notification title body subtitle name n
    | file path =>
      rcases List.mem_cons.mp hf with rfl | hf
      · exact inOrder_notification title body subtitle (.text "") n
      · obtain rfl := List.mem_singleton.mp hf
        exact inOrder_playback _ n
  | typeKey key modifiers press =>
    cases press with
    | held time =>
      rcases List.mem_cons.mp hf with rfl | hf
      · exact inOrder_stroke key modifiers _ n
      rcases List.mem_cons.mp hf with rfl | hf
      · exact inOrder_pause time none n
      · obtain rfl := List.mem_singleton.mp hf
        exact inOrder_stroke key modifiers _ n
    | _ =>
      obtain rfl := List.mem_singleton.mp hf
      exact inOrder_stroke key modifiers _ n
  | click c =>
    obtain rfl := List.mem_singleton.mp hf
    exact inOrder_click c n
  | pause time unit =>
    obtain rfl := List.mem_singleton.mp hf
    exact inOrder_pause time unit n
  | playSound p =>
    obtain rfl := List.mem_singleton.mp hf
    exact inOrder_playback p n
  | pressButton action name wait failure =>
    obtain rfl := List.mem_singleton.mp hf
    unfold button
    exact inOrder_of_layout (by decide)
  | _ =>
    obtain rfl := List.mem_singleton.mp hf
    exact inOrder_of_layout (by decide)

variable {x y conditions : Plist} {n : Int}

theorem inOrder_group (name : Slot) (timeout : TimeoutPolicy) :
    InOrder (viewEntries (group name timeout x n)) := by
  unfold group
  exact inOrder_of_layout (by decide)

/-- A named clipboard that is known comes last. -/
theorem inOrder_switch (source : SwitchSource) : InOrder (viewEntries (switch source x n)) := by
  have htype : (view (.dict (switch source x n))).typeName? = some "Switch" :=
    congrArg (Option.bind · Reading.text?) (found?_switch source x n)
  unfold switch at htype ⊢
  cases source with
  | namedClipboard which =>
    cases which with
    | none =>
      simp only [SwitchSource.trailing]
      exact inOrder_of_layout (by decide)
    | some clipboard =>
      have hother : ∀ k ∈ ["ClipboardSourceNamedClipboardUID",
          "ClipboardSourceNamedClipboardRedundantDisplayName"], k ∉
            ["ActionUID", "Calculation", "CaseEntries", "MacroActionType", "Source"] := by
        decide
      rw [SwitchSource.trailing, ← List.append_assoc] at htype ⊢
      exact inOrder_of_late (by decide) hother (.clipboard htype)
  | _ =>
    simp only [SwitchSource.trailing, textEntries]
    exact inOrder_of_layout (by decide)

theorem inOrder_switchCase (operator : String) (testValue : Slot) :
    InOrder (viewEntries (switchCase operator testValue x)) := by
  unfold switchCase
  exact inOrder_of_layout (by decide)

theorem inOrder_ifThenElse (aborts : Bool) :
    InOrder (viewEntries (ifThenElse conditions aborts x y n)) := by
  unfold ifThenElse
  exact inOrder_of_layout (by decide)

theorem inOrder_whileLoop (aborts : Bool) (notify : Option Bool) :
    InOrder (viewEntries (whileLoop conditions aborts notify x n)) := by
  unfold whileLoop
  exact inOrder_of_layout (by decide)

/-! ### Texts -/

/-- Frames in order make dicts in order. -/
theorem eachDict_numbered {frames : List Frame} (hnumbered : ∀ f ∈ frames, f.Numbered)
    (hf : ∀ f ∈ frames, ∀ n, InOrder (viewEntries (f n))) (n : Int) :
    ∀ v ∈ numbered n frames, v.view.EachDict InOrder := by
  induction frames generalizing n with
  | nil => exact List.forall_mem_nil _
  | cons f frames ih =>
    obtain ⟨hfirst, hrest⟩ := List.forall_mem_cons.mp hf
    obtain ⟨hone, hothers⟩ := List.forall_mem_cons.mp hnumbered
    exact List.forall_mem_cons.mpr
      ⟨eachDict_dict.mpr ⟨hfirst n, hone.everyChild n⟩, ih hothers hrest (n + 1)⟩

/-- The dictionaries of actions inside another one, where they are put. -/
theorem eachDict_children {dicts : List Plist} (depth : Nat)
    (h : ∀ v ∈ dicts, v.view.EachDict InOrder) :
    (view (.array (dicts.map (moved depth)))).EachDict InOrder :=
  eachDict_array.mpr (List.forall_mem_map.mpr fun v hv =>
    InOrder.kept.eachDict_moved depth (h v hv))

mutual

/-- All dictionaries that an action writes are in order. -/
theorem Action.expand_inOrder :
    ∀ {a : Action} (n : Int), a.Solid → ∀ v ∈ a.expand moved n, v.view.EachDict InOrder
  | .step _, n, h =>
    eachDict_numbered (fun _ hf => Step.numbered_of_mem_frames h hf)
      (fun _ hf => Step.inOrder_of_mem_frames hf) n
  | .group name _ timeout, n, h => by
    have hactions := eachDict_children 2 (expandEach_inOrder (n + 1) h.2)
    exact List.forall_mem_singleton.mpr (eachDict_dict.mpr
      ⟨inOrder_group name timeout, everyChild_group hactions name timeout⟩)
  | .switch source _, n, h => by
    have hcases := eachDict_array.mpr (expandCases_inOrder (n + 1) h.2)
    exact List.forall_mem_singleton.mpr (eachDict_dict.mpr
      ⟨inOrder_switch source, everyChild_switch hcases source⟩)
  | .ifThenElse conditions _ elseActions aborts, n, h => by
    have helse := eachDict_children 2 (expandEach_inOrder (n + 1) h.2.2)
    have hthen := eachDict_children 2
      (expandEach_inOrder (n + 1 + dictCountEach elseActions) h.2.1)
    exact List.forall_mem_singleton.mpr (eachDict_dict.mpr
      ⟨inOrder_ifThenElse aborts, everyChild_ifThenElse helse hthen conditions aborts⟩)
  | .whileLoop conditions _ aborts notify, n, h => by
    have hactions := eachDict_children 2 (expandEach_inOrder (n + 1) h.2)
    exact List.forall_mem_singleton.mpr (eachDict_dict.mpr
      ⟨inOrder_whileLoop aborts notify, everyChild_whileLoop hactions conditions aborts notify⟩)

/-- The dicts of a list of actions are in order, with all dicts inside. -/
theorem expandEach_inOrder :
    ∀ {actions : List Action} (n : Int),
      EveryAction Step.Styled Plist.Solid (fun _ => True) actions →
      ∀ v ∈ expandEach moved n actions, v.view.EachDict InOrder
  | [], _, _ => List.forall_mem_nil _
  | a :: _, n, h =>
    List.forall_mem_append.mpr
      ⟨Action.expand_inOrder n h.1, expandEach_inOrder (n + a.dictCount) h.2⟩

/-- The dicts of cases are in order too, though they are no actions. -/
theorem expandCases_inOrder :
    ∀ {cases : List SwitchCase} (n : Int),
      EveryCase Step.Styled Plist.Solid (fun _ => True) cases →
      ∀ v ∈ expandCases moved n cases, v.view.EachDict InOrder
  | [], _, _ => List.forall_mem_nil _
  | .mk operator testValue actions :: _, n, h => by
    have hactions := eachDict_children 4 (expandEach_inOrder n h.1.2)
    exact List.forall_mem_cons.mpr ⟨eachDict_dict.mpr
      ⟨inOrder_switchCase operator testValue, everyChild_switchCase hactions operator testValue⟩,
      expandCases_inOrder (n + dictCountEach actions) h.2⟩

end

/-- Whatever the options are of actions that builders accept, and however deep these are nested: in
each dictionary that they write, of an action or of a case, no key stands twice, and the keys ascend
from the first to the last, but for the two with which the mouse waits for an image and the two with
which a switch names a clipboard. -/
theorem renderActions_inOrder {actions : List Action} {n m : Int} {text : String}
    (hmade : ∀ a ∈ actions, a.Accepted) (h : (renderActions actions).run n = (.ok text, m)) :
    ∃ dicts, Spells text dicts ∧ ∀ v ∈ dicts, v.view.EachDict InOrder := by
  have hsolid := everyAction_iff.mpr fun a ha => (hmade a ha).solid
  exact ⟨_, (renderActions_spells hmade h).1, expandEach_inOrder n hsolid⟩

/-- A click on an image that is waited for. -/
def waitingClick : Action :=
  .step (.click {
    action := "MoveAndClick"
    button := 0
    count := 1
    modifiers := 0
    horizontal := "0"
    vertical := "0"
    reference := .image ⟨.namedClipboard (.text "C"), "Best", .allScreens⟩
    corner := "Center"
    drag := "None"
    dragHorizontal := "0"
    dragVertical := "0"
    restore := false
    fuzz := 15
    waits := true })

/-- A switch on a named clipboard, with that click in its only case. -/
def clipboardSwitch : Action :=
  .switch (.namedClipboard (some (.text "C", "Clip"))) [.mk "Contains" (.text "a") [waitingClick]]

theorem clipboardSwitch_accepted : clipboardSwitch.Accepted := by
  have hclick : Builder.clickAtFoundImage.apply [("image_source", .str "NamedClipboard"),
      ("named_clipboard_uuid", .str "C"), ("image_selection", .str "Best"),
      ("wait_for_image", .bool true)] = .ok waitingClick := rfl
  have hswitch : Builder.switch.apply [("source", .str "NamedClipboard"),
      ("named_clipboard", .obj [("uid", .str "C"), ("name", .str "Clip")]),
      ("cases", .list [.obj [("operator", .str "Contains"), ("test_value", .str "a"),
        ("actions", .list [.embed (.action waitingClick)])]])] = .ok clipboardSwitch := rfl
  refine Made.action (by simp [Builder.all]) (fun p hp => ?_) hswitch
  obtain rfl : p = .action waitingClick := by
    simpa [Json.embeddedFields, Json.embedded, Json.embeddedItems] using hp
  exact Made.action (by simp [Builder.all])
    (by simp [Json.embeddedFields, Json.embedded]) hclick

theorem renderActions_inOrder_clipboardSwitch :
    (∀ a ∈ [clipboardSwitch], a.Accepted) ∧
      ∃ text m, (renderActions [clipboardSwitch]).run 1 = (.ok text, m) ∧
        ∃ dicts, Spells text dicts ∧ ∀ v ∈ dicts, v.view.EachDict InOrder := by
  have hmade : ∀ a ∈ [clipboardSwitch], a.Accepted := by simpa using clipboardSwitch_accepted
  have hrenders : ((renderActions [clipboardSwitch]).run 1).1.isOk := by decide
  obtain ⟨text, m, hrun⟩ := Outcome.exists_run_eq_ok hrenders
  exact ⟨hmade, text, m, hrun, renderActions_inOrder hmade hrun⟩

end MacroScribe
