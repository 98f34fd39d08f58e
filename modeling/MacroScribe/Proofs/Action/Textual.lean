import MacroScribe.Proofs.Action.Rendering
import MacroScribe.Proofs.Action.Shape

/-!
# MacroScribe.Proofs.Action.Textual

When actions can be written. Most options are checked when an action is made; an option that is
written as a text may still be something else then, and the action cannot be rendered. Rendering
succeeds exactly if there is no such option in the action or in the actions inside it
(`Action.render_yields`), whatever the first identifier is.
-/

namespace MacroScribe

open Plist

/-- The options of an application. -/
def Application.slots (app : Application) : List Slot :=
  app.bundleIdentifier.toList ++ app.matching.toList ++ app.name.toList ++ app.newFile.toList ++
    app.path.toList

/-- The options of a clipboard. -/
def Clipboard.slots : Clipboard → List Slot
  | system | trigger => []
  | named name uid => name :: uid.toList

/-- The options of a reference. -/
def Reference.slots : Reference → List Slot
  | image target =>
    match target.source with
    | .file s | .namedClipboard s => [s]
    | .image | .screen _ | .other _ => []
  | other _ => []

/-- The options of a step that are written as texts and may be something else, in written order. -/
def Step.slots : Step → List Slot
  | notification title body subtitle (.named sound) => [sound, subtitle, body, title]
  | notification title body subtitle (.file sound) => [subtitle, body, title, sound]
  | playSound p => [p.path]
  | cancel _ target => target.toList
  | comment title rtf => [rtf, title]
  | returnText text | setVariable _ text _ _ => [text]
  | calculate name _ format _ => format.toList ++ [name]
  | useVariable name _ _ | pressButton _ name _ _ => [name]
  | insertText text _ _ rtf => rtf.toList ++ [text]
  | setClipboard text _ rtf destination _ => rtf.toList ++ destination.slots ++ [text]
  | activate app .. | quit app _ | showApplication app | selectMenu _ app _ => app.slots
  | openFile s app _ | openUrl s app .. => app.slots ++ [s]
  | file _ source destination output _ => destination :: output.toList ++ [source]
  | click c => c.reference.slots
  | pause .. | edit .. | system _ | typeKey .. | scroll .. => []

/-- The options of the step that are written as texts are texts. -/
def Step.Textual (s : Step) : Prop :=
  ∀ x ∈ s.slots, x.IsText

/-- Whatever is to be written as a text, in the action or in one inside it, is a text. -/
def Action.Textual (a : Action) : Prop :=
  a.Every Step.Textual (fun _ => True) Slot.IsText

/-! ### Frames -/

/-- A slot can be written exactly if it is a text. -/
theorem writableLeaf_leaf {s : Slot} : WritableLeaf s.leaf ↔ s.IsText := by
  cases s <;> rfl

theorem writableLeaf_compactLeaf {s : Slot} : WritableLeaf s.compactLeaf ↔ s.IsText := by
  cases s <;> rfl

theorem writableLeaf_styledLeaf {s : Slot} : WritableLeaf (Frame.styledLeaf s) ↔ s.IsText := by
  cases s <;> rfl

@[simp] theorem isText_text (s : String) : (Slot.text s).IsText := trivial

/-- The entries have a written form. -/
structure WritableEntries (entries : List Entry) : Prop where
  every : EveryEntry WritableLeaf (fun _ => True) entries

/-- Entries can be written if all leaves in them can. -/
theorem writableEntries_iff {entries : List Entry} :
    WritableEntries entries ↔ EveryEntry WritableLeaf (fun _ => True) entries :=
  ⟨fun h => h.every, fun h => ⟨h⟩⟩

/-- A dict can be written if all its entries can. -/
theorem writable_dict_iff {entries : List Entry} :
    (dict entries).Writable ↔ WritableEntries entries :=
  writableEntries_iff.symm

section Entries

variable {k : String}

@[simp] theorem writable_append {as bs : List Entry} :
    WritableEntries (as ++ bs) ↔ WritableEntries as ∧ WritableEntries bs := by
  simp only [writableEntries_iff, everyEntry_append]

@[simp] theorem writable_nil : WritableEntries [] :=
  ⟨trivial⟩

@[simp] theorem writable_cons {v : Plist} {rest : List Entry} :
    WritableEntries ((k, v) :: rest) ↔ v.Writable ∧ WritableEntries rest := by
  simp only [writableEntries_iff, Plist.Writable, everyEntry_cons, true_and]

/-- Numbers, flags and fixed texts can always be written. -/
@[simp] theorem writable_uid (n : Int) : WritableEntries (Frame.uid n) :=
  ⟨⟨trivial, trivial⟩, trivial⟩

@[simp] theorem writable_type (name : String) : WritableEntries (Frame.type name) :=
  ⟨⟨trivial, trivial⟩, trivial⟩

@[simp] theorem writable_text (s : String) : WritableEntries (Frame.text k s) :=
  ⟨⟨trivial, trivial⟩, trivial⟩

@[simp] theorem writable_integer (n : Int) : WritableEntries (Frame.integer k n) :=
  ⟨⟨trivial, trivial⟩, trivial⟩

@[simp] theorem writable_flag (b : Bool) : WritableEntries (Frame.flag k b) :=
  ⟨⟨trivial, trivial⟩, trivial⟩

@[simp] theorem writable_raised (b : Bool) : WritableEntries (Frame.raised k b) := by
  cases b
  · exact writable_nil
  · exact writable_flag true

@[simp] theorem writable_text? (v : Option String) : WritableEntries (Frame.text? k v) := by
  cases v
  · exact writable_nil
  · exact writable_text _

@[simp] theorem writable_flag? (v : Option Bool) :
    WritableEntries (optionalEntry k (v.map .bool)) := by
  cases v
  · exact writable_nil
  · exact writable_flag _

/-- A slot has to hold a text. -/
@[simp] theorem writable_slot {s : Slot} : WritableEntries (Frame.slot k s) ↔ s.IsText := by
  rw [writableEntries_iff, Frame.every_slot, writableLeaf_leaf, true_and]

/-- And so it has where it may be left out. -/
@[simp] theorem writable_slot? {v : Option Slot} :
    WritableEntries (Frame.slot? k v) ↔ ∀ s ∈ v, s.IsText := by
  simp only [writableEntries_iff, Frame.every_slot?, writableLeaf_leaf, true_and]

/-- The text and its data are written from the same slot. -/
@[simp] theorem writable_styled {rtf : Slot} : WritableEntries (Frame.styled rtf) ↔ rtf.IsText := by
  rw [writableEntries_iff, Frame.every_styled, writableLeaf_styledLeaf, true_and]

@[simp] theorem writable_styled? {rtf : Option Slot} :
    WritableEntries (Frame.styled? rtf) ↔ ∀ s ∈ rtf, s.IsText := by
  simp only [writableEntries_iff, Frame.every_styled?, writableLeaf_styledLeaf, true_and]

@[simp] theorem writable_compactLeaf {s : Slot} : s.compactLeaf.Writable ↔ s.IsText := by
  rw [Plist.Writable, every_slot_compactLeaf, writableLeaf_compactLeaf]

/-- All that is said of an application is in slots. -/
@[simp] theorem writable_application {app : Application} :
    WritableEntries (Frame.application k app) ↔ ∀ s ∈ app.slots, s.IsText := by
  simp only [writableEntries_iff, Frame.every_application, Application.entries, true_and,
    everyEntry_append, Frame.every_applicationEntry, writableLeaf_leaf, Application.slots,
    List.mem_append, Option.mem_toList, Option.mem_def, or_imp, forall_and]

@[simp] theorem writable_target (app : Application) : WritableEntries (Frame.target k app) :=
  writable_text _

end Entries

/-- Policies are written as flags and numbers. -/
@[simp] theorem writable_stop (policy : FailurePolicy) : WritableEntries policy.stopEntries :=
  writable_flag? policy.stop

@[simp] theorem writable_silent (policy : FailurePolicy) :
    WritableEntries policy.notifyEntries := by
  unfold FailurePolicy.notifyEntries
  split
  · exact writable_flag false
  · exact writable_nil

@[simp] theorem writable_abort (policy : TimeoutPolicy) : WritableEntries policy.abortEntries :=
  writable_flag policy.aborts

@[simp] theorem writable_notify (policy : TimeoutPolicy) : WritableEntries policy.notifyEntries :=
  writable_flag? policy.notify

@[simp] theorem writable_timeout (policy : TimeoutPolicy) : WritableEntries policy.entries := by
  simp [TimeoutPolicy.entries]

/-- The fields of a screen area are texts by the time that it is written. -/
@[simp] theorem writable_area (area : ScreenArea) : area.toPlist.Writable := by
  cases area <;> simp [ScreenArea.toPlist, ScreenArea.entries, Plist.Writable, Every, Plist.text,
    WritableLeaf]

@[simp] theorem writable_opener {app : Application} :
    WritableEntries (Frame.opener app) ↔ ∀ s ∈ app.slots, s.IsText := by
  unfold Frame.opener
  split
  · next h =>
    obtain rfl : app = .front := by simpa [Application.isEmpty] using h
    simp [Application.front, Application.slots]
  · simp

@[simp] theorem writable_clipboard {c : Clipboard} {role : String} :
    WritableEntries (c.entries role) ↔ ∀ s ∈ c.slots, s.IsText := by
  cases c with
  | system => simp [Clipboard.entries, Clipboard.slots]
  | trigger =>
    simp only [Clipboard.entries, Clipboard.slots, List.not_mem_nil, false_imp_iff, implies_true,
      iff_true]
    exact writable_flag true
  | named name uid =>
    have hflag : WritableEntries [(role ++ "UseNamedClipboard", .bool true)] := writable_flag true
    have hname : WritableEntries [(role ++ "NamedClipboardRedundantDisplayName", name.leaf)] ↔
      name.IsText := writable_slot
    have huid : WritableEntries (uid.map fun u => (role ++ "NamedClipboardUID", u.leaf)).toList ↔
        ∀ s ∈ uid, s.IsText := by
      cases uid with
      | none => simp
      | some u => exact writable_slot.trans (by simp)
    simp only [Clipboard.entries, writable_append, hname, huid, hflag, and_true, Clipboard.slots,
      List.forall_mem_cons, Option.mem_toList, Option.mem_def]

/-- What is looked for may be a slot. -/
@[simp] theorem writable_imageTarget {r : Reference} :
    WritableEntries (Frame.imageTarget r) ↔ ∀ s ∈ r.slots, s.IsText := by
  cases r with
  | other name => simp [Frame.imageTarget, Reference.slots]
  | image target =>
    rcases target with ⟨source, selection, area⟩
    cases source <;> simp [Frame.imageTarget, Frame.imageSource, Reference.slots]

@[simp] theorem writable_searchedArea (r : Reference) : WritableEntries (Frame.searchedArea r) := by
  cases r <;> simp [Frame.searchedArea]

@[simp] theorem writable_texts (texts : List String) : (array (texts.map .text)).Writable := by
  simp [Plist.Writable, Every, everyItem_iff, Plist.text, WritableLeaf]

/-! ### Steps -/

/-- Steps can be written if what is in their slots is text; there is one lemma for each. -/
theorem writable_pause (time : String) (unit : Option String) (n : Int) :
    WritableEntries (Frame.pause time unit n) := by
  unfold Frame.pause
  simp

theorem writable_notification {title body subtitle sound : Slot} {n : Int} :
    WritableEntries (Frame.notification title body subtitle sound n) ↔
      sound.IsText ∧ subtitle.IsText ∧ body.IsText ∧ title.IsText := by
  unfold Frame.notification
  simp only [writable_append, writable_uid, writable_type, writable_slot, true_and, and_assoc]

theorem writable_playback {p : Playback} {n : Int} :
    WritableEntries (Frame.playback p n) ↔ p.path.IsText := by
  unfold Frame.playback
  split <;> simp

theorem writable_stroke (key modifiers : Int) (press : Option String) (n : Int) :
    WritableEntries (Frame.stroke key modifiers press n) := by
  unfold Frame.stroke
  simp [Application.front, Application.slots]

theorem writable_button {action : String} {name : Slot} {wait : Option TimeoutPolicy}
    {failure : FailurePolicy} {n : Int} :
    WritableEntries (Frame.button action name wait failure n) ↔ name.IsText := by
  unfold Frame.button
  cases wait <;> simp

/-- A click has the slots of what is clicked on. -/
theorem writable_click {c : Click} {n : Int} :
    WritableEntries (Frame.click c n) ↔ ∀ s ∈ c.reference.slots, s.IsText := by
  unfold Frame.click
  simp

/-- The frames of a step have a written form exactly if its options are texts. -/
theorem Step.writable_iff (s : Step) (n : Int) :
    (∀ f ∈ s.frames, WritableEntries (f n)) ↔ s.Textual := by
  rw [Textual]
  cases s with
  | notification title body subtitle sound =>
    cases sound <;>
      simp [frames, slots, writable_notification, writable_playback, and_assoc]
  | typeKey key modifiers press =>
    cases press <;> simp [frames, slots, writable_stroke, writable_pause]
  | insertText text action processing rtf =>
    simp only [frames, List.forall_mem_singleton, slots]
    split <;> simp [or_imp, forall_and, Application.front, Application.slots]
  | _ =>
    simp [frames, slots, writable_pause, writable_playback, writable_button, writable_click,
      or_imp, forall_and]

/-! ### Frames of composite actions -/

@[simp] theorem writable_entry {k : String} {x : Plist} :
    WritableEntries [(k, x)] ↔ x.Writable := by
  rw [writable_cons, and_iff_left writable_nil]

/-- Fragments are texts, and can be written. -/
@[simp] theorem writable_fragments (texts : List String) :
    (Rendering.fragments texts).Writable := by
  rw [Plist.Writable, Rendering.fragments, every_array]
  intro v hv
  obtain ⟨text, -, rfl⟩ := List.mem_map.mp hv
  trivial

/-- The source of a switch has a written form exactly if its options are texts. -/
theorem writable_source {source : SwitchSource} :
    WritableEntries source.leading ∧ WritableEntries source.trailing ↔
      ∀ s ∈ source.slots, s.IsText := by
  cases source with
  | namedClipboard which =>
    cases which <;> simp [SwitchSource.leading, SwitchSource.trailing, SwitchSource.slots]
  | text s processing =>
    simp only [SwitchSource.leading, SwitchSource.trailing, SwitchSource.slots, writable_append,
      writable_text, writable_nil, true_and, List.not_mem_nil, false_imp_iff, implies_true,
      iff_true]
    exact writable_cons.mpr ⟨trivial, writable_text? processing⟩
  | _ => simp [SwitchSource.leading, SwitchSource.trailing, SwitchSource.slots]

/-- What composite actions ask of their slots, besides what their actions ask. -/
theorem writable_group {name : Slot} {timeout : TimeoutPolicy} {x : Plist} {n : Int} :
    WritableEntries (Frame.group name timeout x n) ↔ name.IsText ∧ x.Writable := by
  unfold Frame.group
  simp

theorem writable_switch {source : SwitchSource} {x : Plist} {n : Int} :
    WritableEntries (Frame.switch source x n) ↔ (∀ s ∈ source.slots, s.IsText) ∧ x.Writable := by
  unfold Frame.switch
  rw [← writable_source]
  simp only [writable_append, writable_uid, writable_type, writable_entry, true_and, and_true]
  exact and_right_comm

theorem writable_switchCase {operator : String} {testValue : Slot} {x : Plist} :
    WritableEntries (Frame.switchCase operator testValue x) ↔ testValue.IsText ∧ x.Writable := by
  unfold Frame.switchCase
  simp [and_comm]

/-- Conditions are written before the two lists of actions. -/
theorem writable_ifThenElse {conditions x y : Plist} {aborts : Bool} {n : Int} :
    WritableEntries (Frame.ifThenElse conditions aborts x y n) ↔
      conditions.Writable ∧ x.Writable ∧ y.Writable := by
  unfold Frame.ifThenElse
  simp

theorem writable_whileLoop {conditions x : Plist} {aborts : Bool} {notify : Option Bool} {n : Int} :
    WritableEntries (Frame.whileLoop conditions aborts notify x n) ↔
      conditions.Writable ∧ x.Writable := by
  unfold Frame.whileLoop
  simp [and_comm]

/-! ### Actions -/

/-- Whether a frame has a written form does not depend on the identifier. -/
theorem Frame.Numbered.writable_iff {f : Frame} (hf : f.Numbered) (n m : Int) :
    WritableEntries (f n) ↔ WritableEntries (f m) := by
  obtain ⟨pre, post, h, -, -⟩ := hf
  simp only [h, writable_append, writable_uid]

open Rendering

/-- Frames that are numbered are written from any number or from none. -/
theorem writeFrames_yields {frames : List Frame} (hf : ∀ f ∈ frames, f.Numbered) (n m : Int) :
    ((writeFrames frames).Yields n fun _ => True) ↔ ∀ f ∈ frames, WritableEntries (f m) := by
  induction frames generalizing n with
  | nil => simp [writeFrames, yields_pure]
  | cons f frames ih =>
    -- A frame is written before the next one takes its identifier.
    have hrest (first : String) (k : Int) :
        ((writeFrames frames >>= fun others => pure (first :: others)).Yields k fun _ => True) ↔
          ∀ g ∈ frames, WritableEntries (g m) :=
      (yields_bind fun _ _ => yields_pure).trans (ih (fun g hg => hf g (by simp [hg])) k)
    rw [writeFrames, yields_nextUid_bind, yields_bind hrest, yields_const, yields_write,
      writable_dict_iff, (hf f (by simp)).writable_iff n m, List.forall_mem_cons, and_comm]

mutual

/-- An action renders exactly if what it writes as texts are texts. -/
theorem Action.render_yields :
    ∀ {a : Action} (n : Int), a.Sound → ((a.render.Yields n fun _ => True) ↔ a.Textual)
  | .step s, n, h => by
    rw [Action.render, yields_bind fun _ _ => yields_pure,
      writeFrames_yields (fun f hf => Step.numbered_of_mem_frames h hf) n n]
    exact s.writable_iff n
  | .group name actions timeout, n, h => by
    -- Written actions can always be spliced in: only the name of the group may be no text.
    have hwrite (children : List String) (k : Int) :
        ((write (Frame.group name timeout (fragments children) n)).Yields k fun _ => True) ↔
          name.IsText := by
      rw [yields_write, writable_dict_iff, writable_group,
        and_iff_left (writable_fragments children)]
    rw [Action.render, yields_nextUid_bind, yields_bind hwrite, yields_const,
      renderEach_yields (n + 1) h.2]
    rfl
  | .switch source cases, n, h => by
    -- What a case tests for is written with the switch, after all its cases.
    have hwrite (children : List Plist) (k : Int) :
        ((write (Frame.switch source (.array children) n)).Yields k fun _ => True) ↔
          (∀ s ∈ source.slots, s.IsText) ∧ (array children).Writable := by
      rw [yields_write, writable_dict_iff, writable_switch]
    rw [Action.render, yields_nextUid_bind, yields_bind hwrite, yields_and,
      renderCases_yields (n + 1) h.2]
    rfl
  | .ifThenElse conditions thenActions elseActions aborts, n, h => by
    -- The conditions of a sound action have a written form.
    have hwrite (others children : List String) (k : Int) :
        ((write
          (Frame.ifThenElse conditions aborts (fragments others) (fragments children) n)).Yields k
          fun _ => True) ↔ True := by
      rw [yields_write, writable_dict_iff, writable_ifThenElse, iff_true]
      exact ⟨h.1.whole.writable, writable_fragments others, writable_fragments children⟩
    have hthen (others : List String) (k : Int) :
        ((renderEach thenActions >>= fun children => write
          (Frame.ifThenElse conditions aborts (fragments others) (fragments children) n)).Yields k
          fun _ => True) ↔ EveryAction Step.Textual (fun _ => True) Slot.IsText thenActions := by
      rw [yields_bind (hwrite others), renderEach_yields k h.2.1]
    rw [Action.render, yields_nextUid_bind, yields_bind hthen, yields_const,
      renderEach_yields (n + 1) h.2.2]
    rw [Action.Textual, Action.Every, true_and]
  | .whileLoop conditions actions aborts notify, n, h => by
    have hwrite (children : List String) (k : Int) :
        ((write (Frame.whileLoop conditions aborts notify (fragments children) n)).Yields k
          fun _ => True) ↔ True := by
      rw [yields_write, writable_dict_iff, writable_whileLoop, iff_true]
      exact ⟨h.1.whole.writable, writable_fragments children⟩
    rw [Action.render, yields_nextUid_bind, yields_bind hwrite, renderEach_yields (n + 1) h.2]
    rw [Action.Textual, Action.Every, true_and]

/-- A list of actions is rendered exactly if all slots in it are texts. -/
theorem renderEach_yields :
    ∀ {actions : List Action} (n : Int),
      EveryAction Step.Styled Plist.Typed (fun _ => True) actions →
      (((renderEach actions).Yields n fun _ => True) ↔
        EveryAction Step.Textual (fun _ => True) Slot.IsText actions)
  | [], n, _ => by
    rw [renderEach, yields_pure, EveryAction]
  | a :: rest, n, h => by
    have hrest (first : String) (k : Int) :
        ((renderEach rest >>= fun others => pure (first :: others)).Yields k fun _ => True) ↔
          EveryAction Step.Textual (fun _ => True) Slot.IsText rest :=
      (yields_bind fun _ _ => yields_pure).trans (renderEach_yields k h.2)
    rw [renderEach, yields_bind hrest, yields_const, Action.render_yields n h.1, and_comm]
    rfl

/-- And so are the cases of a switch. -/
theorem renderCases_yields :
    ∀ {cases : List SwitchCase} (n : Int), EveryCase Step.Styled Plist.Typed (fun _ => True) cases →
      (((renderCases cases).Yields n fun children => (array children).Writable) ↔
        EveryCase Step.Textual (fun _ => True) Slot.IsText cases)
  | [], n, _ => by
    rw [renderCases, yields_pure, EveryCase]
    exact iff_of_true trivial trivial
  | .mk operator testValue actions :: rest, n, h => by
    have hcons (children : List String) (others : List Plist) :
        (array
          (.dict (Frame.switchCase operator testValue (fragments children)) :: others)).Writable ↔
          testValue.IsText ∧ (array others).Writable := by
      have hcase : (dict (Frame.switchCase operator testValue (fragments children))).Writable ↔
          testValue.IsText := by
        rw [writable_dict_iff, writable_switchCase, and_iff_left (writable_fragments children)]
      rw [← hcase]
      rfl
    have hrest (children : List String) (k : Int) :
        ((renderCases rest >>= fun others =>
          pure
            (.dict (Frame.switchCase operator testValue (fragments children)) :: others)).Yields k
          fun children => (array children).Writable) ↔ testValue.IsText ∧
            EveryCase Step.Textual (fun _ => True) Slot.IsText rest := by
      have hpure (others : List Plist) (k : Int) :
          (pure (.dict (Frame.switchCase operator testValue (fragments children)) :: others) :
            Rendering (List Plist)).Yields k (fun children => (array children).Writable) ↔
            testValue.IsText ∧ (array others).Writable :=
        yields_pure.trans (hcons children others)
      rw [yields_bind hpure, yields_and, renderCases_yields k h.2]
    rw [renderCases, yields_bind hrest, yields_const, renderEach_yields n h.1.2, EveryCase,
      and_right_comm]

end

end MacroScribe
