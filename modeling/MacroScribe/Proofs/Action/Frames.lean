import MacroScribe.Proofs.Action.Entries

/-!
# MacroScribe.Proofs.Action.Frames

The frames of steps. Each has the identifier of the action at one place, and whatever stands around
it does not depend on the identifier (`Step.numbered_of_mem_frames`).
-/

namespace MacroScribe

open Plist

/-- The keys under which the dictionary of an action has the dictionaries of other actions. -/
def childKeys : List String :=
  ["Actions", "CaseEntries", "ElseActions", "ThenActions"]

/-- The keys under which actions have their identifier and the actions inside them. -/
def actionKeys : List String :=
  "ActionUID" :: childKeys

/-- A key on one line that is not one of those under which an action has its identifier or the
actions inside it. -/
def QuietKey (k : String) : Prop :=
  k ∉ actionKeys ∧ KeyOnLine k

instance : DecidablePred QuietKey := fun k =>
  inferInstanceAs (Decidable (k ∉ actionKeys ∧ KeyOnLine k))

/-- Entries without an identifier and without actions. -/
structure Quiet (entries : List Entry) : Prop where
  every : EveryEntry SolidLeaf QuietKey entries

/-- The frame has an identifier at one place, among entries that do not depend on it. -/
structure Frame.Numbered (f : Frame) : Prop where
  parts : ∃ pre post, (∀ n, f n = pre ++ Frame.uid n ++ post) ∧ Quiet pre ∧ Quiet post

theorem Quiet.append {as bs : List Entry} (ha : Quiet as) (hb : Quiet bs) : Quiet (as ++ bs) :=
  ⟨everyEntry_append.mpr ⟨ha.every, hb.every⟩⟩

namespace Frame

/-- A frame that begins with the identifier. -/
theorem Numbered.first {es : List Entry} (he : Quiet es) : Numbered fun n => uid n ++ es :=
  ⟨[], es, fun _ => rfl, ⟨trivial⟩, he⟩

/-- A frame with entries before the identifier. -/
theorem Numbered.second {as es : List Entry} (ha : Quiet as) (he : Quiet es) :
    Numbered fun n => as ++ (uid n ++ es) :=
  ⟨as, es, fun n => (List.append_assoc as (uid n) es).symm, ha, he⟩

/-! ### Quiet entries -/

section Quiet

variable {k : String} (hk : QuietKey k)
include hk

@[simp] theorem quiet_text (s : String) : Quiet (text k s) :=
  ⟨every_text.mpr ⟨hk, trivial⟩⟩

@[simp] theorem quiet_slot (s : Slot) : Quiet (slot k s) :=
  ⟨every_slot.mpr ⟨hk, by cases s <;> trivial⟩⟩

@[simp] theorem quiet_slot? (v : Option Slot) : Quiet (slot? k v) :=
  ⟨every_slot?.mpr fun s _ => ⟨hk, by cases s <;> trivial⟩⟩

@[simp] theorem quiet_text? (v : Option String) : Quiet (text? k v) :=
  ⟨every_text?.mpr fun _ _ => ⟨hk, trivial⟩⟩

@[simp] theorem quiet_integer (n : Int) : Quiet (integer k n) :=
  ⟨every_integer.mpr ⟨hk, trivial⟩⟩

@[simp] theorem quiet_flag (b : Bool) : Quiet (flag k b) :=
  ⟨every_flag.mpr ⟨hk, trivial⟩⟩

@[simp] theorem quiet_raised (b : Bool) : Quiet (raised k b) :=
  ⟨every_raised.mpr fun _ => ⟨hk, trivial⟩⟩

@[simp] theorem quiet_target (app : Application) : Quiet (target k app) :=
  quiet_text hk _

@[simp] theorem quiet_applicationEntry (v : Option Slot) : Quiet (Application.entry k v) :=
  ⟨every_applicationEntry.mpr fun s _ => ⟨hk, by cases s <;> trivial⟩⟩

@[simp] theorem quiet_flag? (v : Option Bool) : Quiet (optionalEntry k (v.map .bool)) := by
  cases v with
  | none => exact ⟨trivial⟩
  | some b => exact quiet_flag hk b

end Quiet

@[simp] theorem quiet_type (name : String) : Quiet (type name) :=
  quiet_text (by decide) name

/-- Having no entries is quiet. -/
@[simp] theorem quiet_nil : Quiet [] :=
  ⟨trivial⟩

/-- Entries are quiet part by part. -/
@[simp] theorem quiet_append {as bs : List Entry} : Quiet (as ++ bs) ↔ Quiet as ∧ Quiet bs := by
  refine ⟨fun h => ?_, fun h => h.1.append h.2⟩
  obtain ⟨ha, hb⟩ := everyEntry_append.mp h.every
  exact ⟨⟨ha⟩, ⟨hb⟩⟩

/-- An entry whose value is a dictionary of quiet entries. -/
theorem quiet_dict {k : String} {es : List Entry} (hk : QuietKey k) (he : Quiet es) :
    Quiet [(k, .dict es)] :=
  ⟨⟨⟨hk, he.every⟩, trivial⟩⟩

/-- An application is written as a dict of texts. -/
@[simp] theorem quiet_application {k : String} (app : Application) (hk : QuietKey k) :
    Quiet (application k app) :=
  quiet_dict hk (by simp +decide [Application.entries])

/-- A screen area is written as a dict of numbers and texts. -/
@[simp] theorem quiet_area {k : String} (area : ScreenArea) (hk : QuietKey k) :
    Quiet [(k, area.toPlist)] := by
  refine quiet_dict hk ⟨?_⟩
  cases area <;> simp +decide [ScreenArea.entries, Plist.text, Every] <;> trivial

/-- The entries that say what happens after a failure are flags. -/
@[simp] theorem quiet_stop (policy : FailurePolicy) : Quiet policy.stopEntries :=
  quiet_flag? (by decide) policy.stop

@[simp] theorem quiet_silent (policy : FailurePolicy) : Quiet policy.notifyEntries := by
  unfold FailurePolicy.notifyEntries
  split
  · exact quiet_flag (by decide) false
  · exact quiet_nil

@[simp] theorem quiet_abort (policy : TimeoutPolicy) : Quiet policy.abortEntries :=
  quiet_flag (by decide) policy.aborts

@[simp] theorem quiet_notify (policy : TimeoutPolicy) : Quiet policy.notifyEntries :=
  quiet_flag? (by decide) policy.notify

/-- So are those that say what happens after a timeout. -/
@[simp] theorem quiet_timeout (policy : TimeoutPolicy) : Quiet policy.entries :=
  (quiet_notify policy).append (quiet_abort policy)

@[simp] theorem quiet_opener (app : Application) : Quiet (opener app) := by
  unfold opener
  split <;> simp +decide

/-- A text that is not empty. -/
def Filled (rtf : Slot) : Prop :=
  rtf ≠ .text ""

theorem bytes_ne_nil {s : String} (h : s ≠ "") : StyledText.bytes s ≠ [] := by
  rw [StyledText.bytes, Text.utf8, ne_eq, List.flatMap_eq_nil_iff]
  intro hall
  cases hs : s.toList with
  | nil => exact h (String.toList_eq_nil_iff.mp hs)
  | cons c cs => exact String.utf8EncodeChar_ne_nil (hall c (by rw [hs]; exact List.mem_cons_self))

/-- A styled text that is filled in is written as data that is not empty. -/
@[simp] theorem quiet_styled {rtf : Slot} (h : Filled rtf) : Quiet (styled rtf) := by
  refine ⟨every_styled.mpr ⟨by decide, ?_⟩⟩
  cases rtf with
  | text s => exact bytes_ne_nil fun he => h (congrArg Slot.text he)
  | broken cause => trivial

/-- And so it is where it may be left out. -/
@[simp] theorem quiet_styled? {rtf : Option Slot} (h : ∀ s ∈ rtf, Filled s) :
    Quiet (styled? rtf) := by
  cases rtf with
  | none => exact quiet_nil
  | some s => exact quiet_styled (h s rfl)

@[simp] theorem quiet_imageTarget (r : Reference) : Quiet (imageTarget r) := by
  cases r with
  | other name => exact quiet_nil
  | image target =>
    have hsource : Quiet (imageSource target.source) := by
      cases target.source <;> simp +decide [imageSource]
    simp +decide [imageTarget, hsource]

@[simp] theorem quiet_searchedArea (r : Reference) : Quiet (searchedArea r) := by
  cases r with
  | other name => exact quiet_nil
  | image target =>
    rw [searchedArea]
    exact quiet_area target.area (by decide)

@[simp] theorem quiet_clipboard (c : Clipboard) : Quiet (c.entries "Target") := by
  cases c with
  | system => exact quiet_nil
  | trigger => exact quiet_flag (by decide) true
  | named name uid =>
    refine ((quiet_slot (by decide) name).append ?_).append (quiet_flag (by decide) true)
    exact quiet_applicationEntry (by decide) uid

theorem quiet_menu (path : List String) : Quiet [("Menu", .array (path.map .text))] := by
  refine ⟨⟨⟨by decide, ?_⟩, trivial⟩⟩
  rw [every_array]
  intro v hv
  obtain ⟨s, -, rfl⟩ := List.mem_map.mp hv
  trivial

/-- The entries of a switch in front of its cases say what it looks at. -/
@[simp] theorem quiet_leading (source : SwitchSource) : Quiet source.leading := by
  cases source with
  | calculation expression => exact ⟨⟨⟨by decide, by cases expression <;> trivial⟩, trivial⟩⟩
  | _ => exact quiet_nil

@[simp] theorem quiet_compactLeaf {k : String} (s : Slot) (hk : QuietKey k) :
    Quiet [(k, s.compactLeaf)] :=
  ⟨⟨⟨hk, by cases s <;> trivial⟩, trivial⟩⟩

/-- And so do those behind them. -/
@[simp] theorem quiet_trailing (source : SwitchSource) : Quiet source.trailing := by
  cases source with
  | text s processing =>
    refine (quiet_text (by decide) "Text").append ⟨⟨⟨by decide, trivial⟩, ?_⟩⟩
    exact (quiet_text? (by decide) processing).every
  | namedClipboard which =>
    cases which <;> simp +decide [SwitchSource.trailing]
  | file path => exact (quiet_compactLeaf path (by decide)).append (quiet_text (by decide) "File")
  | _ => simp +decide [SwitchSource.trailing]

/-! ### Frames -/

/-- The frames of all actions that are not composite are numbered; there is one lemma for each. -/
theorem pause_numbered (time : String) (unit : Option String) : (pause time unit).Numbered := by
  unfold pause
  simp only [List.append_assoc]
  exact .first (by simp +decide)

theorem notification_numbered (title body subtitle sound : Slot) :
    (notification title body subtitle sound).Numbered := by
  unfold notification
  simp only [List.append_assoc]
  exact .first (by simp +decide)

theorem playback_numbered (p : Playback) : (playback p).Numbered := by
  have hvolume : Quiet (if p.volume = 100 then [] else integer "Volume" p.volume) := by
    split <;> simp +decide
  unfold playback
  simp only [List.append_assoc]
  exact .first (by simp +decide [hvolume])

theorem stroke_numbered (key modifiers : Int) (press : Option String) :
    (stroke key modifiers press).Numbered := by
  unfold stroke
  simp only [List.append_assoc]
  exact .first (by simp +decide)

/-- The entries on waiting and on failure stand around those of the button itself. -/
theorem button_numbered (action : String) (name : Slot) (wait : Option TimeoutPolicy)
    (failure : FailurePolicy) : (button action name wait failure).Numbered := by
  have hnotify : Quiet ((wait.map (·.notifyEntries)).getD []) := by cases wait <;> simp
  have habort : Quiet ((wait.map (·.abortEntries)).getD []) := by cases wait <;> simp
  unfold button
  simp only [List.append_assoc]
  exact .second (by simp +decide) (by simp +decide [hnotify, habort])

theorem click_numbered (c : Click) : (click c).Numbered := by
  unfold click
  simp only [List.append_assoc]
  exact .second (by simp +decide) (by simp +decide)

end Frame

open MacroScribe.Frame

/-- A styled text of the step, if there is one, is not empty. -/
def Step.Styled : Step → Prop
  | comment _ rtf => Filled rtf
  | insertText _ _ _ rtf => ∀ s ∈ rtf, Filled s
  | setClipboard _ _ rtf _ _ => ∀ s ∈ rtf, Filled s
  | _ => True

/-- Each frame of a step has the identifier of the action at one place. -/
theorem Step.numbered_of_mem_frames {s : Step} (hs : s.Styled) {f : Frame} (hf : f ∈ s.frames) :
    f.Numbered := by
  cases s with
  | notification title body subtitle sound =>
    cases sound with
    | named name =>
      obtain rfl := List.mem_singleton.mp hf
      exact notification_numbered ..
    | file path =>
      rcases List.mem_cons.mp hf with rfl | hf
      · exact notification_numbered ..
      · obtain rfl := List.mem_singleton.mp hf
        exact playback_numbered _
  | typeKey key modifiers press =>
    cases press with
    | held time =>
      simp only [frames, List.mem_cons, List.not_mem_nil, or_false] at hf
      rcases hf with rfl | rfl | rfl
      · exact stroke_numbered ..
      · exact pause_numbered ..
      · exact stroke_numbered ..
    | _ =>
      obtain rfl := List.mem_singleton.mp hf
      exact stroke_numbered ..
  | pause =>
    obtain rfl := List.mem_singleton.mp hf
    exact pause_numbered ..
  | playSound =>
    obtain rfl := List.mem_singleton.mp hf
    exact playback_numbered _
  | pressButton =>
    obtain rfl := List.mem_singleton.mp hf
    exact button_numbered ..
  | click =>
    obtain rfl := List.mem_singleton.mp hf
    exact click_numbered _
  | comment title rtf =>
    obtain rfl := List.mem_singleton.mp hf
    have hrtf : Quiet (styled rtf) := quiet_styled hs
    simp only [List.append_assoc]
    exact .first (by simp +decide [hrtf])
  | setClipboard text processing rtf destination failure =>
    obtain rfl := List.mem_singleton.mp hf
    have hrtf : Quiet (styled? rtf) := quiet_styled? hs
    simp only [List.append_assoc]
    exact .first (by simp +decide [hrtf])
  | insertText text action processing rtf =>
    obtain rfl := List.mem_singleton.mp hf
    have hrtf : Quiet (styled? rtf) := quiet_styled? hs
    have htarget : Quiet (if action = "ByTyping" then
        application "TargetApplication" .front ++ Frame.text "TargetingType" "Front" else []) := by
      split <;> simp +decide
    simp only [List.append_assoc]
    exact .second (by simp +decide) (by simp +decide [hrtf, htarget])
  | selectMenu path application failure =>
    obtain rfl := List.mem_singleton.mp hf
    simp only [List.append_assoc]
    exact .first ((quiet_type _).append ((quiet_menu path).append (by simp +decide)))
  -- What these do is written before the identifier.
  | cancel | useVariable | edit | quit =>
    obtain rfl := List.mem_singleton.mp hf
    simp only [List.append_assoc]
    exact .second (by simp +decide) (by simp +decide)
  | _ =>
    obtain rfl := List.mem_singleton.mp hf
    simp only [List.append_assoc]
    exact .first (by simp +decide)

/-! ### Frames of composite actions -/

namespace Frame

/-- What holds of quiet entries, of an identifier, and of the keys under which other values stand in
the frames of actions. -/
structure Tame (leaf : Plist → Prop) (key : String → Prop) : Prop where
  quiet : ∀ {entries : List Entry}, Quiet entries → EveryEntry leaf key entries
  uid : ∀ n : Int, EveryEntry leaf key (Frame.uid n)
  child : ∀ {k : String}, k ∈ "Conditions" :: actionKeys → key k

/-- No leaf of a frame was written before or leaves a blank line. -/
theorem Tame.solid : Tame SolidLeaf fun _ => True where
  quiet h := EveryEntry.mono (fun _ => id) (fun _ _ => trivial) h.every
  uid _ := ⟨⟨trivial, trivial⟩, trivial⟩
  child _ := trivial

/-- No key of a frame has a line feed. -/
theorem Tame.keysOnLines : Tame (fun _ => True) KeyOnLine where
  quiet h := EveryEntry.mono (fun _ _ => trivial) (fun _ hk => hk.2) h.every
  uid _ := ⟨⟨by decide, trivial⟩, trivial⟩
  child hk := by
    have hall : ∀ k ∈ "Conditions" :: actionKeys, KeyOnLine k := by decide
    exact hall _ hk

variable {leaf : Plist → Prop} {key : String → Prop} {x y conditions : Plist} {n : Int}

/-- What holds of the leaves and keys of all tame values holds in a numbered dict. -/
theorem Numbered.every {f : Frame} (hf : f.Numbered) (t : Tame leaf key) :
    (dict (f n)).Every leaf key := by
  obtain ⟨pre, post, h, hpre, hpost⟩ := hf
  rw [Every, h]
  exact everyEntry_append.mpr ⟨everyEntry_append.mpr ⟨t.quiet hpre, t.uid n⟩, t.quiet hpost⟩

/-- An entry of a frame that holds conditions or actions, for what its value satisfies. -/
theorem Tame.entry (t : Tame leaf key) {k : String} (hk : k ∈ "Conditions" :: actionKeys)
    (hx : x.Every leaf key) : EveryEntry leaf key [(k, x)] :=
  ⟨⟨t.child hk, hx⟩, trivial⟩

/-- Composite actions satisfy what their actions and conditions satisfy; there is one lemma for
each. -/
theorem every_group {name : Slot} {timeout : TimeoutPolicy} (t : Tame leaf key)
    (hx : x.Every leaf key) : (dict (group name timeout x n)).Every leaf key := by
  simp only [Every, group, everyEntry_append]
  exact ⟨⟨⟨⟨t.quiet (quiet_slot (by decide) name), t.uid n⟩, t.entry (by decide) hx⟩,
    t.quiet (quiet_type "Group")⟩, t.quiet (quiet_timeout timeout)⟩

theorem every_switch {source : SwitchSource} (t : Tame leaf key) (hx : x.Every leaf key) :
    (dict (switch source x n)).Every leaf key := by
  simp only [Every, switch, everyEntry_append]
  exact ⟨⟨⟨⟨t.uid n, t.quiet (quiet_leading source)⟩, t.entry (by decide) hx⟩,
    t.quiet (quiet_type "Switch")⟩, t.quiet (quiet_trailing source)⟩

theorem every_switchCase {operator : String} {testValue : Slot} (t : Tame leaf key)
    (hx : x.Every leaf key) : (dict (switchCase operator testValue x)).Every leaf key := by
  simp only [Every, switchCase, everyEntry_append]
  exact ⟨⟨t.entry (by decide) hx, t.quiet (quiet_text (by decide) operator)⟩,
    t.quiet (quiet_compactLeaf testValue (by decide))⟩

theorem every_ifThenElse {aborts : Bool} (t : Tame leaf key) (hc : conditions.Every leaf key)
    (hx : x.Every leaf key) (hy : y.Every leaf key) :
    (dict (ifThenElse conditions aborts x y n)).Every leaf key := by
  simp only [Every, ifThenElse, everyEntry_append]
  exact ⟨⟨⟨⟨t.uid n, ⟨t.child (by decide), hc⟩, t.entry (by decide) hx⟩,
    t.quiet (quiet_type "IfThenElse")⟩, t.entry (by decide) hy⟩,
    t.quiet (quiet_flag (by decide) aborts)⟩

theorem every_whileLoop {aborts : Bool} {notify : Option Bool} (t : Tame leaf key)
    (hc : conditions.Every leaf key) (hx : x.Every leaf key) :
    (dict (whileLoop conditions aborts notify x n)).Every leaf key := by
  simp only [Every, whileLoop, everyEntry_append]
  exact ⟨⟨⟨⟨t.uid n, ⟨t.child (by decide), hx⟩, t.entry (by decide) hc⟩,
    t.quiet (quiet_type "While")⟩, t.quiet (quiet_flag? (by decide) notify)⟩,
    t.quiet (quiet_flag (by decide) aborts)⟩

end Frame

/-! ### Actions inside frames -/

/-- The value under each key of `childKeys` satisfies `p`. -/
def EveryChild (p : Plist → Prop) (entries : List Entry) : Prop :=
  ∀ e ∈ entries, e.1 ∈ childKeys → p e.2

section EveryChild

variable {p : Plist → Prop} {x y conditions : Plist} {n : Int}

theorem everyChild_append {as bs : List Entry} :
    EveryChild p (as ++ bs) ↔ EveryChild p as ∧ EveryChild p bs :=
  List.forall_mem_append

/-- An entry with a child in it. -/
theorem everyChild_entry {k : String} (hx : p x) : EveryChild p [(k, x)] :=
  List.forall_mem_singleton.mpr fun _ => hx

/-- None of the keys of quiet entries is one that holds actions. -/
theorem Quiet.other {entries : List Entry} (h : Quiet entries) :
    ∀ e ∈ entries, e.1 ∉ actionKeys :=
  fun e he => (everyEntry_iff.mp h.every e he).1.1

/-- So quiet entries have no children. -/
theorem Quiet.everyChild {entries : List Entry} (h : Quiet entries) : EveryChild p entries :=
  fun e he hmem => absurd (List.mem_cons_of_mem _ hmem) (h.other e he)

/-- Values under other keys are not children. -/
theorem everyChild_other {k : String} (hk : k ∉ childKeys) : EveryChild p [(k, x)] :=
  List.forall_mem_singleton.mpr fun hmem => absurd hmem hk

theorem everyChild_uid (n : Int) : EveryChild p (Frame.uid n) :=
  everyChild_other (by decide)

namespace Frame

/-- A step has no actions inside. -/
theorem Numbered.everyChild {f : Frame} (hf : f.Numbered) (n : Int) : EveryChild p (f n) := by
  obtain ⟨pre, post, h, hpre, hpost⟩ := hf
  rw [h, everyChild_append, everyChild_append]
  exact ⟨⟨hpre.everyChild, everyChild_uid n⟩, hpost.everyChild⟩

/-- The children of a group are its actions; likewise for the other composite actions. -/
theorem everyChild_group (hx : p x) (name : Slot) (timeout : TimeoutPolicy) :
    EveryChild p (group name timeout x n) := by
  simp only [group, everyChild_append]
  exact ⟨⟨⟨⟨(quiet_slot (by decide) name).everyChild, everyChild_uid n⟩, everyChild_entry hx⟩,
    (quiet_type "Group").everyChild⟩, (quiet_timeout timeout).everyChild⟩

theorem everyChild_switch (hx : p x) (source : SwitchSource) :
    EveryChild p (switch source x n) := by
  simp only [switch, everyChild_append]
  exact ⟨⟨⟨⟨everyChild_uid n, (quiet_leading source).everyChild⟩, everyChild_entry hx⟩,
    (quiet_type "Switch").everyChild⟩, (quiet_trailing source).everyChild⟩

theorem everyChild_switchCase (hx : p x) (operator : String) (testValue : Slot) :
    EveryChild p (switchCase operator testValue x) := by
  simp only [switchCase, everyChild_append]
  exact ⟨⟨everyChild_entry hx, (quiet_text (by decide) operator).everyChild⟩,
    (quiet_compactLeaf testValue (by decide)).everyChild⟩

theorem everyChild_ifThenElse (hx : p x) (hy : p y) (conditions : Plist) (aborts : Bool) :
    EveryChild p (ifThenElse conditions aborts x y n) := by
  have hbranch : EveryChild p [("Conditions", conditions), ("ElseActions", x)] :=
    everyChild_append.mpr ⟨everyChild_other (by decide), everyChild_entry hx⟩
  simp only [ifThenElse, everyChild_append]
  exact ⟨⟨⟨⟨everyChild_uid n, hbranch⟩, (quiet_type "IfThenElse").everyChild⟩,
    everyChild_entry hy⟩, (quiet_flag (by decide) aborts).everyChild⟩

theorem everyChild_whileLoop (hx : p x) (conditions : Plist) (aborts : Bool)
    (notify : Option Bool) : EveryChild p (whileLoop conditions aborts notify x n) := by
  have hbody : EveryChild p [("Actions", x), ("Conditions", conditions)] :=
    everyChild_append.mpr ⟨everyChild_entry hx, everyChild_other (by decide)⟩
  simp only [whileLoop, everyChild_append]
  exact ⟨⟨⟨⟨everyChild_uid n, hbody⟩, (quiet_type "While").everyChild⟩,
    (quiet_flag? (by decide) notify).everyChild⟩, (quiet_flag (by decide) aborts).everyChild⟩

end Frame
end EveryChild

end MacroScribe
