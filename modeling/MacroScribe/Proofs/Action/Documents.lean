import MacroScribe.Proofs.Action.Expansion
import MacroScribe.Proofs.Plist.Marked

/-!
# MacroScribe.Proofs.Action.Documents

The documents in actions. Styled texts are all that actions write as byte strings: the byte strings
of the expansion of an action are its documents and those of the actions inside, in the order in
which they are written (`Action.payloads_expand`).
-/

namespace MacroScribe

open Plist

/-- The document of a step that has a styled text. -/
def Step.document? : Step → Option String
  | comment _ (.text rtf) => some rtf
  | insertText _ _ _ (some (.text rtf)) => some rtf
  | setClipboard _ _ (some (.text rtf)) _ _ => some rtf
  | _ => none

mutual

/-- The documents in an action, in written order: of a conditional, the `else` branch comes
first. -/
def Action.documents : Action → List String
  | .step s => s.document?.toList
  | .group _ actions _ => documentsEach actions
  | .switch _ cases => documentsCases cases
  | .ifThenElse _ thenActions elseActions _ =>
    documentsEach elseActions ++ documentsEach thenActions
  | .whileLoop _ actions _ _ => documentsEach actions

/-- The documents in actions. -/
def documentsEach : List Action → List String
  | [] => []
  | a :: rest => a.documents ++ documentsEach rest

/-- The documents in the actions of cases. -/
def documentsCases : List SwitchCase → List String
  | [] => []
  | .mk _ _ actions :: rest => documentsEach actions ++ documentsCases rest

end

/-! ### Entries without byte strings -/

namespace Plist

/-- A slot is written as a text. -/
@[simp] theorem payloads_leaf (s : Slot) : s.leaf.payloads = [] := by
  cases s <;> rfl

@[simp] theorem payloads_compactLeaf (s : Slot) : s.compactLeaf.payloads = [] := by
  cases s <;> rfl

attribute [simp] payloadEntries_append

@[simp] theorem payloadEntries_nil : payloadEntries [] = [] := by
  rw [payloadEntries]

@[simp] theorem payloadEntries_cons (k : String) (v : Plist) (rest : List Entry) :
    payloadEntries ((k, v) :: rest) = v.payloads ++ payloadEntries rest := by
  rw [payloadEntries]

/-- Entries of leaves, present or not, that are no byte strings. -/
theorem payloadEntries_optional {α : Type} (k : String) (v : Option α) (leaf : α → Plist)
    (h : ∀ x, (leaf x).payloads = []) : payloadEntries (optionalEntry k (v.map leaf)) = [] := by
  cases v with
  | none => rfl
  | some x => simp [optionalEntry, h x]

mutual

/-- Conditions have no byte strings. -/
theorem payloads_of_typed : ∀ {v : Plist}, v.Typed → v.payloads = []
  | string .., _ | integer _, _ | real _, _ | bool _, _ | fragment _, _ | broken _, _ => rfl
  | data _, h => h.elim
  | array _, h => payloadItems_of_typed h
  | dict _, h => payloadEntries_of_typed h

theorem payloadItems_of_typed : ∀ {items : List Plist},
    EveryItem TypedLeaf (fun _ => True) items → payloadItems items = []
  | [], _ => rfl
  | _ :: _, h => by rw [payloadItems, payloads_of_typed h.1, payloadItems_of_typed h.2]; rfl

theorem payloadEntries_of_typed : ∀ {entries : List (String × Plist)},
    EveryEntry TypedLeaf (fun _ => True) entries → payloadEntries entries = []
  | [], _ => rfl
  | (_, _) :: _, h => by
    rw [payloadEntries, payloads_of_typed h.1.2, payloadEntries_of_typed h.2]
    rfl

end

end Plist

namespace Frame

section

variable (k : String)

/-- Entries of numbers, flags and texts hold no byte strings; there is one lemma for each. -/
@[simp] theorem payloads_uid (n : Int) : payloadEntries (uid n) = [] := rfl

@[simp] theorem payloads_type (name : String) : payloadEntries (type name) = [] := rfl

@[simp] theorem payloads_text (s : String) : payloadEntries (text k s) = [] := rfl

@[simp] theorem payloads_integer (n : Int) : payloadEntries (integer k n) = [] := rfl

@[simp] theorem payloads_flag (b : Bool) : payloadEntries (flag k b) = [] := rfl

@[simp] theorem payloads_raised (b : Bool) : payloadEntries (raised k b) = [] := by
  cases b <;> rfl

/-- Nor do slots, whatever is in them. -/
@[simp] theorem payloads_slot (s : Slot) : payloadEntries (slot k s) = [] := by
  simp [slot]

@[simp] theorem payloads_slot? (v : Option Slot) : payloadEntries (slot? k v) = [] :=
  payloadEntries_optional k v _ payloads_leaf

@[simp] theorem payloads_text? (v : Option String) : payloadEntries (text? k v) = [] :=
  payloadEntries_optional k v _ fun _ => rfl

@[simp] theorem payloads_flag? (v : Option Bool) :
    payloadEntries (optionalEntry k (v.map .bool)) = [] :=
  payloadEntries_optional k v _ fun _ => rfl

@[simp] theorem payloads_target (app : Application) : payloadEntries (target k app) = [] := rfl

@[simp] theorem payloads_application (app : Application) :
    payloadEntries (application k app) = [] := by
  have hentry (k : String) (v : Option Slot) : payloadEntries (Application.entry k v) = [] := by
    cases v <;> simp [Application.entry]
  simp [application, Application.toPlist, payloads, Application.entries, hentry]

end

@[simp] theorem payloads_stop (policy : FailurePolicy) : payloadEntries policy.stopEntries = [] :=
  payloads_flag? _ policy.stop

@[simp] theorem payloads_silent (policy : FailurePolicy) :
    payloadEntries policy.notifyEntries = [] := by
  unfold FailurePolicy.notifyEntries
  split <;> rfl

@[simp] theorem payloads_abort (policy : TimeoutPolicy) :
    payloadEntries policy.abortEntries = [] := rfl

@[simp] theorem payloads_notify (policy : TimeoutPolicy) :
    payloadEntries policy.notifyEntries = [] :=
  payloads_flag? _ policy.notify

@[simp] theorem payloads_opener (app : Application) : payloadEntries (opener app) = [] := by
  unfold opener
  split <;> simp

/-- A screen area has fields of its own, all of them texts. -/
@[simp] theorem payloads_area (area : ScreenArea) : area.toPlist.payloads = [] := by
  cases area <;> rfl

@[simp] theorem payloads_clipboard (c : Clipboard) (role : String) :
    payloadEntries (c.entries role) = [] := by
  cases c with
  | named name uid => cases uid <;> simp [Clipboard.entries, payloads]
  | _ => rfl

/-- Neither way to say what is looked for holds bytes. -/
@[simp] theorem payloads_imageTarget (r : Reference) : payloadEntries (imageTarget r) = [] := by
  cases r with
  | other name => rfl
  | image target =>
    have hsource : payloadEntries (imageSource target.source) = [] := by
      cases target.source <;> simp [imageSource]
    simp [imageTarget, hsource]

@[simp] theorem payloads_searchedArea (r : Reference) : payloadEntries (searchedArea r) = [] := by
  cases r <;> simp [searchedArea]

@[simp] theorem payloads_menu (path : List String) :
    (array (path.map Plist.text)).payloads = [] := by
  rw [payloads, payloadItems_eq_flatMap, List.flatMap_map]
  exact List.flatMap_eq_nil_iff.mpr fun _ _ => rfl

/-- The entries around the cases of a switch are texts and flags. -/
@[simp] theorem payloads_source (source : SwitchSource) :
    payloadEntries source.leading = [] ∧ payloadEntries source.trailing = [] := by
  cases source with
  | text s processing => cases processing <;> exact ⟨rfl, rfl⟩
  | namedClipboard which =>
    cases which <;> simp [SwitchSource.leading, SwitchSource.trailing]
  | _ => simp [SwitchSource.leading, SwitchSource.trailing]

/-- A styled text is written as the one byte string that it is in a frame. -/
@[simp] theorem payloads_styled_text (rtf : String) :
    payloadEntries (styled (.text rtf)) = [StyledText.bytes rtf] := rfl

/-- A value that is no text is not written at all. -/
@[simp] theorem payloads_styled_broken (cause : Misuse) :
    payloadEntries (styled (.broken cause)) = [] := rfl

/-- Frames of steps without styled texts hold no byte strings. -/
theorem payloads_pause (time : String) (unit : Option String) (n : Int) :
    payloadEntries (Frame.pause time unit n) = [] := by
  simp [Frame.pause]

theorem payloads_notification (title body subtitle sound : Slot) (n : Int) :
    payloadEntries (Frame.notification title body subtitle sound n) = [] := by
  simp [Frame.notification]

theorem payloads_playback (p : Playback) (n : Int) : payloadEntries (playback p n) = [] := by
  unfold playback
  split <;> simp

theorem payloads_stroke (key modifiers : Int) (press : Option String) (n : Int) :
    payloadEntries (stroke key modifiers press n) = [] := by
  simp [stroke]

theorem payloads_button (action : String) (name : Slot) (wait : Option TimeoutPolicy)
    (failure : FailurePolicy) (n : Int) :
    payloadEntries (button action name wait failure n) = [] := by
  cases wait <;> simp [button]

theorem payloads_click (c : Click) (n : Int) : payloadEntries (Frame.click c n) = [] := by
  unfold Frame.click
  simp

end Frame

/-! ### Steps -/

open MacroScribe.Frame

theorem payloadItems_numbered_singleton (f : Frame) (n : Int) :
    payloadItems (numbered n [f]) = payloadEntries (f n) :=
  List.append_nil _

/-- The byte strings that a step writes are those of its document. -/
theorem Step.payloads_frames (s : Step) (n : Int) :
    payloadItems (numbered n s.frames) = s.document?.toList.map StyledText.bytes := by
  cases s with
  | notification title body subtitle sound =>
    cases sound <;>
      simp [frames, numbered, payloadItems, payloads, payloads_notification, payloads_playback,
        document?]
  | typeKey key modifiers press =>
    cases press <;>
      simp [frames, numbered, payloadItems, payloads, payloads_stroke, payloads_pause, document?]
  | comment title rtf =>
    cases rtf <;> simp [frames, payloadItems_numbered_singleton, document?]
  | insertText text action processing rtf =>
    have htarget : payloadEntries (if action = "ByTyping" then
        application "TargetApplication" .front ++ Frame.text "TargetingType" "Front" else []) =
          [] := by
      split <;> simp
    rcases rtf with _ | _ | _ <;>
      simp [frames, payloadItems_numbered_singleton, styled?, htarget, document?]
  | setClipboard text processing rtf destination failure =>
    rcases rtf with _ | _ | _ <;>
      simp [frames, payloadItems_numbered_singleton, styled?, document?]
  | _ =>
    simp [frames, payloadItems_numbered_singleton, payloads_pause, payloads_playback,
      payloads_button, payloads_click, TimeoutPolicy.entries, document?]

/-! ### Actions -/

/-- Dictionaries that were moved in, as the list of the actions inside an action. -/
theorem payloads_list (depth : Nat) (dicts : List Plist) :
    (array (dicts.map (moved depth))).payloads = payloadItems dicts := by
  rw [payloads, ← movedItems_eq_map, payloadItems_moved]

namespace Frame

variable (x : Plist) (n : Int)

/-- A composite action has the byte strings of its actions. -/
theorem payloads_group (name : Slot) (timeout : TimeoutPolicy) :
    (dict (group name timeout x n)).payloads = x.payloads := by
  simp [payloads, group, TimeoutPolicy.entries]

theorem payloads_switch (source : SwitchSource) :
    (dict (switch source x n)).payloads = x.payloads := by
  simp [payloads, switch]

theorem payloads_switchCase (operator : String) (testValue : Slot) :
    (dict (switchCase operator testValue x)).payloads = x.payloads := by
  simp [payloads, switchCase]

/-- The first list of actions comes before the second. -/
theorem payloads_ifThenElse {conditions : Plist} (hc : conditions.Typed) (aborts : Bool)
    (y : Plist) :
    (dict (ifThenElse conditions aborts x y n)).payloads = x.payloads ++ y.payloads := by
  simp [payloads, ifThenElse, payloads_of_typed hc]

theorem payloads_whileLoop {conditions : Plist} (hc : conditions.Typed) (aborts : Bool)
    (notify : Option Bool) :
    (dict (whileLoop conditions aborts notify x n)).payloads = x.payloads := by
  simp [payloads, whileLoop, payloads_of_typed hc]

end Frame

theorem payloadItems_singleton (v : Plist) : payloadItems [v] = v.payloads := by
  rw [payloadItems, payloadItems, List.append_nil]

mutual

/-- The byte strings in the expansion of an action are those of its documents. -/
theorem Action.payloads_expand : ∀ {a : Action} (n : Int), a.Sound →
    payloadItems (a.expand moved n) = a.documents.map StyledText.bytes
  | .step s, n, _ => s.payloads_frames n
  | .group name actions timeout, n, h => by
    have hactions := payloads_expandEach (n + 1) h.2
    rw [Action.expand, payloadItems_singleton, payloads_group, payloads_list, hactions]
    rfl
  | .switch source cases, n, h => by
    have hcases := payloads_expandCases (n + 1) h.2
    rw [Action.expand, payloadItems_singleton, payloads_switch, payloads, hcases]
    rfl
  | .ifThenElse conditions thenActions elseActions aborts, n, h => by
    have helse := payloads_expandEach (n + 1) h.2.2
    have hthen := payloads_expandEach (n + 1 + dictCountEach elseActions) h.2.1
    rw [Action.expand, payloadItems_singleton, payloads_ifThenElse _ _ h.1, payloads_list,
      payloads_list, helse, hthen, Action.documents, List.map_append]
  | .whileLoop conditions actions aborts notify, n, h => by
    have hactions := payloads_expandEach (n + 1) h.2
    rw [Action.expand, payloadItems_singleton, payloads_whileLoop _ _ h.1, payloads_list, hactions]
    rfl

/-- A list of actions has the byte strings of its styled texts, in the order of the actions. -/
theorem payloads_expandEach : ∀ {actions : List Action} (n : Int),
    EveryAction Step.Styled Plist.Typed (fun _ => True) actions →
      payloadItems (expandEach moved n actions) = (documentsEach actions).map StyledText.bytes
  | [], _, _ => rfl
  | a :: rest, n, h => by
    rw [expandEach, payloadItems_eq_flatMap, List.flatMap_append, ← payloadItems_eq_flatMap,
      ← payloadItems_eq_flatMap, a.payloads_expand n h.1, payloads_expandEach _ h.2, documentsEach,
      List.map_append]

/-- And so have the cases of a switch. -/
theorem payloads_expandCases : ∀ {cases : List SwitchCase} (n : Int),
    EveryCase Step.Styled Plist.Typed (fun _ => True) cases →
      payloadItems (expandCases moved n cases) = (documentsCases cases).map StyledText.bytes
  | [], _, _ => rfl
  | .mk operator testValue actions :: rest, n, h => by
    have hactions := payloads_expandEach n h.1.2
    have hrest := payloads_expandCases (n + dictCountEach actions) h.2
    rw [expandCases, payloadItems, payloads_switchCase, payloads_list, hactions, hrest,
      documentsCases, List.map_append]

end

end MacroScribe
