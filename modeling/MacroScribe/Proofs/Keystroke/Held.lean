import MacroScribe.Proofs.Action.Gestures
import MacroScribe.Proofs.Keystroke.Range

/-!
# MacroScribe.Proofs.Keystroke.Held

Keys that are held. To hold a key takes three dictionaries, and these may be written anywhere: at
the top, in the branch of a condition, or in the case of a switch. What is kept along the way is
that no list of actions ends while a key is held or begins with a release (`Orderly`). Only
`Step.typeKey` writes dictionaries that hold or release keys; those of other actions are told from
these by their type alone.
-/

namespace MacroScribe

open Plist

/-! ### What is read of frames -/

namespace Frame

/-- What is read under a key of a dictionary with these entries. -/
def found? (key : String) (entries : List Entry) : Option Reading :=
  (view (.dict entries)).value? key

variable {key k : String}

@[simp] theorem found?_nil : found? key [] = none := rfl

/-- The first entry under the key counts. -/
@[simp] theorem found?_append (as bs : List Entry) :
    found? key (as ++ bs) = (found? key as).or (found? key bs) := by
  simp only [found?, view, Reading.value?, viewEntries_eq_map, List.map_append]
  exact Fields.get?_append _ _ _

@[simp] theorem found?_cons (v : Plist) (rest : List Entry) :
    found? key ((k, v) :: rest) = if k = key then some v.view else found? key rest :=
  Fields.get?_cons _ _ _ _

/-- An entry that may be left out. -/
@[simp] theorem found?_optionalEntry (v : Option Plist) :
    found? key (optionalEntry k v) = if k = key then v.map view else none := by
  cases v with
  | none => exact (ite_self none).symm
  | some v => exact found?_cons v []

/-- A keystroke is read back from its frame. -/
theorem gesture_stroke (code modifiers : Int) (press : Option String) (n : Int) :
    (view (.dict (stroke code modifiers press n))).gesture =
      .stroke press (some code) (some modifiers) := by
  have hkind : found? "MacroActionType" (stroke code modifiers press n) =
      some (.string "SimulateKeystroke") := by
    simp [stroke, uid, integer, type, Plist.text, view]
  have hpress : found? "Press" (stroke code modifiers press n) = press.map .string := by
    cases press <;>
      simp [stroke, uid, integer, type, text, text?, flag, application, Plist.text, view]
  have hcode : found? "KeyCode" (stroke code modifiers press n) = some (.integer code) := by
    simp [stroke, uid, integer, view]
  have hmodifiers : found? "Modifiers" (stroke code modifiers press n) =
      some (.integer modifiers) := by
    simp [stroke, uid, integer, type, Plist.text, view]
  rw [found?] at hkind hpress hcode hmodifiers
  rw [Reading.gesture, hkind, hpress, hcode, hmodifiers]
  cases press <;> rfl

/-- And so is a pause. -/
theorem gesture_pause (time : String) (unit : Option String) (n : Int) :
    (view (.dict (pause time unit n))).gesture = .pause := by
  have hkind : found? "MacroActionType" (pause time unit n) = some (.string "Pause") := by
    simp [pause, uid, type, Plist.text, view]
  rw [found?] at hkind
  rw [Reading.gesture, hkind]
  rfl

/-- A dictionary of another type holds and releases no key. -/
theorem momentary_of_found? {entries : List Entry}
    (h : found? "MacroActionType" entries ≠ some (.string "SimulateKeystroke")) :
    (view (.dict entries)).gesture.Momentary := by
  have hkind : (found? "MacroActionType" entries).bind Reading.text? ≠
      some "SimulateKeystroke" := by
    intro heq
    obtain ⟨r, hr, htext⟩ := Option.bind_eq_some_iff.mp heq
    cases r with
    | string s => exact h (Option.some.inj htext ▸ hr)
    | _ => cases htext
  rw [found?] at hkind
  intro press key modifiers hgesture
  rw [Reading.gesture, if_neg hkind] at hgesture
  split at hgesture <;> cases hgesture

/-- Only two kinds of press leave a key down or let it go. -/
theorem momentary_stroke {press : Option String} (hhold : press ≠ some "PressAndHold")
    (hrelease : press ≠ some "Release") (key modifiers : Option Int) :
    (Gesture.stroke press key modifiers).Momentary := by
  rintro _ _ _ ⟨⟩
  exact ⟨hhold, hrelease⟩

@[simp] theorem found?_imageTarget (r : Reference) :
    found? "MacroActionType" (imageTarget r) = none := by
  cases r with
  | other name => rfl
  | image target =>
    obtain ⟨source, selection, area⟩ := target
    cases source <;> simp [imageTarget, imageSource, slot, text, text?]

@[simp] theorem found?_opener (app : Application) :
    found? "MacroActionType" (opener app) = none := by
  unfold opener
  split <;> simp [application, flag]

@[simp] theorem found?_leading (source : SwitchSource) :
    found? "MacroActionType" source.leading = none := by
  cases source <;> simp [SwitchSource.leading]

@[simp] theorem found?_raised (b : Bool) (h : k ≠ key) : found? key (raised k b) = none := by
  cases b <;> simp [raised, flag, h]

/-- The kind of a click stands behind the target, which has no entry under its key. -/
theorem found?_click (c : Click) (n : Int) :
    found? "MacroActionType" (Frame.click c n) = some (.string "MouseMoveAndClick") := by
  unfold Frame.click
  simp [uid, type, text, integer, flag, Plist.text, view]

/-- The kind of a switch stands in front of its cases. -/
theorem found?_switch (source : SwitchSource) (cases : Plist) (n : Int) :
    found? "MacroActionType" (switch source cases n) = some (.string "Switch") := by
  simp [switch, uid, type, Plist.text, view]

end Frame

open MacroScribe.Frame

/-- The types of the dictionaries of an action that is not on a key. -/
theorem Step.found?_of_mem_frames {s : Step}
    (hs : ∀ key modifiers press, s ≠ .typeKey key modifiers press) {f : Frame} (hf : f ∈ s.frames)
    (n : Int) :
    ∃ name ∈ [s.typeName, "PlaySound"], found? "MacroActionType" (f n) = some (.string name) := by
  cases s with
  | typeKey key modifiers press => exact absurd rfl (hs key modifiers press)
  | notification title body subtitle sound =>
    have hfirst (sound : Slot) : found? "MacroActionType"
        (Frame.notification title body subtitle sound n) = some (.string "Notification") := by
      simp [Frame.notification, uid, type, Plist.text, view]
    cases sound with
    | named name =>
      obtain rfl := List.mem_singleton.mp hf
      exact ⟨_, List.mem_cons_self, hfirst _⟩
    | file path =>
      rcases List.mem_cons.mp hf with rfl | hf
      · exact ⟨_, List.mem_cons_self, hfirst _⟩
      · obtain rfl := List.mem_singleton.mp hf
        refine ⟨"PlaySound", by simp, ?_⟩
        simp [playback, Frame.text, uid, type, Plist.text, view]
  | click c =>
    obtain rfl := List.mem_singleton.mp hf
    exact ⟨_, List.mem_cons_self, found?_click c n⟩
  | _ =>
    obtain rfl := List.mem_singleton.mp hf
    refine ⟨_, List.mem_cons_self, ?_⟩
    simp [typeName, Frame.pause, playback, button, uid, type, Frame.text, slot, slot?, text?,
      Frame.integer, flag, application, Plist.text, view]

/-- Only typing a key can hold one. -/
theorem Step.momentary_of_mem_frames {s : Step}
    (hs : ∀ key modifiers press, s ≠ .typeKey key modifiers press) {f : Frame} (hf : f ∈ s.frames)
    (n : Int) : (view (.dict (f n))).gesture.Momentary := by
  obtain ⟨name, hname, hfound⟩ := s.found?_of_mem_frames hs hf n
  refine momentary_of_found? fun hstroke => ?_
  obtain rfl := Reading.string.inj (Option.some.inj (hfound.symm.trans hstroke))
  cases s with
  | typeKey key modifiers press => exact hs key modifiers press rfl
  | _ => simp [typeName] at hname

/-! ### Expansions -/

/-- Within the actions inside a dictionary with these entries, keys that are held are released. -/
def ReleasesWithin (entries : List Entry) : Prop :=
  (view (.dict entries)).Releases

/-- In a list of dictionaries and in all lists of actions inside, keys that are held are
released. -/
structure Orderly (dicts : List Plist) : Prop where
  paired : Paired (dicts.map fun v => v.view.gesture)
  releases : ∀ v ∈ dicts, v.view.Releases

/-- What is asked of the values in a dict is asked of those that hold actions. -/
theorem releasesWithin_iff {entries : List Entry} :
    ReleasesWithin entries ↔ EveryChild (fun v => v.view.Releases) entries := by
  rw [ReleasesWithin, view, Reading.Releases, entriesRelease_iff, viewEntries_eq_map,
    List.forall_mem_map]
  exact Iff.rfl

namespace Orderly

variable {as bs dicts : List Plist}

theorem nil : Orderly [] :=
  ⟨.nil, List.forall_mem_nil _⟩

/-- Lists of dicts that are orderly can be put after each other. -/
theorem append (ha : Orderly as) (hb : Orderly bs) : Orderly (as ++ bs) where
  paired := by
    rw [List.map_append]
    exact ha.paired.append hb.paired
  releases := List.forall_mem_append.mpr ⟨ha.releases, hb.releases⟩

theorem moved (depth : Nat) (h : Orderly dicts) : Orderly (dicts.map (Plist.moved depth)) where
  paired := by
    simp only [List.map_map, Function.comp_def, gesture_moved]
    exact h.paired
  releases := by
    rw [List.forall_mem_map]
    exact fun v hv => (releases_moved depth v).mpr (h.releases v hv)

/-- A dictionary that is not on a key. -/
theorem dict {entries : List Entry}
    (hkind : found? "MacroActionType" entries ≠ some (.string "SimulateKeystroke"))
    (hwithin : ReleasesWithin entries) : Orderly [.dict entries] :=
  ⟨.momentary (momentary_of_found? hkind) .nil, List.forall_mem_singleton.mpr hwithin⟩

theorem releasesList (h : Orderly dicts) : (Plist.array dicts).view.Releases := by
  rw [view, Reading.Releases, viewItems_eq_map, eachReleases_iff, List.map_map, List.forall_mem_map]
  exact ⟨h.paired.released, h.releases⟩

end Orderly

/-- What pressing a key comes to. -/
def Press.gestures (key modifiers : Int) : Press → List Gesture
  | once => [.stroke none (some key) (some modifiers)]
  | repeated => [.stroke (some "PressAndRepeat") (some key) (some modifiers)]
  | held _ => [.hold key modifiers, .pause, .release key modifiers]

/-- Whatever is held while a key is typed is let go. -/
theorem Press.paired_gestures (key modifiers : Int) (press : Press) :
    Paired (press.gestures key modifiers) := by
  cases press with
  | once => exact .momentary (momentary_stroke (by simp) (by simp) _ _) .nil
  | repeated => exact .momentary (momentary_stroke (by decide) (by decide) _ _) .nil
  | held time => exact .held key modifiers .nil

/-- The gestures of a keystroke are those of its press. -/
theorem gestures_typeKey (key modifiers : Int) (press : Press) (n : Int) :
    (numbered n (Step.typeKey key modifiers press).frames).map (fun v => v.view.gesture) =
      press.gestures key modifiers := by
  cases press <;>
    simp [Step.frames, numbered, Press.gestures, gesture_stroke, gesture_pause, Gesture.hold,
      Gesture.release]

/-- Frames of steps have no lists of actions in them. -/
theorem releases_numbered {frames : List Frame} (hf : ∀ f ∈ frames, f.Numbered) (n : Int) :
    ∀ v ∈ numbered n frames, v.view.Releases := by
  induction frames generalizing n with
  | nil => exact List.forall_mem_nil _
  | cons f frames ih =>
    obtain ⟨hfirst, hrest⟩ := List.forall_mem_cons.mp hf
    exact List.forall_mem_cons.mpr ⟨releasesWithin_iff.mpr (hfirst.everyChild n), ih hrest (n + 1)⟩

/-- Gestures that leave no key down are paired by themselves. -/
theorem paired_numbered {frames : List Frame}
    (hf : ∀ f ∈ frames, ∀ n, (view (.dict (f n))).gesture.Momentary) (n : Int) :
    Paired ((numbered n frames).map fun v => v.view.gesture) := by
  induction frames generalizing n with
  | nil => exact .nil
  | cons f frames ih =>
    obtain ⟨hfirst, hrest⟩ := List.forall_mem_cons.mp hf
    exact .momentary (hfirst n) (ih hrest (n + 1))

/-- The dicts of one step. -/
theorem Step.orderly {s : Step} (hs : s.Styled) (n : Int) : Orderly (numbered n s.frames) := by
  refine ⟨?_, releases_numbered (fun f hf => Step.numbered_of_mem_frames hs hf) n⟩
  by_cases hkey : ∃ key modifiers press, s = .typeKey key modifiers press
  · obtain ⟨key, modifiers, press, rfl⟩ := hkey
    rw [gestures_typeKey]
    exact press.paired_gestures key modifiers
  · have hother : ∀ key modifiers press, s ≠ .typeKey key modifiers press :=
      fun key modifiers press h => hkey ⟨key, modifiers, press, h⟩
    exact paired_numbered (fun f hf => s.momentary_of_mem_frames hother hf) n

section Composite

variable {xs ys : List Plist} {n : Int}

/-- A composite action is one dict, whose actions are orderly in it. -/
theorem orderly_group (hx : Orderly xs) (name : Slot) (timeout : TimeoutPolicy) :
    Orderly [.dict (group name timeout (.array xs) n)] :=
  .dict (by simp [group, slot, uid, type, Plist.text, view])
    (releasesWithin_iff.mpr (everyChild_group hx.releasesList name timeout))

theorem orderly_switch (hx : Orderly xs) (source : SwitchSource) :
    Orderly [.dict (switch source (.array xs) n)] :=
  .dict (by simp [found?_switch])
    (releasesWithin_iff.mpr (everyChild_switch hx.releasesList source))

theorem orderly_switchCase (hx : Orderly xs) (operator : String) (testValue : Slot) :
    Orderly [.dict (switchCase operator testValue (.array xs))] :=
  .dict (by simp [switchCase, Frame.text])
    (releasesWithin_iff.mpr (everyChild_switchCase hx.releasesList operator testValue))

theorem orderly_ifThenElse (hx : Orderly xs) (hy : Orderly ys) (conditions : Plist)
    (aborts : Bool) :
    Orderly [.dict (ifThenElse conditions aborts (.array xs) (.array ys) n)] :=
  .dict (by simp [ifThenElse, uid, type, Plist.text, view]) (releasesWithin_iff.mpr
    (everyChild_ifThenElse hx.releasesList hy.releasesList conditions aborts))

theorem orderly_whileLoop (hx : Orderly xs) (conditions : Plist) (aborts : Bool)
    (notify : Option Bool) :
    Orderly [.dict (whileLoop conditions aborts notify (.array xs) n)] :=
  .dict (by simp [whileLoop, uid, type, Plist.text, view])
    (releasesWithin_iff.mpr (everyChild_whileLoop hx.releasesList conditions aborts notify))

end Composite

mutual

/-- In all that an action writes, keys that are held are released. -/
theorem Action.expand_orderly :
    ∀ {a : Action} (n : Int), a.Solid → Orderly (a.expand Plist.moved n)
  | .step _, n, h => Step.orderly h n
  | .group name _ timeout, n, h =>
    orderly_group ((expandEach_orderly (n + 1) h.2).moved 2) name timeout
  | .switch source _, n, h => orderly_switch (expandCases_orderly (n + 1) h.2) source
  | .ifThenElse conditions _ elseActions aborts, n, h =>
    orderly_ifThenElse ((expandEach_orderly (n + 1) h.2.2).moved 2)
      ((expandEach_orderly (n + 1 + dictCountEach elseActions) h.2.1).moved 2) conditions aborts
  | .whileLoop conditions _ aborts notify, n, h =>
    orderly_whileLoop ((expandEach_orderly (n + 1) h.2).moved 2) conditions aborts notify

/-- A list of actions puts the dicts of its actions after each other. -/
theorem expandEach_orderly :
    ∀ {actions : List Action} (n : Int),
      EveryAction Step.Styled Plist.Solid (fun _ => True) actions →
      Orderly (expandEach Plist.moved n actions)
  | [], _, _ => .nil
  | a :: _, n, h =>
    (Action.expand_orderly n h.1).append (expandEach_orderly (n + a.dictCount) h.2)

/-- The dicts of the cases are no actions, but hold some. -/
theorem expandCases_orderly :
    ∀ {cases : List SwitchCase} (n : Int),
      EveryCase Step.Styled Plist.Solid (fun _ => True) cases →
      Orderly (expandCases Plist.moved n cases)
  | [], _, _ => .nil
  | .mk operator testValue actions :: _, n, h =>
    (orderly_switchCase ((expandEach_orderly n h.1.2).moved 4) operator testValue).append
      (expandCases_orderly (n + dictCountEach actions) h.2)

end

/-! ### Texts -/

/-- A key is held if that is asked for, or if a time is given for it, be it zero. -/
theorem gestures_press (key modifiers : Int) (holds repeats : Bool) (time : Argument) :
    (Builder.press holds repeats time).gestures key modifiers =
      if holds ∨ ¬time.isNull then [.hold key modifiers, .pause, .release key modifiers]
      else [.stroke (if repeats then some "PressAndRepeat" else none) (some key)
        (some modifiers)] := by
  unfold Builder.press
  cases time.isNull <;> cases holds <;> cases repeats <;> rfl

/-- Whatever the actions are that builders accept, and however deep they are nested: in their text,
and in each list of actions inside, a key that is held is released after a pause, and no key is
released otherwise. An action that presses a key never holds and repeats it at once. It is written
as these three dictionaries if it is to hold the key or has a time for that, and otherwise as a
single one, which may repeat the key. -/
theorem held_keys_are_released :
    (∀ actions n m text, (∀ a ∈ actions, a.Accepted) →
      (renderActions actions).run n = (.ok text, m) →
      ∃ dicts, readAll text.toList = some dicts ∧ (Reading.array dicts).Releases) ∧
    (∀ given a, Builder.typeKeystroke.apply given = .ok a →
      ¬((given.value "press_and_repeat").truthy ∧
        ((given.value "press_and_hold").truthy ∨ ¬(given.value "hold_time").isNull)) ∧
      ∃ k key, Keystroke.ofJson ((given.get? "keystroke").getD .null) = .ok k ∧ k.key = some key ∧
        ∀ n, ∃ text m dicts, a.render.run n = (.ok text, m) ∧ readAll text.toList = some dicts ∧
          dicts.map Reading.gesture =
            if (given.value "press_and_hold").truthy ∨ ¬(given.value "hold_time").isNull then
              [.hold key k.mask, .pause, .release key k.mask]
            else [.stroke (if (given.value "press_and_repeat").truthy then some "PressAndRepeat"
              else none) (some key) (some k.mask)]) := by
  refine ⟨fun actions n m text hmade h => ?_, fun given a h => ?_⟩
  · have hsolid := everyAction_iff.mpr fun a ha => (hmade a ha).solid
    have hreleases := (expandEach_orderly n hsolid).releasesList
    rw [view, viewItems_eq_map] at hreleases
    exact ⟨_, (renderActions_spells hmade h).1.read, hreleases⟩
  · obtain ⟨k, key, hk, hkey, rfl, hboth⟩ := typeKeystroke_presses h
    refine ⟨hboth, k, key, hk, hkey, fun n => ?_⟩
    obtain ⟨text, m, hrun, hspells⟩ := typeKey_spells key k.mask _ n
    refine ⟨text, m, _, hrun, hspells.read, ?_⟩
    rw [List.map_map, ← gestures_press]
    exact gestures_typeKey key k.mask _ n

/-- A key that is held under a condition, and one that is held for no time at all. -/
theorem held_keys_are_released_keyOrRinging :
    (∀ a ∈ [keyOrRinging], a.Accepted) ∧
      (∃ text dicts, (renderActions [keyOrRinging]).run 7 = (.ok text, 13) ∧
        readAll text.toList = some dicts ∧ (Reading.array dicts).Releases) ∧
      ∃ a text m dicts,
        Builder.typeKeystroke.apply [("keystroke", .int 36), ("hold_time", .int 0)] = .ok a ∧
        a.render.run 1 = (.ok text, m) ∧ readAll text.toList = some dicts ∧
        dicts.map Reading.gesture = [.hold 36 0, .pause, .release 36 0] := by
  have hmade : ∀ a ∈ [keyOrRinging], a.Accepted := by simpa using keyOrRinging_accepted
  have happly : Builder.typeKeystroke.apply [("keystroke", .int 36), ("hold_time", .int 0)] =
      .ok (.step (.typeKey 36 0 (.held "0"))) := rfl
  obtain ⟨hlists, hkeys⟩ := held_keys_are_released
  obtain ⟨dicts, hread, hreleases⟩ := hlists [keyOrRinging] 7 13 _ hmade rfl
  obtain ⟨-, k, key, hk, hkey, hwritten⟩ := hkeys _ _ happly
  obtain rfl : (⟨0, some 36⟩ : Keystroke) = k := Except.ok.inj hk
  obtain rfl := Option.some.inj hkey
  obtain ⟨text, m, dicts', hrun, hread', hgestures⟩ := hwritten 1
  refine ⟨hmade, ⟨_, dicts, rfl, hread, hreleases⟩, _, text, m, dicts', happly, hrun, hread', ?_⟩
  rw [hgestures, if_pos (.inr (by decide))]

end MacroScribe
