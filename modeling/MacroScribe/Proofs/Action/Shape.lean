import MacroScribe.Proofs.Action.Frames

/-!
# MacroScribe.Proofs.Action.Shape

What actions are made of. `Action.Every` says something about all steps, all conditions and all
options of composite actions that are written as texts, at any depth; the other predicates are
instances of it:

* `Action.Sound` — its conditions consist of texts, numbers and flags, and its styled texts are not
  empty;
* `Action.Solid` — nothing in the action would leave a blank line or was written before;
* `Action.KeysOnLines` — no key of a condition has a line feed.
-/

namespace MacroScribe

/-- The option is a text. -/
def Slot.IsText : Slot → Prop
  | text _ => True
  | broken _ => False

/-- The options of a source that are written as texts. -/
def SwitchSource.slots : SwitchSource → List Slot
  | variableNamed s | environment s | calculation s | file s => [s]
  | namedClipboard (some (uid, _)) => [uid]
  | namedClipboard none | text _ _ | other _ => []

section Every

variable (step : Step → Prop) (conditions : Plist → Prop) (slot : Slot → Prop)

mutual

/-- Each step of the action satisfies `step`, each list of conditions in it `conditions`, and each
option of a composite action that is written as a text `slot`. -/
def Action.Every : Action → Prop
  | .step s => step s
  | .group name actions _ => slot name ∧ EveryAction actions
  | .switch source cases => (∀ s ∈ source.slots, slot s) ∧ EveryCase cases
  | .ifThenElse cs thenActions elseActions _ =>
    conditions cs ∧ EveryAction thenActions ∧ EveryAction elseActions
  | .whileLoop cs actions _ _ => conditions cs ∧ EveryAction actions

/-- `Action.Every` for each of the actions. -/
def EveryAction : List Action → Prop
  | [] => True
  | a :: rest => a.Every ∧ EveryAction rest

/-- `Action.Every` for the actions of each case, and the value that it tests for satisfies
`slot`. -/
def EveryCase : List SwitchCase → Prop
  | [] => True
  | .mk _ testValue actions :: rest => (slot testValue ∧ EveryAction actions) ∧ EveryCase rest

end

variable {step conditions slot}

theorem everyAction_iff {actions : List Action} :
    EveryAction step conditions slot actions ↔ ∀ a ∈ actions, a.Every step conditions slot := by
  induction actions with
  | nil => simp [EveryAction]
  | cons a rest ih => simp [EveryAction, ih]

theorem everyCase_iff {cases : List SwitchCase} :
    EveryCase step conditions slot cases ↔ ∀ c ∈ cases, EveryCase step conditions slot [c] := by
  induction cases with
  | nil => simp [EveryCase]
  | cons c rest ih =>
    obtain ⟨operator, testValue, actions⟩ := c
    simp [EveryCase, ← ih]

variable {step' : Step → Prop} {conditions' : Plist → Prop} {slot' : Slot → Prop}

mutual

theorem Action.Every.mono (hstep : ∀ s, step s → step' s)
    (hconditions : ∀ c, conditions c → conditions' c) (hslot : ∀ s, slot s → slot' s) :
    ∀ {a : Action}, a.Every step conditions slot → a.Every step' conditions' slot'
  | .step s, h => hstep s h
  | .group .., h => ⟨hslot _ h.1, everyAction_mono hstep hconditions hslot h.2⟩
  | .switch .., h =>
    ⟨fun s hs => hslot s (h.1 s hs), everyCase_mono hstep hconditions hslot h.2⟩
  | .ifThenElse .., h =>
    ⟨hconditions _ h.1, everyAction_mono hstep hconditions hslot h.2.1,
      everyAction_mono hstep hconditions hslot h.2.2⟩
  | .whileLoop .., h => ⟨hconditions _ h.1, everyAction_mono hstep hconditions hslot h.2⟩

theorem everyAction_mono (hstep : ∀ s, step s → step' s)
    (hconditions : ∀ c, conditions c → conditions' c) (hslot : ∀ s, slot s → slot' s) :
    ∀ {actions : List Action},
      EveryAction step conditions slot actions → EveryAction step' conditions' slot' actions
  | [], _ => trivial
  | _ :: _, h =>
    ⟨Action.Every.mono hstep hconditions hslot h.1, everyAction_mono hstep hconditions hslot h.2⟩

theorem everyCase_mono (hstep : ∀ s, step s → step' s)
    (hconditions : ∀ c, conditions c → conditions' c) (hslot : ∀ s, slot s → slot' s) :
    ∀ {cases : List SwitchCase},
      EveryCase step conditions slot cases → EveryCase step' conditions' slot' cases
  | [], _ => trivial
  | .mk .. :: _, h =>
    ⟨⟨hslot _ h.1.1, everyAction_mono hstep hconditions hslot h.1.2⟩,
      everyCase_mono hstep hconditions hslot h.2⟩

end

end Every

/-- The conditions in the action consist of texts, numbers and flags, and its styled texts are not
empty. -/
def Action.Sound (a : Action) : Prop :=
  a.Every Step.Styled Plist.Typed fun _ => True

/-- The action leaves no blank line in the written form, and none of its conditions was written
before. -/
def Action.Solid (a : Action) : Prop :=
  a.Every Step.Styled Plist.Solid fun _ => True

theorem Action.Sound.solid {a : Action} (h : a.Sound) : a.Solid :=
  Action.Every.mono (fun _ => id) (fun _ => Plist.Typed.solid) (fun _ => id) h

/-- No key of a condition in the action has a line feed. -/
def Action.KeysOnLines (a : Action) : Prop :=
  a.Every (fun _ => True) Plist.KeysOnLines fun _ => True

end MacroScribe
