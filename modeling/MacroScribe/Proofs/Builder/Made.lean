import MacroScribe.Builder.Registry
import MacroScribe.Proofs.Action.Shape
import MacroScribe.Proofs.Condition.Values

/-!
# MacroScribe.Proofs.Builder.Made

What builders make. A part is *made* if a builder accepted some parameters for it, and each part
among these was made in the same way. Builders check what they are given, so that something is known
about every action they accept, at any depth (`Made.sound`): its conditions consist of texts,
numbers and flags, and its styled texts are not empty.
-/

namespace MacroScribe

open Plist Outcome

/-! ### Parts inside arguments -/

mutual

/-- The objects inside data. -/
def Json.embedded {ω : Type} : Json ω → List ω
  | .list items => embeddedItems items
  | .obj fields => embeddedFields fields
  | .embed x => [x]
  | _ => []

/-- The objects inside the items. -/
def Json.embeddedItems {ω : Type} : List (Json ω) → List ω
  | [] => []
  | v :: rest => v.embedded ++ embeddedItems rest

/-- The objects inside the values. -/
def Json.embeddedFields {ω : Type} : List (String × Json ω) → List ω
  | [] => []
  | (_, v) :: rest => v.embedded ++ embeddedFields rest

end

theorem Json.mem_embeddedItems {ω : Type} {items : List (Json ω)} {x : ω} :
    x ∈ embeddedItems items ↔ ∃ v ∈ items, x ∈ v.embedded := by
  induction items with
  | nil => simp [embeddedItems]
  | cons v rest ih => simp [embeddedItems, ih]

theorem Json.mem_embeddedFields {ω : Type} {fields : List (String × Json ω)} {x : ω} :
    x ∈ embeddedFields fields ↔ ∃ f ∈ fields, x ∈ f.2.embedded := by
  induction fields with
  | nil => simp [embeddedFields]
  | cons f rest ih => simp [embeddedFields, ih]

/-- A part that builders accepted, from parts that were made. -/
inductive Made : Part → Prop where
  | action {b : Builder} {given : Fields Argument} {a : Action} (hb : b ∈ Builder.all)
      (hgiven : ∀ p ∈ Json.embeddedFields given, Made p) (h : b.apply given = .ok a) :
      Made (.action a)
  | switchCase {operator value actions : Argument} (hactions : ∀ p ∈ actions.embedded, Made p) :
      Made (.switchCase (Builder.switchCase operator value actions))
  | application (app : Application) : Made (.application app)
  | area (area : ScreenArea) : Made (.area area)
  | clipboard (c : Clipboard) : Made (.clipboard c)

/-- An action that a builder accepted. -/
def Action.Accepted (a : Action) : Prop :=
  Made (.action a)

/-- `Action.Sound` for the actions in a part. -/
def Part.Sound : Part → Prop
  | .action a => a.Sound
  | .switchCase c => Ensures c fun c => EveryCase Step.Styled Plist.Typed (fun _ => True) [c]
  | _ => True

/-- Each part inside an argument satisfies `P`. -/
def EachPart (P : Part → Prop) (v : Argument) : Prop :=
  ∀ p ∈ v.embedded, P p

theorem eachPart_fields {P : Part → Prop} {fields : Fields Argument} :
    (∀ p ∈ Json.embeddedFields fields, P p) ↔ ∀ f ∈ fields, EachPart P f.2 := by
  constructor
  · exact fun h f hf p hp => h p (Json.mem_embeddedFields.mpr ⟨f, hf, hp⟩)
  · intro h p hp
    obtain ⟨f, hf, hp⟩ := Json.mem_embeddedFields.mp hp
    exact h f hf p hp

/-- The items of an argument have no other parts in them. -/
theorem eachPart_items {P : Part → Prop} {v : Argument} (hv : EachPart P v) :
    Ensures v.items fun items => ∀ item ∈ items, EachPart P item := by
  unfold Json.items
  split
  · refine ensures_ok fun item hitem p hp => hv p ?_
    exact Json.mem_embeddedItems.mpr ⟨item, hitem, hp⟩
  · refine ensures_ok fun item hitem p hp => ?_
    obtain ⟨c, -, rfl⟩ := List.mem_map.mp hitem
    exact absurd hp List.not_mem_nil
  · refine ensures_ok fun item hitem p hp => ?_
    obtain ⟨f, -, rfl⟩ := List.mem_map.mp hitem
    exact absurd hp List.not_mem_nil
  · exact ensures_error _

theorem eachPart_itemsOrNone {P : Part → Prop} {v : Argument} (hv : EachPart P v) :
    Ensures v.itemsOrNone fun items => ∀ item ∈ items, EachPart P item := by
  unfold Json.itemsOrNone
  split
  · exact eachPart_items hv
  · exact ensures_ok fun item hitem => absurd hitem List.not_mem_nil

theorem eachPart_value {P : Part → Prop} {fields : Fields Argument}
    (h : ∀ p ∈ Json.embeddedFields fields, P p) (k : String) : EachPart P (fields.value k) := by
  intro p hp
  rw [Fields.value, Fields.get?] at hp
  cases hf : fields.find? (·.1 == k) with
  | none =>
    rw [hf] at hp
    exact absurd hp List.not_mem_nil
  | some f =>
    rw [hf] at hp
    exact h p (Json.mem_embeddedFields.mpr ⟨f, List.mem_of_find?_eq_some hf, hp⟩)

namespace Builder

/-- The builder makes sound actions from sound parts. -/
def MakesSound (b : Builder) : Prop :=
  ∀ args : Arguments, (∀ k, EachPart Part.Sound (args.value k)) →
    Ensures (b.build args) Action.Sound

theorem mem_embedded_of_action? {item : Argument} {a : Action}
    (h : Argument.action? item = some a) : .action a ∈ item.embedded := by
  unfold Argument.action? at h
  split at h
  · obtain rfl := Option.some.inj h
    exact List.mem_singleton.mpr rfl
  · exact absurd h (by simp)

/-- The actions given for a parameter are the parts given for it. -/
theorem children_sound {name : String} {v : Argument} (hv : EachPart Part.Sound v) :
    Ensures (children name v) (EveryAction Step.Styled Plist.Typed fun _ => True) := by
  unfold children
  refine ensures_bind fun items hitems actions hactions => everyAction_iff.mpr ?_
  refine ensures_mapM (fun item hitem => ?_) actions hactions
  have hparts := eachPart_itemsOrNone hv items hitems item hitem
  split
  · next a ha => exact ensures_ok (hparts (.action a) (mem_embedded_of_action? ha))
  · exact ensures_error _

/-! ### Styled texts -/

theorem filled_ofJson {v : Argument} (h : v.truthy = true) : Frame.Filled (Slot.ofJson v) := by
  cases v with
  | str s =>
    intro he
    obtain rfl : s = "" := Slot.text.inj he
    exact absurd h (by decide)
  | _ => exact fun he => Slot.noConfusion he

theorem filled_ofText (s : List Char) : Frame.Filled (.text (String.ofList (Rtf.ofText s))) := by
  intro he
  have hnil : Rtf.ofText s = [] := String.ofList_eq_empty_iff.mp (Slot.text.inj he)
  exact List.cons_ne_nil _ _ hnil

/-- A styled text is not empty, whether it was given or made from a text. -/
theorem styled_filled (text rtf : Argument) :
    Ensures (styled text rtf) fun made => ∀ s ∈ made.2, Frame.Filled s := by
  unfold styled
  split
  · next htruthy =>
    split
    · next s =>
      refine ensures_ok fun x hx => ?_
      obtain rfl := Option.some.inj hx
      exact filled_ofJson htruthy
    · exact ensures_error _
  · split
    · refine ensures_ok fun x hx => ?_
      obtain rfl := Option.some.inj hx
      exact filled_ofText _
    · exact ensures_error _

/-! ### Builders of steps -/

theorem comment_makesSound : comment.MakesSound := by
  intro args _
  simp only [comment]
  split
  · next htruthy => exact ensures_ok (filled_ofJson htruthy)
  · split
    · exact ensures_ok (filled_ofText _)
    · exact ensures_error _

theorem insertion_sound (args : Arguments) (action : Argument) :
    Ensures (insertion args action) Action.Sound := by
  unfold insertion
  refine ensures_bind fun action _ => ensures_bind fun mode _ => ensures_bind fun text _ => ?_
  split
  · refine ensures_bind fun made hmade => ensures_ok ?_
    exact styled_filled _ _ made hmade
  · exact ensures_ok fun s hs => absurd hs (by simp)

theorem setClipboard_makesSound : setClipboard.MakesSound := by
  intro args _
  simp only [setClipboard]
  refine ensures_bind fun mode _ => ensures_bind fun text _ => ?_
  split
  · refine ensures_bind fun made hmade => ensures_bind fun destination _ => ensures_pure ?_
    exact styled_filled _ _ made hmade
  · refine ensures_bind fun made hmade => ensures_bind fun destination _ => ensures_pure ?_
    obtain rfl := Except.ok.inj hmade
    exact fun s hs => absurd hs (by simp)

theorem ensures_invalid {α : Type} {P : α → Prop} (f : OptionFault) : Ensures (invalid f) P :=
  ensures_error _

/-! ### Builders of composite actions -/

theorem group_makesSound : group.MakesSound := by
  intro args hargs
  refine ensures_bind fun actions hactions => ensures_pure ⟨trivial, ?_⟩
  exact children_sound (hargs "actions") actions hactions

theorem conditions_typed (args : Arguments) : Ensures (conditions args) Plist.Typed :=
  ensures_bind fun items _ => Condition.listToPlist_typed items _

theorem ifThenElse_makesSound : ifThenElse.MakesSound := by
  intro args hargs
  refine ensures_bind fun cs hcs => ensures_bind fun thenActions hthen =>
    ensures_bind fun elseActions helse => ensures_pure ⟨conditions_typed args cs hcs, ?_, ?_⟩
  · exact children_sound (hargs "then") thenActions hthen
  · exact children_sound (hargs "else_") elseActions helse

theorem whileLoop_makesSound : whileLoop.MakesSound := by
  intro args hargs
  refine ensures_bind fun cs hcs => ensures_bind fun actions hactions =>
    ensures_pure ⟨conditions_typed args cs hcs, ?_⟩
  exact children_sound (hargs "actions") actions hactions

/-- A case is sound if its actions are. -/
theorem switchCase_sound {operator value actions : Argument}
    (hactions : EachPart Part.Sound actions) :
    Part.Sound (.switchCase (switchCase operator value actions)) := by
  refine ensures_bind fun op _ => ensures_bind fun made hmade =>
    ensures_pure ⟨⟨trivial, ?_⟩, trivial⟩
  exact children_sound hactions made hmade

theorem caseOf_sound (i : Nat) {v : Argument} (hv : EachPart Part.Sound v) :
    Part.Sound (.switchCase (caseOf i v)) := by
  unfold caseOf
  split
  · next c => exact hv (.switchCase c) (List.mem_singleton.mpr rfl)
  · next fields =>
    refine ensures_mapError (ensures_bind fun _ _ => ?_)
    split
    · exact ensures_misused _
    · exact switchCase_sound (eachPart_value hv "actions")
  · exact ensures_invalid _

theorem switch_makesSound : switch.MakesSound := by
  intro args hargs
  refine ensures_bind fun source _ => ensures_bind fun mode _ => ensures_bind fun items hitems =>
    ensures_bind fun cases hcases => ?_
  have hall : EveryCase Step.Styled Plist.Typed (fun _ => True) cases := by
    refine everyCase_iff.mpr (ensures_mapM (fun item hitem => ?_) cases hcases)
    refine caseOf_sound item.2 (eachPart_itemsOrNone (hargs "cases") items hitems item.1 ?_)
    exact (List.mem_zipIdx' hitem).2 ▸ List.getElem_mem _
  split
  · exact ensures_invalid _
  · exact ensures_bind fun clipboard _ => ensures_pure ⟨fun _ _ => trivial, hall⟩

/-! ### All builders -/

/-- Every builder makes sound actions from sound parts. A step is sound by itself unless it has a
styled text. -/
theorem all_makeSound : ∀ b ∈ all, b.MakesSound := by
  simp only [all, List.forall_mem_cons]
  and_intros
  all_goals
    first
    | with_reducible first
      | exact List.forall_mem_nil _
      | exact comment_makesSound
      | exact setClipboard_makesSound
      | exact group_makesSound
      | exact ifThenElse_makesSound
      | exact whileLoop_makesSound
      | exact switch_makesSound
    | (intro args _; exact insertion_sound args _)
    -- Whatever the others check before, what they make is a step without a styled text.
    | intro args _
      simp only [activate, breakFromLoop, continueLoop, retryThisLoop, cancelling, cancel,
        clearTypedStringBuffer, showStatusMenu, system, clickAtFoundImage, moveAndClick, clicking,
        copy, cut, paste, editing, fileOperation, notification, openFile, openUrl, pause, playSound,
        pressButton, quit, returnText, scrollWheelEvent, selectMenuItem, setVariable, calculate,
        showSpecificApp, typeKeystroke, useVariable]
      with_reducible
        repeat' first
          | exact ensures_invalid _
          | exact ensures_misused _
          | apply ensures_pure
          | apply ensures_ok
          | (apply ensures_bind; intro _ _)
          | split
      all_goals trivial

/-- No default of a parameter has a part in it. -/
theorem standard_embedded :
    ∀ b ∈ all, ∀ p ∈ b.parameters, ∀ v ∈ p.standard, v.embedded.isEmpty := by
  decide

theorem bind_sound {b : Builder} (hb : b ∈ all) {given : Fields Argument}
    (h : ∀ p ∈ Json.embeddedFields given, p.Sound) :
    Ensures (b.bind given) fun args => ∀ k, EachPart Part.Sound (args.value k) := by
  simp only [bind]
  split
  · exact ensures_error _
  · split
    · exact ensures_error _
    · refine ensures_ok fun k => eachPart_value (fun p hp => ?_) k
      obtain ⟨f, hf, hp⟩ := Json.mem_embeddedFields.mp hp
      obtain ⟨q, hq, rfl⟩ := List.mem_map.mp hf
      -- A parameter has the value that was given for it, or else its default.
      cases hget : given.get? q.name with
      | some v =>
        rw [hget] at hp
        have hvalue : given.value q.name = v := by rw [Fields.value, hget, Option.getD_some]
        exact eachPart_value h q.name p (hvalue ▸ hp)
      | none =>
        rw [hget, Option.none_or] at hp
        cases hstandard : q.standard with
        | none =>
          rw [hstandard] at hp
          exact absurd hp List.not_mem_nil
        | some v =>
          have hempty := standard_embedded b hb q hq v hstandard
          rw [hstandard, Option.getD_some, List.isEmpty_iff.mp hempty] at hp
          exact absurd hp List.not_mem_nil

end Builder

/-- What builders make is sound. -/
theorem Made.sound {p : Part} (h : Made p) : p.Sound := by
  induction h with
  | @action b given a hb _ h ih =>
    obtain ⟨args, hargs, hbuild⟩ := bind_eq_ok.mp h
    exact Builder.all_makeSound b hb args (Builder.bind_sound hb ih args hargs) a hbuild
  | switchCase _ ih => exact Builder.switchCase_sound ih
  | _ => trivial

/-- An accepted action leaves no blank line and nothing in it was written before. -/
theorem Action.Accepted.solid {a : Action} (h : a.Accepted) : a.Solid :=
  Action.Sound.solid h.sound

end MacroScribe
