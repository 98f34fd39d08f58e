import MacroScribe.Action.Render
import MacroScribe.Proofs.Plist.Shape

/-!
# MacroScribe.Proofs.Action.Entries

The entries that frames are made of. Each lemma says of one way of making entries what it means that
all their keys and leaves are of some kind; a statement about a whole frame then falls apart into
its entries.
-/

namespace MacroScribe

open Plist

variable {leaf : Plist → Prop} {key : String → Prop}

@[simp] theorem Plist.everyEntry_nil : EveryEntry leaf key [] ↔ True := Iff.rfl

@[simp] theorem Plist.everyEntry_cons {k : String} {v : Plist} {rest : List Entry} :
    EveryEntry leaf key ((k, v) :: rest) ↔ (key k ∧ v.Every leaf key) ∧ EveryEntry leaf key rest :=
  Iff.rfl

@[simp] theorem Plist.everyEntry_append {as bs : List Entry} :
    EveryEntry leaf key (as ++ bs) ↔ EveryEntry leaf key as ∧ EveryEntry leaf key bs := by
  induction as with
  | nil => simp
  | cons e as ih =>
    obtain ⟨k, v⟩ := e
    simp only [List.cons_append, everyEntry_cons, ih, and_assoc]

@[simp] theorem every_slot_leaf {s : Slot} : s.leaf.Every leaf key ↔ leaf s.leaf := by
  cases s <;> rfl

@[simp] theorem every_slot_compactLeaf {s : Slot} :
    s.compactLeaf.Every leaf key ↔ leaf s.compactLeaf := by
  cases s <;> rfl

@[simp] theorem everyEntry_optionalEntry {k : String} {v : Option Plist} :
    EveryEntry leaf key (optionalEntry k v) ↔ ∀ x ∈ v, key k ∧ x.Every leaf key := by
  cases v <;> simp [optionalEntry]

namespace Frame

@[simp] theorem every_text {k s : String} :
    EveryEntry leaf key (text k s) ↔ key k ∧ leaf (.text s) := by
  simp [text, Plist.text, Every]

@[simp] theorem every_slot {k : String} {s : Slot} :
    EveryEntry leaf key (slot k s) ↔ key k ∧ leaf s.leaf := by
  simp [slot]

@[simp] theorem every_slot? {k : String} {v : Option Slot} :
    EveryEntry leaf key (slot? k v) ↔ ∀ s ∈ v, key k ∧ leaf s.leaf := by
  cases v <;> simp [slot?]

@[simp] theorem every_text? {k : String} {v : Option String} :
    EveryEntry leaf key (text? k v) ↔ ∀ s ∈ v, key k ∧ leaf (.text s) := by
  cases v <;> simp [text?, Plist.text, Every]

@[simp] theorem every_integer {k : String} {n : Int} :
    EveryEntry leaf key (integer k n) ↔ key k ∧ leaf (.integer n) := by
  simp [integer, Every]

@[simp] theorem every_flag {k : String} {b : Bool} :
    EveryEntry leaf key (flag k b) ↔ key k ∧ leaf (.bool b) := by
  simp [flag, Every]

@[simp] theorem every_raised {k : String} {b : Bool} :
    EveryEntry leaf key (raised k b) ↔ (b = true → key k ∧ leaf (.bool true)) := by
  cases b <;> simp [raised]

/-- The leaf of a styled text. -/
def styledLeaf : Slot → Plist
  | .text s => .data (StyledText.bytes s)
  | .broken cause => .broken (.misuse cause)

@[simp] theorem every_styled {rtf : Slot} :
    EveryEntry leaf key (styled rtf) ↔ key "StyledText" ∧ leaf (styledLeaf rtf) := by
  cases rtf <;> simp [styled, styledLeaf, Every]

@[simp] theorem every_styled? {rtf : Option Slot} :
    EveryEntry leaf key (styled? rtf) ↔ ∀ s ∈ rtf, key "StyledText" ∧ leaf (styledLeaf s) := by
  cases rtf <;> simp [styled?]

@[simp] theorem every_applicationEntry {k : String} {v : Option Slot} :
    EveryEntry leaf key (Application.entry k v) ↔ ∀ s ∈ v, key k ∧ leaf s.leaf := by
  cases v <;> simp [Application.entry]

@[simp] theorem every_application {k : String} {app : Application} :
    EveryEntry leaf key (application k app) ↔ key k ∧ EveryEntry leaf key app.entries := by
  simp [application, Application.toPlist, Every]

end Frame
end MacroScribe
