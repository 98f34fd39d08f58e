import MacroScribe.Builder.Composite
import MacroScribe.Builder.Mouse
import MacroScribe.Proofs.Condition.Checks
import MacroScribe.Proofs.Keystroke.Spelling

/-!
# MacroScribe.Proofs.Builder.Option

Which options are refused as unacceptable values, and which are misused. Most checks refuse whatever
they do not accept. The others take a value for a text, a sequence, a number or a key of a table
without asking, and for each of them it is said here which values they can cope with: `Listed`,
`Countable`, `Stylable` and so on.
-/

namespace MacroScribe

open Outcome

namespace Json

variable {ω : Type}

/-- The value is a list, a text or a mapping. -/
def isSequence : Json ω → Bool
  | list _ | str _ | obj _ => true
  | _ => false

/-- The value is a text. -/
def isText (v : Json ω) : Bool :=
  v.str?.isSome

theorem isSome_holds? (v : Json ω) (part : String) : (v.holds? part).isSome = v.isSequence := by
  cases v <;> rfl

variable [Described ω]

theorem checked_items (v : Json ω) : Checked v.items ↔ v.isSequence := by
  cases v with
  | list _ | str _ | obj _ => simp [Json.items, isSequence, checked_ok]
  | _ => simp [Json.items, isSequence, Misuse.kind, Kind.isValue]

end Json

namespace Builder

/-- A value whose items are taken if it counts as given has items. -/
def Listed (v : Argument) : Prop :=
  v.truthy → v.isSequence

/-- A preset that is looked up if it counts as given is a scalar. -/
def Presettable (v : Argument) : Prop :=
  v.truthy → v.isScalar

/-- A percentage is computed from a boolean, from an integer within the range of floats or from a
float, but for the infinite ones. -/
def Countable : Argument → Prop
  | .bool _ => True
  | .int n => isWithinFloats n
  | .float x => ∀ negative, Decimal.Binary.ofFloat (x + 0.5) ≠ .infinite negative
  | _ => False

/-- The document that is given is a text; or else the text that it is made from is one. -/
def Stylable (text rtf : Argument) : Prop :=
  if rtf.truthy then rtf.isText else text.isText

/-- The item of a list of pairs is a sequence, and a scalar comes first if it has two items. -/
def Paired (v : Argument) : Prop :=
  ∃ parts, v.items = .ok parts ∧ ∀ key value, parts = [key, value] → key.isScalar

/-! ### Checks that refuse whatever they do not accept -/

section Refusals

variable {α : Type}

theorem checked_invalid (f : OptionFault) : Checked (invalid f : Outcome α) :=
  checked_error.mpr rfl

theorem checked_choice (name : String) (valid : List String) (v : Argument) :
    Checked (choice name valid v) := by
  unfold choice
  split
  · exact checked_ok _
  · exact checked_invalid _

theorem checked_optionalChoice (name : String) (valid : List String) (v : Argument) :
    Checked (optionalChoice name valid v) := by
  unfold optionalChoice
  split
  · exact checked_ok _
  · exact checked_map.mpr (checked_choice name valid v)

theorem checked_processing (v : Argument) : Checked (processing v) :=
  checked_optionalChoice _ _ v

theorem checked_inParameter (name : String) (result : Outcome α) :
    Checked (inParameter name result) :=
  checked_mapError fun _ => rfl

theorem checked_application (args : Arguments) : Checked (application args) :=
  checked_inParameter _ _

end Refusals

/-! ### Checks that take a value for something -/

theorem checked_itemsOrNone (v : Argument) : Checked v.itemsOrNone ↔ Listed v := by
  unfold Json.itemsOrNone Listed
  cases v.truthy with
  | true => simp [Json.checked_items]
  | false => simp [checked_ok]

theorem checked_tokenOr (text preset : Argument) :
    Checked (tokenOr text preset) ↔ Presettable preset := by
  unfold tokenOr Presettable
  cases preset.truthy with
  | true =>
    simp only [if_true, forall_const]
    rw [checked_bind, Json.checked_requireScalar]
    refine and_iff_left fun _ _ => ?_
    split <;> exact checked_pure _
  | false => simp [checked_ok]

/-- There is no preset that is refused. -/
theorem passes_tokenOr (text preset : Argument) :
    Passes (tokenOr text preset) ↔ Presettable preset := by
  unfold tokenOr Presettable Json.requireScalar
  cases preset.truthy with
  | true =>
    simp only [if_true, forall_const]
    cases preset.isScalar with
    | true =>
      simp only [if_true, iff_true]
      cases preset.str?.bind Token.get? with
      | none => exact ⟨_, rfl⟩
      | some token => exact ⟨_, rfl⟩
    | false =>
      simp only [Bool.false_eq_true, if_false, iff_false]
      rintro ⟨a, ⟨⟩⟩
  | false =>
    simp only [Bool.false_eq_true, if_false, false_implies, iff_true]
    exact ⟨_, rfl⟩

theorem checked_presetOr (text preset : Argument) :
    Checked (presetOr text preset) ↔ preset.isScalar := by
  unfold presetOr
  rw [checked_bind, Json.checked_requireScalar]
  refine and_iff_left_of_imp fun hscalar _ _ => ?_
  split
  · exact checked_pure _
  · exact (checked_tokenOr text preset).mpr fun _ => hscalar

theorem checked_percent (v : Argument) : Checked (percent v) ↔ Countable v := by
  unfold percent Countable
  cases v with
  | bool b => simp [checked_ok]
  | int n =>
    by_cases hn : isWithinFloats n
    · simp [hn, checked_ok]
    · simp [hn, Misuse.kind, Kind.isValue]
  | float x =>
    simp only
    split
    · next hnan => simp [hnan, Misuse.kind, Kind.isValue]
    · next negative hinfinite =>
      simp [hinfinite, Misuse.kind, Kind.isValue]
    · next hfinite =>
      refine iff_of_true (checked_ok _) fun negative hinfinite => ?_
      exact hfinite negative hinfinite
  | _ => simp [Misuse.kind, Kind.isValue]

theorem checked_children (name : String) (v : Argument) : Checked (children name v) ↔ Listed v := by
  unfold children
  rw [checked_bind, checked_itemsOrNone]
  refine and_iff_left fun items _ => checked_mapM.mpr (eachReached_of_forall (fun item => ?_) items)
  split
  · exact checked_ok _
  · exact checked_invalid _

/-- Of the specifications of modifiers only the shortcuts can be misused. -/
theorem checked_modifierMask (v : Argument) :
    Checked (modifierMask v) ↔ (v.truthy → Keystroke.IsSpelled v) := by
  unfold modifierMask
  split
  · next b =>
    refine iff_of_true (checked_invalid _) ?_
    rintro - text ⟨⟩
  · next n =>
    have hmask : Checked (if Modifier.isMask n then .ok n else invalid (.invalidMask n)) := by
      split
      · exact checked_ok n
      · exact checked_invalid _
    refine iff_of_true hmask ?_
    rintro - text ⟨⟩
  · cases v.truthy with
    | true =>
      simp only [if_true, forall_const]
      rw [checked_map, Keystroke.checked_ofJson]
    | false => simp [checked_ok]

theorem checked_styled (text rtf : Argument) : Checked (styled text rtf) ↔ Stylable text rtf := by
  unfold styled Stylable Json.isText
  cases rtf.truthy with
  | true =>
    simp only [if_true]
    cases rtf with
    | str s => simp [Json.str?, checked_ok]
    | _ => simp [Json.str?, Misuse.kind, Kind.isValue]
  | false =>
    simp only [Bool.false_eq_true, if_false]
    cases text with
    | str s => simp [Json.str?, checked_ok]
    | _ => simp [Json.str?, Misuse.kind, Kind.isValue]

theorem checked_pair (index : Nat) (v : Argument) : Checked (pair index v) ↔ Paired v := by
  unfold pair Paired
  cases v.items with
  | error f => simp [Misuse.kind, Kind.isValue]
  | ok parts =>
    simp only [Except.ok.injEq, exists_eq_left']
    rcases parts with _ | ⟨key, _ | ⟨value, _ | ⟨third, rest⟩⟩⟩
    · simp [Misuse.kind, Kind.isValue]
    · simp [Misuse.kind, Kind.isValue]
    · rw [checked_bind, Json.checked_requireScalar, and_iff_left fun _ _ => checked_pure _]
      constructor
      · rintro h _ _ ⟨⟩
        exact h
      · exact fun h => h key value rfl
    · simp [Misuse.kind, Kind.isValue]

/-- What is no mapping is a list of pairs, up to the first that is refused. -/
def Mappable (v : Argument) : Prop :=
  (∀ fields, v ≠ .obj fields) → Listed v ∧ ∀ items, v.itemsOrNone = .ok items →
    EachReached (fun item => pair item.2 item.1) (fun item => Paired item.1) items.zipIdx

theorem checked_mapping (v : Argument) : Checked (mapping v) ↔ Mappable v := by
  unfold mapping Mappable
  split
  · next fields =>
    refine iff_of_true (checked_ok _) fun hne => ?_
    exact absurd rfl (hne fields)
  · next hne =>
    rw [forall_prop_of_true hne, checked_bind, checked_itemsOrNone]
    refine and_congr_right fun _ => forall_congr' fun items => forall_congr' fun _ => ?_
    rw [checked_bind, checked_mapM]
    rw [and_iff_left fun _ _ => checked_pure _]
    exact EachReached.congr (fun (item : Argument × Nat) => checked_pair item.2 item.1) _

/-! ### Conditions and cases -/

/-- What is given for conditions is a list of them, so far as they are looked at. -/
def Conditional (args : Arguments) : Prop :=
  Listed (args.value "conditions") ∧
    ∀ items, (args.value "conditions").itemsOrNone = .ok items →
      ((args.value "match").str?.filter Condition.matchings.contains).isSome →
        EachReached Condition.toPlist Condition.IsFit items

theorem checked_conditions (args : Arguments) : Checked (conditions args) ↔ Conditional args := by
  unfold conditions Conditional
  rw [checked_bind, checked_itemsOrNone]
  refine and_congr_right fun _ => forall_congr' fun items => forall_congr' fun _ => ?_
  exact Condition.checked_listToPlist items _

/-- A ready-made case has nothing wrong with it but unacceptable values. -/
def Cased (v : Argument) : Prop :=
  ∀ c, v = .embed (.switchCase c) → Checked c

/-- What is wrong with the list of children is that it is none, or an item of it. -/
theorem kind_of_children {name : String} {v : Argument} {f : Fault}
    (h : children name v = .error f) : f.kind = .type ∨ f.kind.isValue := by
  rcases bind_eq_error.mp h with h | ⟨items, hitems, h⟩
  · unfold Json.itemsOrNone at h
    split at h
    · cases v with
      | list items | str s | obj fields => cases h
      | _ =>
        obtain rfl := Except.error.inj h
        exact .inl rfl
    · cases h
  · have hlisted : Listed v := (checked_itemsOrNone v).mp (hitems ▸ checked_ok items)
    refine .inr ((checked_children name v).mpr hlisted f ?_)
    exact bind_eq_error.mpr (.inr ⟨items, hitems, h⟩)

/-- What is wrong with the mapping of a case is its shape, or an unacceptable value. -/
theorem kind_of_caseOfFields {fields : Fields Argument} {f : Fault}
    (h : caseOfFields fields = .error f) : f.kind = .type ∨ f.kind.isValue := by
  rcases bind_eq_error.mp h with h | ⟨_, -, h⟩
  · unfold knownFields at h
    split at h
    · cases h
    · obtain rfl := Except.error.inj h
      exact .inl rfl
  · split at h
    · obtain rfl := Except.error.inj h
      exact .inl rfl
    · next operator _ =>
      rcases bind_eq_error.mp h with h | ⟨word, -, h⟩
      · exact .inr (checked_choice _ _ operator f h)
      · rcases bind_eq_error.mp h with h | ⟨actions, -, ⟨⟩⟩
        exact kind_of_children h

/-- Mappings of cases are refused whatever is wrong with them. -/
theorem checked_caseOf (index : Nat) (v : Argument) : Checked (caseOf index v) ↔ Cased v := by
  unfold caseOf Cased
  split
  · next c =>
    constructor
    · rintro h _ ⟨⟩
      exact h
    · exact fun h => h c rfl
  · next fields =>
    refine iff_of_true (fun f hf => ?_) ?_
    · obtain ⟨cause, hcause, rfl⟩ := mapError_eq_error.mp hf
      rcases kind_of_caseOfFields hcause with htype | hvalue
      · rw [if_pos htype]
        rfl
      · split
        · rfl
        · exact hvalue
    · rintro c ⟨⟩
  · next hcase hobj =>
    exact iff_of_true (checked_invalid _) fun c hc => absurd hc (hcase c)

end Builder
end MacroScribe
