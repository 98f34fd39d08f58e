import MacroScribe.Condition.Basic
import MacroScribe.Proofs.Condition.Rules

/-!
# MacroScribe.Proofs.Condition.Checks

Which conditions are refused as unacceptable values, and which are misused. Whatever a condition
holds is checked, but for the values by which something is looked up: these have to be scalars.
-/

namespace MacroScribe

open Outcome

theorem Json.checked_requireScalar {ω : Type} [Described ω] {v : Json ω} :
    Checked v.requireScalar ↔ v.isScalar := by
  unfold requireScalar
  cases v.isScalar with
  | true => simp [checked_ok]
  | false => simp [Misuse.kind, Kind.isValue]

namespace Condition

/-- The types of condition of which a field is looked up in a table, with the key of that field. -/
def lookedUp : List (String × String) :=
  [("FrontWindow", "FrontWindowConditionType"), ("Pixel", "PixelConditionTypeGood"),
   ("OCR", "ImageSource"), ("ScreenImage", "ImageSource")]

/-- What is looked up for a condition of this type is a scalar. -/
def LooksUpScalars (type : String) (c : Given) : Prop :=
  ∀ entry ∈ lookedUp, type = entry.1 → (c.value entry.2).isScalar

/-- The value is no condition of which something is looked up that is no scalar. -/
def IsFit (v : Argument) : Prop :=
  ∀ c : Given, v = .obj c → (c.value "ConditionType").isScalar ∧
    ∀ type, c.value "ConditionType" = .str type → LooksUpScalars type c

/-! ### Values inside conditions -/

mutual

theorem checked_leaf : ∀ v : Argument, Checked (leaf v)
  | .null | .embed _ => checked_error.mpr rfl
  | .bool _ | .int _ | .float _ | .str _ | .list _ => checked_ok _
  | .obj fields => by
    rw [leaf]
    exact checked_bind.mpr ⟨checked_leafEntries fields, fun entries _ => checked_ok _⟩

theorem checked_leafEntries : ∀ fields : List (String × Argument), Checked (leafEntries fields)
  | [] => checked_ok _
  | (key, value) :: rest => by
    have hrest := checked_leafEntries rest
    have hvalue := checked_leaf value
    rw [leafEntries]
    split
    · exact checked_bind.mpr ⟨checked_pure _, fun here _ =>
        checked_bind.mpr ⟨hrest, fun others _ => checked_pure _⟩⟩
    · refine checked_bind.mpr ⟨hvalue, fun v _ => ?_⟩
      refine checked_bind.mpr ⟨checked_pure _, fun here _ => ?_⟩
      exact checked_bind.mpr ⟨hrest, fun others _ => checked_pure _⟩

end

theorem checked_areaLeaf (type key : String) (value : Argument) :
    Checked (areaLeaf type key value) := by
  unfold areaLeaf
  split
  · exact checked_ok _
  · exact checked_error.mpr rfl

theorem checked_entry (type key : String) (value : Argument) : Checked (entry type key value) := by
  unfold entry
  split
  · exact checked_ok _
  · split
    · exact checked_bind.mpr ⟨checked_areaLeaf type key value, fun v _ => checked_pure _⟩
    · split
      · exact checked_ok _
      · split
        · exact checked_bind.mpr ⟨checked_leafEntries _, fun entries _ => checked_pure _⟩
        · exact checked_bind.mpr ⟨checked_leaf value, fun v _ => checked_pure _⟩

/-! ### Normal forms -/

theorem get?_of_value {c : Given} {k s : String} (h : c.value k = .str s) :
    c.get? k = some (.str s) := by
  rw [Fields.value] at h
  cases hget : c.get? k with
  | none =>
    rw [hget] at h
    cases h
  | some v =>
    rw [hget] at h
    exact congrArg some h

theorem checked_demandTitle {type : String} {c : Given}
    (htype : c.value "ConditionType" = .str type) :
    Checked (demandTitle c) ↔
      (type = "FrontWindow" → (c.value "FrontWindowConditionType").isScalar) := by
  have hword : isWord (.str type) "FrontWindow" ↔ type = "FrontWindow" := by
    simp [isWord, Json.str?]
  simp only [demandTitle, get?_of_value htype, hword]
  split
  · next hfront => rw [Json.checked_requireScalar, forall_prop_of_true hfront]
  · next hfront => exact iff_of_true (checked_pure _) fun h => absurd h hfront

/-- Of the rules for a type of condition only what is looked up is not checked. -/
theorem checked_normal {type : String} {c : Given} (htype : c.value "ConditionType" = .str type) :
    Checked (normal type c) ↔ LooksUpScalars type c := by
  rw [normal_eq, checked_bind, and_iff_left fun _ _ => checked_pure _]
  unfold ruleOf LooksUpScalars lookedUp
  by_cases hwindow : type = "FrontWindow" ∨ type = "AnyWindow"
  · rw [if_pos hwindow, windowRule, checked_demandTitle htype]
    rcases hwindow with rfl | rfl <;> simp
  · rw [if_neg hwindow]
    obtain ⟨hfront, -⟩ := not_or.mp hwindow
    by_cases hscript : type = "Script"
    · simp [hscript, scriptRule, checked_pure]
    · rw [if_neg hscript]
      by_cases hpixel : type = "Pixel"
      · simp [hpixel, pixelRule, Json.checked_requireScalar]
      · rw [if_neg hpixel]
        by_cases hocr : type = "OCR"
        · simp [hocr, ocrRule, Json.checked_requireScalar]
        · rw [if_neg hocr]
          by_cases himage : type = "ScreenImage"
          · simp [himage, imageRule, Json.checked_requireScalar]
          · simp [hfront, hpixel, hocr, himage, noRule, checked_pure]

/-! ### Conditions -/

theorem checked_typeOf (c : Given) : Checked (typeOf c) ↔ (c.value "ConditionType").isScalar := by
  unfold typeOf
  rw [checked_bind, Json.checked_requireScalar]
  refine and_iff_left fun _ _ => ?_
  split
  · exact checked_pure _
  · exact checked_error.mpr rfl

theorem value_of_typeOf {c : Given} {type : String} (h : typeOf c = .ok type) :
    c.value "ConditionType" = .str type := by
  obtain ⟨_, -, h⟩ := bind_eq_ok.mp h
  split at h
  · next word hword =>
    obtain rfl := Except.ok.inj h
    obtain ⟨hstr, -⟩ := Option.filter_eq_some_iff.mp hword
    cases hvalue : c.value "ConditionType" <;> simp_all [Json.str?]
  · cases h

/-- A type that is known. -/
theorem typeOf_eq_ok {c : Given} {type : String} (h : c.value "ConditionType" = .str type)
    (hknown : types.contains type) : typeOf c = .ok type := by
  have hword : (Option.some type).filter types.contains = some type := by
    rw [Option.filter_some, if_pos hknown]
  unfold typeOf
  simp only [h, Json.str?, hword]
  rfl

theorem contains_of_lookedUp : ∀ entry ∈ lookedUp, types.contains entry.1 := by
  decide

theorem checked_ofFields (c : Given) :
    Checked (ofFields c) ↔ (c.value "ConditionType").isScalar ∧
      ∀ type, c.value "ConditionType" = .str type → LooksUpScalars type c := by
  unfold ofFields
  rw [checked_bind, checked_typeOf]
  refine and_congr_right fun _ => ⟨fun h type htype => ?_, fun h type htype => ?_⟩
  -- Nothing is looked up for a type that is not known.
  · by_cases hknown : types.contains type
    · have hnormal := (checked_bind.mp (h type (typeOf_eq_ok htype hknown))).1
      exact (checked_normal htype).mp hnormal
    · intro entry hentry heq
      subst heq
      exact absurd (contains_of_lookedUp entry hentry) hknown
  · refine checked_bind.mpr ⟨(checked_normal (value_of_typeOf htype)).mpr ?_, fun fields _ => ?_⟩
    · exact h type (value_of_typeOf htype)
    · refine checked_bind.mpr ⟨checked_mapM.mpr ?_, fun _ _ => checked_pure _⟩
      exact eachReached_of_forall (fun _ => checked_entry type _ _) _

theorem checked_toPlist (v : Argument) : Checked (toPlist v) ↔ IsFit v := by
  unfold toPlist
  split
  · next fields =>
    rw [checked_ofFields]
    constructor
    · rintro h c ⟨⟩
      exact h
    · exact fun h => h fields rfl
  · next hne =>
    refine iff_of_true (checked_error.mpr rfl) fun c hc => ?_
    exact absurd hc (hne c)

/-- In a list of conditions each one is looked at up to the first that is refused. -/
theorem checked_listToPlist (items : List Argument) (matching : Argument) :
    Checked (listToPlist items matching) ↔
      ((matching.str?.filter matchings.contains).isSome → EachReached toPlist IsFit items) := by
  unfold listToPlist
  split
  · next hnone =>
    refine iff_of_true (checked_error.mpr rfl) fun hsome => ?_
    rw [hnone] at hsome
    cases hsome
  · next word hword =>
    rw [hword, checked_bind, checked_mapM, EachReached.congr checked_toPlist]
    simp only [Option.isSome_some, forall_const]
    exact and_iff_left fun plists _ => checked_pure _

end Condition
end MacroScribe
