import MacroScribe.Condition.Normal
import MacroScribe.Proofs.Json.Fields
import MacroScribe.Proofs.Outcome

/-!
# MacroScribe.Proofs.Condition.Rules

The rules of the editor, taken apart. Each of them has the same three parts: what it demands of a
condition, how it arranges the fields whatever was demanded, and what it supplies under keys that
are missing (`normal_eq`). What is shown of each rule then holds of the rule for any type
(`ruleOf_cases`).
-/

namespace MacroScribe

open Outcome

/-- Something that has to be a scalar is one, or else the failure is the same. -/
theorem Json.requireScalar_eq_ok {ω : Type} [Described ω] {v : Json ω} :
    v.requireScalar = .ok () ↔ v.isScalar := by
  unfold requireScalar
  cases v.isScalar with
  | true => exact iff_of_true rfl rfl
  | false => exact iff_of_false (by rintro ⟨⟩) Bool.false_ne_true

namespace Condition

open Fields (SameBut)

/-- What a rule of the editor does to the fields of a condition. -/
structure Rule where
  /-- The keys of which the rule decides what is under them. -/
  own : List String
  /-- What is demanded of the condition. -/
  demand : Given → Outcome Unit
  /-- The fields, with those put in place that are not as they should be, and others taken away. -/
  arranged : Given → Given
  /-- What is put under keys that are missing. -/
  supplied : Given → Given

/-- The fields of a condition once the rule is followed. -/
def Rule.settled (r : Rule) (c : Given) : Given :=
  Fields.putAllNew (r.supplied c) (r.arranged c)

/-! ### Windows -/

/-- The fields with an owner of the window: the front application, unless that is denied, and then
some application. -/
def owned (c : Given) : Given :=
  let c := if (c.value "IsFrontApplication").isNull then c.put "IsFrontApplication" (.bool true)
    else c
  if (c.value "IsFrontApplication").truthy then c.erase "Application"
  else if (c.value "Application").truthy then c
  else c.put "Application" (.obj [])

/-- The title that goes with an operator on the front window, if one goes with it. -/
def standardTitle (operator : Argument) : Given :=
  match operator.str? with
  | some op =>
    if titleOperators.contains op then [("FrontWindowTitle", .str "Untitled")]
    else if optionalTitleOperators.contains op then [("FrontWindowTitle", .str "")]
    else []
  | none => []

/-- The title of the window that is meant unless there is one. -/
def suppliedTitle (c : Given) : Given :=
  if isWord (c.value "ConditionType") "FrontWindow" then
    standardTitle (c.value "FrontWindowConditionType")
  else [("AnyWindowTitle", .str "")]

/-- The fields without a title that is not compared. -/
def withoutIdleTitle (c : Given) : Given :=
  if (suppliedTitle c).isEmpty then c.erase "FrontWindowTitle" else c

/-- The operator on the front window is looked up. -/
def demandTitle (c : Given) : Outcome Unit :=
  match c.get? "ConditionType" with
  | none => misused (.missingKey "ConditionType")
  | some type =>
    if isWord type "FrontWindow" then (c.value "FrontWindowConditionType").requireScalar
    else pure ()

/-- Windows have an owner, and the titles that go with what is said about them. -/
def windowRule : Rule where
  own := ["IsFrontApplication", "Application", "FrontWindowTitle", "AnyWindowTitle"]
  demand := demandTitle
  arranged c := withoutIdleTitle (owned c)
  supplied := suppliedTitle

theorem owned_sameBut (c : Given) : SameBut ["IsFrontApplication", "Application"] c (owned c) := by
  unfold owned
  extract_lets c₁
  have h₁ : SameBut ["IsFrontApplication", "Application"] c c₁ :=
    .ite (.put (by simp) _ c) (.refl _ c)
  refine h₁.trans ?_
  exact .ite (.erase (by simp) c₁) (.ite (.refl _ c₁) (.put (by simp) _ c₁))

/-- Neither what is demanded of windows nor what is supplied has to do with their owner. -/
theorem suppliedTitle_eq {c c' : Given} (h : SameBut windowRule.own c c') :
    suppliedTitle c' = suppliedTitle c := by
  unfold suppliedTitle
  rw [h.value_eq (by decide), h.value_eq (by decide)]

theorem demandTitle_eq {c c' : Given} (h : SameBut windowRule.own c c') :
    demandTitle c' = demandTitle c := by
  unfold demandTitle
  rw [h "ConditionType" (by decide), h.value_eq (by decide)]

theorem standardTitle_cases (operator : Argument) : standardTitle operator = [] ∨
    ∃ title, standardTitle operator = [("FrontWindowTitle", .str title)] := by
  unfold standardTitle
  split
  · split
    · exact .inr ⟨_, rfl⟩
    · split
      · exact .inr ⟨_, rfl⟩
      · exact .inl rfl
  · exact .inl rfl

theorem normalWindow_eq (c : Given) :
    normalWindow c = do windowRule.demand c; return windowRule.settled c := by
  unfold normalWindow
  extract_lets c₁ c₂ operator
  have howned : SameBut windowRule.own c c₂ := (owned_sameBut c).mono (by simp [windowRule])
  change _ = do
    demandTitle c
    return Fields.putAllNew (suppliedTitle c) (withoutIdleTitle c₂)
  rw [← demandTitle_eq howned, ← suppliedTitle_eq howned]
  -- From here on it does not matter how the owner was found.
  have hoperator : operator = c₂.value "FrontWindowConditionType" := rfl
  clear_value operator c₂
  cases htype : c₂.get? "ConditionType" with
  | none =>
    simp only [demandTitle, htype]
    rfl
  | some type =>
    have hvalue : c₂.value "ConditionType" = type := by rw [Fields.value, htype, Option.getD_some]
    simp only [demandTitle, suppliedTitle, withoutIdleTitle, htype, hvalue]
    by_cases hfront : isWord type "FrontWindow"
    · simp only [if_pos hfront, hoperator]
      refine congrArg (Json.requireScalar _ >>= ·) (funext fun _ => ?_)
      rcases hword : (c₂.value "FrontWindowConditionType").str? with _ | op
      · simp only [standardTitle, hword]
        rfl
      · simp only [standardTitle, hword]
        by_cases hneeded : titleOperators.contains op
        · simp only [if_pos hneeded]
          rfl
        · by_cases hoptional : optionalTitleOperators.contains op
          · simp only [if_neg hneeded, if_pos hoptional]
            rfl
          · simp only [if_neg hneeded, if_neg hoptional]
            rfl
    · simp only [if_neg hfront]
      rfl

/-! ### Scripts and pixels -/

/-- The list of variables that a script sees, if it is not given. -/
def standardVariables : Argument → Argument
  | .bool true => allVariables
  | _ => .list []

/-- Scripts have a list of the variables that they see. -/
def scriptRule : Rule where
  own := ["includeAllVariables", "IncludedVariables"]
  demand _ := pure ()
  arranged := normalScript
  supplied _ := []

theorem normalScript_eq (c : Given) : normalScript c =
    match Fields.value (c.erase "includeAllVariables") "IncludedVariables" with
    | .list _ => c.erase "includeAllVariables"
    | _ => (c.erase "includeAllVariables").put "IncludedVariables"
        (standardVariables (c.value "includeAllVariables")) := by
  simp only [normalScript, standardVariables]
  split <;> simp_all

/-- The operator on pixels that is looked up, with the one that goes with it. -/
def pixelPair (good : Argument) : String × String :=
  (good.str?.bind fun g => pixelPairs.find? (·.1 == g)).getD ("Is", "IsNot")

/-- The two operators on pixels go together. -/
def pixelRule : Rule where
  own := ["PixelConditionType", "PixelConditionTypeGood"]
  demand c := (c.value "PixelConditionTypeGood").requireScalar
  arranged c :=
    let pair := pixelPair (c.value "PixelConditionTypeGood")
    (c.put "PixelConditionType" (.str pair.2)).put "PixelConditionTypeGood" (.str pair.1)
  supplied _ := []

theorem normalPixel_eq (c : Given) :
    normalPixel c = do pixelRule.demand c; return pixelRule.settled c := rfl

/-! ### Sources of images -/

/-- What text recognition takes away for a source. -/
def ocrDropped (source : Argument) : List String :=
  (source.str?.map ocrIdle).getD [] ++ if isWord source "Image" then ["ImageSource"] else []

/-- Text recognition keeps nothing that has to do with other sources of images than its own. -/
def ocrRule : Rule where
  own := ["ImageSource", "ImagePath", "ImageScreenArea"] ++ clipboardKeys
  demand c := (c.value "ImageSource").requireScalar
  arranged c := c.eraseAll (ocrDropped (c.value "ImageSource"))
  supplied _ := []

theorem normalOcr_eq (c : Given) :
    normalOcr c = do ocrRule.demand c; return ocrRule.settled c := by
  refine congrArg (Json.requireScalar _ >>= ·) (funext fun _ => congrArg pure ?_)
  change _ = c.eraseAll (ocrDropped (c.value "ImageSource"))
  rw [ocrDropped, ← Fields.eraseAll_eraseAll]
  split
  · exact Fields.erase_eq_eraseAll _ _
  · exact (Fields.eraseAll_of_get? (List.forall_mem_nil _)).symm

/-- The fields with an area of the screen: all screens, unless one is given. -/
def withArea (c : Given) : Given :=
  if lacksArea (c.value "ScreenArea") then
    c.put "ScreenArea" (.obj [("type", .str "ScreenAll")])
  else c

/-- An image that comes from the screen comes from the same area, unless another one is given. -/
def withImageArea (c : Given) : Given :=
  if isWord (c.value "ImageSource") "Screen" && !(c.value "ImageScreenArea").truthy then
    c.put "ImageScreenArea" (c.value "ScreenArea")
  else c

/-- What image search takes away for a source. -/
def imageDropped (source : Argument) : List String :=
  "ImageSelection" ::
    if isOwnImage source then ["ImagePath", "ImageSource"] ++ clipboardKeys
    else (source.str?.map screenImageIdle).getD []

/-- Image search has an area, and keeps nothing that has to do with other sources than its own. -/
def imageRule : Rule where
  own := ["ScreenArea", "ImageScreenArea", "ImageSelection", "ImagePath", "ImageSource"] ++
    clipboardKeys ++ ["DisplayMatches", "Fuzz"]
  demand c := (c.value "ImageSource").requireScalar
  arranged c := (withImageArea (withArea c)).eraseAll (imageDropped (c.value "ImageSource"))
  supplied _ := [("DisplayMatches", .bool false), ("Fuzz", .int 0)]

theorem withArea_sameBut (c : Given) : SameBut ["ScreenArea"] c (withArea c) :=
  .ite (.put (by simp) _ c) (.refl _ c)

theorem withImageArea_sameBut (c : Given) : SameBut ["ImageScreenArea"] c (withImageArea c) :=
  .ite (.put (by simp) _ c) (.refl _ c)

theorem withAreas_sameBut (c : Given) :
    SameBut ["ScreenArea", "ImageScreenArea"] c (withImageArea (withArea c)) :=
  ((withArea_sameBut c).mono (by simp)).trans ((withImageArea_sameBut _).mono (by simp))

theorem isScalar_of_isOwnImage {v : Argument} (h : isOwnImage v) : v.isScalar := by
  cases v with
  | list items => cases h
  | obj fields => cases h
  | _ => rfl

/-- An image of the condition itself is not looked up, but its source is a scalar anyway. -/
theorem normalScreenImage_eq (c : Given) :
    normalScreenImage c = do imageRule.demand c; return imageRule.settled c := by
  unfold normalScreenImage
  extract_lets c₁ c₂ c₃ source finish
  have hsource : source = c.value "ImageSource" := by
    change Fields.value (Fields.erase "ImageSelection" c₂) "ImageSource" = _
    rw [Fields.value_erase, if_neg (by decide)]
    exact (withAreas_sameBut c).value_eq (by decide)
  have hselection : c₃ = c₂.eraseAll ["ImageSelection"] := Fields.erase_eq_eraseAll _ _
  have hrest : (do source.requireScalar; return imageRule.settled c) = (do
      source.requireScalar
      finish (c₂.eraseAll (imageDropped source))) := by
    rw [hsource]
    rfl
  change _ = do (c.value "ImageSource").requireScalar; return imageRule.settled c
  rw [← hsource, hrest, imageDropped]
  by_cases hown : isOwnImage source
  · have hscalar := Json.requireScalar_eq_ok.mpr (isScalar_of_isOwnImage hown)
    rw [if_pos hown, if_pos hown, hscalar, hselection, Fields.eraseAll_eraseAll]
    rfl
  · rw [if_neg hown, if_neg hown, hselection, Fields.eraseAll_eraseAll]
    rfl

/-! ### All types of condition -/

/-- Other conditions are left as they are. -/
def noRule : Rule where
  own := []
  demand _ := pure ()
  arranged := id
  supplied _ := []

/-- The rule for a type of condition. -/
def ruleOf (type : String) : Rule :=
  if type = "FrontWindow" ∨ type = "AnyWindow" then windowRule
  else if type = "Script" then scriptRule
  else if type = "Pixel" then pixelRule
  else if type = "OCR" then ocrRule
  else if type = "ScreenImage" then imageRule
  else noRule

/-- What holds of each rule holds of the rule for any type. -/
theorem ruleOf_cases {P : Rule → Prop} (window : P windowRule) (script : P scriptRule)
    (pixel : P pixelRule) (ocr : P ocrRule) (image : P imageRule) (none : P noRule)
    (type : String) : P (ruleOf type) := by
  unfold ruleOf
  split
  · exact window
  · split
    · exact script
    · split
      · exact pixel
      · split
        · exact ocr
        · split
          · exact image
          · exact none

/-- What the editor does to a condition of any type is what the rule for the type says. -/
theorem normal_eq (type : String) (c : Given) :
    normal type c = do (ruleOf type).demand c; return (ruleOf type).settled c := by
  unfold normal ruleOf
  split
  · exact normalWindow_eq c
  · split
    · rfl
    · split
      · exact normalPixel_eq c
      · split
        · exact normalOcr_eq c
        · split
          · exact normalScreenImage_eq c
          · rfl

theorem normal_eq_ok {type : String} {c n : Given} :
    normal type c = .ok n ↔ (ruleOf type).demand c = .ok () ∧ (ruleOf type).settled c = n := by
  rw [normal_eq, bind_eq_ok]
  constructor
  · rintro ⟨_, hdemand, hn⟩
    exact ⟨hdemand, Except.ok.inj hn⟩
  · rintro ⟨hdemand, rfl⟩
    exact ⟨(), hdemand, rfl⟩

end Condition
end MacroScribe
