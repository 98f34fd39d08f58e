import MacroScribe.Proofs.Condition.Rules
import MacroScribe.Proofs.Json.Reordering

/-!
# MacroScribe.Proofs.Condition.Normal

Conditions that are alike have normal forms that are alike (`normal_follows`). The editor's rules
look at a value in few ways: whether it is null or counts as given, which text it is, whether it is
a list. In these a mapping is like its reorderings, and anything else is the same.
-/

namespace MacroScribe.Condition

open Outcome Json
open Fields (Related)

/-- The rule arranges alike what is alike, and finds what it demands and what it supplies the same
there. -/
structure Rule.Respectful (r : Rule) : Prop where
  demand : ∀ {c c' : Given}, Related Alike c c' → r.demand c = .ok () → r.demand c' = .ok ()
  arranged : ∀ {c c' : Given}, Related Alike c c' → Related Alike (r.arranged c) (r.arranged c')
  supplied_eq : ∀ {c c' : Given}, Related Alike c c' → r.supplied c' = r.supplied c
  supplied_scalar : ∀ c, ∀ f ∈ r.supplied c, f.2.isScalar

theorem related_putAllNew {c c' defaults : Given} (h : Related Alike c c')
    (hdefaults : ∀ f ∈ defaults, f.2.isScalar) :
    Related Alike (Fields.putAllNew defaults c) (Fields.putAllNew defaults c') := by
  unfold Fields.putAllNew
  induction defaults generalizing c c' with
  | nil => exact h
  | cons f rest ih =>
    obtain ⟨hf, hrest⟩ := List.forall_mem_cons.mp hdefaults
    exact ih (h.putNew _ (.scalar hf)) hrest

/-- Conditions that are alike are settled alike. -/
theorem Rule.Respectful.settled {r : Rule} (hr : r.Respectful) {c c' : Given}
    (h : Related Alike c c') : Related Alike (r.settled c) (r.settled c') := by
  unfold Rule.settled
  rw [hr.supplied_eq h]
  exact related_putAllNew (hr.arranged h) (hr.supplied_scalar c)

theorem isWord_eq {v w : Argument} (h : Alike v w) (word : String) :
    isWord v word = isWord w word := by
  rw [isWord, isWord, h.str?]

theorem alike_str (s : String) : Alike (.str s : Argument) (.str s) :=
  .scalar rfl

/-- What is looked up is the same, once it is found to be a scalar. -/
theorem requireScalar_of_alike {v w : Argument} (h : Alike v w)
    (hv : v.requireScalar = .ok ()) : w.requireScalar = .ok () := by
  rwa [h.eq_of_isScalar (requireScalar_eq_ok.mp hv)]

/-! ### The rules -/

theorem owned_related {c c' : Given} (h : Related Alike c c') :
    Related Alike (owned c) (owned c') := by
  unfold owned
  extract_lets c₁ d₁
  have h₁ : Related Alike c₁ d₁ :=
    .ite (by rw [(Alike.value h _).isNull]) (h.put _ (.scalar rfl)) h
  have hnone : Orderly (.obj [] : Argument) := .obj List.nodup_nil (List.forall_mem_nil _)
  exact .ite (by rw [(Alike.value h₁ _).truthy]) (h₁.erase _)
    (.ite (by rw [(Alike.value h₁ _).truthy]) h₁ (h₁.put _ (.refl hnone)))

/-- A title that is supplied is a text, and the same on both sides. -/
theorem suppliedTitle_alike {c c' : Given} (h : Related Alike c c') :
    suppliedTitle c' = suppliedTitle c := by
  unfold suppliedTitle standardTitle
  rw [isWord_eq (Alike.value h _), (Alike.value h "FrontWindowConditionType").str?]

theorem demandTitle_alike {c c' : Given} (h : Related Alike c c')
    (hc : demandTitle c = .ok ()) : demandTitle c' = .ok () := by
  have htype := h.get? "ConditionType"
  unfold demandTitle at hc ⊢
  generalize c.get? "ConditionType" = type, c'.get? "ConditionType" = type' at htype hc
  cases htype with
  | none => cases hc
  | some htype =>
    dsimp only at hc ⊢
    rw [← isWord_eq htype]
    split at hc
    · rw [if_pos ‹_›]
      exact requireScalar_of_alike (Alike.value h _) hc
    · rw [if_neg ‹_›]
      rfl

/-- What a rule about windows looks at is the same in data that is alike. -/
theorem windowRule_respectful : windowRule.Respectful := by
  refine ⟨demandTitle_alike, fun h => ?_, suppliedTitle_alike, fun c f hf => ?_⟩
  · have howned := owned_related h
    exact .ite (by rw [suppliedTitle_alike howned]) (howned.erase _) howned
  · change f ∈ suppliedTitle c at hf
    unfold suppliedTitle at hf
    split at hf
    · rcases standardTitle_cases (c.value "FrontWindowConditionType") with h | ⟨title, h⟩
      · rw [h] at hf
        cases hf
      · rw [h] at hf
        obtain rfl := List.mem_singleton.mp hf
        rfl
    · obtain rfl := List.mem_singleton.mp hf
      rfl

theorem alike_list {items : List Argument} (h : ∀ v ∈ items, HoldsNoMapping v) :
    Alike (.list items) (.list items) :=
  .refl (.list h)

theorem alike_standardVariables {v w : Argument} (h : Alike v w) :
    Alike (standardVariables v) (standardVariables w) := by
  have hall : Alike allVariables allVariables :=
    alike_list (List.forall_mem_singleton.mpr (.scalar rfl))
  have hnone : Alike (.list [] : Argument) (.list []) := alike_list (List.forall_mem_nil _)
  obtain rfl | ⟨as, bs, rfl, rfl⟩ := h.eq_or_obj
  · unfold standardVariables
    split
    · exact hall
    · exact hnone
  · exact hnone

/-- The variables of a script are listed alike. -/
theorem normalScript_related {c c' : Given} (h : Related Alike c c') :
    Related Alike (normalScript c) (normalScript c') := by
  have herased := h.erase "includeAllVariables"
  have hput := herased.put "IncludedVariables"
    (alike_standardVariables (Alike.value h "includeAllVariables"))
  rw [normalScript_eq, normalScript_eq]
  obtain heq | ⟨as, bs, has, hbs⟩ := (Alike.value herased "IncludedVariables").eq_or_obj
  · rw [heq]
    split
    · exact herased
    · exact hput
  · rw [has, hbs]
    exact hput

/-- Lists of variables that are alike are equal. -/
theorem scriptRule_respectful : scriptRule.Respectful :=
  ⟨fun _ hc => hc, normalScript_related, fun _ => rfl, fun _ => List.forall_mem_nil _⟩

theorem pixelRule_respectful : pixelRule.Respectful := by
  refine ⟨fun h => requireScalar_of_alike (Alike.value h _), fun {c c'} h => ?_, fun _ => rfl,
    fun _ => List.forall_mem_nil _⟩
  have hpair : pixelPair (c'.value "PixelConditionTypeGood") =
      pixelPair (c.value "PixelConditionTypeGood") := by
    rw [pixelPair, pixelPair, (Alike.value h _).str?]
  change Related Alike (Fields.put _ _ _) (Fields.put _ _ (Fields.put _ _ c'))
  rw [hpair]
  exact (h.put _ (alike_str _)).put _ (alike_str _)

theorem ocrRule_respectful : ocrRule.Respectful := by
  refine ⟨fun h => requireScalar_of_alike (Alike.value h _), fun {c c'} h => ?_, fun _ => rfl,
    fun _ => List.forall_mem_nil _⟩
  have hsource := Alike.value h "ImageSource"
  have hdropped : ocrDropped (c'.value "ImageSource") = ocrDropped (c.value "ImageSource") := by
    rw [ocrDropped, ocrDropped, hsource.str?, isWord_eq hsource]
  change Related Alike (c.eraseAll _) (c'.eraseAll _)
  rw [hdropped]
  exact h.eraseAll _

/-- Whether an area is missing does not depend on the order of its fields. -/
theorem lacksArea_eq {v w : Argument} (h : Alike v w) : lacksArea v = lacksArea w := by
  obtain rfl | ⟨as, bs, rfl, rfl⟩ := h.eq_or_obj
  · rfl
  · rw [lacksArea, lacksArea, (Alike.value h.fields "type").truthy]

theorem isOwnImage_eq {v w : Argument} (h : Alike v w) : isOwnImage v = isOwnImage w := by
  rw [isOwnImage, isOwnImage, h.isNull, isWord_eq h, isWord_eq h]

theorem orderly_allScreens : Orderly (.obj [("type", .str "ScreenAll")] : Argument) :=
  .obj (by simp [Fields.keys]) (List.forall_mem_singleton.mpr (.scalar rfl))

/-- So areas are put in on both sides or on neither. -/
theorem withAreas_related {c c' : Given} (h : Related Alike c c') :
    Related Alike (withImageArea (withArea c)) (withImageArea (withArea c')) := by
  have harea : Related Alike (withArea c) (withArea c') :=
    .ite (by rw [lacksArea_eq (Alike.value h _)]) (h.put _ (.refl orderly_allScreens)) h
  have hsource := Alike.value harea "ImageSource"
  have himage := Alike.value harea "ImageScreenArea"
  exact .ite (by rw [isWord_eq hsource, himage.truthy]) (harea.put _ (Alike.value harea _)) harea

/-- A rule about images looks at the areas and the source. -/
theorem imageRule_respectful : imageRule.Respectful := by
  refine ⟨fun h => requireScalar_of_alike (Alike.value h _), fun {c c'} h => ?_, fun _ => rfl,
    fun _ => ?_⟩
  · have hsource := Alike.value h "ImageSource"
    have hdropped : imageDropped (c'.value "ImageSource") =
        imageDropped (c.value "ImageSource") := by
      rw [imageDropped, imageDropped, hsource.str?, isOwnImage_eq hsource]
    change Related Alike (Fields.eraseAll _ _) (Fields.eraseAll _ (withImageArea (withArea c')))
    rw [hdropped]
    exact (withAreas_related h).eraseAll _
  · exact List.forall_mem_cons.mpr ⟨rfl, List.forall_mem_singleton.mpr rfl⟩

theorem noRule_respectful : noRule.Respectful :=
  ⟨fun _ hc => hc, fun h => h, fun _ => rfl, fun _ => List.forall_mem_nil _⟩

/-- All kinds of conditions have rules that respect the order of keys. -/
theorem ruleOf_respectful (type : String) : (ruleOf type).Respectful :=
  ruleOf_cases windowRule_respectful scriptRule_respectful pixelRule_respectful ocrRule_respectful
    imageRule_respectful noRule_respectful type

/-- Conditions that are alike have normal forms that are alike. -/
theorem normal_follows {c c' n : Given} (h : Related Alike c c') {type : String}
    (hn : normal type c = .ok n) : ∃ n', normal type c' = .ok n' ∧ Related Alike n n' := by
  obtain ⟨hdemand, rfl⟩ := normal_eq_ok.mp hn
  have hrule := ruleOf_respectful type
  exact ⟨_, normal_eq_ok.mpr ⟨hrule.demand h hdemand, rfl⟩, hrule.settled h⟩

end MacroScribe.Condition
