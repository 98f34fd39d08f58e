import MacroScribe.Condition.Basic
import MacroScribe.Proofs.Condition.Rules

/-!
# MacroScribe.Proofs.Condition.Fixed

A condition that follows the rules of the editor is left as it is (`normal_is_settled`). A rule
changes nothing but what is under its own keys, and it chooses what it supplies by other keys. So it
is enough to say of each rule when there is nothing left for it to arrange, and that this is so once
the rule has been followed: which application owns a window, what a script sees, which operators on
pixels go together, and what there is beside the source of an image.
-/

namespace MacroScribe.Condition

open Outcome
open Fields (SameBut)

/-- The rule decides on its own keys only, what it supplies depends on others, and it has nothing to
do where it has been followed. -/
structure Rule.Lawful (r : Rule) : Prop where
  frame : ∀ c, SameBut r.own c (r.arranged c)
  supplied_own : ∀ c, (r.supplied c).keys ⊆ r.own
  supplied_eq : ∀ {c c' : Given}, SameBut r.own c c' → r.supplied c' = r.supplied c
  demand_settled : ∀ c, r.demand c = .ok () → r.demand (r.settled c) = .ok ()
  arranged_settled : ∀ c, r.arranged (r.settled c) = r.settled c

namespace Rule.Lawful

variable {r : Rule} (h : r.Lawful)
include h

/-- Settling a condition changes the fields of its rule only. -/
theorem settled_sameBut (c : Given) : SameBut r.own c (r.settled c) :=
  (h.frame c).trans (.putAllNew (h.supplied_own c) _)

/-- Defaults that are in place are not put in again. -/
theorem settled_settled (c : Given) : r.settled (r.settled c) = r.settled c :=
  calc
    r.settled (r.settled c)
      = Fields.putAllNew (r.supplied (r.settled c)) (r.arranged (r.settled c)) := rfl
    _ = Fields.putAllNew (r.supplied c) (r.settled c) := by
      rw [h.supplied_eq (h.settled_sameBut c), h.arranged_settled]
    _ = r.settled c :=
      Fields.putAllNew_of_mem fun _ hk => Fields.mem_keys_putAllNew.mpr (.inr hk)

end Rule.Lawful

/-! ### Windows -/

/-- The window has an owner, and not two of them. -/
structure IsOwned (c : Given) : Prop where
  decided : (c.value "IsFrontApplication").isNull = false
  front : (c.value "IsFrontApplication").truthy → c.get? "Application" = none
  other : (c.value "IsFrontApplication").truthy = false →
    (c.value "Application").truthy ∨ c.get? "Application" = some (.obj [])

theorem isOwned_owned (c : Given) : IsOwned (owned c) := by
  unfold owned
  extract_lets c₁
  have hdecided : (c₁.value "IsFrontApplication").isNull = false := by
    simp only [c₁]
    split
    · rw [Fields.value_put, if_pos rfl]
      rfl
    · next hnull => simpa using hnull
  split
  · next hfront =>
    have hsame : SameBut ["Application"] c₁ (c₁.erase "Application") := .erase (by simp) c₁
    have hvalue := hsame.value_eq (k := "IsFrontApplication") (by decide)
    refine ⟨hvalue ▸ hdecided, fun _ => ?_, fun hnot => ?_⟩
    · rw [Fields.erase_eq_eraseAll, Fields.get?_eraseAll, if_pos List.mem_cons_self]
    · rw [hvalue, hfront] at hnot
      cases hnot
  · next hfront =>
    split
    · next happlication => exact ⟨hdecided, fun h => absurd h hfront, fun _ => .inl happlication⟩
    · have hsame : SameBut ["Application"] c₁ (c₁.put "Application" (.obj [])) :=
        .put (by simp) _ c₁
      have hvalue := hsame.value_eq (k := "IsFrontApplication") (by decide)
      refine ⟨hvalue ▸ hdecided, fun h => absurd (hvalue ▸ h) hfront, fun _ => .inr ?_⟩
      rw [Fields.get?_put, if_pos rfl]

/-- Whose a window is does not depend on other fields. -/
theorem IsOwned.of_sameBut {keys : List String} {c c' : Given} (hc : IsOwned c)
    (h : SameBut keys c c') (hfront : "IsFrontApplication" ∉ keys) (hother : "Application" ∉ keys) :
    IsOwned c' := by
  obtain ⟨decided, front, other⟩ := hc
  rw [← h.value_eq hfront] at decided front other
  rw [← h.value_eq hother] at other
  rw [← h _ hother] at front other
  exact ⟨decided, front, other⟩

/-- A condition that says whose window it is about is left as it is. -/
theorem owned_of_isOwned {c : Given} (hc : IsOwned c) : owned c = c := by
  unfold owned
  simp only [hc.decided, if_neg Bool.false_ne_true]
  split
  · next hfront => exact Fields.erase_of_get? (hc.front hfront)
  · next hfront =>
    split
    · rfl
    · next happlication =>
      rw [Bool.not_eq_true] at hfront
      exact Fields.put_of_get? ((hc.other hfront).resolve_left happlication)

theorem suppliedTitle_keys (c : Given) :
    (suppliedTitle c).keys ⊆ ["FrontWindowTitle", "AnyWindowTitle"] := by
  unfold suppliedTitle
  split
  · rcases standardTitle_cases (c.value "FrontWindowConditionType") with h | ⟨title, h⟩ <;>
      simp [h, Fields.keys]
  · simp [Fields.keys]

/-- Only the title can go. -/
theorem withoutIdleTitle_sameBut (c : Given) :
    SameBut ["FrontWindowTitle"] c (withoutIdleTitle c) :=
  .ite (.erase (by simp) c) (.refl _ c)

theorem windowRule_frame (c : Given) : SameBut windowRule.own c (windowRule.arranged c) :=
  ((owned_sameBut c).mono (by simp [windowRule])).trans
    ((withoutIdleTitle_sameBut _).mono (by simp [windowRule]))

/-- Where no title is supplied, one that was there has been taken away. -/
theorem no_idleTitle {c : Given} (h : suppliedTitle c = []) :
    (windowRule.settled c).get? "FrontWindowTitle" = none := by
  have howner : SameBut windowRule.own c (owned c) := (owned_sameBut c).mono (by simp [windowRule])
  have hidle : (suppliedTitle (owned c)).isEmpty := by rw [suppliedTitle_eq howner, h]; rfl
  change (Fields.putAllNew (suppliedTitle c) (withoutIdleTitle (owned c))).get? _ = none
  rw [h, withoutIdleTitle, if_pos hidle, Fields.erase_eq_eraseAll, Fields.get?_putAllNew,
    Fields.get?_eraseAll, if_pos List.mem_cons_self]
  rfl

/-- A window that is owned stays so, and its title is there or gone for good. -/
theorem windowRule_lawful : windowRule.Lawful := by
  have hown (c : Given) : (suppliedTitle c).keys ⊆ windowRule.own :=
    List.Subset.trans (suppliedTitle_keys c) (by simp [windowRule])
  have hsettled (c : Given) : SameBut windowRule.own c (windowRule.settled c) :=
    (windowRule_frame c).trans (.putAllNew (hown c) _)
  refine ⟨windowRule_frame, hown, suppliedTitle_eq, fun c hc => ?_, fun c => ?_⟩
  · exact (demandTitle_eq (hsettled c)).trans hc
  · have htitle : SameBut ["FrontWindowTitle", "AnyWindowTitle"] (owned c) (windowRule.settled c) :=
      ((withoutIdleTitle_sameBut _).mono (by simp)).trans (.putAllNew (suppliedTitle_keys c) _)
    have howned := (isOwned_owned c).of_sameBut htitle (by decide) (by decide)
    change withoutIdleTitle (owned (windowRule.settled c)) = _
    rw [owned_of_isOwned howned, withoutIdleTitle, suppliedTitle_eq (hsettled c)]
    split
    · next hnone => exact Fields.erase_of_get? (no_idleTitle (List.isEmpty_iff.mp hnone))
    · rfl

/-! ### Scripts and pixels -/

theorem scriptRule_frame (c : Given) : SameBut scriptRule.own c (normalScript c) := by
  have herased : SameBut scriptRule.own c (c.erase "includeAllVariables") :=
    .erase (by simp [scriptRule]) c
  rw [normalScript_eq]
  split
  · exact herased
  · exact herased.trans (.put (by simp [scriptRule]) _ _)

/-- A script has a list of variables then, and does not say otherwise which ones it sees. -/
theorem normalScript_lists (c : Given) : (normalScript c).get? "includeAllVariables" = none ∧
    ∃ items, (normalScript c).value "IncludedVariables" = .list items := by
  have herased : (c.erase "includeAllVariables").get? "includeAllVariables" = none := by
    rw [Fields.erase_eq_eraseAll, Fields.get?_eraseAll, if_pos List.mem_cons_self]
  rw [normalScript_eq]
  split
  · next items hitems => exact ⟨herased, items, hitems⟩
  · rw [Fields.get?_put_of_ne (by decide), Fields.value_put, if_pos rfl]
    refine ⟨herased, ?_⟩
    unfold standardVariables
    split <;> exact ⟨_, rfl⟩

/-- Variables that are listed are left as they are. -/
theorem normalScript_of_lists {c : Given} (hall : c.get? "includeAllVariables" = none)
    {items : List Argument} (hitems : c.value "IncludedVariables" = .list items) :
    normalScript c = c := by
  rw [normalScript_eq, Fields.erase_of_get? hall, hitems]

/-- The list of variables that is put in is one that is left alone. -/
theorem scriptRule_lawful : scriptRule.Lawful := by
  refine ⟨scriptRule_frame, fun _ => List.nil_subset _, fun _ => rfl, fun _ h => h, fun c => ?_⟩
  obtain ⟨hall, items, hitems⟩ := normalScript_lists c
  exact normalScript_of_lists hall hitems

theorem pixelRule_frame (c : Given) : SameBut pixelRule.own c (pixelRule.arranged c) :=
  .trans (.put (by simp [pixelRule]) _ _) (.put (by simp [pixelRule]) _ _)

/-- The operator that is found is found again. -/
theorem pixelPair_fst (good : Argument) :
    pixelPair (.str (pixelPair good).1) = pixelPair good := by
  unfold pixelPair
  cases hfind : good.str?.bind fun g => pixelPairs.find? (·.1 == g) with
  | none => rfl
  | some pair =>
    obtain ⟨g, -, hpair⟩ := Option.bind_eq_some_iff.mp hfind
    have hg : pair.1 = g := by simpa using List.find?_some hpair
    simp only [Option.getD_some, Json.str?, Option.bind_some, hg, hpair]

theorem pixelRule_lawful : pixelRule.Lawful := by
  refine ⟨pixelRule_frame, fun _ => List.nil_subset _, fun _ => rfl, fun c _ => ?_, fun c => ?_⟩
  · change (Fields.value (Fields.put _ _ _) _).requireScalar = _
    rw [Fields.value_put, if_pos rfl]
    rfl
  · generalize hn : pixelRule.settled c = n
    have hgood : n.get? "PixelConditionTypeGood" =
        some (.str (pixelPair (c.value "PixelConditionTypeGood")).1) := by
      rw [← hn]
      exact (Fields.get?_put _ _ _ _).trans (if_pos rfl)
    have hbad : n.get? "PixelConditionType" =
        some (.str (pixelPair (c.value "PixelConditionTypeGood")).2) := by
      rw [← hn]
      exact (Fields.get?_put_of_ne (by decide) _ _).trans
        ((Fields.get?_put _ _ _ _).trans (if_pos rfl))
    have hpair : pixelPair (n.value "PixelConditionTypeGood") =
        pixelPair (c.value "PixelConditionTypeGood") := by
      rw [Fields.value, hgood, Option.getD_some, pixelPair_fst]
    change Fields.put _ _ (Fields.put _ _ n) = n
    rw [hpair, Fields.put_of_get? hbad, Fields.put_of_get? hgood]

/-! ### Sources of images -/

/-- What a source takes away is not there afterwards, and neither is what would be taken away for
the source that is left, since no other source has taken its own place. -/
theorem get?_of_dropped {dropped : Argument → List String}
    (hnull : ∀ v, "ImageSource" ∈ dropped v → dropped .null ⊆ dropped v) {c n : Given}
    (hn : n = c.eraseAll (dropped (c.value "ImageSource"))) :
    ∀ k ∈ dropped (n.value "ImageSource"), n.get? k = none := by
  subst hn
  intro k hk
  rw [Fields.value_eraseAll] at hk
  rw [Fields.get?_eraseAll]
  split at hk
  · next hsource => exact if_pos (hnull _ hsource hk)
  · exact if_pos hk

/-- A source that is a scalar is one after others keys are taken away, or it is taken away. -/
theorem isScalar_eraseAll {c : Given} {k : String} (h : (c.value k).isScalar) (names : List String) :
    (Fields.value (c.eraseAll names) k).isScalar := by
  rw [Fields.value_eraseAll]
  split
  · rfl
  · exact h

/-- What is dropped for a source are fields of the rule. -/
theorem ocrDropped_subset (source : Argument) : ocrDropped source ⊆ ocrRule.own := by
  have hidle (s : String) : ocrIdle s ⊆ ocrRule.own := by
    unfold ocrIdle
    repeat' split
    all_goals simp [ocrRule, clipboardKeys]
  refine List.append_subset.mpr ⟨?_, ?_⟩
  · cases source.str? with
    | none => exact List.nil_subset _
    | some s => exact hidle s
  · split
    · simp [ocrRule]
    · exact List.nil_subset _

/-- Once what a source has no use for is dropped, nothing more is. -/
theorem ocrRule_lawful : ocrRule.Lawful := by
  refine ⟨fun c => .eraseAll (ocrDropped_subset _) c, fun _ => List.nil_subset _, fun _ => rfl,
    fun c hc => ?_, fun c => ?_⟩
  · have hscalar := Json.requireScalar_eq_ok.mp hc
    exact Json.requireScalar_eq_ok.mpr (isScalar_eraseAll hscalar _)
  · have hnull (v : Argument) (_ : "ImageSource" ∈ ocrDropped v) :
        ocrDropped .null ⊆ ocrDropped v := List.nil_subset _
    exact Fields.eraseAll_of_get? (get?_of_dropped hnull rfl)

theorem screenImageIdle_subset (source : String) :
    screenImageIdle source ⊆ "ImagePath" :: clipboardKeys := by
  unfold screenImageIdle
  repeat' split
  all_goals simp [clipboardKeys]

theorem imageDropped_subset (source : Argument) :
    imageDropped source ⊆ ["ImageSelection", "ImagePath", "ImageSource"] ++ clipboardKeys := by
  refine List.cons_subset.mpr ⟨by simp, ?_⟩
  split
  · simp [clipboardKeys]
  · cases source.str? with
    | none => exact List.nil_subset _
    | some s => exact List.Subset.trans (screenImageIdle_subset s) (by simp [clipboardKeys])

/-- Only the source of an image of the condition itself is taken away. -/
theorem imageDropped_null (source : Argument) (h : "ImageSource" ∈ imageDropped source) :
    imageDropped .null ⊆ imageDropped source := by
  have hown : isOwnImage (.null : Argument) := rfl
  unfold imageDropped at h ⊢
  split at h
  · next himage =>
    rw [if_pos hown, if_pos himage]
    exact List.Subset.refl _
  · refine absurd h ?_
    cases source.str? with
    | none => simp
    | some s =>
      intro hmem
      have hidle := (List.mem_cons.mp hmem).resolve_left (by decide)
      exact absurd (screenImageIdle_subset s hidle) (by decide)

/-- The areas of the screen that an image search needs are there. -/
structure HasAreas (c : Given) : Prop where
  area : lacksArea (c.value "ScreenArea") = false
  image : isWord (c.value "ImageSource") "Screen" → (c.value "ImageScreenArea").truthy

/-- An area that is there is not empty. -/
theorem truthy_of_hasArea {v : Argument} (h : lacksArea v = false) : v.truthy := by
  cases v with
  | obj fields =>
    cases fields with
    | nil => cases h
    | cons f rest => rfl
  | _ => simpa [lacksArea] using h

theorem hasAreas_withAreas (c : Given) : HasAreas (withImageArea (withArea c)) := by
  have harea : lacksArea ((withArea c).value "ScreenArea") = false := by
    unfold withArea
    split
    · rw [Fields.value_put, if_pos rfl]
      rfl
    · next h => simpa using h
  have hsame := withImageArea_sameBut (withArea c)
  refine ⟨?_, ?_⟩
  · rw [hsame.value_eq (by decide)]
    exact harea
  · rw [hsame.value_eq (by decide)]
    intro hscreen
    unfold withImageArea
    split
    · rw [Fields.value_put, if_pos rfl]
      exact truthy_of_hasArea harea
    · next h => simpa [hscreen] using h

/-- Areas that are there are left as they are. -/
theorem withAreas_of_hasAreas {c : Given} (h : HasAreas c) : withImageArea (withArea c) = c := by
  have hno : ¬(isWord (c.value "ImageSource") "Screen" && !(c.value "ImageScreenArea").truthy) := by
    simpa using h.image
  rw [withArea, h.area, if_neg Bool.false_ne_true, withImageArea, if_neg hno]

theorem imageRule_frame (c : Given) : SameBut imageRule.own c (imageRule.arranged c) :=
  ((withAreas_sameBut c).mono (by simp [imageRule])).trans
    (.eraseAll (List.Subset.trans (imageDropped_subset _)
      (by simp [imageRule, clipboardKeys])) _)

/-- Taking away what goes with the source leaves the areas. -/
theorem HasAreas.eraseAll {c : Given} (h : HasAreas c) (source : Argument) :
    HasAreas (c.eraseAll (imageDropped source)) := by
  have hne {k : String} (hk : k ∉ ["ImageSelection", "ImagePath", "ImageSource"] ++ clipboardKeys) :
      k ∉ imageDropped source := mt (imageDropped_subset source ·) hk
  refine ⟨?_, fun hscreen => ?_⟩
  · rw [Fields.value_eraseAll, if_neg (hne (by decide))]
    exact h.area
  · rw [Fields.value_eraseAll] at hscreen
    split at hscreen
    · cases hscreen
    · rw [Fields.value_eraseAll, if_neg (hne (by decide))]
      exact h.image hscreen

/-- Whether the areas are there depends on three fields. -/
theorem HasAreas.of_sameBut {keys : List String} {c n : Given} (hc : HasAreas c)
    (h : SameBut keys c n) (harea : "ScreenArea" ∉ keys) (himage : "ImageScreenArea" ∉ keys)
    (hsource : "ImageSource" ∉ keys) : HasAreas n := by
  obtain ⟨area, image⟩ := hc
  rw [← h.value_eq harea] at area
  rw [← h.value_eq hsource, ← h.value_eq himage] at image
  exact ⟨area, image⟩

/-- The areas that are put in stay, and what is dropped does not come back. -/
theorem imageRule_lawful : imageRule.Lawful := by
  have hkeys (c : Given) : (imageRule.supplied c).keys ⊆ ["DisplayMatches", "Fuzz"] :=
    List.Subset.refl _
  have hsame (c : Given) : SameBut ["DisplayMatches", "Fuzz"] (imageRule.arranged c)
      (imageRule.settled c) := .putAllNew (hkeys c) _
  have hsource (c : Given) : (withImageArea (withArea c)).value "ImageSource" =
      c.value "ImageSource" := (withAreas_sameBut c).value_eq (by decide)
  refine ⟨imageRule_frame, fun _ => by simp [imageRule, Fields.keys, clipboardKeys], fun _ => rfl,
    fun c hc => ?_, fun c => ?_⟩
  · have hscalar := Json.requireScalar_eq_ok.mp hc
    refine Json.requireScalar_eq_ok.mpr ?_
    rw [(hsame c).value_eq (by decide)]
    exact isScalar_eraseAll (hsource c ▸ hscalar) _
  · have hareas : HasAreas (imageRule.settled c) :=
      ((hasAreas_withAreas c).eraseAll _).of_sameBut (hsame c) (by decide) (by decide) (by decide)
    have hdropped := get?_of_dropped imageDropped_null (c := withImageArea (withArea c))
      (n := imageRule.arranged c) (by rw [hsource]; rfl)
    change Fields.eraseAll _ (withImageArea (withArea (imageRule.settled c))) = _
    rw [withAreas_of_hasAreas hareas]
    refine Fields.eraseAll_of_get? fun k hk => ?_
    have hother : ∀ k ∈ ["ImageSelection", "ImagePath", "ImageSource"] ++ clipboardKeys,
        k ∉ ["DisplayMatches", "Fuzz"] := by decide
    rw [hsame c k (hother k (imageDropped_subset _ hk))]
    rw [(hsame c).value_eq (by decide)] at hk
    exact hdropped k hk

theorem noRule_lawful : noRule.Lawful :=
  ⟨.refl [], fun _ => List.nil_subset _, fun _ => rfl, fun _ h => h, fun _ => rfl⟩

/-- So all kinds of conditions have lawful rules. -/
theorem ruleOf_lawful (type : String) : (ruleOf type).Lawful :=
  ruleOf_cases windowRule_lawful scriptRule_lawful pixelRule_lawful ocrRule_lawful imageRule_lawful
    noRule_lawful type

/-! ### Conditions -/

/-- No rule decides on the type of a condition. -/
theorem conditionType_not_own (type : String) : "ConditionType" ∉ (ruleOf type).own :=
  ruleOf_cases (P := fun r => "ConditionType" ∉ r.own) (by decide) (by decide) (by decide)
    (by decide) (by decide) (by decide) type

/-- The type of a condition is the value of one field. -/
theorem typeOf_congr {c c' : Given} (h : c'.value "ConditionType" = c.value "ConditionType") :
    typeOf c' = typeOf c := by
  simp only [typeOf, h]

/-- A condition that is settled already is written like the one that it comes from. -/
theorem toPlist_of_normal {type : String} {c n : Given} (hn : normal type n = .ok n)
    (hc : normal type c = .ok n) (htypes : typeOf n = typeOf c)
    (htype : ∀ t, typeOf c = .ok t → t = type) : toPlist (.obj n) = toPlist (.obj c) := by
  change ofFields n = ofFields c
  unfold ofFields
  rw [htypes]
  cases ht : typeOf c with
  | error f => rfl
  | ok t =>
    obtain rfl := htype t ht
    change (normal t n >>= _) = (normal t c >>= _)
    rw [hn, hc]

/-- What the editor does to a condition it does not do again: the result is left as it is and has
the value that the condition has. Keys on which the rule for the type does not decide have what they
had. -/
theorem normal_is_settled {type : String} {c n : Given} (h : normal type c = .ok n) :
    normal type n = .ok n ∧
      ((∀ t, typeOf c = .ok t → t = type) → toPlist (.obj n) = toPlist (.obj c)) ∧
      ∀ key ∉ (ruleOf type).own, n.get? key = c.get? key := by
  have hlawful := ruleOf_lawful type
  obtain ⟨hdemand, rfl⟩ := normal_eq_ok.mp h
  have hsame := hlawful.settled_sameBut c
  have hagain : normal type ((ruleOf type).settled c) = .ok ((ruleOf type).settled c) :=
    normal_eq_ok.mpr ⟨hlawful.demand_settled c hdemand, hlawful.settled_settled c⟩
  refine ⟨hagain, fun htype => ?_, fun key hkey => hsame key hkey⟩
  exact toPlist_of_normal hagain h (typeOf_congr (hsame.value_eq (conditionType_not_own type))) htype

/-- An image search that still names a file, though the image is its own. -/
def staleSearch : Given :=
  [("ImageSource", .str "Image"), ("ConditionType", .str "ScreenImage"), ("Fuzz", .int 12),
   ("ImagePath", .str "/tmp/x.png"), ("ScreenImageConditionType", .str "Contains")]

def settledSearch : Given :=
  [("ConditionType", .str "ScreenImage"), ("Fuzz", .int 12),
   ("ScreenImageConditionType", .str "Contains"),
   ("ScreenArea", .obj [("type", .str "ScreenAll")]), ("DisplayMatches", .bool false)]

theorem normal_is_settled_staleSearch :
    normal "ScreenImage" staleSearch = .ok settledSearch ∧
      normal "ScreenImage" settledSearch = .ok settledSearch ∧
      toPlist (.obj settledSearch) = toPlist (.obj staleSearch) ∧
      settledSearch.get? "ScreenImageConditionType" = some (.str "Contains") := by
  have hnormal : normal "ScreenImage" staleSearch = .ok settledSearch := rfl
  have htype : typeOf staleSearch = .ok "ScreenImage" := rfl
  obtain ⟨hagain, hvalue, hother⟩ := normal_is_settled hnormal
  refine ⟨hnormal, hagain, hvalue fun t ht => ?_, hother _ (by decide)⟩
  exact Except.ok.inj (ht.symm.trans htype)

end MacroScribe.Condition
