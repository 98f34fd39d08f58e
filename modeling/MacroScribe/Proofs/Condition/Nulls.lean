import MacroScribe.Proofs.Condition.Checks
import MacroScribe.Proofs.Condition.Fixed
import MacroScribe.Proofs.Condition.Order

/-!
# MacroScribe.Proofs.Condition.Nulls

Where it makes a difference that a key is null and not missing (`toPlist_null_iff`). The rules of
the editor arrange fields by their values, and a null value is left out when a condition is written.
But what a rule supplies it only supplies under keys that are missing, and then a null value stays
in its place: nothing is written where something would be written otherwise.
-/

namespace MacroScribe.Condition

open Outcome Plist
open Fields (SameBut SameValues)

/-! ### Entries that are gathered -/

section Gathered

variable {ε α β : Type} {f : α → Except ε (List β)} {p : α → Bool} {as : List α}

/-- What the computations for the items of a list give, put together. -/
def gathered (f : α → Except ε (List β)) (as : List α) : Except ε (List β) := do
  return (← as.mapM f).flatten

theorem gathered_cons (a : α) : gathered f (a :: as) = do
    let here ← f a
    return here ++ (← gathered f as) := by
  simp only [gathered, List.mapM_cons, bind_assoc, pure_bind, List.flatten_cons]

/-- Items for which nothing is gathered might as well be left out. -/
theorem gathered_filter (h : ∀ a ∈ as, p a = false → f a = .ok []) :
    gathered f (as.filter p) = gathered f as := by
  induction as with
  | nil => rfl
  | cons a as ih =>
    obtain ⟨ha, has⟩ := List.forall_mem_cons.mp h
    rw [List.filter_cons]
    split
    · rw [gathered_cons, gathered_cons, ih has]
    · next hp =>
      rw [gathered_cons, ha (by simpa using hp), ih has]
      cases gathered f as <;> rfl

/-- Leaving out items for which something is gathered does not change which failure there is. -/
theorem gathered_filter_eq_error (h : ∀ a ∈ as, p a = false → Passes (f a)) {e : ε} :
    gathered f (as.filter p) = .error e ↔ gathered f as = .error e := by
  induction as with
  | nil => rfl
  | cons a as ih =>
    obtain ⟨ha, has⟩ := List.forall_mem_cons.mp h
    have hcons (bs : List α) : gathered f (a :: bs) = .error e ↔
        f a = .error e ∨ (∃ here, f a = .ok here) ∧ gathered f bs = .error e := by
      rw [gathered_cons, bind_eq_error]
      refine or_congr_right ?_
      rw [← exists_and_right]
      refine exists_congr fun here => and_congr_right fun _ => ?_
      cases gathered f bs <;> simp [bind, Except.bind, pure, Except.pure]
    rw [List.filter_cons]
    split
    · rw [hcons, hcons, ih has]
    · next hp =>
      obtain ⟨here, hhere⟩ := ha (by simpa using hp)
      rw [hcons, ih has]
      simp [hhere]

end Gathered

/-! ### Written fields -/

/-- The value of a condition of a type with these fields, in this order. -/
def written (type : String) (fields : Given) : Outcome Plist :=
  dict <$> gathered (fun f => entry type f.1 f.2) fields

/-- The value of a condition of a type with these fields, where no rule is left to be followed. -/
def rendered (type : String) (fields : Given) : Outcome Plist :=
  written type (conditionOrder (·.1) fields)

theorem ofFields_of_typeOf {c : Given} {type : String} (h : typeOf c = .ok type) :
    ofFields c = (do
      (ruleOf type).demand c
      rendered type ((ruleOf type).settled c)) := by
  unfold ofFields
  rw [h]
  change (do let fields ← normal type c; _) = _
  simp only [rendered, written, gathered, normal_eq, bind_assoc, pure_bind, map_bind, map_pure]

theorem keys_of_written {type : String} {fields : Given} {p : Plist}
    (h : written type fields = .ok p) : ∃ entries, p = dict entries ∧
      entries.map (·.1) = Fields.keys (fields.filter fun f => isWritten type f.1 f.2) := by
  unfold written gathered at h
  obtain ⟨entries, hentries, rfl⟩ := map_eq_ok.mp h
  obtain ⟨items, hitems, hflatten⟩ := bind_eq_ok.mp hentries
  obtain rfl := Except.ok.inj hflatten
  exact ⟨_, rfl, entries_keys hitems⟩

/-- Where each key is there once, it does not matter which keys are null and which are missing. -/
theorem rendered_of_sameValues {type : String} {as bs : Given} (has : as.keys.Nodup)
    (hbs : bs.keys.Nodup) (h : SameValues as bs) : rendered type bs = rendered type as := by
  let given (f : String × Argument) : Bool := !f.2.isNull
  have hgiven (fields : Given) (hfields : fields.keys.Nodup) :
      rendered type fields = rendered type (fields.filter given) := by
    rw [rendered, rendered, conditionOrder_filter hfields, written, written]
    refine congrArg (dict <$> ·) (gathered_filter fun f _ hf => ?_).symm
    have hnull : f.2.isNull := by simpa [given] using hf
    unfold entry
    exact if_pos hnull
  have hrelated : Fields.Related Eq (as.filter given) (bs.filter given) := by
    refine ⟨Fields.nodup_keys_filter has _, Fields.nodup_keys_filter hbs _, fun k => ?_⟩
    have hvalue (fields : Given) (hfields : fields.keys.Nodup) :
        Fields.get? (fields.filter given) k = (some (fields.value k)).filter (!·.isNull) := by
      rw [Fields.get?_filter_of_nodup hfields, Fields.value]
      cases fields.get? k <;> rfl
    rw [hvalue as has, hvalue bs hbs, h k]
    exact Fields.rel_refl (fun _ => rfl) _
  rw [hgiven as has, hgiven bs hbs]
  exact congrArg (written type) (eq_of_related (conditionOrder_related hrelated)).symm

/-- Taking away a field that is written makes a difference just where all the others can be written
as well. -/
theorem rendered_erase_iff {type key : String} {v : Argument} {fields : Given}
    (hfields : fields.keys.Nodup) (hv : fields.get? key = some v) (hwritten : isWritten type key v)
    (hentry : Passes (entry type key v)) :
    rendered type (fields.erase key) = rendered type fields ↔ ¬Passes (rendered type fields) := by
  have hone : ∀ f ∈ conditionOrder (·.1) fields, (f.1 != key) = false →
      Passes (entry type f.1 f.2) := by
    intro f hf hkey
    have hkey : f.1 = key := by simpa using hkey
    have hf := Fields.get?_of_mem hfields ((mem_conditionOrder hfields).mp hf)
    rw [hkey, hv] at hf
    rw [hkey, ← Option.some.inj hf]
    exact hentry
  have herased : rendered type (fields.erase key) =
      written type ((conditionOrder (·.1) fields).filter (·.1 != key)) :=
    congrArg (written type) (conditionOrder_filter hfields _)
  cases h : rendered type fields with
  | error e =>
    refine iff_of_true ?_ ?_
    · rw [herased]
      exact map_eq_error.mpr ((gathered_filter_eq_error hone).mpr (map_eq_error.mp h))
    · rintro ⟨p, ⟨⟩⟩
  | ok p =>
    -- The keys that are written tell the two apart.
    refine iff_of_false (fun heq => ?_) (not_not_intro ⟨p, rfl⟩)
    obtain ⟨entries, rfl, hkeys⟩ := keys_of_written h
    obtain ⟨entries', hdict, hkeys'⟩ := keys_of_written (herased ▸ heq)
    obtain rfl := Plist.dict.inj hdict
    have hmem : key ∈ entries.map (·.1) := by
      rw [hkeys]
      have hf := (mem_conditionOrder hfields).mpr (Fields.mem_of_get? hv)
      exact List.mem_map.mpr ⟨(key, v), List.mem_filter.mpr ⟨hf, hwritten⟩, rfl⟩
    rw [hkeys'] at hmem
    obtain ⟨f, hf, rfl⟩ := List.mem_map.mp hmem
    simpa using (List.mem_filter.mp (List.mem_filter.mp hf).1).2

/-! ### Rules and values -/

/-- A value that is written for what it is. -/
def IsPlain : Argument → Prop
  | .bool _ | .int _ | .str _ => True
  | _ => False

/-- The rule follows the values of a condition. What it may supply are plain values, and what is
under their keys is not arranged. -/
structure Rule.ByValue (r : Rule) : Prop where
  demand_eq : ∀ {c c' : Given}, SameValues c c' →
    c'.get? "ConditionType" = c.get? "ConditionType" → r.demand c' = r.demand c
  arranged : ∀ {c c' : Given}, SameValues c c' → SameValues (r.arranged c) (r.arranged c')
  supplied_eq : ∀ {c c' : Given}, SameValues c c' → r.supplied c' = r.supplied c
  supplied_kept : ∀ c, ∀ k ∈ (r.supplied c).keys, (r.arranged c).get? k = c.get? k
  supplied_plain : ∀ c, ∀ f ∈ r.supplied c, f.1 ∉ areaKeys ∧ f.1 ≠ "Pressed" ∧ IsPlain f.2

theorem owned_sameValues {c c' : Given} (h : SameValues c c') :
    SameValues (owned c) (owned c') := by
  unfold owned
  extract_lets c₁ d₁
  have h₁ : SameValues c₁ d₁ := .ite (by rw [h]) (h.put _ _) h
  exact .ite (by rw [h₁]) (h₁.erase _) (.ite (by rw [h₁]) h₁ (h₁.put _ _))

theorem suppliedTitle_sameValues {c c' : Given} (h : SameValues c c') :
    suppliedTitle c' = suppliedTitle c := by
  simp only [suppliedTitle, h "ConditionType", h "FrontWindowConditionType"]

/-- Where a title is supplied, none is taken away. -/
theorem windowRule_supplied_kept (c : Given) :
    ∀ k ∈ (suppliedTitle c).keys, (withoutIdleTitle (owned c)).get? k = c.get? k := by
  intro k hk
  have howner : SameBut windowRule.own c (owned c) := (owned_sameBut c).mono (by simp [windowRule])
  have hsome : ¬(suppliedTitle (owned c)).isEmpty := by
    rw [suppliedTitle_eq howner, List.isEmpty_iff]
    intro hnone
    rw [hnone] at hk
    cases hk
  have hother : ∀ k ∈ ["FrontWindowTitle", "AnyWindowTitle"],
      k ∉ ["IsFrontApplication", "Application"] := by decide
  rw [withoutIdleTitle, if_neg hsome]
  exact owned_sameBut c k (hother k (suppliedTitle_keys c hk))

theorem suppliedTitle_plain (c : Given) :
    ∀ f ∈ suppliedTitle c, f.1 ∉ areaKeys ∧ f.1 ≠ "Pressed" ∧ IsPlain f.2 := by
  unfold suppliedTitle
  split
  · rcases standardTitle_cases (c.value "FrontWindowConditionType") with h | ⟨title, h⟩
    · rw [h]
      exact List.forall_mem_nil _
    · rw [h]
      exact List.forall_mem_singleton.mpr ⟨by simp [areaKeys], by simp, trivial⟩
  · exact List.forall_mem_singleton.mpr ⟨by decide, by decide, trivial⟩

theorem windowRule_byValue : windowRule.ByValue where
  demand_eq h htype := by
    simp only [windowRule, demandTitle, htype, h "FrontWindowConditionType"]
  arranged h := by
    have howned := owned_sameValues h
    exact .ite (by rw [suppliedTitle_sameValues howned]) (howned.erase _) howned
  supplied_eq := suppliedTitle_sameValues
  supplied_kept := windowRule_supplied_kept
  supplied_plain := suppliedTitle_plain

theorem scriptRule_byValue : scriptRule.ByValue where
  demand_eq _ _ := rfl
  arranged {c c'} h := by
    have herased := h.erase "includeAllVariables"
    change SameValues (normalScript c) (normalScript c')
    rw [normalScript_eq, normalScript_eq, herased "IncludedVariables", h "includeAllVariables"]
    split
    · exact herased
    · exact herased.put _ _
  supplied_eq _ := rfl
  supplied_kept _ := List.forall_mem_nil _
  supplied_plain _ := List.forall_mem_nil _

theorem pixelRule_byValue : pixelRule.ByValue where
  demand_eq h _ := by simp only [pixelRule, h "PixelConditionTypeGood"]
  arranged h := by
    simp only [pixelRule, h "PixelConditionTypeGood"]
    exact (h.put _ _).put _ _
  supplied_eq _ := rfl
  supplied_kept _ := List.forall_mem_nil _
  supplied_plain _ := List.forall_mem_nil _

theorem ocrRule_byValue : ocrRule.ByValue where
  demand_eq h _ := by simp only [ocrRule, h "ImageSource"]
  arranged h := by
    simp only [ocrRule, h "ImageSource"]
    exact h.eraseAll _
  supplied_eq _ := rfl
  supplied_kept _ := List.forall_mem_nil _
  supplied_plain _ := List.forall_mem_nil _

theorem withAreas_sameValues {c c' : Given} (h : SameValues c c') :
    SameValues (withImageArea (withArea c)) (withImageArea (withArea c')) := by
  have harea : SameValues (withArea c) (withArea c') := .ite (by rw [h]) (h.put _ _) h
  unfold withImageArea
  rw [harea "ImageSource", harea "ImageScreenArea", harea "ScreenArea"]
  exact .ite Iff.rfl (harea.put _ _) harea

theorem imageRule_byValue : imageRule.ByValue where
  demand_eq h _ := by simp only [imageRule, h "ImageSource"]
  arranged h := by
    simp only [imageRule, h "ImageSource"]
    exact (withAreas_sameValues h).eraseAll _
  supplied_eq _ := rfl
  supplied_kept c k hk := by
    have hother : ∀ k ∈ ["DisplayMatches", "Fuzz"], k ∉ ["ScreenArea", "ImageScreenArea"] ∧
        k ∉ ["ImageSelection", "ImagePath", "ImageSource"] ++ clipboardKeys := by decide
    obtain ⟨harea, hdropped⟩ := hother k hk
    change Fields.get? (Fields.eraseAll _ _) k = _
    rw [Fields.get?_eraseAll, if_neg (mt (imageDropped_subset _ ·) hdropped)]
    exact withAreas_sameBut c k harea
  supplied_plain _ := List.forall_mem_cons.mpr ⟨⟨by decide, by decide, trivial⟩,
    List.forall_mem_singleton.mpr ⟨by decide, by decide, trivial⟩⟩

theorem noRule_byValue : noRule.ByValue where
  demand_eq _ _ := rfl
  arranged h := h
  supplied_eq _ := rfl
  supplied_kept _ := List.forall_mem_nil _
  supplied_plain _ := List.forall_mem_nil _

theorem ruleOf_byValue (type : String) : (ruleOf type).ByValue :=
  ruleOf_cases windowRule_byValue scriptRule_byValue pixelRule_byValue ocrRule_byValue
    imageRule_byValue noRule_byValue type

/-! ### Null values -/

theorem entry_plain (type : String) {key : String} {v : Argument} (harea : key ∉ areaKeys)
    (hpressed : key ≠ "Pressed") (hv : IsPlain v) :
    isWritten type key v ∧ Passes (entry type key v) := by
  have hnull : v.isNull = false := by cases v <;> first | rfl | cases hv
  have hleaf : Passes (leaf v) := by cases v <;> first | exact ⟨_, rfl⟩ | cases hv
  have hobj : ∀ fields, v ≠ .obj fields := by
    rintro fields rfl
    cases hv
  refine ⟨isWritten_iff.mpr ⟨hnull, fun _ hkey => absurd hkey hpressed⟩, ?_⟩
  obtain ⟨p, hp⟩ := hleaf
  have hno : ¬(areaKeys.contains key && screenTypes.contains type) := by simp [harea]
  unfold entry
  rw [hnull, if_neg Bool.false_ne_true, if_neg hno, if_neg fun h => hpressed h.1]
  split
  · next fields => exact absurd rfl (hobj fields)
  · exact ⟨[(key, p)], bind_eq_ok.mpr ⟨p, hp, rfl⟩⟩

/-- A key that is missing is null all the same. -/
theorem sameValues_put_null {key : String} {c : Given} (hkey : key ∉ c.keys) :
    SameValues c (c.put key .null) := by
  intro k
  rw [Fields.value_put]
  split
  · next heq =>
    rw [← heq, Fields.value, Fields.get?_eq_none.mpr hkey, Option.getD_none]
  · rfl

/-- A rule treats a null as if the key were missing, except that it supplies nothing in its place.
-/
theorem Rule.ByValue.value_settled {r : Rule} (hr : r.ByValue) {key : String} {c : Given}
    (hkey : key ∉ c.keys) (k : String) : (r.settled (c.put key .null)).value k =
      if k = key ∧ key ∈ (r.supplied c).keys then .null else (r.settled c).value k := by
  have hsame := sameValues_put_null hkey
  have hsupplied : r.supplied (c.put key .null) = r.supplied c := hr.supplied_eq hsame
  have hsettled (c : Given) : (r.settled c).value k =
      (((r.arranged c).get? k).or ((r.supplied c).get? k)).getD .null := by
    rw [Rule.settled, Fields.value, Fields.get?_putAllNew]
  rw [hsettled, hsettled, hsupplied]
  by_cases hk : k ∈ (r.supplied c).keys
  · rw [hr.supplied_kept c k hk, hr.supplied_kept _ k (hsupplied ▸ hk), Fields.get?_put]
    by_cases heq : key = k
    · subst heq
      rw [if_pos rfl, if_pos ⟨rfl, hk⟩, Option.some_or, Option.getD_some]
    · rw [if_neg heq, if_neg fun h => heq h.1.symm]
  · have hne : ¬(k = key ∧ key ∈ (r.supplied c).keys) := by
      rintro ⟨rfl, hmem⟩
      exact hk hmem
    rw [if_neg hne, Fields.get?_eq_none.mpr hk, Option.or_none, Option.or_none]
    exact hr.arranged hsame k

theorem settled_nodup {c : Given} (hc : c.keys.Nodup) (type : String) :
    ((ruleOf type).settled c).keys.Nodup :=
  Fields.nodup_keys_putAllNew (ruleOf_keepsKeysApart type hc)

/-- Where a rule supplies nothing under the key, its null is not seen; otherwise it is seen just if
the condition without it is written. -/
theorem rendered_null_iff {type key : String} {c : Given} (hc : c.keys.Nodup) (hkey : key ∉ c.keys) :
    rendered type ((ruleOf type).settled (c.put key .null)) =
        rendered type ((ruleOf type).settled c) ↔
      (Passes (rendered type ((ruleOf type).settled c)) →
        key ∉ ((ruleOf type).supplied c).keys) := by
  have hr := ruleOf_byValue type
  have hsettled := settled_nodup hc type
  have hput : (c.put key .null).keys.Nodup := Fields.nodup_keys_put hc
  have hsettled' := settled_nodup hput type
  by_cases hsupplied : key ∈ ((ruleOf type).supplied c).keys
  · obtain ⟨v, hv⟩ := Option.isSome_iff_exists.mp (Fields.isSome_get?.mpr hsupplied)
    obtain ⟨harea, hpressed, hplain⟩ := hr.supplied_plain c _ (Fields.mem_of_get? hv)
    obtain ⟨hwritten, hentry⟩ := entry_plain type harea hpressed hplain
    have hget : ((ruleOf type).settled c).get? key = some v := by
      rw [Rule.settled, Fields.get?_putAllNew, hr.supplied_kept c key hsupplied, hv,
        Fields.get?_eq_none.mpr hkey, Option.none_or]
    have hnull : SameValues (((ruleOf type).settled c).erase key)
        ((ruleOf type).settled (c.put key .null)) := by
      intro k
      rw [hr.value_settled hkey, Fields.value_erase]
      simp only [hsupplied, and_true]
    rw [rendered_of_sameValues (Fields.nodup_keys_erase hsettled) hsettled' hnull,
      rendered_erase_iff hsettled hget hwritten hentry]
    exact ⟨fun hnot hpasses => absurd hpasses hnot, fun h hpasses => h hpasses hsupplied⟩
  · have hsame : SameValues ((ruleOf type).settled c)
        ((ruleOf type).settled (c.put key .null)) := by
      intro k
      rw [hr.value_settled hkey, if_neg fun h => hsupplied h.2]
    exact iff_of_true (rendered_of_sameValues hsettled hsettled' hsame) fun _ => hsupplied

/-- A key that is missing may as well be null, for any condition and any key, except where the
condition is accepted and something is supplied under the key for want of it. There the two
conditions have different values. -/
theorem toPlist_null_iff {c : Given} {key : String} (hc : c.keys.Nodup) (hkey : key ∉ c.keys) :
    toPlist (.obj (c.put key .null)) = toPlist (.obj c) ↔
      ∀ type v, typeOf c = .ok type → toPlist (.obj c) = .ok v →
        key ∉ ((ruleOf type).supplied c).keys := by
  change ofFields _ = ofFields c ↔ ∀ type v, _ → ofFields c = .ok v → _
  have hsame := sameValues_put_null hkey
  have htypes := typeOf_congr (hsame "ConditionType")
  cases htype : typeOf c with
  | error f =>
    have hrefused {c : Given} (h : typeOf c = .error f) : ofFields c = .error f :=
      bind_eq_error.mpr (.inl h)
    rw [hrefused (htypes.trans htype), hrefused htype]
    exact iff_of_true rfl (by rintro type v ⟨⟩)
  | ok type =>
    have hne : key ≠ "ConditionType" := by
      rintro rfl
      have hvalue := value_of_typeOf htype
      rw [Fields.value, Fields.get?_eq_none.mpr hkey] at hvalue
      cases hvalue
    rw [ofFields_of_typeOf (htypes.trans htype), ofFields_of_typeOf htype,
      (ruleOf_byValue type).demand_eq hsame (Fields.get?_put_of_ne hne _ c)]
    cases (ruleOf type).demand c with
    | error f => exact iff_of_true rfl (by rintro t v - ⟨⟩)
    | ok _ =>
      refine (rendered_null_iff hc hkey).trans ⟨fun h t v ht hv => ?_, fun h hpasses => ?_⟩
      · obtain rfl := Except.ok.inj ht
        exact h ⟨v, hv⟩
      · obtain ⟨v, hv⟩ := hpasses
        exact h type v rfl hv

/-- A window whose title is to be compared with something. -/
def titledWindow : Given :=
  [("ConditionType", .str "FrontWindow"), ("FrontWindowConditionType", .str "TitleContains")]

/-- What is written for such a window, with these entries for the title. -/
def titledValue (title : List Entry) : Plist :=
  .dict ([("ConditionType", .compactText "FrontWindow"),
    ("FrontWindowConditionType", .compactText "TitleContains")] ++ title ++
    [("IsFrontApplication", .bool true)])

/-- The fields of such a window are sorted once its flag is put last. -/
theorem conditionOrder_titledWindow {fields : Given} {title : Argument}
    (h : fields.Perm (titledWindow ++
      [("FrontWindowTitle", title), ("IsFrontApplication", .bool true)])) :
    conditionOrder (·.1) fields =
      titledWindow ++ [("FrontWindowTitle", title), ("IsFrontApplication", .bool true)] := by
  have hnodup : (Fields.keys (titledWindow ++
      [("FrontWindowTitle", title), ("IsFrontApplication", .bool true)])).Nodup := by
    simp [titledWindow, Fields.keys]
  have hsorted : (Fields.keys (titledWindow ++ [("FrontWindowTitle", title)])).Pairwise
      fun a b => inOrder a b := by
    have hkeys : Fields.keys (titledWindow ++ [("FrontWindowTitle", title)]) =
        ["ConditionType", "FrontWindowConditionType", "FrontWindowTitle"] := rfl
    rw [hkeys]
    decide +kernel
  have hfields : fields.keys.Nodup := (h.map _).nodup_iff.mpr hnodup
  rw [eq_of_related (conditionOrder_related (.of_perm h hfields))]
  have hrest : others (·.1) trailingFlags (titledWindow ++
      [("FrontWindowTitle", title), ("IsFrontApplication", .bool true)]) =
        titledWindow ++ [("FrontWindowTitle", title)] := rfl
  rw [conditionOrder, hrest, sortByKey_of_pairwise hsorted]
  rfl

theorem toPlist_titledWindow : toPlist (.obj titledWindow) =
    .ok (titledValue [("FrontWindowTitle", .compactText "Untitled")]) := by
  have htype : typeOf titledWindow = .ok "FrontWindow" := rfl
  have hnormal : normal "FrontWindow" titledWindow = .ok (titledWindow ++
    [("IsFrontApplication", .bool true), ("FrontWindowTitle", .str "Untitled")]) := rfl
  refine bind_eq_ok.mpr ⟨_, htype, bind_eq_ok.mpr ⟨_, hnormal, ?_⟩⟩
  rw [conditionOrder_titledWindow ((List.Perm.swap _ _ _).append_left titledWindow)]
  rfl

/-- Nothing makes up for a title that is null. -/
theorem toPlist_nullTitle : titledWindow.keys.Nodup ∧ "FrontWindowTitle" ∉ titledWindow.keys ∧
    toPlist (.obj titledWindow) =
      .ok (titledValue [("FrontWindowTitle", .compactText "Untitled")]) ∧
    toPlist (.obj (titledWindow.put "FrontWindowTitle" .null)) = .ok (titledValue []) ∧
    toPlist (.obj (titledWindow.put "FrontWindowTitle" .null)) ≠ toPlist (.obj titledWindow) := by
  have htype : typeOf (titledWindow.put "FrontWindowTitle" .null) = .ok "FrontWindow" := rfl
  have hnormal : normal "FrontWindow" (titledWindow.put "FrontWindowTitle" .null) =
    .ok (titledWindow ++ [("FrontWindowTitle", .null), ("IsFrontApplication", .bool true)]) := rfl
  have hnull : toPlist (.obj (titledWindow.put "FrontWindowTitle" .null)) =
      .ok (titledValue []) := by
    refine bind_eq_ok.mpr ⟨_, htype, bind_eq_ok.mpr ⟨_, hnormal, ?_⟩⟩
    rw [conditionOrder_titledWindow (.refl _)]
    rfl
  refine ⟨by decide, by decide, toPlist_titledWindow, hnull, ?_⟩
  rw [hnull, toPlist_titledWindow]
  simp [titledValue]

theorem toPlist_null_iff_titledWindow :
    toPlist (.obj (titledWindow.put "IsFrontApplication" .null)) = toPlist (.obj titledWindow) := by
  refine (toPlist_null_iff (by decide) (by decide)).mpr fun type v htype _ => ?_
  obtain rfl : "FrontWindow" = type := Except.ok.inj htype
  decide

end MacroScribe.Condition
