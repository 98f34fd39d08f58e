import MacroScribe.Proofs.Condition.Rules
import MacroScribe.Proofs.Condition.Values
import MacroScribe.Proofs.Plist.RoundTrip

/-!
# MacroScribe.Proofs.Condition.Keys

The keys of written conditions. A condition is given as a mapping, in which each key is there once;
its normal form still has each key once, whatever the editor's rules put there or take away
(`normal_nodup`). Sorting such fields by their keys sorts them strictly, for the order of keys is
total and only equal keys are in order both ways. What is left out afterwards, null values and the
buttons that are pressed, leaves the others in order. With texts, numbers and flags for values, a
condition is then written at every depth (`conditions_are_written`).
-/

namespace MacroScribe.Condition

open Plist Outcome

/-! ### The order of keys -/

/-- A text in lower case. -/
def lowered (s : String) : String :=
  String.ofList (Text.lower s.toList)

/-- The key `a` comes before the key `b`: in lower case, or else by its characters. -/
def Before (a b : String) : Prop :=
  lowered a < lowered b ∨ lowered a = lowered b ∧ a < b

theorem lt_or_eq_or_gt (a b : String) : a < b ∨ a = b ∨ b < a := by
  by_cases hab : a < b
  · exact .inl hab
  · by_cases hba : b < a
    · exact .inr (.inr hba)
    · exact .inr (.inl (String.le_antisymm (String.not_lt.mp hba) (String.not_lt.mp hab)))

theorem before_trans {a b c : String} (hab : Before a b) (hbc : Before b c) : Before a c := by
  obtain hab | ⟨hab, hab'⟩ := hab <;> obtain hbc | ⟨hbc, hbc'⟩ := hbc
  · exact .inl (String.lt_trans hab hbc)
  · exact .inl (hbc ▸ hab)
  · exact .inl (hab ▸ hbc)
  · exact .inr ⟨hab.trans hbc, String.lt_trans hab' hbc'⟩

/-- Of two keys one comes first, unless they are the same. -/
theorem before_or_eq_or_after (a b : String) : Before a b ∨ a = b ∨ Before b a := by
  rcases lt_or_eq_or_gt (lowered a) (lowered b) with h | h | h
  · exact .inl (.inl h)
  · rcases lt_or_eq_or_gt a b with h' | h' | h'
    · exact .inl (.inr ⟨h, h'⟩)
    · exact .inr (.inl h')
    · exact .inr (.inr (.inr ⟨h.symm, h'⟩))
  · exact .inr (.inr (.inl h))

theorem inOrder_iff {a b : String} : inOrder a b ↔ Before a b ∨ a = b := by
  have hiff : inOrder a b ↔ lowered a < lowered b ∨ lowered a = lowered b ∧ ¬ b < a := by
    simp [inOrder, lowered]
  rw [hiff]
  constructor
  · rintro (h | ⟨h, hle⟩)
    · exact .inl (.inl h)
    · rcases lt_or_eq_or_gt a b with h' | h' | h'
      · exact .inl (.inr ⟨h, h'⟩)
      · exact .inr h'
      · exact absurd h' hle
  · rintro ((h | ⟨h, h'⟩) | rfl)
    · exact .inl h
    · exact .inr ⟨h, String.lt_asymm h'⟩
    · exact .inr ⟨rfl, String.lt_irrefl a⟩

theorem inOrder_trans {a b c : String} (hab : inOrder a b) (hbc : inOrder b c) : inOrder a c := by
  rw [inOrder_iff] at *
  obtain hab | rfl := hab
  · obtain hbc | rfl := hbc
    · exact .inl (before_trans hab hbc)
    · exact .inl hab
  · exact hbc

theorem inOrder_total (a b : String) : inOrder a b || inOrder b a := by
  rw [Bool.or_eq_true, inOrder_iff, inOrder_iff]
  rcases before_or_eq_or_after a b with h | h | h
  · exact .inl (.inl h)
  · exact .inl (.inr h)
  · exact .inr (.inl h)

/-- Fields whose keys are distinct are sorted strictly. -/
theorem pairwise_sortByKey {α : Type} {fields : Fields α} (h : fields.keys.Nodup) :
    (Fields.keys (sortByKey (·.1) fields)).Pairwise Before := by
  let le (f g : String × α) : Bool := inOrder f.1 g.1
  have htrans (f g k : String × α) (hfg : le f g) (hgk : le g k) : le f k := inOrder_trans hfg hgk
  have htotal (f g : String × α) : (le f g || le g f) = true := inOrder_total f.1 g.1
  have hsorted : (sortByKey (·.1) fields).Pairwise fun f g => inOrder f.1 g.1 :=
    List.pairwise_mergeSort htrans htotal fields
  have hdistinct : (Fields.keys (sortByKey (·.1) fields)).Nodup :=
    ((List.mergeSort_perm fields _).map _).nodup_iff.mpr h
  have hne : (sortByKey (·.1) fields).Pairwise fun f g => f.1 ≠ g.1 :=
    List.pairwise_map.mp hdistinct
  rw [Fields.keys, List.pairwise_map]
  exact (hsorted.and hne).imp fun hfg => (inOrder_iff.mp hfg.1).resolve_right hfg.2

/-- What is sorted already stays as it is. -/
theorem sortByKey_of_pairwise {α : Type} {fields : Fields α}
    (h : fields.keys.Pairwise fun a b => inOrder a b) : sortByKey (·.1) fields = fields :=
  List.mergeSort_of_pairwise (List.pairwise_map.mp h)

/-- The keys of a condition as they are written: the ordinary ones, sorted, and then the flags. -/
def InWrittenOrder (keys : List String) : Prop :=
  ∃ ordinary flags, keys = ordinary ++ flags ∧ ordinary.Pairwise Before ∧
    (∀ key ∈ ordinary, key ∉ trailingFlags) ∧ flags.Sublist trailingFlags

/-! ### The keys of normal forms -/

theorem nodup_keys_ite {p : Prop} [Decidable p] {c c' : Given} (h : c.keys.Nodup)
    (h' : c'.keys.Nodup) : Fields.keys (if p then c else c') |>.Nodup := by
  split
  · exact h
  · exact h'

/-- A rule arranges fields without repeating a key. -/
def Rule.KeepsKeysApart (r : Rule) : Prop :=
  ∀ {c : Given}, c.keys.Nodup → (r.arranged c).keys.Nodup

theorem windowRule_keepsKeysApart : windowRule.KeepsKeysApart := by
  intro c h
  have howned : (owned c).keys.Nodup := by
    unfold owned
    extract_lets c₁
    have h₁ : c₁.keys.Nodup := nodup_keys_ite (Fields.nodup_keys_put h) h
    exact nodup_keys_ite (Fields.nodup_keys_erase h₁)
      (nodup_keys_ite h₁ (Fields.nodup_keys_put h₁))
  exact nodup_keys_ite (Fields.nodup_keys_erase howned) howned

theorem scriptRule_keepsKeysApart : scriptRule.KeepsKeysApart := by
  intro c h
  have herased : (c.erase "includeAllVariables").keys.Nodup := Fields.nodup_keys_erase h
  change (normalScript c).keys.Nodup
  rw [normalScript_eq]
  split
  · exact herased
  · exact Fields.nodup_keys_put herased

theorem pixelRule_keepsKeysApart : pixelRule.KeepsKeysApart :=
  fun h => Fields.nodup_keys_put (Fields.nodup_keys_put h)

theorem ocrRule_keepsKeysApart : ocrRule.KeepsKeysApart :=
  fun h => Fields.nodup_keys_eraseAll h

theorem imageRule_keepsKeysApart : imageRule.KeepsKeysApart := by
  intro c h
  have harea : (withArea c).keys.Nodup := nodup_keys_ite (Fields.nodup_keys_put h) h
  exact Fields.nodup_keys_eraseAll (nodup_keys_ite (Fields.nodup_keys_put harea) harea)

theorem ruleOf_keepsKeysApart (type : String) : (ruleOf type).KeepsKeysApart :=
  ruleOf_cases (P := Rule.KeepsKeysApart) windowRule_keepsKeysApart scriptRule_keepsKeysApart
    pixelRule_keepsKeysApart ocrRule_keepsKeysApart imageRule_keepsKeysApart (fun h => h) type

/-- The normal form of a condition has each key once if the condition does. -/
theorem normal_nodup {c : Given} (h : c.keys.Nodup) (type : String) :
    Ensures (normal type c) fun fields => fields.keys.Nodup := by
  intro fields hfields
  obtain ⟨-, rfl⟩ := normal_eq_ok.mp hfields
  exact Fields.nodup_keys_putAllNew (ruleOf_keepsKeysApart type h)

/-! ### The keys that are written -/

/-- The field of a condition is written: it is not null, and it does not say that a mouse button is
pressed in any way but by a denial. -/
def isWritten (type key : String) (value : Argument) : Bool :=
  !value.isNull && match value with
    | .bool false => true
    | _ => !(type == "MouseButton" && key == "Pressed")

theorem isWritten_iff {type key : String} {value : Argument} :
    isWritten type key value ↔ value.isNull = false ∧
      (type = "MouseButton" → key = "Pressed" → value = .bool false) := by
  unfold isWritten
  split
  · simp
  · next hvalue =>
    have hne : value ≠ .bool false := fun h => hvalue h
    simp [hne, imp_iff_not_or]

/-- The entry for a field has its key, if the field is written. -/
theorem entry_keys (type key : String) (value : Argument) :
    Ensures (entry type key value) fun entries =>
      entries.map (·.1) = if isWritten type key value then [key] else [] := by
  have hone {x : Outcome Plist} : Ensures (do return [(key, ← x)]) fun entries : List Entry =>
      entries.map (·.1) = [key] :=
    ensures_bind fun _ _ => ensures_pure rfl
  unfold entry
  by_cases hnull : value.isNull
  · have hleft : isWritten type key value = false := by
      simp [isWritten, hnull]
    rw [if_pos hnull, hleft]
    exact ensures_ok rfl
  rw [if_neg hnull]
  rw [Bool.not_eq_true] at hnull
  by_cases hpressed : key = "Pressed" ∧ type = "MouseButton"
  · obtain ⟨rfl, rfl⟩ := hpressed
    refine ensures_ok ?_
    split
    · rfl
    · simp [isWritten]
  · have hwritten : isWritten type key value :=
      isWritten_iff.mpr ⟨hnull, fun htype hkey => absurd ⟨hkey, htype⟩ hpressed⟩
    rw [if_neg hpressed, if_pos hwritten]
    split
    · exact hone
    · split
      · exact ensures_bind fun _ _ => ensures_pure rfl
      · exact hone

/-- The keys of the entries for fields are those of the fields that are written. -/
theorem entries_keys {type : String} {fields : Given} {entries : List (List Entry)}
    (h : fields.mapM (fun f => entry type f.1 f.2) = .ok entries) :
    entries.flatten.map (·.1) = Fields.keys (fields.filter fun f => isWritten type f.1 f.2) := by
  have hall := mapM_eq_ok.mp h
  induction hall with
  | nil => rfl
  | @cons f es fields entries hes hrest ih =>
    have hkeys := entry_keys type f.1 f.2 es hes
    rw [List.flatten_cons, List.map_append, hkeys, ih (mapM_eq_ok.mpr hrest), List.filter_cons]
    split <;> rfl

theorem keys_append (as bs : Given) : Fields.keys (as ++ bs) = as.keys ++ bs.keys :=
  List.map_append

/-- Fields that are picked have those of the keys that are there, in the order of the keys. -/
theorem keys_pick {α : Type} (keys : List String) (fields : Fields α) :
    Fields.keys (pick (·.1) keys fields) = keys.filter fields.has := by
  induction keys with
  | nil => rfl
  | cons key keys ih =>
    rw [pick, List.filterMap_cons, List.filter_cons]
    cases hfind : fields.find? (·.1 == key) with
    | none =>
      have hhas : fields.has key = false := by simpa [Fields.has] using hfind
      rw [if_neg (by simp [hhas])]
      exact ih
    | some f =>
      have hkey : f.1 = key := by simpa using List.find?_some hfind
      have hmem : f ∈ fields := List.mem_of_find?_eq_some hfind
      have hhas : fields.has key := List.any_eq_true.mpr ⟨f, hmem, by simpa⟩
      rw [if_pos hhas, ← ih, ← hkey]
      rfl

theorem mem_of_mem_pick {α : Type} {keys : List String} {fields : Fields α} {f : String × α}
    (h : f ∈ pick (·.1) keys fields) : f ∈ fields := by
  obtain ⟨key, -, hkey⟩ := List.mem_filterMap.mp h
  exact List.mem_of_find?_eq_some hkey

/-- Putting fields in order changes nothing but the order. -/
theorem mem_conditionOrder {fields : Given} (h : fields.keys.Nodup) {f : String × Argument} :
    f ∈ conditionOrder (·.1) fields ↔ f ∈ fields := by
  rw [conditionOrder, List.mem_append, sortByKey, List.mem_mergeSort, others, List.mem_filter]
  constructor
  · rintro (⟨hf, -⟩ | hf)
    · exact hf
    · exact mem_of_mem_pick hf
  · intro hf
    by_cases hflag : f.1 ∈ trailingFlags
    · refine .inr (List.mem_filterMap.mpr ⟨f.1, hflag, ?_⟩)
      obtain ⟨g, hfind, hvalue⟩ := Option.map_eq_some_iff.mp (Fields.get?_of_mem h hf)
      have hkey := List.find?_some hfind
      rw [hfind]
      exact congrArg some (Prod.ext (by simpa using hkey) hvalue)
    · exact .inl ⟨hf, by simpa using hflag⟩

theorem nodup_of_inWrittenOrder {keys : List String} (h : InWrittenOrder keys) : keys.Nodup := by
  obtain ⟨ordinary, flags, rfl, hsorted, hplain, hflags⟩ := h
  have hne {a b : String} (hab : Before a b) : a ≠ b := by
    rintro rfl
    exact hab.elim (String.lt_irrefl _) fun h => String.lt_irrefl _ h.2
  rw [List.nodup_append]
  refine ⟨hsorted.imp hne, hflags.nodup (by decide), fun a ha b hb hab => ?_⟩
  exact hplain a ha (hflags.subset (hab ▸ hb))

/-- The written keys of fields in order are in order. -/
theorem inWrittenOrder_of_nodup {fields : Given} (h : fields.keys.Nodup)
    (p : String × Argument → Bool) :
    InWrittenOrder (Fields.keys ((conditionOrder (·.1) fields).filter p)) := by
  refine ⟨Fields.keys ((sortByKey (·.1) (others (·.1) trailingFlags fields)).filter p),
    Fields.keys ((pick (·.1) trailingFlags fields).filter p), ?_, ?_, ?_, ?_⟩
  · rw [conditionOrder, List.filter_append, keys_append]
  · exact (pairwise_sortByKey (Fields.nodup_keys_filter h _)).sublist (List.filter_sublist.map _)
  · intro key hkey
    obtain ⟨f, hf, rfl⟩ := List.mem_map.mp hkey
    have hother := List.mem_mergeSort.mp (List.mem_filter.mp hf).1
    simpa using (List.mem_filter.mp hother).2
  · have hpicked : (Fields.keys (pick (·.1) trailingFlags fields)).Sublist trailingFlags := by
      rw [keys_pick]
      exact List.filter_sublist
    exact (List.filter_sublist.map _).trans hpicked

/-- The value of a condition is a dictionary with the fields of the normal form that are written, in
the written order. -/
theorem ofFields_keys {c : Given} (hc : c.keys.Nodup) {v : Plist} (h : ofFields c = .ok v) :
    ∃ type fields entries, typeOf c = .ok type ∧ normal type c = .ok fields ∧ v = .dict entries ∧
      InWrittenOrder (entries.map (·.1)) ∧
      ∀ key, key ∈ entries.map (·.1) ↔ ∃ value, fields.get? key = some value ∧
        value.isNull = false ∧
        (type = "MouseButton" → key = "Pressed" → value = .bool false) := by
  obtain ⟨type, htype, h⟩ := bind_eq_ok.mp h
  obtain ⟨fields, hfields, h⟩ := bind_eq_ok.mp h
  obtain ⟨entries, hentries, h⟩ := bind_eq_ok.mp h
  obtain rfl := Except.ok.inj h
  have hnodup := normal_nodup hc type fields hfields
  refine ⟨type, fields, entries.flatten, htype, hfields, rfl, ?_, fun key => ?_⟩
  · rw [entries_keys hentries]
    exact inWrittenOrder_of_nodup hnodup _
  · rw [entries_keys hentries, Fields.keys, List.mem_map]
    constructor
    · rintro ⟨f, hf, rfl⟩
      obtain ⟨hmem, hwritten⟩ := List.mem_filter.mp hf
      exact ⟨f.2, Fields.get?_of_mem hnodup ((mem_conditionOrder hnodup).mp hmem),
        isWritten_iff.mp hwritten⟩
    · rintro ⟨value, hvalue, hwritten⟩
      refine ⟨(key, value), List.mem_filter.mpr ⟨?_, isWritten_iff.mpr hwritten⟩, rfl⟩
      exact (mem_conditionOrder hnodup).mpr (Fields.mem_of_get? hvalue)

/-! ### Written conditions -/

/-- The value of a condition, once it is accepted. -/
theorem exists_dict_of_toPlist {v : Argument} {p : Plist} (h : toPlist v = .ok p) :
    ∃ entries, p = .dict entries := by
  unfold toPlist at h
  split at h
  · obtain ⟨type, -, h⟩ := bind_eq_ok.mp h
    obtain ⟨fields, -, h⟩ := bind_eq_ok.mp h
    obtain ⟨entries, -, h⟩ := bind_eq_ok.mp h
    exact ⟨entries.flatten, (Except.ok.inj h).symm⟩
  · cases h

/-- Conditions that are accepted one by one are accepted as a list, under each of the matchings. -/
theorem listToPlist_of_accepted {conditions : List Argument} {matching : String}
    (hmatching : matching ∈ matchings) (h : ∀ c ∈ conditions, ∃ p, toPlist c = .ok p) :
    ∃ items, listToPlist conditions (.str matching) =
        .ok (.dict [("ConditionList", .array items), ("ConditionListMatch", .text matching)]) ∧
      List.Forall₂ (fun c p => toPlist c = .ok p ∧ ∃ entries, p = .dict entries)
        conditions items := by
  have hword : (Option.some matching).filter matchings.contains = some matching := by
    rw [Option.filter_some, if_pos (List.contains_iff_mem.mpr hmatching)]
  have hitems (c : Argument) (hc : c ∈ conditions) :
      ∃ p, toPlist c = .ok p ∧ toPlist c = .ok p ∧ ∃ entries, p = .dict entries := by
    obtain ⟨p, hp⟩ := h c hc
    exact ⟨p, hp, hp, exists_dict_of_toPlist hp⟩
  obtain ⟨items, hmap, hall⟩ := exists_mapM_eq_ok hitems
  refine ⟨items, ?_, hall⟩
  simp only [listToPlist, Json.str?, hword, hmap]
  rfl

/-- The value of a condition has the keys of its normal form whose value is not null, except that a
mouse button is said to be pressed only by a denial; each is there once, the ordinary ones sorted
and the flags after them. It is written at every depth, and so is the list of any conditions that
are accepted, with one dictionary for each of them in the same order. -/
theorem conditions_are_written :
    (∀ (c : Given) v, c.keys.Nodup → toPlist (.obj c) = .ok v →
      (∃ type fields entries, typeOf c = .ok type ∧ normal type c = .ok fields ∧
        v = .dict entries ∧ (entries.map (·.1)).Nodup ∧ InWrittenOrder (entries.map (·.1)) ∧
        ∀ key, key ∈ entries.map (·.1) ↔ ∃ value, fields.get? key = some value ∧
          value.isNull = false ∧
          (type = "MouseButton" → key = "Pressed" → value = .bool false)) ∧
      v.Legible) ∧
    (∀ conditions, ∀ matching ∈ matchings, (∀ c ∈ conditions, ∃ p, toPlist c = .ok p) →
      ∃ items v, listToPlist conditions (.str matching) = .ok v ∧
        v = .dict [("ConditionList", .array items), ("ConditionListMatch", .text matching)] ∧
        List.Forall₂ (fun c p => toPlist c = .ok p ∧ ∃ entries, p = .dict entries)
          conditions items ∧
        v.Legible) := by
  refine ⟨fun c v hc h => ?_, fun conditions matching hmatching h => ?_⟩
  · obtain ⟨type, fields, entries, htype, hfields, hv, horder, hkeys⟩ := ofFields_keys hc h
    exact ⟨⟨type, fields, entries, htype, hfields, hv, nodup_of_inWrittenOrder horder, horder,
      hkeys⟩, (toPlist_typed _ v h).whole.legible⟩
  · obtain ⟨items, hlist, hall⟩ := listToPlist_of_accepted hmatching h
    exact ⟨items, _, hlist, rfl, hall, (listToPlist_typed _ _ _ hlist).whole.legible⟩

/-- A mouse button that is pressed, among keys that differ in case. -/
def mouseButton : Given :=
  [("IsFront", .bool true), ("a", .null), ("B", .list []), ("b", .int 1),
   ("ConditionType", .str "MouseButton"), ("Pressed", .bool true)]

theorem conditionOrder_mouseButton : conditionOrder (·.1) mouseButton =
    mouseButton.tail ++ [("IsFront", .bool true)] := by
  have hsorted : (Fields.keys mouseButton.tail).Pairwise fun a b => inOrder a b := by
    decide +kernel
  have hrest : others (·.1) trailingFlags mouseButton = mouseButton.tail := rfl
  have hflags : pick (·.1) trailingFlags mouseButton = [("IsFront", .bool true)] := rfl
  rw [conditionOrder, hrest, hflags, sortByKey_of_pairwise hsorted]

theorem toPlist_mouseButton : toPlist (.obj mouseButton) =
    .ok (.dict [("B", .array []), ("b", .integer 1),
      ("ConditionType", .compactText "MouseButton"), ("IsFront", .bool true)]) := by
  have htype : typeOf mouseButton = .ok "MouseButton" := rfl
  have hnormal : normal "MouseButton" mouseButton = .ok mouseButton := rfl
  refine bind_eq_ok.mpr ⟨_, htype, bind_eq_ok.mpr ⟨_, hnormal, ?_⟩⟩
  rw [conditionOrder_mouseButton]
  rfl

theorem conditions_are_written_mouseButton :
    InWrittenOrder ["B", "b", "ConditionType", "IsFront"] ∧
      ∃ v, listToPlist [.obj mouseButton, .obj mouseButton] (.str "NotAll") = .ok v ∧
        v.Legible := by
  obtain ⟨hone, hlist⟩ := conditions_are_written
  obtain ⟨⟨_, _, _, _, _, hv, _, horder, _⟩, _⟩ := hone _ _ (by decide) toPlist_mouseButton
  obtain rfl := Plist.dict.inj hv
  have haccepted : ∀ c ∈ [Json.obj mouseButton, .obj mouseButton], ∃ p, toPlist c = .ok p := by
    simp [toPlist_mouseButton]
  obtain ⟨_, v, h, -, -, hlegible⟩ := hlist _ "NotAll" (by decide) haccepted
  exact ⟨horder, v, h, hlegible⟩

end MacroScribe.Condition
