import MacroScribe.Proofs.Condition.Keys
import MacroScribe.Proofs.Json.Reordering

/-!
# MacroScribe.Proofs.Condition.Order

The written order of keys depends on the keys alone, not on the order in which they are given. Keys
that are sorted are sorted strictly, so that they are in one order only (`keys_sortByKey_eq`); keys
that are picked follow the order of the table. Related fields are therefore still related one by one
when both are put in order (`conditionOrder_related`, `applicationOrder_related`).
-/

namespace MacroScribe.Condition

open Fields (Related)

variable {α β : Type} {R : α → β → Prop} {as : Fields α} {bs : Fields β}

theorem before_asymm {a b : String} (hab : Before a b) : ¬Before b a := by
  rintro (hba | ⟨heq, hba⟩)
  · obtain hab | ⟨heq, -⟩ := hab
    · exact String.lt_asymm hab hba
    · exact String.lt_irrefl _ (heq ▸ hba)
  · obtain hab | ⟨-, hab⟩ := hab
    · exact String.lt_irrefl _ (heq ▸ hab)
    · exact String.lt_asymm hab hba

/-- Distinct keys can be sorted in one way only. -/
theorem keys_sortByKey_eq (h : as.keys.Perm bs.keys) (has : as.keys.Nodup) :
    Fields.keys (sortByKey (·.1) as) = Fields.keys (sortByKey (·.1) bs) := by
  have hbs : bs.keys.Nodup := h.nodup_iff.mp has
  have hperm : (Fields.keys (sortByKey (·.1) as)).Perm (Fields.keys (sortByKey (·.1) bs)) :=
    calc
      (Fields.keys (sortByKey (·.1) as)).Perm as.keys := (List.mergeSort_perm as _).map _
      _ |>.Perm bs.keys := h
      _ |>.Perm (Fields.keys (sortByKey (·.1) bs)) := ((List.mergeSort_perm bs _).map _).symm
  refine List.Perm.eq_of_pairwise ?_ (pairwise_sortByKey has) (pairwise_sortByKey hbs) hperm
  exact fun a b _ _ hab hba => absurd hba (before_asymm hab)

theorem keys_others (keys : List String) (fields : Fields α) :
    Fields.keys (others (·.1) keys fields) = fields.keys.filter (!keys.contains ·) := by
  rw [Fields.keys, others, Fields.keys, List.filter_map]
  rfl

theorem mem_of_mem_sorted_others {keys : List String} {fields : Fields α} {f : String × α}
    (h : f ∈ sortByKey (·.1) (others (·.1) keys fields)) : f ∈ fields :=
  (List.mem_filter.mp (List.mem_mergeSort.mp h)).1

theorem keys_sorted_others_eq (h : Related R as bs) (keys : List String) :
    Fields.keys (sortByKey (·.1) (others (·.1) keys as)) =
      Fields.keys (sortByKey (·.1) (others (·.1) keys bs)) := by
  refine keys_sortByKey_eq ?_ (Fields.nodup_keys_filter h.nodup _)
  rw [keys_others, keys_others]
  exact h.perm_keys.filter _

theorem keys_pick_eq (h : Related R as bs) (keys : List String) :
    Fields.keys (pick (·.1) keys as) = Fields.keys (pick (·.1) keys bs) := by
  rw [keys_pick, keys_pick]
  exact List.filter_congr fun k _ => h.has_eq k

/-- Related fields in the order of a mapping. -/
theorem sortByKey_related (h : Related R as bs) :
    List.Forall₂ (fun f g => f.1 = g.1 ∧ R f.2 g.2) (sortByKey (·.1) as) (sortByKey (·.1) bs) :=
  h.forall₂ (keys_sortByKey_eq h.perm_keys h.nodup) (fun _ hf => List.mem_mergeSort.mp hf)
    (fun _ hg => List.mem_mergeSort.mp hg)

/-- Related fields in the order of a condition. -/
theorem conditionOrder_related (h : Related R as bs) :
    List.Forall₂ (fun f g => f.1 = g.1 ∧ R f.2 g.2) (conditionOrder (·.1) as)
      (conditionOrder (·.1) bs) :=
  List.rel_append
    (h.forall₂ (keys_sorted_others_eq h _) (fun _ => mem_of_mem_sorted_others)
      (fun _ => mem_of_mem_sorted_others))
    (h.forall₂ (keys_pick_eq h _) (fun _ => mem_of_mem_pick) (fun _ => mem_of_mem_pick))

/-- Related fields in the order of an application. -/
theorem applicationOrder_related (h : Related R as bs) :
    List.Forall₂ (fun f g => f.1 = g.1 ∧ R f.2 g.2) (applicationOrder (·.1) as)
      (applicationOrder (·.1) bs) :=
  List.rel_append
    (h.forall₂ (keys_pick_eq h _) (fun _ => mem_of_mem_pick) (fun _ => mem_of_mem_pick))
    (h.forall₂ (keys_sorted_others_eq h _) (fun _ => mem_of_mem_sorted_others)
      (fun _ => mem_of_mem_sorted_others))

/-- Sorted fields without flags stay as they are. -/
theorem conditionOrder_of_sorted {fields : Given} (hflags : ∀ f ∈ fields, f.1 ∉ trailingFlags)
    (hsorted : fields.keys.Pairwise fun a b => inOrder a b) :
    conditionOrder (·.1) fields = fields := by
  have hothers : others (·.1) trailingFlags fields = fields :=
    List.filter_eq_self.mpr fun f hf => by simpa using hflags f hf
  have hpick : pick (·.1) trailingFlags fields = [] := by
    refine List.filterMap_eq_nil_iff.mpr fun flag hflag => ?_
    refine List.find?_eq_none.mpr fun f hf heq => hflags f hf ?_
    have hkey : f.1 = flag := beq_iff_eq.mp heq
    rwa [hkey]
  rw [conditionOrder, hothers, hpick, sortByKey_of_pairwise hsorted, List.append_nil]

/-! ### Fields that are left out -/

/-- What is left out before sorting might as well be left out afterwards. -/
theorem sortByKey_filter (h : as.keys.Nodup) (p : String × α → Bool) :
    sortByKey (·.1) (as.filter p) = (sortByKey (·.1) as).filter p := by
  have hkept : (Fields.keys (as.filter p)).Nodup := Fields.nodup_keys_filter h p
  have hperm : (sortByKey (·.1) (as.filter p)).Perm ((sortByKey (·.1) as).filter p) :=
    (List.mergeSort_perm _ _).trans ((List.mergeSort_perm as _).symm.filter p)
  refine List.Perm.eq_of_pairwise ?_ (List.pairwise_map.mp (pairwise_sortByKey hkept))
    ((List.pairwise_map.mp (pairwise_sortByKey h)).sublist List.filter_sublist) hperm
  exact fun f g _ _ hfg hgf => absurd hgf (before_asymm hfg)

theorem find?_filter_of_nodup (h : as.keys.Nodup) (p : String × α → Bool) (k : String) :
    (as.filter p).find? (·.1 == k) = (as.find? (·.1 == k)).filter p := by
  have hfind (bs : Fields α) : bs.find? (·.1 == k) = (bs.get? k).map fun v => (k, v) := by
    rw [Fields.get?]
    cases hf : bs.find? (·.1 == k) with
    | none => rfl
    | some f =>
      have hkey : f.1 = k := by simpa using List.find?_some hf
      exact congrArg some (Prod.ext hkey rfl)
  rw [hfind, hfind, Fields.get?_filter_of_nodup h, Option.filter_map]
  rfl

theorem pick_filter (h : as.keys.Nodup) (p : String × α → Bool) (keys : List String) :
    pick (·.1) keys (as.filter p) = (pick (·.1) keys as).filter p := by
  rw [pick, pick, List.filter_filterMap]
  exact congrArg (keys.filterMap ·) (funext fun k => find?_filter_of_nodup h p k)

theorem conditionOrder_filter (h : as.keys.Nodup) (p : String × α → Bool) :
    conditionOrder (·.1) (as.filter p) = (conditionOrder (·.1) as).filter p := by
  have hothers : others (·.1) trailingFlags (as.filter p) =
      (others (·.1) trailingFlags as).filter p := by
    simp only [others, List.filter_filter, Bool.and_comm]
  have hnodup : (Fields.keys (others (·.1) trailingFlags as)).Nodup := Fields.nodup_keys_filter h _
  rw [conditionOrder, conditionOrder, List.filter_append, hothers, pick_filter h,
    sortByKey_filter hnodup]

/-- Equal values under the same keys: the fields are the same in order. -/
theorem eq_of_related {xs ys : Fields α}
    (h : List.Forall₂ (fun f g => f.1 = g.1 ∧ f.2 = g.2) xs ys) : xs = ys := by
  rw [← List.forall₂_eq_eq_eq]
  exact h.imp fun _ _ h => Prod.ext h.1 h.2

end MacroScribe.Condition
