import MacroScribe.Condition.Basic
import MacroScribe.Proofs.Outcome
import MacroScribe.Proofs.Plist.Shape

/-!
# MacroScribe.Proofs.Condition.Values

The values of conditions. Whatever a condition is given, its value holds nothing but texts, numbers
and flags: a value that has no place in a property list is refused when the condition is made
(`listToPlist_typed`).
-/

namespace MacroScribe.Condition

open Plist Outcome

/-- The values of the entries consist of texts, numbers and flags. -/
def TypedEntries (entries : List Entry) : Prop :=
  ∀ e ∈ entries, e.2.Typed

theorem typed_dict {entries : List Entry} (h : TypedEntries entries) : (dict entries).Typed := by
  rw [Typed, every_dict]
  exact fun e he => ⟨trivial, h e he⟩

theorem typedEntries_sortByKey {entries : List Entry} (h : TypedEntries entries) :
    TypedEntries (sortByKey (·.1) entries) :=
  fun e he => h e (List.mem_mergeSort.mp he)

theorem typedEntries_applicationOrder {entries : List Entry} (h : TypedEntries entries) :
    TypedEntries (applicationOrder (·.1) entries) := by
  intro e he
  rcases List.mem_append.mp he with he | he
  · obtain ⟨k, -, hk⟩ := List.mem_filterMap.mp he
    exact h e (List.mem_of_find?_eq_some hk)
  · exact h e (List.mem_filter.mp (List.mem_mergeSort.mp he)).1

theorem typed_area (area : ScreenArea) : area.toPlist.Typed := by
  cases area <;>
    simp [ScreenArea.toPlist, ScreenArea.entries, Typed, Every, TypedLeaf, Plist.text]

mutual

/-- A value inside a condition consists of texts, numbers and flags. -/
theorem leaf_typed : ∀ v : Argument, Ensures (leaf v) Plist.Typed
  | .null | .embed _ => ensures_error _
  | .bool _ | .int _ | .float _ | .str _ => ensures_ok trivial
  | .list items => by
    refine ensures_ok ?_
    rw [Typed, every_array]
    intro v hv
    obtain ⟨item, -, rfl⟩ := List.mem_map.mp hv
    trivial
  | .obj fields => by
    rw [leaf]
    exact ensures_bind fun entries hentries =>
      ensures_ok (typed_dict (typedEntries_sortByKey (leafEntries_typed fields entries hentries)))

theorem leafEntries_typed :
    ∀ fields : List (String × Argument), Ensures (leafEntries fields) TypedEntries
  | [] => ensures_ok fun e he => absurd he List.not_mem_nil
  | (key, value) :: rest => by
    have hrest := leafEntries_typed rest
    rw [leafEntries]
    split
    · refine ensures_bind fun here hhere => ensures_bind fun others hothers => ensures_ok ?_
      obtain rfl := Except.ok.inj hhere
      exact hrest others hothers
    · refine ensures_bind fun v hv => ensures_bind fun here hhere =>
        ensures_bind fun others hothers => ensures_ok fun e he => ?_
      obtain rfl := Except.ok.inj hhere
      rcases List.mem_cons.mp he with rfl | he
      · exact leaf_typed value v hv
      · exact hrest others hothers e he

end

theorem areaLeaf_typed (type key : String) (value : Argument) :
    Ensures (areaLeaf type key value) Plist.Typed := by
  unfold areaLeaf
  split
  · exact ensures_ok (typed_area _)
  · exact ensures_error _

/-- The entry for a field of a condition. -/
theorem entry_typed (type key : String) (value : Argument) :
    Ensures (entry type key value) TypedEntries := by
  have hnil : TypedEntries [] := fun e he => absurd he List.not_mem_nil
  have hone {v : Plist} (hv : v.Typed) : TypedEntries [(key, v)] := fun e he => by
    obtain rfl := List.mem_singleton.mp he
    exact hv
  unfold entry
  split
  · exact ensures_ok hnil
  · split
    · exact ensures_bind fun v hv => ensures_ok (hone (areaLeaf_typed type key value v hv))
    · split
      · refine ensures_ok ?_
        split
        · exact hone trivial
        · exact hnil
      · split
        · refine ensures_bind fun entries hentries => ensures_ok fun e he => ?_
          obtain rfl := List.mem_singleton.mp he
          exact typed_dict (typedEntries_applicationOrder (leafEntries_typed _ entries hentries))
        · exact ensures_bind fun v hv => ensures_ok (hone (leaf_typed value v hv))

theorem ofFields_typed (c : Given) : Ensures (ofFields c) Plist.Typed := by
  unfold ofFields
  refine ensures_bind fun type _ => ensures_bind fun fields _ =>
    ensures_bind fun entries hentries => ensures_ok (typed_dict fun e he => ?_)
  obtain ⟨es, hes, he⟩ := List.mem_flatten.mp he
  exact ensures_mapM (fun f _ => entry_typed type f.1 f.2) entries hentries es hes e he

theorem toPlist_typed (v : Argument) : Ensures (toPlist v) Plist.Typed := by
  unfold toPlist
  split
  · exact ofFields_typed _
  · exact ensures_error _

/-- Whatever conditions are given, their value consists of texts, numbers and flags. -/
theorem listToPlist_typed (conditions : List Argument) (matching : Argument) :
    Ensures (listToPlist conditions matching) Plist.Typed := by
  unfold listToPlist
  split
  · exact ensures_error _
  · refine ensures_bind fun items hitems => ensures_ok (typed_dict fun e he => ?_)
    rcases List.mem_cons.mp he with rfl | he
    · exact every_array.mpr (ensures_mapM (fun v _ => toPlist_typed v) items hitems)
    · obtain rfl := List.mem_singleton.mp he
      trivial

end MacroScribe.Condition
