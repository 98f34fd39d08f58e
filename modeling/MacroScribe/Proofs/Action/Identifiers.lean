import MacroScribe.Proofs.Action.Frames
import MacroScribe.Proofs.Plist.Moving
import MacroScribe.Proofs.Plist.Reader

/-!
# MacroScribe.Proofs.Action.Identifiers

The identifiers in a written form. A dictionary of an action has its identifier under `ActionUID`
and the dictionaries of other actions under `childKeys`; nothing else in it is looked at, so that a
condition may use these keys for what it likes.

Main definitions:

* `Reading.identifiers` — the identifiers that are read, in the order in which they stand;
* `Plist.shift` — a property list with something added to each of these identifiers and to nothing
  else;
* `Numbers`, `NumbersEach` — both at once: which identifiers there are, and what adding to them
  makes of the entries or dictionaries.
-/

namespace MacroScribe

open Plist

namespace Plist

/-- The integer that was read. -/
def Reading.integer? : Reading → Option Int
  | integer n => some n
  | _ => none

mutual

/-- The identifiers of the actions that were read, in the order in which they stand. -/
def Reading.identifiers : Reading → List Int
  | .array items => identifiersEach items
  | .dict entries => entryIdentifiers entries
  | _ => []

/-- The identifiers in the values that were read. -/
def identifiersEach : List Reading → List Int
  | [] => []
  | r :: rest => r.identifiers ++ identifiersEach rest

/-- The identifier under `ActionUID`, and those in the values under `childKeys`. -/
def entryIdentifiers : List (String × Reading) → List Int
  | [] => []
  | (key, r) :: rest =>
    (if key = "ActionUID" then r.integer?.toList
      else if key ∈ childKeys then r.identifiers else []) ++ entryIdentifiers rest

end

/-- An integer with `j` added to it. -/
def raise (j : Int) : Plist → Plist
  | integer n => integer (n + j)
  | v => v

mutual

/-- The property list with `j` added to the identifiers of its actions. -/
def shift (j : Int) : Plist → Plist
  | array items => array (shiftEach j items)
  | dict entries => dict (shiftEntries j entries)
  | v => v

/-- The values with `j` added to the identifiers of their actions. -/
def shiftEach (j : Int) : List Plist → List Plist
  | [] => []
  | v :: rest => v.shift j :: shiftEach j rest

/-- The entries with `j` added to the identifier under `ActionUID` and to those under
`childKeys`. -/
def shiftEntries (j : Int) : List (String × Plist) → List (String × Plist)
  | [] => []
  | (key, v) :: rest =>
    (key, if key = "ActionUID" then v.raise j else if key ∈ childKeys then v.shift j else v) ::
      shiftEntries j rest

end

/-- The identifiers of a list, item by item. -/
theorem identifiersEach_eq_flatMap (items : List Reading) :
    identifiersEach items = items.flatMap Reading.identifiers := by
  induction items with
  | nil => rfl
  | cons r rest ih => rw [identifiersEach, ih, List.flatMap_cons]

theorem entryIdentifiers_append (as bs : List (String × Reading)) :
    entryIdentifiers (as ++ bs) = entryIdentifiers as ++ entryIdentifiers bs := by
  induction as with
  | nil => rfl
  | cons e rest ih =>
    rw [List.cons_append, entryIdentifiers, entryIdentifiers, ih, List.append_assoc]

theorem shiftEach_eq_map (j : Int) (items : List Plist) :
    shiftEach j items = items.map (shift j) := by
  induction items with
  | nil => rfl
  | cons v rest ih => rw [shiftEach, ih, List.map_cons]

theorem shiftEntries_append (j : Int) (as bs : List Entry) :
    shiftEntries j (as ++ bs) = shiftEntries j as ++ shiftEntries j bs := by
  induction as with
  | nil => rfl
  | cons e rest ih => rw [List.cons_append, shiftEntries, shiftEntries, ih, List.cons_append]

/-! ### Moving in

Moving a property list in changes keys with line feeds only, and no key with an identifier or with
actions has one. -/

/-- Moving a text loses none of its characters. -/
theorem mem_moveText {depth : Nat} {c : Char} {s : List Char} (h : c ∈ s) :
    c ∈ moveText depth s := by
  induction s with
  | nil => exact absurd h List.not_mem_nil
  | cons d s ih =>
    rw [moveText, List.mem_append, List.mem_cons]
    rcases List.mem_cons.mp h with rfl | h
    · exact Or.inl (Or.inl rfl)
    · exact Or.inr (ih h)

/-- A key on one line is what no other key is moved to. -/
theorem moveKey_eq_iff {depth : Nat} {key k : String} (hk : KeyOnLine k) :
    moveKey depth key = k ↔ key = k := by
  by_cases hkey : KeyOnLine key
  · rw [moveKey_of_onLine depth hkey]
  · refine iff_of_false (fun h => hk ?_) (fun h => hkey (h ▸ hk))
    rw [← h, moveKey, String.toList_ofList]
    exact mem_moveText (not_not.mp hkey)

/-- So keys that hold actions are found after moving, and no others. -/
theorem moveKey_mem_childKeys {depth : Nat} {key : String} :
    moveKey depth key ∈ childKeys ↔ key ∈ childKeys := by
  have honLine : ∀ k ∈ childKeys, KeyOnLine k := by decide
  constructor
  · exact fun h => (moveKey_eq_iff (honLine _ h)).mp rfl ▸ h
  · exact fun h => (moveKey_of_onLine depth (honLine _ h)).symm ▸ h

theorem moveKey_eq_uid {depth : Nat} {key : String} :
    moveKey depth key = "ActionUID" ↔ key = "ActionUID" :=
  moveKey_eq_iff (by decide)

theorem integer?_moved (depth : Nat) (v : Plist) :
    (v.moved depth).view.integer? = v.view.integer? := by
  cases v <;> rfl

theorem raise_moved (depth : Nat) (j : Int) (v : Plist) :
    (v.moved depth).raise j = (v.raise j).moved depth := by
  cases v <;> rfl

mutual

/-- Moving in changes no identifier. -/
theorem identifiers_moved (depth : Nat) :
    ∀ v : Plist, (v.moved depth).view.identifiers = v.view.identifiers
  | string _ _ | integer _ | real _ | bool _ | data _ | fragment _ | broken _ => rfl
  | array items => identifiersEach_moved depth items
  | dict entries => entryIdentifiers_moved depth entries

theorem identifiersEach_moved (depth : Nat) :
    ∀ items : List Plist,
      identifiersEach (viewItems (movedItems depth items)) = identifiersEach (viewItems items)
  | [] => rfl
  | v :: rest => by
    rw [movedItems, viewItems, identifiersEach, identifiers_moved depth v,
      identifiersEach_moved depth rest, viewItems, identifiersEach]

theorem entryIdentifiers_moved (depth : Nat) :
    ∀ entries : List (String × Plist),
      entryIdentifiers (viewEntries (movedEntries depth entries)) =
        entryIdentifiers (viewEntries entries)
  | [] => rfl
  | (key, v) :: rest => by
    -- A key that is changed was none of those that are looked at, and is not one of them now.
    simp only [movedEntries, viewEntries, entryIdentifiers, moveKey_eq_uid, moveKey_mem_childKeys,
      integer?_moved, identifiers_moved depth v, entryIdentifiers_moved depth rest]

end

mutual

/-- Moving in and raising identifiers do not interfere. -/
theorem shift_moved (depth : Nat) (j : Int) :
    ∀ v : Plist, (v.moved depth).shift j = (v.shift j).moved depth
  | string _ _ | integer _ | real _ | bool _ | data _ | fragment _ | broken _ => rfl
  | array items => congrArg array (shiftEach_moved depth j items)
  | dict entries => congrArg dict (shiftEntries_moved depth j entries)

theorem shiftEach_moved (depth : Nat) (j : Int) :
    ∀ items : List Plist,
      shiftEach j (movedItems depth items) = movedItems depth (shiftEach j items)
  | [] => rfl
  | v :: rest => by
    rw [movedItems, shiftEach, shift_moved depth j v, shiftEach_moved depth j rest, shiftEach,
      movedItems]

theorem shiftEntries_moved (depth : Nat) (j : Int) :
    ∀ entries : List (String × Plist),
      shiftEntries j (movedEntries depth entries) = movedEntries depth (shiftEntries j entries)
  | [] => rfl
  | (key, v) :: rest => by
    simp only [movedEntries, shiftEntries, moveKey_eq_uid, moveKey_mem_childKeys, raise_moved,
      shift_moved depth j v, shiftEntries_moved depth j rest, apply_ite (moved depth)]

end

end Plist

/-! ### Entries -/

/-- The identifiers in the entries are `ids`, and adding `j` to each makes `entries'` of them. -/
structure Numbers (j : Int) (entries : List Entry) (ids : List Int) (entries' : List Entry) :
    Prop where
  identifiers : entryIdentifiers (viewEntries entries) = ids
  shifted : shiftEntries j entries = entries'

/-- The identifiers in the dictionaries are `ids`, and adding `j` to each makes `dicts'` of them. -/
structure NumbersEach (j : Int) (dicts : List Plist) (ids : List Int) (dicts' : List Plist) :
    Prop where
  identifiers : (dicts.map view).flatMap Reading.identifiers = ids
  shifted : dicts.map (shift j) = dicts'

section Entries

variable {j : Int}

/-- Entries are numbered part by part, in the order in which they are written. -/
theorem Numbers.append {as bs as' bs' : List Entry} {is ks : List Int} (ha : Numbers j as is as')
    (hb : Numbers j bs ks bs') : Numbers j (as ++ bs) (is ++ ks) (as' ++ bs') := by
  refine ⟨?_, ?_⟩
  · rw [viewEntries_eq_map, List.map_append, entryIdentifiers_append, ← viewEntries_eq_map,
      ← viewEntries_eq_map, ha.identifiers, hb.identifiers]
  · rw [shiftEntries_append, ha.shifted, hb.shifted]

/-- Entries under other keys have no identifiers. -/
theorem Numbers.other {entries : List Entry} (h : ∀ e ∈ entries, e.1 ∉ actionKeys) :
    Numbers j entries [] entries := by
  induction entries with
  | nil => exact ⟨rfl, rfl⟩
  | cons e rest ih =>
    obtain ⟨key, v⟩ := e
    have hkey : key ∉ "ActionUID" :: childKeys := h (key, v) List.mem_cons_self
    rw [List.mem_cons, not_or] at hkey
    obtain ⟨hids, hrest⟩ := ih fun e he => h e (List.mem_cons_of_mem _ he)
    refine ⟨?_, ?_⟩
    · rw [viewEntries, entryIdentifiers, if_neg hkey.1, if_neg hkey.2, hids]
      rfl
    · rw [shiftEntries, if_neg hkey.1, if_neg hkey.2, hrest]

/-- Other entries in front of them change nothing. -/
theorem Numbers.prepend {as as' bs : List Entry} {is : List Int} (ha : Numbers j as is as')
    (hb : ∀ e ∈ bs, e.1 ∉ actionKeys) : Numbers j (bs ++ as) is (bs ++ as') :=
  (Numbers.other hb).append ha

/-- Nor do other entries behind them. -/
theorem Numbers.extend {as as' bs : List Entry} {is : List Int} (ha : Numbers j as is as')
    (hb : ∀ e ∈ bs, e.1 ∉ actionKeys) : Numbers j (as ++ bs) is (as' ++ bs) := by
  have h := ha.append (Numbers.other hb)
  rwa [List.append_nil] at h

/-- The entry with the identifier itself. -/
theorem Numbers.uid (n : Int) : Numbers j (Frame.uid n) [n] (Frame.uid (n + j)) :=
  ⟨rfl, rfl⟩

/-- The dictionaries of the actions inside. -/
theorem NumbersEach.entry {k : String} {dicts dicts' : List Plist} {ids : List Int}
    (hk : k ∈ childKeys) (h : NumbersEach j dicts ids dicts') :
    Numbers j [(k, array dicts)] ids [(k, array dicts')] := by
  have huid : k ≠ "ActionUID" := by
    rintro rfl
    exact absurd hk (by decide)
  refine ⟨?_, ?_⟩
  · rw [viewEntries, entryIdentifiers, if_neg huid, if_pos hk, view, Reading.identifiers,
      identifiersEach_eq_flatMap, viewItems_eq_map, h.identifiers]
    exact List.append_nil ids
  · rw [shiftEntries, if_neg huid, if_pos hk, shift, shiftEach_eq_map, h.shifted]
    rfl

theorem NumbersEach.nil : NumbersEach j [] [] [] :=
  ⟨rfl, rfl⟩

/-- Dicts are numbered one after the other. -/
theorem NumbersEach.append {as bs as' bs' : List Plist} {is ks : List Int}
    (ha : NumbersEach j as is as') (hb : NumbersEach j bs ks bs') :
    NumbersEach j (as ++ bs) (is ++ ks) (as' ++ bs') := by
  refine ⟨?_, ?_⟩
  · rw [List.map_append, List.flatMap_append, ha.identifiers, hb.identifiers]
  · rw [List.map_append, ha.shifted, hb.shifted]

theorem Numbers.dict {entries entries' : List Entry} {ids : List Int}
    (h : Numbers j entries ids entries') :
    NumbersEach j [.dict entries] ids [.dict entries'] := by
  refine ⟨?_, ?_⟩
  · rw [List.map_singleton, List.flatMap_singleton, view, Reading.identifiers, h.identifiers]
  · rw [List.map_singleton, shift, h.shifted]

/-- Moving in keeps what numbers and shifts a list of dicts. -/
theorem NumbersEach.moved (depth : Nat) {dicts dicts' : List Plist} {ids : List Int}
    (h : NumbersEach j dicts ids dicts') :
    NumbersEach j (dicts.map (moved depth)) ids (dicts'.map (moved depth)) := by
  obtain ⟨rfl, rfl⟩ := h
  refine ⟨?_, ?_⟩
  · simp only [List.flatMap_map, identifiers_moved]
  · simp only [List.map_map, Function.comp_def, shift_moved]

/-! ### Frames -/

namespace Frame

/-- A numbered frame has its own identifier and no other. -/
theorem Numbered.numbers {f : Frame} (hf : f.Numbered) (n : Int) :
    Numbers j (f n) [n] (f (n + j)) := by
  obtain ⟨pre, post, h, hpre, hpost⟩ := hf
  rw [h, h]
  exact ((Numbers.uid n).prepend hpre.other).extend hpost.other

variable {xs ys xs' ys' : List Plist} {is ks : List Int}

/-- The identifier of a group comes before those of its actions. -/
theorem group_numbers (name : Slot) (timeout : TimeoutPolicy) (n : Int)
    (h : NumbersEach j xs is xs') :
    Numbers j (group name timeout (array xs) n) (n :: is)
      (group name timeout (array xs') (n + j)) := by
  have hname : Quiet (slot "ActionName" name) := quiet_slot (by decide) name
  have hactions := h.entry (k := "Actions") (by decide)
  exact ((((Numbers.uid n).prepend hname.other).append hactions).extend
    (quiet_type "Group").other).extend (quiet_timeout timeout).other

/-- That of a switch comes before those of its cases. -/
theorem switch_numbers (source : SwitchSource) (n : Int) (h : NumbersEach j xs is xs') :
    Numbers j (switch source (array xs) n) (n :: is) (switch source (array xs') (n + j)) := by
  have hcases := h.entry (k := "CaseEntries") (by decide)
  exact ((((Numbers.uid n).extend (quiet_leading source).other).append hcases).extend
    (quiet_type "Switch").other).extend (quiet_trailing source).other

/-- A case has no identifier of its own. -/
theorem switchCase_numbers (operator : String) (testValue : Slot) (h : NumbersEach j xs is xs') :
    Numbers j (switchCase operator testValue (array xs)) is
      (switchCase operator testValue (array xs')) := by
  have hactions := h.entry (k := "Actions") (by decide)
  have hoperator : Quiet (text "ConditionType" operator) := quiet_text (by decide) operator
  exact (hactions.extend hoperator.other).extend
    (quiet_compactLeaf testValue (by decide)).other

/-- Conditions are not actions, and have no identifiers. -/
theorem conditions_other (conditions : Plist) :
    ∀ e ∈ [("Conditions", conditions)], e.1 ∉ actionKeys := by
  simp +decide

/-- The identifiers of the `else` branch come before those of the `then` branch. -/
theorem ifThenElse_numbers (conditions : Plist) (aborts : Bool) (n : Int)
    (hx : NumbersEach j xs is xs') (hy : NumbersEach j ys ks ys') :
    Numbers j (ifThenElse conditions aborts (array xs) (array ys) n) (n :: (is ++ ks))
      (ifThenElse conditions aborts (array xs') (array ys') (n + j)) := by
  have helse := (hx.entry (k := "ElseActions") (by decide)).prepend (conditions_other conditions)
  have hthen := hy.entry (k := "ThenActions") (by decide)
  have haborts : Quiet (flag "TimeOutAbortsMacro" aborts) := quiet_flag (by decide) aborts
  exact ((((Numbers.uid n).append helse).extend (quiet_type "IfThenElse").other).append
    hthen).extend haborts.other

theorem whileLoop_numbers (conditions : Plist) (aborts : Bool) (notify : Option Bool) (n : Int)
    (h : NumbersEach j xs is xs') :
    Numbers j (whileLoop conditions aborts notify (array xs) n) (n :: is)
      (whileLoop conditions aborts notify (array xs') (n + j)) := by
  have hactions := (h.entry (k := "Actions") (by decide)).extend (conditions_other conditions)
  have hnotify : Quiet (optionalEntry "NotifyOnTimeOut" (notify.map .bool)) :=
    quiet_flag? (by decide) notify
  have haborts : Quiet (flag "TimeOutAbortsMacro" aborts) := quiet_flag (by decide) aborts
  exact ((((Numbers.uid n).append hactions).extend (quiet_type "While").other).extend
    hnotify.other).extend haborts.other

end Frame

end Entries

end MacroScribe
