import MacroScribe.Proofs.Action.Identifiers
import MacroScribe.Proofs.Json.Fields

/-!
# MacroScribe.Proofs.Action.Gestures

What dictionaries of actions do with keys. A key that is held has to be released, or it stays
stuck: the two are actions of their own, with a pause between them, and stand next to each other in
the same list of actions. `Released` says so of one list, in both directions, and `Reading.Releases`
of every list of actions inside what was read.
-/

namespace MacroScribe

open Plist

namespace Plist

/-! ### Values under keys -/

/-- What was read under a key of a dictionary. -/
def Reading.value? (key : String) : Reading → Option Reading
  | dict entries => Fields.get? entries key
  | _ => none

/-- The text that was read. -/
def Reading.text? : Reading → Option String
  | string s => some s
  | _ => none

theorem text?_moved (depth : Nat) (v : Plist) : (v.moved depth).view.text? = v.view.text? := by
  cases v <;> rfl

/-- What is found under a key on one line does not depend on where the dictionary was moved to, if
it is looked at in a way that does not. -/
theorem value?_moved {α : Type} {look : Reading → Option α} {key : String} (hkey : KeyOnLine key)
    (depth : Nat) (hlook : ∀ v : Plist, look (v.moved depth).view = look v.view) (v : Plist) :
    ((v.moved depth).view.value? key).bind look = (v.view.value? key).bind look := by
  cases v with
  | dict entries =>
    change (Fields.get? (viewEntries (movedEntries depth entries)) key).bind look =
      (Fields.get? (viewEntries entries) key).bind look
    induction entries with
    | nil => rfl
    | cons e rest ih =>
      obtain ⟨k, v⟩ := e
      rw [movedEntries, viewEntries, viewEntries, Fields.get?_cons, Fields.get?_cons]
      by_cases hk : k = key
      · rw [if_pos hk, if_pos ((moveKey_eq_iff hkey).mpr hk)]
        exact hlook v
      · rw [if_neg hk, if_neg fun h => hk ((moveKey_eq_iff hkey).mp h)]
        exact ih
  | _ => rfl

/-! ### Gestures -/

/-- What the dictionary of an action does with keys. -/
inductive Gesture where
  /-- A key is pressed or released, in some manner. -/
  | stroke (press : Option String) (key modifiers : Option Int)
  | pause
  /-- Anything else. -/
  | other
  deriving DecidableEq

/-- The gesture of a dictionary. -/
def Reading.gesture (r : Reading) : Gesture :=
  let kind := (r.value? "MacroActionType").bind text?
  if kind = some "SimulateKeystroke" then
    .stroke ((r.value? "Press").bind text?) ((r.value? "KeyCode").bind integer?)
      ((r.value? "Modifiers").bind integer?)
  else if kind = some "Pause" then .pause
  else .other

theorem gesture_moved (depth : Nat) (v : Plist) :
    (v.moved depth).view.gesture = v.view.gesture := by
  have htext (key : String) (hkey : KeyOnLine key) :=
    value?_moved hkey depth (text?_moved depth) v
  have hinteger (key : String) (hkey : KeyOnLine key) :=
    value?_moved hkey depth (integer?_moved depth) v
  simp only [Reading.gesture, htext "MacroActionType" (by decide), htext "Press" (by decide),
    hinteger "KeyCode" (by decide), hinteger "Modifiers" (by decide)]

namespace Gesture

/-- A key is pressed and stays so. -/
def hold (key modifiers : Int) : Gesture :=
  stroke (some "PressAndHold") (some key) (some modifiers)

/-- A key is released. -/
def release (key modifiers : Int) : Gesture :=
  stroke (some "Release") (some key) (some modifiers)

/-- No key is held or released. -/
def Momentary (g : Gesture) : Prop :=
  ∀ press key modifiers, g = stroke press key modifiers →
    press ≠ some "PressAndHold" ∧ press ≠ some "Release"

end Gesture

/-- Each key that is held is released after a pause, with nothing else in between, and no key is
released otherwise. -/
structure Released (gestures : List Gesture) : Prop where
  held : ∀ before key modifiers after,
    gestures = before ++ .stroke (some "PressAndHold") key modifiers :: after →
    key.isSome ∧ modifiers.isSome ∧
      ∃ rest, after = .pause :: .stroke (some "Release") key modifiers :: rest
  released : ∀ before key modifiers after,
    gestures = before ++ .stroke (some "Release") key modifiers :: after →
    ∃ earlier, before = earlier ++ [.stroke (some "PressAndHold") key modifiers, .pause]

/-- Keys are held, waited for and released in one go, among other gestures. -/
inductive Paired : List Gesture → Prop where
  | nil : Paired []
  | momentary {g : Gesture} {rest : List Gesture} (h : g.Momentary) (hrest : Paired rest) :
      Paired (g :: rest)
  | held (key modifiers : Int) {rest : List Gesture} (hrest : Paired rest) :
      Paired (.hold key modifiers :: .pause :: .release key modifiers :: rest)

namespace Paired

variable {gestures more : List Gesture}

/-- Lists of actions may follow each other: none ends while a key is held. -/
theorem append (h : Paired gestures) (hmore : Paired more) : Paired (gestures ++ more) := by
  induction h with
  | nil => exact hmore
  | momentary h _ ih => exact .momentary h ih
  | held key modifiers _ ih => exact .held key modifiers ih

theorem hold_followed (h : Paired gestures) {before after : List Gesture}
    {key modifiers : Option Int}
    (heq : gestures = before ++ .stroke (some "PressAndHold") key modifiers :: after) :
    key.isSome ∧ modifiers.isSome ∧
      ∃ rest, after = .pause :: .stroke (some "Release") key modifiers :: rest := by
  induction h generalizing before with
  | nil => simp at heq
  | momentary h _ ih =>
    cases before with
    | nil =>
      obtain ⟨rfl, -⟩ := List.cons.inj heq
      exact absurd rfl (h _ _ _ rfl).1
    | cons g before => exact ih (List.cons.inj heq).2
  | held key modifiers _ ih =>
    -- The hold is the first of the three, or comes after them.
    match before with
    | [] =>
      obtain ⟨hhold, rfl⟩ := List.cons.inj heq
      obtain ⟨-, rfl, rfl⟩ := Gesture.stroke.inj hhold
      exact ⟨rfl, rfl, _, rfl⟩
    | [_] => cases (List.cons.inj (List.cons.inj heq).2).1
    | [_, _] =>
      have hrelease := (List.cons.inj (List.cons.inj (List.cons.inj heq).2).2).1
      exact absurd (Gesture.stroke.inj hrelease).1 (by decide)
    | _ :: _ :: _ :: before =>
      exact ih (List.cons.inj (List.cons.inj (List.cons.inj heq).2).2).2

theorem release_preceded (h : Paired gestures) {before after : List Gesture}
    {key modifiers : Option Int}
    (heq : gestures = before ++ .stroke (some "Release") key modifiers :: after) :
    ∃ earlier, before = earlier ++ [.stroke (some "PressAndHold") key modifiers, .pause] := by
  induction h generalizing before with
  | nil => simp at heq
  | momentary h _ ih =>
    cases before with
    | nil =>
      obtain ⟨rfl, -⟩ := List.cons.inj heq
      exact absurd rfl (h _ _ _ rfl).2
    | cons g before =>
      obtain ⟨earlier, rfl⟩ := ih (List.cons.inj heq).2
      exact ⟨g :: earlier, rfl⟩
  | held key modifiers _ ih =>
    -- The release is the last of the three, or comes after them.
    match before with
    | [] => exact absurd (Gesture.stroke.inj (List.cons.inj heq).1).1 (by decide)
    | [_] => cases (List.cons.inj (List.cons.inj heq).2).1
    | [g, g'] =>
      obtain ⟨rfl, hrest⟩ := List.cons.inj heq
      obtain ⟨rfl, hlast⟩ := List.cons.inj hrest
      obtain ⟨-, rfl, rfl⟩ := Gesture.stroke.inj (List.cons.inj hlast).1
      exact ⟨[], rfl⟩
    | g :: g' :: g'' :: before =>
      obtain ⟨earlier, rfl⟩ := ih (List.cons.inj (List.cons.inj (List.cons.inj heq).2).2).2
      exact ⟨g :: g' :: g'' :: earlier, rfl⟩

theorem released (h : Paired gestures) : Released gestures where
  held _ _ _ _ heq := h.hold_followed heq
  released _ _ _ _ heq := h.release_preceded heq

end Paired

/-! ### Lists of actions -/

mutual

/-- In each list of actions in what was read, keys that are held are released. -/
def Reading.Releases : Reading → Prop
  | .array items => Released (items.map Reading.gesture) ∧ EachReleases items
  | .dict entries => EntriesRelease entries
  | _ => True

/-- This holds within each of the values. -/
def EachReleases : List Reading → Prop
  | [] => True
  | r :: rest => r.Releases ∧ EachReleases rest

/-- This holds within the values under `childKeys`. -/
def EntriesRelease : List (String × Reading) → Prop
  | [] => True
  | (key, r) :: rest => (key ∈ childKeys → r.Releases) ∧ EntriesRelease rest

end

theorem eachReleases_iff {items : List Reading} :
    EachReleases items ↔ ∀ r ∈ items, r.Releases := by
  induction items with
  | nil => simp [EachReleases]
  | cons r rest ih => rw [EachReleases, ih, List.forall_mem_cons]

theorem entriesRelease_iff {entries : List (String × Reading)} :
    EntriesRelease entries ↔ ∀ e ∈ entries, e.1 ∈ childKeys → e.2.Releases := by
  induction entries with
  | nil => simp [EntriesRelease]
  | cons e rest ih =>
    obtain ⟨key, r⟩ := e
    rw [EntriesRelease, ih, List.forall_mem_cons]

theorem gestures_moved (depth : Nat) (items : List Plist) :
    (viewItems (movedItems depth items)).map Reading.gesture =
      (viewItems items).map Reading.gesture := by
  simp only [movedItems_eq_map, viewItems_eq_map, List.map_map, Function.comp_def, gesture_moved]

mutual

/-- Moving a property list in does not change this. -/
theorem releases_moved (depth : Nat) : ∀ v : Plist, (v.moved depth).view.Releases ↔ v.view.Releases
  | string _ _ | integer _ | real _ | bool _ | data _ | fragment _ | broken _ => Iff.rfl
  | array items => and_congr (by rw [gestures_moved]) (eachReleases_moved depth items)
  | dict entries => entriesRelease_moved depth entries

theorem eachReleases_moved (depth : Nat) :
    ∀ items : List Plist,
      EachReleases (viewItems (movedItems depth items)) ↔ EachReleases (viewItems items)
  | [] => Iff.rfl
  | v :: rest => and_congr (releases_moved depth v) (eachReleases_moved depth rest)

theorem entriesRelease_moved (depth : Nat) :
    ∀ entries : List (String × Plist),
      EntriesRelease (viewEntries (movedEntries depth entries)) ↔
        EntriesRelease (viewEntries entries)
  | [] => Iff.rfl
  | (key, v) :: rest => by
    simp only [movedEntries, viewEntries, EntriesRelease, moveKey_mem_childKeys,
      releases_moved depth v, entriesRelease_moved depth rest]

end

end Plist
end MacroScribe
