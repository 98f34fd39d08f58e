import MacroScribe.Plist.Writer
import MacroScribe.Proofs.Outcome

/-!
# MacroScribe.Proofs.Plist.Shape

What property lists are made of. `Every` says something about all leaves and all keys of a property
list, at any depth; the other predicates are instances of it:

* `Whole` — it holds nothing but typed leaves: no dictionaries that are written already and no leaf
  without a written form;
* `Solid` — it holds no dictionaries that are written already and no empty byte string, so that none
  of its lines is blank;
* `Writable` — each of its leaves has a written form, so that the property list has one
  (`lines_eq_ok_iff`).
-/

namespace MacroScribe.Plist

mutual

/-- Each leaf of the property list satisfies `leaf` and each key of its dictionaries `key`. -/
def Every (leaf : Plist → Prop) (key : String → Prop) : Plist → Prop
  | string s compact => leaf (string s compact)
  | integer n => leaf (integer n)
  | real x => leaf (real x)
  | bool b => leaf (bool b)
  | data bytes => leaf (data bytes)
  | array items => EveryItem leaf key items
  | dict entries => EveryEntry leaf key entries
  | fragment xml => leaf (fragment xml)
  | broken cause => leaf (broken cause)

/-- `Every` for each of the values. -/
def EveryItem (leaf : Plist → Prop) (key : String → Prop) : List Plist → Prop
  | [] => True
  | v :: rest => Every leaf key v ∧ EveryItem leaf key rest

/-- `Every` for the value of each entry, and its key satisfies `key`. -/
def EveryEntry (leaf : Plist → Prop) (key : String → Prop) : List (String × Plist) → Prop
  | [] => True
  | (k, v) :: rest => (key k ∧ Every leaf key v) ∧ EveryEntry leaf key rest

end

variable {leaf leaf' leaf'' : Plist → Prop} {key key' : String → Prop}

theorem everyItem_iff {items : List Plist} :
    EveryItem leaf key items ↔ ∀ v ∈ items, Every leaf key v := by
  induction items with
  | nil => simp [EveryItem]
  | cons v rest ih => simp [EveryItem, ih]

theorem everyEntry_iff {entries : List (String × Plist)} :
    EveryEntry leaf key entries ↔ ∀ e ∈ entries, key e.1 ∧ Every leaf key e.2 := by
  induction entries with
  | nil => simp [EveryEntry]
  | cons e rest ih => simp [EveryEntry, ih]

@[simp] theorem every_array {items : List Plist} :
    Every leaf key (array items) ↔ ∀ v ∈ items, Every leaf key v := by
  rw [Every, everyItem_iff]

@[simp] theorem every_dict {entries : List (String × Plist)} :
    Every leaf key (dict entries) ↔ ∀ e ∈ entries, key e.1 ∧ Every leaf key e.2 := by
  rw [Every, everyEntry_iff]

mutual

/-- What is weaker of leaves and keys holds of all of them as well. -/
theorem Every.mono (hl : ∀ v, leaf v → leaf' v) (hk : ∀ k, key k → key' k) :
    ∀ {v : Plist}, Every leaf key v → Every leaf' key' v
  | string _ _, h => hl _ h
  | integer _, h => hl _ h
  | real _, h => hl _ h
  | bool _, h => hl _ h
  | data _, h => hl _ h
  | array _, h => EveryItem.mono hl hk h
  | dict _, h => EveryEntry.mono hl hk h
  | fragment _, h => hl _ h
  | broken _, h => hl _ h

theorem EveryItem.mono (hl : ∀ v, leaf v → leaf' v) (hk : ∀ k, key k → key' k) :
    ∀ {items : List Plist}, EveryItem leaf key items → EveryItem leaf' key' items
  | [], _ => trivial
  | _ :: _, h => ⟨Every.mono hl hk h.1, EveryItem.mono hl hk h.2⟩

theorem EveryEntry.mono (hl : ∀ v, leaf v → leaf' v) (hk : ∀ k, key k → key' k) :
    ∀ {entries : List (String × Plist)},
      EveryEntry leaf key entries → EveryEntry leaf' key' entries
  | [], _ => trivial
  | (_, _) :: _, h => ⟨⟨hk _ h.1.1, Every.mono hl hk h.1.2⟩, EveryEntry.mono hl hk h.2⟩

end

mutual

/-- Two things that hold of each leaf hold at once. -/
theorem Every.and (hand : ∀ v, leaf v → leaf' v → leaf'' v) :
    ∀ {v : Plist}, Every leaf key v → Every leaf' key v → Every leaf'' key v
  | string _ _, h, h' => hand _ h h'
  | integer _, h, h' => hand _ h h'
  | real _, h, h' => hand _ h h'
  | bool _, h, h' => hand _ h h'
  | data _, h, h' => hand _ h h'
  | array _, h, h' => EveryItem.and hand h h'
  | dict _, h, h' => EveryEntry.and hand h h'
  | fragment _, h, h' => hand _ h h'
  | broken _, h, h' => hand _ h h'

theorem EveryItem.and (hand : ∀ v, leaf v → leaf' v → leaf'' v) :
    ∀ {items : List Plist}, EveryItem leaf key items → EveryItem leaf' key items →
      EveryItem leaf'' key items
  | [], _, _ => trivial
  | _ :: _, h, h' => ⟨Every.and hand h.1 h'.1, EveryItem.and hand h.2 h'.2⟩

theorem EveryEntry.and (hand : ∀ v, leaf v → leaf' v → leaf'' v) :
    ∀ {entries : List (String × Plist)}, EveryEntry leaf key entries →
      EveryEntry leaf' key entries → EveryEntry leaf'' key entries
  | [], _, _ => trivial
  | (_, _) :: _, h, h' => ⟨⟨h.1.1, Every.and hand h.1.2 h'.1.2⟩, EveryEntry.and hand h.2 h'.2⟩

end

/-! ### Kinds of leaves -/

/-- A leaf that is neither written already nor an empty byte string. -/
def SolidLeaf : Plist → Prop
  | fragment _ => False
  | data bytes => bytes ≠ []
  | _ => True

/-- A leaf that is a text, a number or a flag. -/
def TypedLeaf : Plist → Prop
  | string .. | integer _ | real _ | bool _ => True
  | _ => False

/-- A leaf that is not written already and has a written form. -/
def WholeLeaf : Plist → Prop
  | fragment _ | broken _ => False
  | _ => True

/-- A leaf that has a written form. -/
def WritableLeaf : Plist → Prop
  | broken _ => False
  | _ => True

/-- No part of the property list is written already or an empty byte string. -/
def Solid (v : Plist) : Prop :=
  v.Every SolidLeaf fun _ => True

/-- The property list consists of texts, numbers and flags in arrays and dictionaries. -/
def Typed (v : Plist) : Prop :=
  v.Every TypedLeaf fun _ => True

/-- The property list consists of typed leaves, arrays and dictionaries. -/
def Whole (v : Plist) : Prop :=
  v.Every WholeLeaf fun _ => True

/-- Each leaf has a written form. -/
def Writable (v : Plist) : Prop :=
  v.Every WritableLeaf fun _ => True

/-- A leaf that is typed is written neither as a fragment nor as empty data. -/
theorem Typed.solid {v : Plist} (h : v.Typed) : v.Solid := by
  refine Every.mono (fun v hv => ?_) (fun _ => id) h
  cases v <;> first | exact hv.elim | trivial

theorem Typed.whole {v : Plist} (h : v.Typed) : v.Whole := by
  refine Every.mono (fun v hv => ?_) (fun _ => id) h
  cases v <;> first | exact hv.elim | trivial

/-- What is whole can be written. -/
theorem Whole.writable {v : Plist} (h : v.Whole) : v.Writable := by
  refine Every.mono (fun v hv => ?_) (fun _ => id) h
  cases v <;> first | exact hv.elim | trivial

/-- A leaf that was not written before and has a written form is one of the typed leaves. -/
theorem Solid.whole {v : Plist} (h : v.Solid) (hw : v.Writable) : v.Whole := by
  refine Every.and (fun v hv hv' => ?_) h hw
  cases v <;> first | exact hv.elim | exact hv'.elim | trivial

/-- A key without a line feed. -/
def KeyOnLine (k : String) : Prop :=
  '\n' ∉ k.toList

instance : DecidablePred KeyOnLine := fun k =>
  inferInstanceAs (Decidable ('\n' ∉ k.toList))

/-- No key has a line feed. -/
def KeysOnLines (v : Plist) : Prop :=
  v.Every (fun _ => True) KeyOnLine

/-! ### Written forms -/

/-- The line of a key. -/
def keyLine (depth : Nat) (key : String) : Line :=
  indent depth ++ element "key" (escape key.toList)

/-- A container: its tag alone when there is nothing inside, otherwise the lines inside between two
tags. -/
def enclose (depth : Nat) (name : String) (body : List Line) : List Line :=
  if body.isEmpty then [indent depth ++ emptyTag name]
  else (indent depth ++ openTag name) :: body ++ [indent depth ++ closeTag name]

/-- An array encloses the lines of its items. -/
theorem lines_array (depth : Nat) (items : List Plist) :
    (array items).lines depth = (itemLines (depth + 1) items).map (enclose depth "array") := by
  rw [lines]
  cases itemLines (depth + 1) items <;> rfl

/-- A dict encloses the lines of its entries. -/
theorem lines_dict (depth : Nat) (entries : List (String × Plist)) :
    (dict entries).lines depth = (entryLines (depth + 1) entries).map (enclose depth "dict") := by
  rw [lines]
  cases entryLines (depth + 1) entries <;> rfl

theorem itemLines_cons_eq_ok {depth : Nat} {v : Plist} {rest : List Plist} {ls : List Line} :
    itemLines depth (v :: rest) = .ok ls ↔
      ∃ first others, v.lines depth = .ok first ∧ itemLines depth rest = .ok others ∧
        first ++ others = ls := by
  rw [itemLines]
  exact Outcome.map₂_eq_ok

theorem entryLines_cons_eq_ok {depth : Nat} {key : String} {v : Plist}
    {rest : List (String × Plist)} {ls : List Line} :
    entryLines depth ((key, v) :: rest) = .ok ls ↔
      ∃ first others, v.lines depth = .ok first ∧ entryLines depth rest = .ok others ∧
        keyLine depth key :: first ++ others = ls := by
  rw [entryLines]
  exact Outcome.map₂_eq_ok

mutual

/-- A property list has a written form if its leaves have. -/
theorem exists_lines {d : Nat} : ∀ {v : Plist}, v.Writable → ∃ ls, v.lines d = .ok ls
  | string _ _, _ | integer _, _ | real _, _ | bool _, _ | data _, _ | fragment _, _ => ⟨_, rfl⟩
  | array _, h => by
    obtain ⟨body, hbody⟩ := exists_itemLines (d := d + 1) h
    rw [lines, hbody]
    exact ⟨_, rfl⟩
  | dict _, h => by
    obtain ⟨body, hbody⟩ := exists_entryLines (d := d + 1) h
    rw [lines, hbody]
    exact ⟨_, rfl⟩

/-- Items that can be written have lines. -/
theorem exists_itemLines {d : Nat} :
    ∀ {items : List Plist}, EveryItem WritableLeaf (fun _ => True) items →
      ∃ ls, itemLines d items = .ok ls
  | [], _ => ⟨[], rfl⟩
  | _ :: _, h => by
    obtain ⟨first, hfirst⟩ := exists_lines (d := d) h.1
    obtain ⟨others, hothers⟩ := exists_itemLines (d := d) h.2
    rw [itemLines, hfirst, hothers]
    exact ⟨_, rfl⟩

theorem exists_entryLines {d : Nat} :
    ∀ {entries : List (String × Plist)}, EveryEntry WritableLeaf (fun _ => True) entries →
      ∃ ls, entryLines d entries = .ok ls
  | [], _ => ⟨[], rfl⟩
  | (_, _) :: _, h => by
    obtain ⟨first, hfirst⟩ := exists_lines (d := d) h.1.2
    obtain ⟨others, hothers⟩ := exists_entryLines (d := d) h.2
    rw [entryLines, hfirst, hothers]
    exact ⟨_, rfl⟩

end

mutual

/-- A property list that has a written form holds no leaf without one. -/
theorem writable_of_lines {d : Nat} :
    ∀ {v : Plist} {ls : List Line}, v.lines d = .ok ls → v.Writable
  | string _ _, _, _ | integer _, _, _ | real _, _, _ | bool _, _, _ | data _, _, _
  | fragment _, _, _ => trivial
  | array _, _, h => by
    rw [lines, Outcome.bind_eq_ok] at h
    obtain ⟨body, hbody, -⟩ := h
    exact writableItems_of_itemLines hbody
  | dict _, _, h => by
    rw [lines, Outcome.bind_eq_ok] at h
    obtain ⟨body, hbody, -⟩ := h
    exact writableEntries_of_entryLines hbody

/-- Items that have lines can be written. -/
theorem writableItems_of_itemLines {d : Nat} :
    ∀ {items : List Plist} {ls : List Line}, itemLines d items = .ok ls →
      EveryItem WritableLeaf (fun _ => True) items
  | [], _, _ => trivial
  | _ :: _, _, h => by
    obtain ⟨first, others, hfirst, hothers, -⟩ := itemLines_cons_eq_ok.mp h
    exact ⟨writable_of_lines hfirst, writableItems_of_itemLines hothers⟩

theorem writableEntries_of_entryLines {d : Nat} :
    ∀ {entries : List (String × Plist)} {ls : List Line}, entryLines d entries = .ok ls →
      EveryEntry WritableLeaf (fun _ => True) entries
  | [], _, _ => trivial
  | (_, _) :: _, _, h => by
    obtain ⟨first, others, hfirst, hothers, -⟩ := entryLines_cons_eq_ok.mp h
    exact ⟨⟨trivial, writable_of_lines hfirst⟩, writableEntries_of_entryLines hothers⟩

end

/-- A property list has lines exactly if it can be written. -/
theorem lines_eq_ok_iff {d : Nat} {v : Plist} : (∃ ls, v.lines d = .ok ls) ↔ v.Writable :=
  ⟨fun ⟨_, h⟩ => writable_of_lines h, exists_lines⟩

end MacroScribe.Plist
