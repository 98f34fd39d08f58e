import MacroScribe.Proofs.Action.Numbering
import Mathlib.Algebra.GroupWithZero.Nat

/-!
# MacroScribe.Proofs.Keystroke.Mask

The masks of modifiers. A mask is the sum of the bits of distinct modifiers, and these can be read
off it again (`ofMask_mask`). Keystrokes come about in several ways: from a code, from a shortcut,
from a mapping, or for a click from a number. `modifiers_are_masks` says that each of these ways
ends with a mask, that the normal form of a keystroke is its own normal form, and that masks are
what the actions on keys and clicks write.
-/

namespace MacroScribe

open Outcome

namespace Modifier

theorem mem_all (m : Modifier) : m ∈ all := by
  cases m <;> decide

theorem mem_sorted {mods : List Modifier} {m : Modifier} : m ∈ sorted mods ↔ m ∈ mods := by
  rw [sorted, List.mem_filter, List.contains_iff_mem]
  exact and_iff_right (mem_all m)

/-- Modifiers that are sorted already stay as they are. -/
theorem sorted_sorted (mods : List Modifier) : sorted (sorted mods) = sorted mods := by
  refine List.filter_congr fun m _ => ?_
  rw [Bool.eq_iff_iff, List.contains_iff_mem, List.contains_iff_mem]
  exact mem_sorted

/-- The order of modifiers does not matter for the mask. -/
theorem mask_sorted (mods : List Modifier) : mask (sorted mods) = mask mods := by
  rw [mask, sorted_sorted, mask]

/-- The bits of a mask are those of the modifiers that it was made of. -/
theorem ofMask_mask (mods : List Modifier) : ofMask (mask mods) = sorted mods := by
  -- All that matters of the collection is which of the four modifiers it has.
  simp only [mask, sorted, all, List.filter_cons, List.filter_nil]
  cases mods.contains cmd <;> cases mods.contains option <;> cases mods.contains shift <;>
    cases mods.contains control <;> rfl

/-- Every set of modifiers has a mask. -/
theorem isMask_mask (mods : List Modifier) : isMask (mask mods) := by
  rw [isMask, ofMask_mask, mask_sorted]
  exact beq_self_eq_true _

/-- A mask is the mask of the modifiers in it. -/
theorem mask_ofMask {n : Int} (h : isMask n) : (mask (ofMask n) : Int) = n :=
  (eq_of_beq h).symm

/-- The modifiers of a mask are distinct. -/
theorem nodup_ofMask (n : Int) : (ofMask n).Nodup :=
  List.Nodup.sublist List.filter_sublist (by decide)

/-- The modifiers of a mask come in their own order. -/
theorem sorted_ofMask (n : Int) : sorted (ofMask n) = ofMask n := by
  refine List.filter_congr fun m hm => ?_
  rw [Bool.eq_iff_iff, List.contains_iff_mem, ofMask, List.mem_filter]
  exact and_iff_right hm

/-- The integer is the sum of the bits of distinct modifiers, namely of those that it has. -/
structure IsSum (n : Int) : Prop where
  nodup : (ofMask n).Nodup
  mask_eq : (mask (ofMask n) : Int) = n
  sum_eq : (((ofMask n).map bit).sum : Int) = n

/-- A mask is a sum of distinct bits. -/
theorem IsSum.of_isMask {n : Int} (h : isMask n) : IsSum n where
  nodup := nodup_ofMask n
  mask_eq := mask_ofMask h
  sum_eq := by
    have hsum : ((ofMask n).map bit).sum = mask (ofMask n) := by
      rw [mask, sorted_ofMask, List.sum]
    rw [hsum, mask_ofMask h]

end Modifier

namespace Keystroke

open Modifier

/-- Shortcuts come to masks, if they come to anything. -/
theorem ofShortcut_isMask (s : Shortcut) : Ensures (ofShortcut s) fun k => isMask k.mask := by
  unfold ofShortcut
  split
  · exact ensures_ok (isMask_mask _)
  · exact ensures_bind fun code _ => ensures_pure (isMask_mask _)

/-- The normal form of a specification has a mask. -/
theorem normalize_isMask (s : KeystrokeSpec) : Ensures (normalize s) fun k => isMask k.mask := by
  cases s with
  | code n => exact ensures_bind fun code _ => ensures_pure (isMask_mask [])
  | shortcut text => exact ofShortcut_isMask _
  | chord mask key =>
    rw [normalize]
    split
    · next hmask => exact ensures_ok hmask
    · exact ensures_error _
  | mapping text => exact ensures_error _
  | other type => exact ensures_error _

/-- And so do keystrokes in all their forms. -/
theorem ofJson_isMask {ω : Type} [Described ω] (v : Json ω) :
    Ensures (Keystroke.ofJson v) fun k => isMask k.mask :=
  ensures_bind fun s _ => normalize_isMask s

/-- The value that a key code, or no key, is in a mapping. -/
def keyValue {ω : Type} (key : Option Int) : Json ω :=
  (key.map .int).getD .null

/-- A mapping from a mask is the normal form already, and has the value of the key. -/
theorem normalize_ofMasked {ω : Type} [Described ω] {mask : Int} {value : Json ω} {k : Keystroke}
    (h : normalize (.ofMasked mask value) = .ok k) : k.mask = mask ∧ value = keyValue k.key := by
  unfold KeystrokeSpec.ofMasked at h
  split at h
  · rw [normalize] at h
    split at h
    · obtain rfl := Except.ok.inj h
      exact ⟨rfl, rfl⟩
    · cases h
  · rw [normalize] at h
    split at h
    · obtain rfl := Except.ok.inj h
      exact ⟨rfl, rfl⟩
    · cases h
  · cases h

/-- A mapping that specifies a keystroke has one entry, from the digits of the mask to the key. -/
theorem ofJson_obj {ω : Type} [Described ω] {fields : List (String × Json ω)} {k : Keystroke}
    (h : Keystroke.ofJson (.obj fields) = .ok k) :
    ∃ digits, integerOfText digits = .ok k.mask ∧ fields = [(digits, keyValue k.key)] := by
  obtain ⟨spec, hspec, h⟩ := bind_eq_ok.mp h
  match fields with
  | [] =>
    obtain rfl := Except.ok.inj hspec
    cases h
  | [(key, value)] =>
    rw [KeystrokeSpec.ofJson] at hspec
    by_cases hdigits : key ≠ "" ∧ key.toList.all Char.isDigit
    · rw [if_pos hdigits] at hspec
      obtain ⟨mask, hmask, hspec⟩ := bind_eq_ok.mp hspec
      obtain rfl := Except.ok.inj hspec
      obtain ⟨rfl, rfl⟩ := normalize_ofMasked h
      exact ⟨key, hmask, rfl⟩
    · rw [if_neg hdigits] at hspec
      obtain rfl := Except.ok.inj hspec
      cases h
  | _ :: _ :: _ =>
    obtain rfl := Except.ok.inj hspec
    cases h

/-- A keystroke with a mask is the normal form of itself. -/
theorem normalize_toSpec {k : Keystroke} (h : isMask k.mask) : normalize k.toSpec = .ok k := by
  rw [toSpec, normalize, if_pos h]

end Keystroke

/-! ### Actions -/

namespace Builder

open Modifier

/-- What is given for the modifiers of a click becomes a mask. -/
theorem modifierMask_isMask (v : Argument) : Ensures (modifierMask v) fun n => isMask n := by
  unfold modifierMask
  split
  · exact ensures_error _
  · next n =>
    split
    · next hmask => exact ensures_ok hmask
    · exact ensures_error _
  · split
    · exact ensures_map (Keystroke.ofJson_isMask _)
    · exact ensures_ok (isMask_mask [])

/-- A step that presses a key or clicks, with a mask for its modifiers. -/
inductive Pressing : Step → Prop where
  | typeKey {key modifiers : Int} {press : Press} (h : isMask modifiers) :
      Pressing (.typeKey key modifiers press)
  | click {c : Click} (h : isMask c.modifiers) : Pressing (.click c)

/-- The action is such a step. -/
def IsPressing (a : Action) : Prop :=
  ∃ s, a = .step s ∧ Pressing s

/-- The modifiers of an action are a mask, whatever it is built from. -/
theorem typeKeystroke_pressing (args : Arguments) :
    Ensures (typeKeystroke.build args) IsPressing := by
  simp only [typeKeystroke]
  split
  · exact ensures_error _
  · refine ensures_bind fun k hk => ?_
    split
    · exact ensures_error _
    · exact ensures_pure ⟨_, rfl, .typeKey (Keystroke.ofJson_isMask _ k hk)⟩

theorem clicking_pressing (args : Arguments) : Ensures (clicking args) IsPressing := by
  simp only [clicking]
  refine ensures_bind fun kind _ => ensures_bind fun button _ => ensures_bind fun reference _ =>
    ensures_bind fun corner _ => ensures_bind fun source _ => ensures_bind fun selection _ =>
    ensures_bind fun drag _ => ?_
  by_cases hfile : source = "File" ∧ (args.value "file_path").truthy = false
  · rw [if_pos hfile]
    exact ensures_error _
  · rw [if_neg hfile]
    refine ensures_bind fun area _ => ensures_bind fun imageArea _ =>
      ensures_bind fun modifiers hmodifiers => ?_
    have hmask := modifierMask_isMask _ modifiers hmodifiers
    by_cases hfuzz : (args.value "fuzz").isNull
    · rw [if_pos hfuzz]
      exact ensures_bind fun fuzz _ => ensures_pure ⟨_, rfl, .click hmask⟩
    · rw [if_neg hfuzz]
      exact ensures_bind fun fuzz _ => ensures_pure ⟨_, rfl, .click hmask⟩

/-- The builders of actions that have modifiers make such steps. -/
theorem apply_pressing {b : Builder} (hb : b ∈ [typeKeystroke, clickAtFoundImage, moveAndClick])
    (given : Fields Argument) : Ensures (b.apply given) IsPressing := by
  refine ensures_bind fun args _ => ?_
  rcases List.mem_cons.mp hb with rfl | hb
  · exact typeKeystroke_pressing args
  · rcases List.mem_cons.mp hb with rfl | hb
    · exact clicking_pressing args
    · obtain rfl := List.mem_singleton.mp hb
      exact clicking_pressing _

end Builder

/-! ### Written modifiers -/

open Plist Rendering

/-- Neither the entries nor the dictionaries in them have modifiers. -/
def Unmodified (entries : List Entry) : Prop :=
  EveryEntry (fun _ => True) (· ≠ "Modifiers") entries

theorem Unmodified.not_mem {entries : List Entry} (h : Unmodified entries) (v : Plist) :
    ("Modifiers", v) ∉ entries :=
  fun hv => (everyEntry_iff.mp h _ hv).1 rfl

/-- The entries have these modifiers and no others. -/
def Modified (n : Int) (entries : List Entry) : Prop :=
  ∀ v, ("Modifiers", v) ∈ entries ↔ v = .integer n

theorem Modified.here {n : Int} {entries : List Entry} (h : Unmodified entries) :
    Modified n (Frame.integer "Modifiers" n ++ entries) := by
  intro v
  rw [List.mem_append, or_iff_left (h.not_mem v), Frame.integer, List.mem_singleton, Prod.mk.injEq]
  exact and_iff_right rfl

/-- Entries without modifiers may stand in front. -/
theorem Modified.after {n : Int} {pre entries : List Entry} (hpre : Unmodified pre)
    (h : Modified n entries) : Modified n (pre ++ entries) := by
  intro v
  rw [List.mem_append, or_iff_right (hpre.not_mem v)]
  exact h v

namespace Frame

/-- No screen area has modifiers. -/
theorem unmodified_area (area : ScreenArea) : Unmodified area.entries := by
  cases area <;> simp [Unmodified, ScreenArea.entries, Plist.text, Every]

theorem unmodified_imageTarget (r : Reference) : Unmodified (imageTarget r) := by
  cases r with
  | other name => exact trivial
  | image target =>
    obtain ⟨source, selection, area⟩ := target
    cases source with
    | screen area =>
      have harea := unmodified_area area
      simp only [Unmodified] at harea
      simp [Unmodified, imageTarget, imageSource, ScreenArea.toPlist, Every, harea]
    | _ => simp [Unmodified, imageTarget, imageSource]

theorem unmodified_searchedArea (r : Reference) : Unmodified (searchedArea r) := by
  cases r with
  | other name => exact trivial
  | image target => exact ⟨⟨by decide, unmodified_area target.area⟩, trivial⟩

theorem unmodified_uid (n : Int) : Unmodified (uid n) :=
  ⟨⟨by decide, trivial⟩, trivial⟩

theorem unmodified_type (name : String) : Unmodified (type name) :=
  ⟨⟨by decide, trivial⟩, trivial⟩

theorem unmodified_pause (time : String) (unit : Option String) (n : Int) :
    Unmodified (pause time unit n) := by
  have huid := unmodified_uid n
  have htype := unmodified_type "Pause"
  simp only [Unmodified] at huid htype
  simp [Unmodified, pause, huid, htype]

/-- The modifiers of a keystroke are written as they are. -/
theorem stroke_modified (key modifiers : Int) (press : Option String) (n : Int) :
    Modified modifiers (stroke key modifiers press n) := by
  simp only [stroke, List.append_assoc]
  refine .after (unmodified_uid n) (.after (by simp [Unmodified]) ?_)
  refine .after (unmodified_type _) (.here ?_)
  simp [Unmodified, Application.entries, Application.front]

/-- And so are those of a click. -/
theorem click_modified (c : Click) (n : Int) : Modified c.modifiers (click c n) := by
  have hbefore := unmodified_imageTarget c.reference
  have hafter := unmodified_searchedArea c.reference
  simp only [Unmodified] at hafter
  unfold click
  simp only [List.append_assoc]
  -- The entries before the modifiers are passed one by one.
  refine .after (by simp [Unmodified]) (.after (unmodified_uid n) ?_)
  iterate 7 refine .after (by simp [Unmodified]) ?_
  refine .after hbefore (.after (unmodified_type _) (.here ?_))
  simp [Unmodified, hafter]

end Frame

/-- Wherever the dictionaries have modifiers these are a mask, and one of them has some. -/
structure ModifierMasks (dicts : List Plist) : Prop where
  masks : ∀ entries v, .dict entries ∈ dicts → ("Modifiers", v) ∈ entries →
    ∃ n, v = .integer n ∧ Modifier.IsSum n
  exists_mask : ∃ entries n, .dict entries ∈ dicts ∧ ("Modifiers", .integer n) ∈ entries

/-- Dictionaries that have the mask as their modifiers, or none. -/
theorem ModifierMasks.of_forall {dicts : List Plist} {n : Int} {first : List Entry}
    {others : List Plist} (hn : Modifier.isMask n)
    (hdicts : dicts = .dict first :: others) (hfirst : Modified n first)
    (hothers : ∀ entries, .dict entries ∈ others → Modified n entries ∨ Unmodified entries) :
    ModifierMasks dicts := by
  subst hdicts
  refine ⟨fun entries v hmem hv => ?_, first, n, List.mem_cons_self, (hfirst _).mpr rfl⟩
  have hentries : Modified n entries ∨ Unmodified entries := by
    rcases List.mem_cons.mp hmem with h | h
    · exact .inl (Plist.dict.inj h ▸ hfirst)
    · exact hothers entries h
  rcases hentries with h | h
  · exact ⟨n, (h v).mp hv, .of_isMask hn⟩
  · exact absurd hv (h.not_mem v)

/-- All dicts of a step that presses keys have masks. -/
theorem Builder.Pressing.modifierMasks {s : Step} (h : Pressing s) (n : Int) :
    ModifierMasks (numbered n s.frames) := by
  cases h with
  | @click c h =>
    exact .of_forall h rfl (Frame.click_modified c n) fun _ hmem => absurd hmem List.not_mem_nil
  | @typeKey key modifiers press h =>
    cases press with
    | once | repeated =>
      exact .of_forall h rfl (Frame.stroke_modified key modifiers _ n)
        fun _ hmem => absurd hmem List.not_mem_nil
    | held time =>
      refine .of_forall h rfl (Frame.stroke_modified key modifiers _ n) fun entries hmem => ?_
      -- A held key is pressed, waited for and released; waiting has no modifiers.
      rcases List.mem_cons.mp hmem with hmem | hmem
      · obtain rfl := Plist.dict.inj hmem
        exact .inr (Frame.unmodified_pause time none (n + 1))
      · obtain rfl := Plist.dict.inj (List.mem_singleton.mp hmem)
        exact .inl (Frame.stroke_modified key modifiers _ (n + 1 + 1))

theorem Builder.Pressing.styled {s : Step} (h : Pressing s) : s.Styled := by
  cases h <;> trivial

/-- However a keystroke is specified, its normal form has a mask, which is the sum of the bits of
distinct modifiers, and is its own normal form; a mapping that is accepted is the one entry of its
normal form. Wherever an action that presses a key or clicks writes modifiers, these are a mask,
whatever was given for them. -/
theorem modifiers_are_masks :
    (∀ s k, Keystroke.normalize s = .ok k →
      Modifier.IsSum k.mask ∧ Keystroke.normalize k.toSpec = .ok k) ∧
    (∀ (v : Argument) k, Keystroke.ofJson v = .ok k →
      Modifier.IsSum k.mask ∧ Keystroke.normalize k.toSpec = .ok k) ∧
    (∀ (fields : Fields Argument) k, Keystroke.ofJson (.obj fields) = .ok k →
      ∃ digits, integerOfText digits = .ok k.mask ∧
        fields = [(digits, Keystroke.keyValue k.key)]) ∧
    (∀ b ∈ [Builder.typeKeystroke, Builder.clickAtFoundImage, Builder.moveAndClick],
      ∀ given a, b.apply given = .ok a → ∀ n,
        ModifierMasks (a.expand moved n) ∧
          ∀ text m, a.render.run n = (.ok text, m) → Spells text (a.expand moved n)) := by
  refine ⟨fun s k h => ?_, fun v k h => ?_, fun fields k h => Keystroke.ofJson_obj h,
    fun b hb given a h n => ?_⟩
  · have hmask := Keystroke.normalize_isMask s k h
    exact ⟨.of_isMask hmask, Keystroke.normalize_toSpec hmask⟩
  · have hmask := Keystroke.ofJson_isMask v k h
    exact ⟨.of_isMask hmask, Keystroke.normalize_toSpec hmask⟩
  · obtain ⟨s, rfl, hs⟩ := Builder.apply_pressing hb given a h
    refine ⟨hs.modifierMasks n, fun text m hrun => ?_⟩
    obtain ⟨hwritten, -⟩ := Action.written_render (a := .step s) hs.styled hrun
    exact hwritten.spells

/-- The keystroke of a shortcut, and an action that holds its key. -/
theorem modifiers_are_masks_heldShortcut :
    Keystroke.normalize (.shortcut "Cmd + Shift+KeyD") = .ok ⟨768, some 2⟩ ∧
      Modifier.IsSum 768 ∧ Keystroke.normalize (.chord 768 (some 2)) = .ok ⟨768, some 2⟩ ∧
      Builder.typeKeystroke.apply [("keystroke", .obj [("768", .int 2)]), ("hold_time", .int 1)] =
        .ok (.step (.typeKey 2 768 (.held "1"))) ∧
      ModifierMasks (Action.expand moved 7 (.step (.typeKey 2 768 (.held "1")))) := by
  obtain ⟨hspec, -, -, hactions⟩ := modifiers_are_masks
  have hnormal : Keystroke.normalize (.shortcut "Cmd + Shift+KeyD") = .ok ⟨768, some 2⟩ := rfl
  have happly : Builder.typeKeystroke.apply
      [("keystroke", .obj [("768", .int 2)]), ("hold_time", .int 1)] =
      .ok (.step (.typeKey 2 768 (.held "1"))) := rfl
  obtain ⟨hsum, hagain⟩ := hspec _ _ hnormal
  exact ⟨hnormal, hsum, hagain, happly, (hactions _ List.mem_cons_self _ _ happly 7).1⟩

end MacroScribe
