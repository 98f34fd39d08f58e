import MacroScribe.Proofs.Builder.Branches
import MacroScribe.Proofs.Keystroke.Mask
import MacroScribe.Proofs.Keystroke.Spelling

/-!
# MacroScribe.Proofs.Keystroke.Range

Where key codes come from. A code that is given as a number or found by a token is within the range
of codes (`KeyCode.resolve_isCode`). A mapping to a code is taken over as it is, so that the range
has to be kept by whoever gives it (`key_in_range_iff`). What an action writes as its key code is
the code of its keystroke in either case.
-/

namespace MacroScribe

open Outcome

namespace KeyCode

/-- All codes of the table are within the range. -/
theorem isCode_of_mem_table : ∀ entry ∈ table, isCode entry.2 := by
  decide

theorem isCode_of_ofName? {name : String} {code : Nat} (h : ofName? name = some code) :
    isCode code := by
  obtain ⟨entry, hentry, rfl⟩ := Option.map_eq_some_iff.mp h
  exact isCode_of_mem_table entry (List.mem_of_find?_eq_some hentry)

theorem checked_isCode (code : Int) : Ensures (checked code) fun n => isCode n := by
  unfold checked
  split
  · next hcode => exact ensures_ok hcode
  · split
    · exact ensures_misused _
    · exact ensures_error _

theorem required_isCode (name : String) : Ensures (required name) fun n => isCode n := by
  unfold required
  cases hname : ofName? name with
  | none => exact ensures_misused _
  | some code => exact ensures_ok (isCode_of_ofName? hname)

theorem ofChar_isCode (c : Char) (token : String) :
    Ensures ((ofChar? c).getD (unsupported token)) fun n => isCode n := by
  unfold ofChar?
  simp only
  split
  · exact required_isCode _
  · split
    · exact required_isCode _
    · exact ensures_error _

/-- Whichever rule finds the code of a token, the code is within the range. -/
theorem resolve_isCode (token : String) : Ensures (resolve token) fun n => isCode n := by
  have hnumber (p : Prop) [Decidable p] (s : String) :
      Ensures (if p then integerOfText s >>= checked else unsupported token) fun n => isCode n := by
    split
    · exact ensures_bind fun n _ => checked_isCode n
    · exact ensures_error _
  exact resolve_cases (P := (Ensures · fun n => isCode n)) (fun _ _ => hnumber _ _)
    (fun _ _ hname => ensures_ok (isCode_of_ofName? hname)) (fun _ => ensures_error _)
    (fun c _ => ofChar_isCode c token) (fun _ _ => hnumber _ _)

end KeyCode

open KeyCode

namespace Keystroke

/-- There is no key, or its code is within the range. -/
def InRange (k : Keystroke) : Prop :=
  ∀ code, k.key = some code → isCode code

/-- If the value is a mapping to a key code, the code is within the range. -/
def KeepsRange {ω : Type} (v : Json ω) : Prop :=
  ∀ digits code, v = .obj [(digits, .int code)] → isCode code

/-- Only the code of a mapping is not checked. -/
theorem normalize_inRange_iff {s : KeystrokeSpec} {k : Keystroke} (h : normalize s = .ok k) :
    k.InRange ↔ ∀ mask code, s = .chord mask (some code) → isCode code := by
  cases s with
  | code n =>
    obtain ⟨code, hcode, h⟩ := bind_eq_ok.mp h
    obtain rfl := Except.ok.inj h
    refine iff_of_true ?_ (by simp)
    intro _ hkey
    obtain rfl := Option.some.inj hkey
    exact checked_isCode n code hcode
  | shortcut text =>
    refine iff_of_true ?_ (by simp)
    rw [normalize, ofShortcut] at h
    split at h
    · obtain rfl := Except.ok.inj h
      simp [InRange]
    · obtain ⟨code, hcode, h⟩ := bind_eq_ok.mp h
      obtain rfl := Except.ok.inj h
      intro _ hkey
      obtain rfl := Option.some.inj hkey
      exact resolve_isCode _ code hcode
  | chord mask key =>
    rw [normalize] at h
    split at h
    · obtain rfl := Except.ok.inj h
      constructor
      · intro hrange _ code hchord
        exact hrange code (KeystrokeSpec.chord.inj hchord).2
      · intro hgiven code hcode
        exact hgiven mask code (congrArg _ hcode)
    · cases h
  | mapping text => cases h
  | other type => cases h

/-- Values other than mappings are not taken for a mapping to a key code. -/
theorem spec_ne_chord {ω : Type} [Described ω] {v : Json ω} (hv : ∀ fields, v ≠ .obj fields)
    {s : KeystrokeSpec} (h : KeystrokeSpec.ofJson v = .ok s) (mask : Int) (key : Option Int) :
    s ≠ .chord mask key := by
  unfold KeystrokeSpec.ofJson at h
  split at h
  · obtain rfl := Except.ok.inj h
    simp
  · obtain rfl := Except.ok.inj h
    simp
  · exact absurd rfl (hv _)
  · exact absurd rfl (hv _)
  · obtain rfl := Except.ok.inj h
    simp

theorem ofJson_inRange_iff {ω : Type} [Described ω] {v : Json ω} {k : Keystroke}
    (h : Keystroke.ofJson v = .ok k) : k.InRange ↔ KeepsRange v := by
  by_cases hobj : ∃ fields, v = .obj fields
  · obtain ⟨fields, rfl⟩ := hobj
    obtain ⟨digits, -, rfl⟩ := ofJson_obj h
    constructor
    · intro hrange digits' code heq
      refine hrange code ?_
      obtain ⟨-, hvalue⟩ : digits = digits' ∧ (keyValue k.key : Json ω) = .int code := by
        simpa using heq
      cases hkey : k.key with
      | none => simp [hkey, keyValue] at hvalue
      | some code' => simpa [hkey, keyValue] using hvalue
    · intro hkeeps code hcode
      exact hkeeps digits code (by rw [hcode]; rfl)
  · have hv : ∀ fields, v ≠ .obj fields := fun fields hv => hobj ⟨fields, hv⟩
    obtain ⟨s, hs, h⟩ := bind_eq_ok.mp h
    refine iff_of_true ((normalize_inRange_iff h).mpr ?_) ?_
    · intro mask code hchord
      exact absurd hchord (spec_ne_chord hv hs mask _)
    · intro digits code heq
      exact absurd heq (hv _)

end Keystroke

/-! ### Written key codes -/

open Plist Rendering

/-- Wherever the dictionaries have a key code it is this one, and one of them has it. -/
structure KeyCodes (key : Int) (dicts : List Plist) : Prop where
  only : ∀ entries v, .dict entries ∈ dicts → ("KeyCode", v) ∈ entries → v = .integer key
  exists_code : ∃ entries, .dict entries ∈ dicts ∧ ("KeyCode", .integer key) ∈ entries

theorem mem_stroke_iff {key modifiers : Int} {press : Option String} {n : Int} {v : Plist} :
    ("KeyCode", v) ∈ Frame.stroke key modifiers press n ↔ v = .integer key := by
  cases press <;>
    simp [Frame.stroke, Frame.uid, Frame.integer, Frame.type, Frame.text?, Frame.flag,
      Frame.application, Frame.text, optionalEntry]

theorem not_mem_pause (time : String) (unit : Option String) (n : Int) (v : Plist) :
    ("KeyCode", v) ∉ Frame.pause time unit n := by
  simp [Frame.pause, Frame.uid, Frame.type, Frame.text, Frame.flag, Frame.text?, optionalEntry]

theorem keyCodes_typeKey (key modifiers : Int) (press : Press) (n : Int) :
    KeyCodes key (Action.expand moved n (.step (.typeKey key modifiers press))) := by
  have hfirst {press : Option String} {n : Int} {others : List Plist}
      (hothers : ∀ entries v, .dict entries ∈ others → ("KeyCode", v) ∈ entries →
        v = .integer key) :
      KeyCodes key (.dict (Frame.stroke key modifiers press n) :: others) := by
    refine ⟨?_, _, List.mem_cons_self, mem_stroke_iff.mpr rfl⟩
    intro entries v hmem hv
    rcases List.mem_cons.mp hmem with hmem | hmem
    · exact mem_stroke_iff.mp (Plist.dict.inj hmem ▸ hv)
    · exact hothers entries v hmem hv
  cases press with
  | once | repeated => exact hfirst fun _ _ hmem => absurd hmem List.not_mem_nil
  | held time =>
    refine hfirst fun entries v hmem hv => ?_
    -- A held key is pressed, waited for and released; waiting has no key code.
    rcases List.mem_cons.mp hmem with hmem | hmem
    · exact absurd (Plist.dict.inj hmem ▸ hv) (not_mem_pause time none (n + 1) v)
    · exact mem_stroke_iff.mp (Plist.dict.inj (List.mem_singleton.mp hmem) ▸ hv)

/-- An action on a key can always be written, as these dictionaries. -/
theorem typeKey_spells (key modifiers : Int) (press : Press) (n : Int) :
    ∃ text m, (Action.step (.typeKey key modifiers press)).render.run n = (.ok text, m) ∧
      Spells text (Action.expand moved n (.step (.typeKey key modifiers press))) := by
  obtain ⟨text, m, hrun, -⟩ :=
    (Action.render_yields (a := .step (.typeKey key modifiers press)) n trivial).mpr
      fun _ hslot => absurd hslot List.not_mem_nil
  obtain ⟨hwritten, -⟩ :=
    Action.written_render (a := .step (.typeKey key modifiers press)) trivial hrun
  exact ⟨text, m, hrun, hwritten.spells⟩

/-- An action that presses a key comes from a keystroke with a key, and its options say how the key
is pressed. It is not to be held and to be repeated. -/
theorem typeKeystroke_presses {given : Fields Argument} {a : Action}
    (h : Builder.typeKeystroke.apply given = .ok a) :
    ∃ k key, Keystroke.ofJson ((given.get? "keystroke").getD .null) = .ok k ∧ k.key = some key ∧
      a = .step (.typeKey key k.mask (Builder.press (given.value "press_and_hold").truthy
        (given.value "press_and_repeat").truthy (given.value "hold_time"))) ∧
      ¬((given.value "press_and_repeat").truthy ∧
        ((given.value "press_and_hold").truthy ∨ ¬(given.value "hold_time").isNull)) := by
  obtain ⟨args, hargs, h⟩ := bind_eq_ok.mp h
  have hvalue {p : Parameter} (hp : p ∈ Builder.typeKeystroke.parameters) :
      args.value p.name = ((given.get? p.name).or p.standard).getD .null :=
    Builder.value_of_bind (b := .typeKeystroke) (by simp [Builder.all]) hp hargs
  have hkeystroke : args.value "keystroke" = (given.get? "keystroke").getD .null := by
    have hgiven := hvalue (p := .required "keystroke") (by simp [Builder.typeKeystroke])
    rwa [Parameter.required, Option.or_none] at hgiven
  -- A flag that is not given is as false as null is.
  have hflag (name : String) (hp : Parameter.flag name false ∈ Builder.typeKeystroke.parameters) :
      (args.value name).truthy = (given.value name).truthy := by
    have hgiven := hvalue hp
    rw [Parameter.flag, Parameter.withDefault] at hgiven
    rw [hgiven, Fields.value]
    cases given.get? name <;> rfl
  have htime : args.value "hold_time" = given.value "hold_time" := by
    have hgiven := hvalue (p := .nullable "hold_time") (by simp [Builder.typeKeystroke])
    rw [Parameter.nullable, Parameter.withDefault] at hgiven
    rw [hgiven, Fields.value]
    cases given.get? "hold_time" <;> rfl
  have hholds := hflag "press_and_hold" (by simp [Builder.typeKeystroke])
  have hrepeats := hflag "press_and_repeat" (by simp [Builder.typeKeystroke])
  simp only [Builder.typeKeystroke, hholds, hrepeats, htime, hkeystroke] at h
  split at h
  · cases h
  · next hboth =>
    obtain ⟨k, hk, h⟩ := bind_eq_ok.mp h
    cases hkey : k.key with
    | none =>
      rw [hkey] at h
      cases h
    | some key =>
      rw [hkey] at h
      obtain rfl := Except.ok.inj h
      exact ⟨k, key, hk, hkey, rfl, by simpa using hboth⟩

theorem typeKeystroke_eq_ok {given : Fields Argument} {a : Action}
    (h : Builder.typeKeystroke.apply given = .ok a) :
    ∃ k key press, Keystroke.ofJson ((given.get? "keystroke").getD .null) = .ok k ∧
      k.key = some key ∧ a = .step (.typeKey key k.mask press) := by
  obtain ⟨k, key, hk, hkey, ha, -⟩ := typeKeystroke_presses h
  exact ⟨k, key, _, hk, hkey, ha⟩

/-- The key code of an accepted specification is within the range, or there is none, unless the
specification is a mapping to a code outside the range. The same holds of the key codes that an
action on a key writes. -/
theorem key_in_range_iff (s : KeystrokeSpec) (v : Argument) (given : Fields Argument) (n : Int) :
    (∀ k, Keystroke.normalize s = .ok k →
      (k.InRange ↔ ∀ mask code, s = .chord mask (some code) → isCode code)) ∧
    (∀ k, Keystroke.ofJson v = .ok k → (k.InRange ↔ Keystroke.KeepsRange v)) ∧
    (∀ a, Builder.typeKeystroke.apply given = .ok a →
      ((∀ entries v, .dict entries ∈ a.expand moved n → ("KeyCode", v) ∈ entries →
          ∃ code, v = .integer code ∧ isCode code) ↔
        Keystroke.KeepsRange ((given.get? "keystroke").getD .null)) ∧
      ∃ text m, a.render.run n = (.ok text, m) ∧ Spells text (a.expand moved n)) := by
  refine ⟨fun k h => Keystroke.normalize_inRange_iff h,
    fun k h => Keystroke.ofJson_inRange_iff h, fun a h => ?_⟩
  obtain ⟨k, key, press, hk, hkey, rfl⟩ := typeKeystroke_eq_ok h
  have hcodes := keyCodes_typeKey key k.mask press n
  refine ⟨?_, typeKey_spells key k.mask press n⟩
  rw [← Keystroke.ofJson_inRange_iff hk]
  constructor
  · intro hwritten code hcode
    obtain ⟨entries, hentries, hmem⟩ := hcodes.exists_code
    obtain ⟨code', heq, hrange⟩ := hwritten entries _ hentries hmem
    obtain rfl := Plist.integer.inj heq
    obtain rfl := Option.some.inj (hkey.symm.trans hcode)
    exact hrange
  · intro hrange entries v hentries hv
    exact ⟨key, hcodes.only entries v hentries hv, hrange key hkey⟩

/-- A shortcut and a mapping of which the codes are within the range. -/
theorem key_in_range_examples :
    Keystroke.normalize (.shortcut "Cmd+KeyCode:255") = .ok ⟨256, some 255⟩ ∧
      Keystroke.InRange ⟨256, some 255⟩ ∧
      Keystroke.ofJson (.obj [("0", .int 36)] : Argument) = .ok ⟨0, some 36⟩ ∧
      Keystroke.InRange ⟨0, some 36⟩ ∧
      Builder.typeKeystroke.apply [("keystroke", .obj [("0", .int 36)])] =
        .ok (.step (.typeKey 36 0 .once)) ∧
      ∀ entries v, .dict entries ∈ Action.expand moved 1 (.step (.typeKey 36 0 .once)) →
        ("KeyCode", v) ∈ entries → ∃ code, v = .integer code ∧ isCode code := by
  obtain ⟨hspec, hvalue, haction⟩ := key_in_range_iff (.shortcut "Cmd+KeyCode:255")
    (.obj [("0", .int 36)]) [("keystroke", .obj [("0", .int 36)])] 1
  have hshortcut : Keystroke.normalize (.shortcut "Cmd+KeyCode:255") = .ok ⟨256, some 255⟩ := rfl
  have hmapping : Keystroke.ofJson (.obj [("0", .int 36)] : Argument) = .ok ⟨0, some 36⟩ := rfl
  have happly : Builder.typeKeystroke.apply [("keystroke", .obj [("0", .int 36)])] =
      .ok (.step (.typeKey 36 0 .once)) := rfl
  have hkeeps : Keystroke.KeepsRange (.obj [("0", .int 36)] : Argument) := by
    intro digits code heq
    obtain ⟨-, rfl⟩ : "0" = digits ∧ 36 = code := by simpa using heq
    rfl
  refine ⟨hshortcut, (hspec _ hshortcut).mpr (by simp), hmapping,
    (hvalue _ hmapping).mpr hkeeps, happly, (haction _ happly).1.mpr hkeeps⟩

/-- A mapping to a code outside the range is accepted, and the code is written. -/
theorem key_out_of_range :
    Keystroke.ofJson (.obj [("0", .int 300)] : Argument) = .ok ⟨0, some 300⟩ ∧
      isCode 300 = false ∧
      Builder.typeKeystroke.apply [("keystroke", .obj [("0", .int 300)])] =
        .ok (.step (.typeKey 300 0 .once)) ∧
      ∃ text m entries, (Action.step (.typeKey 300 0 .once)).render.run 1 = (.ok text, m) ∧
        Spells text [.dict entries] ∧ ("KeyCode", .integer 300) ∈ entries := by
  obtain ⟨text, m, hrun, hspells⟩ := typeKey_spells 300 0 .once 1
  exact ⟨rfl, rfl, rfl, text, m, _, hrun, hspells, mem_stroke_iff.mpr rfl⟩

end MacroScribe
