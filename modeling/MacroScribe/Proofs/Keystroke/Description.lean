import MacroScribe.Proofs.Decimal.Numeral
import MacroScribe.Proofs.Keystroke.Mask
import MacroScribe.Proofs.Keystroke.Spelling
import MacroScribe.Proofs.Text.Lines
import Mathlib.Data.Nat.Digits.Defs

/-!
# MacroScribe.Proofs.Keystroke.Description

The shortcut that shows a keystroke means that keystroke again (`describe_faithful`).

What is shown is words joined by plus signs: the names of modifiers, and then the name of a key or a
marked number. None of these words has a plus sign or white space, so the parser cuts the shortcut
into the same words; the names of modifiers are known as such and no other word is; and a word for a
key means its code, because no name of a key is marked and each name has one code, even where a code
has several names.
-/

namespace MacroScribe

open Outcome

/-! ### Tokens -/

namespace Shortcut

/-- The token has no white space and no plus sign, and is not empty. -/
def IsWord (token : String) : Prop :=
  token ≠ "" ∧ ∀ c ∈ token.toList, c ≠ '+' ∧ Text.isBlank c = false

instance (token : String) : Decidable (IsWord token) :=
  @instDecidableAnd _ _ inferInstance (List.decidableBAll _ token.toList)

/-- The tokens of words joined by plus signs are the words. -/
theorem tokens_join {words : List String} (h : ∀ w ∈ words, IsWord w) :
    tokens ("+".intercalate words) = words := by
  by_cases hwords : words = []
  · subst hwords
    rfl
  have hparts : Text.splitOn '+' ("+".intercalate words).toList = words.map String.toList := by
    rw [String.toList_intercalate]
    refine Text.splitOn_joinWith (by simpa using hwords) fun part hpart hplus => ?_
    obtain ⟨w, hw, rfl⟩ := List.mem_map.mp hpart
    exact ((h w hw).2 _ hplus).1 rfl
  have hstrip : (words.map String.toList).map Text.strip = words.map String.toList := by
    rw [List.map_map]
    refine List.map_congr_left fun w hw => Text.dropEnds_of_forall fun c hc => ?_
    exact ((h w hw).2 c hc).2
  have hkept : (words.map String.toList).filter (!·.isEmpty) = words.map String.toList := by
    refine List.filter_eq_self.mpr fun part hpart => ?_
    obtain ⟨w, hw, rfl⟩ := List.mem_map.mp hpart
    simpa using (h w hw).1
  rw [tokens, hparts, hstrip, hkept, List.map_map]
  simp

end Shortcut

namespace Modifier

theorem isWord_name (m : Modifier) : Shortcut.IsWord m.name := by
  cases m <;> decide +kernel

/-- A modifier is known by the name that shortcuts show. -/
theorem ofAlias?_name (m : Modifier) : ofAlias? m.name = some m := by
  cases m <;> decide

theorem colon_not_mem_alias : ∀ entry ∈ aliases, ':' ∉ entry.1.toList := by
  decide

theorem ofAlias?_eq_none_of_forall {token : String} (h : ∀ entry ∈ aliases, entry.1 ≠ token) :
    ofAlias? token = none := by
  rw [ofAlias?, Option.map_eq_none_iff, List.find?_eq_none]
  intro entry hentry heq
  exact h entry hentry (by simpa using heq)

end Modifier

namespace KeyCode

theorem isWord_of_mem_table : ∀ entry ∈ table, Shortcut.IsWord entry.1 := by
  decide +kernel

theorem ofAlias?_of_mem_table : ∀ entry ∈ table, Modifier.ofAlias? entry.1 = none := by
  decide +kernel

theorem ofName?_of_mem_table : ∀ entry ∈ table, ofName? entry.1 = some entry.2 := by
  decide +kernel

theorem codeMark_of_mem_table :
    ∀ entry ∈ table, codeMark.toList.isPrefixOf entry.1.toList = false := by
  decide +kernel

/-- The name of a key means its code. -/
theorem resolve_of_mem_table {entry : String × Nat} (h : entry ∈ table) :
    resolve entry.1 = .ok entry.2 :=
  resolve_of_name (by simp [codeMark_of_mem_table entry h]) (ofName?_of_mem_table entry h)

theorem mem_table_of_name? {code : Int} {name : String} (h : name? code = some name) :
    ∃ entry ∈ table, entry.1 = name ∧ (entry.2 : Int) = code := by
  obtain ⟨entry, hfind, hname⟩ := Option.map_eq_some_iff.mp h
  exact ⟨entry, List.mem_of_find?_eq_some hfind, hname, by simpa using List.find?_some hfind⟩

theorem exists_nat_of_isCode {code : Int} (h : isCode code) : ∃ n : Nat, code = n ∧ n ≤ 255 := by
  simp only [isCode, Bool.and_eq_true, decide_eq_true_eq] at h
  obtain ⟨n, rfl⟩ := Int.eq_ofNat_of_zero_le h.1
  exact ⟨n, rfl, Int.ofNat_le.mp h.2⟩

end KeyCode

/-! ### Key codes in words -/

namespace Keystroke

open KeyCode Modifier

/-- A code without a name, as shortcuts show it. -/
def marked (n : Nat) : String :=
  codeMark ++ String.ofList (Decimal.natText n)

theorem toList_marked (n : Nat) : (marked n).toList = codeMark.toList ++ Decimal.natText n := by
  rw [marked, String.toList_append, String.toList_ofList]

/-- A key code is shown by a name from the table, or by its number. -/
theorem keyText_cases {code : Int} (h : isCode code) :
    (∃ entry ∈ table, keyText code = entry.1 ∧ code = entry.2) ∨
      ∃ n : Nat, keyText code = marked n ∧ code = n ∧ n ≤ 255 := by
  unfold keyText
  cases hname : name? code with
  | some name =>
    obtain ⟨entry, hentry, rfl, rfl⟩ := mem_table_of_name? hname
    exact .inl ⟨entry, hentry, rfl, rfl⟩
  | none =>
    obtain ⟨n, rfl, hn⟩ := exists_nat_of_isCode h
    exact .inr ⟨n, rfl, rfl, hn⟩

theorem isWord_marked (n : Nat) : Shortcut.IsWord (marked n) := by
  have hmark : Shortcut.IsWord codeMark := by decide +kernel
  refine ⟨fun h => ?_, fun c hc => ?_⟩
  · have hlist := congrArg String.toList h
    rw [toList_marked] at hlist
    simp [codeMark] at hlist
  · rw [toList_marked, List.mem_append] at hc
    rcases hc with hc | hc
    · exact hmark.2 c hc
    · have hdigit := Decimal.isDigit_of_mem_natText hc
      refine ⟨?_, Decimal.isBlank_of_isDigit hdigit⟩
      rintro rfl
      exact absurd hdigit (by decide)

theorem ofAlias?_marked (n : Nat) : Modifier.ofAlias? (marked n) = none := by
  refine Modifier.ofAlias?_eq_none_of_forall fun entry hentry heq => ?_
  refine Modifier.colon_not_mem_alias entry hentry ?_
  rw [heq, toList_marked]
  exact List.mem_append_left _ (by decide)

theorem checked_of_isCode {code : Int} (h : isCode code) : checked code = .ok code := by
  rw [checked, if_pos h]

theorem integerOfText_natText {n : Nat} (h : (Decimal.natText n).length ≤ Decimal.maxDigits) :
    integerOfText (String.ofList (Decimal.natText n)) = .ok n := by
  rw [integerOfText, String.toList_ofList, Decimal.readInt_natText h]

theorem resolve_marked {n : Nat} (h : n ≤ 255) : resolve (marked n) = .ok n := by
  have hall : (Decimal.natText n).all Text.isDigit := by
    rw [List.all_eq_true]
    intro c hc
    rw [Text.isDigit, Decimal.isDecimal_of_isDigit (Decimal.isDigit_of_mem_natText hc),
      Bool.true_or]
  have hne : (Decimal.natText n).isEmpty = false := by
    simp [Decimal.natText, Nat.toDigits_ne_nil]
  have hlength : (Decimal.natText n).length ≤ Decimal.maxDigits :=
    Nat.le_trans (Nat.toDigits_length 10 n 3 (by decide) (by omega)) (by decide)
  have hcode : isCode n := by
    simp only [isCode, Bool.and_eq_true, decide_eq_true_eq]
    omega
  rw [resolve_of_mark (toList_marked n), if_pos (by simp [hne, hall]),
    integerOfText_natText hlength]
  exact checked_of_isCode hcode

theorem isWord_keyText {code : Int} (h : isCode code) : Shortcut.IsWord (keyText code) := by
  obtain ⟨entry, hentry, htext, -⟩ | ⟨n, htext, -, -⟩ := keyText_cases h
  · exact htext ▸ isWord_of_mem_table entry hentry
  · exact htext ▸ isWord_marked n

theorem ofAlias?_keyText {code : Int} (h : isCode code) :
    Modifier.ofAlias? (keyText code) = none := by
  obtain ⟨entry, hentry, htext, -⟩ | ⟨n, htext, -, -⟩ := keyText_cases h
  · exact htext ▸ ofAlias?_of_mem_table entry hentry
  · exact htext ▸ ofAlias?_marked n

/-- What a shortcut shows for a key code means the key code. -/
theorem resolve_keyText {code : Int} (h : isCode code) : resolve (keyText code) = .ok code := by
  obtain ⟨entry, hentry, htext, rfl⟩ | ⟨n, htext, rfl, hn⟩ := keyText_cases h
  · exact htext ▸ resolve_of_mem_table hentry
  · exact htext ▸ resolve_marked hn

/-- There is something to show: a key code within its range, or modifiers alone. -/
def Shown (k : Keystroke) : Prop :=
  match k.key with
  | none => k.mask ≠ 0
  | some code => isCode code

instance : (k : Keystroke) → Decidable k.Shown
  | ⟨mask, none⟩ => inferInstanceAs (Decidable (mask ≠ 0))
  | ⟨_, some code⟩ => inferInstanceAs (Decidable (isCode code))

/-- Modifiers and at most one key, shown, are read as themselves. -/
theorem ofTokens_names (mods : List Modifier) {key : Option Int}
    (h : ∀ code, key = some code → isCode code) :
    Shortcut.ofTokens (mods.map Modifier.name ++ (key.map keyText).toList) =
      ⟨Modifier.sorted mods, (key.map keyText).getD ""⟩ := by
  have hmods : (mods.map Modifier.name).filterMap Modifier.ofAlias? = mods := by
    rw [List.filterMap_map]
    exact (List.filterMap_congr fun m _ => Modifier.ofAlias?_name m).trans List.filterMap_some
  have hrest : (mods.map Modifier.name).filter (fun t => (Modifier.ofAlias? t).isNone) = [] := by
    rw [List.filter_eq_nil_iff]
    intro t ht
    obtain ⟨m, -, rfl⟩ := List.mem_map.mp ht
    simp [Modifier.ofAlias?_name]
  cases key with
  | none =>
    simp only [Shortcut.ofTokens, Option.map_none, Option.toList_none, List.append_nil, hmods,
      hrest]
    rfl
  | some code =>
    have hkey := ofAlias?_keyText (h code rfl)
    simp only [Shortcut.ofTokens, Option.map_some, Option.toList_some, List.filterMap_append,
      List.filter_append, hmods, hrest, List.filterMap_cons, List.filterMap_nil, hkey]
    simp [hkey]

/-! ### Descriptions -/

/-- The shortcut that shows a keystroke, read again. -/
theorem parse_describe {k : Keystroke} (h : k.Shown) :
    Shortcut.parse k.describe = ⟨ofMask k.mask, (k.key.map keyText).getD ""⟩ := by
  have hkey : ∀ code, k.key = some code → isCode code := by
    intro code hcode
    rw [Shown, hcode] at h
    exact h
  have hwords : ∀ w ∈ (ofMask k.mask).map Modifier.name ++ (k.key.map keyText).toList,
      Shortcut.IsWord w := by
    intro w hw
    rcases List.mem_append.mp hw with hw | hw
    · obtain ⟨m, -, rfl⟩ := List.mem_map.mp hw
      exact isWord_name m
    · obtain ⟨code, hcode, rfl⟩ := Option.map_eq_some_iff.mp (Option.mem_toList.mp hw)
      exact isWord_keyText (hkey code hcode)
  rw [Shortcut.parse, describe, Shortcut.tokens_join hwords, ofTokens_names _ hkey,
    sorted_ofMask]

/-- A keystroke whose mask is one is the normal form of the shortcut that shows it. -/
theorem normalize_describe {k : Keystroke} (hmask : isMask k.mask) (h : k.Shown) :
    normalize (.shortcut k.describe) = .ok k := by
  obtain ⟨mask, key⟩ := k
  rw [normalize, parse_describe h, ofShortcut]
  cases key with
  | none =>
    have hmods : ofMask mask ≠ [] := by
      intro hnil
      have hzero := mask_ofMask hmask
      rw [hnil] at hzero
      exact h hzero.symm
    rw [if_pos ⟨rfl, hmods⟩, mask_ofMask hmask]
  | some code =>
    have hword := (isWord_keyText h).1
    rw [if_neg fun hempty => hword hempty.1]
    simp only [Option.map_some, Option.getD_some, resolve_keyText h, mask_ofMask hmask]
    rfl

theorem ofJson_str {ω : Type} [Described ω] (text : String) :
    Keystroke.ofJson (.str text : Json ω) = normalize (.shortcut text) :=
  rfl

/-- Keystrokes that are shown by one shortcut are the same. -/
theorem describe_inj {k k' : Keystroke} (hmask : isMask k.mask) (hmask' : isMask k'.mask)
    (h : k.Shown) (h' : k'.Shown) : k.describe = k'.describe ↔ k = k' := by
  refine ⟨fun heq => ?_, fun heq => heq ▸ rfl⟩
  have hnormal := normalize_describe hmask h
  rw [heq, normalize_describe hmask' h'] at hnormal
  exact (Except.ok.inj hnormal).symm

/-- The description of a keystroke specification that is accepted, of one with something to show, is
a shortcut that has the same normal form; and two such specifications have the same description
exactly if they mean the same keystroke. -/
theorem describe_faithful {ω : Type} [Described ω] :
    (∀ s k, normalize s = .ok k → k.Shown → normalize (.shortcut k.describe) = .ok k) ∧
    (∀ s s' k k', normalize s = .ok k → normalize s' = .ok k' → k.Shown → k'.Shown →
      (k.describe = k'.describe ↔ k = k')) ∧
    (∀ (v : Json ω) k, Keystroke.ofJson v = .ok k → k.Shown →
      Keystroke.ofJson (.str k.describe : Json ω) = .ok k) ∧
    (∀ (v v' : Json ω) k k', Keystroke.ofJson v = .ok k → Keystroke.ofJson v' = .ok k' →
      k.Shown → k'.Shown → (k.describe = k'.describe ↔ k = k')) := by
  refine ⟨fun s k h => ?_, fun s s' k k' h h' => ?_, fun v k h => ?_, fun v v' k k' h h' => ?_⟩
  · exact normalize_describe (normalize_isMask s k h)
  · exact describe_inj (normalize_isMask s k h) (normalize_isMask s' k' h')
  · exact fun hshown => (ofJson_str _).trans (normalize_describe (ofJson_isMask v k h) hshown)
  · exact describe_inj (ofJson_isMask v k h) (ofJson_isMask v' k' h')

/-- A code without a name under a modifier, a key with two names, and modifiers alone. -/
theorem describe_faithful_examples :
    normalize (.shortcut "Cmd+KeyCode:10") = .ok ⟨256, some 10⟩ ∧
      normalize (.shortcut "Backspace") = .ok ⟨0, some 51⟩ ∧
      Keystroke.ofJson (.str "Cmd+Shift" : Argument) = .ok ⟨768, none⟩ ∧
      (describe ⟨256, some 10⟩ = describe ⟨0, some 51⟩ ↔
        (⟨256, some 10⟩ : Keystroke) = ⟨0, some 51⟩) := by
  obtain ⟨hspec, hsame, hjson, -⟩ := describe_faithful (ω := Part)
  have hshown : describe ⟨256, some 10⟩ = "Cmd+KeyCode:10" ∧
      describe ⟨0, some 51⟩ = "Backspace" ∧ describe ⟨768, none⟩ = "Cmd+Shift" := by
    decide +kernel
  have hcode : normalize (.chord 256 (some 10)) = .ok ⟨256, some 10⟩ := rfl
  have hdelete : normalize (.shortcut " Delete ") = .ok ⟨0, some 51⟩ := rfl
  have hmods : Keystroke.ofJson (.obj [("768", .null)] : Argument) = .ok ⟨768, none⟩ := rfl
  refine ⟨?_, ?_, ?_, hsame _ _ _ _ hcode hdelete (by decide) (by decide)⟩
  · exact hshown.1 ▸ hspec _ _ hcode (by decide)
  · exact hshown.2.1 ▸ hspec _ _ hdelete (by decide)
  · exact hshown.2.2 ▸ hjson _ _ hmods (by decide)

end Keystroke
end MacroScribe
