import MacroScribe.Proofs.Keystroke.Mask

/-!
# MacroScribe.Proofs.Keystroke.Respelling

What a shortcut means depends on two things only: which modifiers its tokens name, and the last of
the tokens that name none (`Shortcut.Agree`). Two shortcuts that agree in these are the same once
they are parsed, and no others are (`Shortcut.parse_eq_iff`), so they have the same normal form or
are refused alike.

From this follows what may be done to a text without changing what it means. `Shortcut.Respelled`
lists it as steps on the segments between the plus signs: modifiers may be moved, repeated and given
by another of their names, blanks and blank segments come and go, and a key before another key is
dropped. Each step keeps what counts, also in the middle of a text, and so does any number of them
(`Shortcut.Respelled.agree`).
-/

namespace MacroScribe

namespace Shortcut

/-! ### The two things that count -/

/-- The modifiers that tokens name, in their order. -/
def namedModifiers (tokens : List String) : List Modifier :=
  tokens.filterMap Modifier.ofAlias?

/-- The tokens that name no modifier. -/
def keyTokens (tokens : List String) : List String :=
  tokens.filter fun t => (Modifier.ofAlias? t).isNone

/-- Tokens name the same modifiers as others, and the last of those that name none is the same, or
there is none on either side. -/
structure Agree (as bs : List String) : Prop where
  modifiers : ∀ m, m ∈ namedModifiers as ↔ m ∈ namedModifiers bs
  key : (keyTokens as).getLast? = (keyTokens bs).getLast?

theorem namedModifiers_append (as bs : List String) :
    namedModifiers (as ++ bs) = namedModifiers as ++ namedModifiers bs :=
  List.filterMap_append

theorem keyTokens_append (as bs : List String) :
    keyTokens (as ++ bs) = keyTokens as ++ keyTokens bs :=
  List.filter_append as bs

namespace Agree

variable {as bs cs : List String}

theorem refl (as : List String) : Agree as as :=
  ⟨fun _ => Iff.rfl, rfl⟩

theorem symm (h : Agree as bs) : Agree bs as :=
  ⟨fun m => (h.modifiers m).symm, h.key.symm⟩

theorem trans (h : Agree as bs) (h' : Agree bs cs) : Agree as cs :=
  ⟨fun m => (h.modifiers m).trans (h'.modifiers m), h.key.trans h'.key⟩

/-- What comes before and after does not matter. -/
theorem within (pre post : List String) (h : Agree as bs) :
    Agree (pre ++ as ++ post) (pre ++ bs ++ post) where
  modifiers m := by
    simp only [namedModifiers_append, List.mem_append, h.modifiers m]
  key := by
    simp only [keyTokens_append, List.getLast?_append, h.key]

end Agree

theorem sorted_eq_iff {as bs : List Modifier} :
    Modifier.sorted as = Modifier.sorted bs ↔ ∀ m, m ∈ as ↔ m ∈ bs := by
  constructor
  · intro h m
    calc
      m ∈ as ↔ m ∈ Modifier.sorted as := Modifier.mem_sorted.symm
      _ ↔ m ∈ Modifier.sorted bs := by rw [h]
      _ ↔ m ∈ bs := Modifier.mem_sorted
  · intro h
    refine List.filter_congr fun m _ => ?_
    rw [Bool.eq_iff_iff, List.contains_iff_mem, List.contains_iff_mem]
    exact h m

theorem token_ne_empty {text token : String} (h : token ∈ tokens text) : token ≠ "" := by
  obtain ⟨word, hword, rfl⟩ := List.mem_map.mp h
  obtain ⟨-, hne⟩ := List.mem_filter.mp hword
  intro hempty
  rw [String.ofList_eq_empty_iff.mp hempty] at hne
  cases hne

theorem lastKey_ne_empty {text token : String}
    (h : (keyTokens (tokens text)).getLast? = some token) : token ≠ "" :=
  token_ne_empty (List.mem_filter.mp (List.mem_of_getLast? h)).1

/-- The empty token may stand for no key, because no token is empty. -/
theorem lastKey_eq_iff {s t : String} :
    (keyTokens (tokens s)).getLast?.getD "" = (keyTokens (tokens t)).getLast?.getD "" ↔
      (keyTokens (tokens s)).getLast? = (keyTokens (tokens t)).getLast? := by
  cases hs : (keyTokens (tokens s)).getLast? <;> cases ht : (keyTokens (tokens t)).getLast?
  · exact iff_of_true rfl rfl
  · simpa using (lastKey_ne_empty ht).symm
  · simpa using lastKey_ne_empty hs
  · simp

/-- Texts are parsed alike if their tokens agree, and only then. -/
theorem parse_eq_iff {s t : String} : parse s = parse t ↔ Agree (tokens s) (tokens t) := by
  have hparse (text : String) : parse text =
      ⟨Modifier.sorted (namedModifiers (tokens text)),
        (keyTokens (tokens text)).getLast?.getD ""⟩ := rfl
  rw [hparse, hparse, Shortcut.mk.injEq, sorted_eq_iff, lastKey_eq_iff]
  exact ⟨fun h => ⟨h.1, h.2⟩, fun h => ⟨h.modifiers, h.key⟩⟩

/-! ### Ways to write the same -/

/-- The texts between the plus signs. -/
def segments (text : String) : List (List Char) :=
  Text.splitOn '+' text.toList

/-- The tokens of segments: what is left of them without blanks at their ends, if anything is. -/
def tokensOf (segments : List (List Char)) : List String :=
  ((segments.map Text.strip).filter (!·.isEmpty)).map String.ofList

theorem tokensOf_append (as bs : List (List Char)) :
    tokensOf (as ++ bs) = tokensOf as ++ tokensOf bs := by
  rw [tokensOf, List.map_append, List.filter_append, List.map_append, tokensOf, tokensOf]

/-- The segment names this modifier. -/
def Names (segment : List Char) (m : Modifier) : Prop :=
  Modifier.ofAlias? (String.ofList (Text.strip segment)) = some m

/-- The segment names a key: it is not blank and names no modifier. -/
def IsKey (segment : List Char) : Prop :=
  Text.strip segment ≠ [] ∧ Modifier.ofAlias? (String.ofList (Text.strip segment)) = none

/-- Segments are another way to write the same shortcut. -/
inductive Respelled : List (List Char) → List (List Char) → Prop where
  /-- A modifier may stand on either side of any other segment. -/
  | order {a b : List Char} {m : Modifier} (ha : Names a m) : Respelled [a, b] [b, a]
  /-- A modifier may be repeated, be it by another of its names. -/
  | repetition {a b : List Char} {m : Modifier} (ha : Names a m) (hb : Names b m) :
      Respelled [a] [a, b]
  /-- A modifier may be given by another of its names. -/
  | otherName {a b : List Char} {m : Modifier} (ha : Names a m) (hb : Names b m) :
      Respelled [a] [b]
  /-- White space around a token does not matter. -/
  | blanks {a b : List Char} (h : Text.strip a = Text.strip b) : Respelled [a] [b]
  /-- A segment that holds nothing else may be left out. -/
  | empty {a : List Char} (h : Text.strip a = []) : Respelled [a] []
  /-- A key that is followed by another one may be left out. -/
  | earlierKey {a b : List Char} (ha : IsKey a) (hb : IsKey b) : Respelled [a, b] [b]
  /-- The same holds in the middle of a text. -/
  | within (pre post : List (List Char)) {as bs : List (List Char)} (h : Respelled as bs) :
      Respelled (pre ++ as ++ post) (pre ++ bs ++ post)
  | refl (as : List (List Char)) : Respelled as as
  | symm {as bs : List (List Char)} (h : Respelled as bs) : Respelled bs as
  | trans {as bs cs : List (List Char)} (h : Respelled as bs) (h' : Respelled bs cs) :
      Respelled as cs

theorem Names.strip_ne_nil {a : List Char} {m : Modifier} (h : Names a m) :
    Text.strip a ≠ [] := by
  intro hnil
  rw [Names, hnil] at h
  cases m <;> exact absurd h (by decide)

theorem tokensOf_of_ne_nil {a : List Char} (h : Text.strip a ≠ []) :
    tokensOf [a] = [String.ofList (Text.strip a)] := by
  rw [tokensOf, List.map_singleton, List.filter_cons_of_pos (by simpa using h)]
  rfl

theorem Names.namedModifiers_eq {a : List Char} {m : Modifier} (h : Names a m) :
    namedModifiers (tokensOf [a]) = [m] := by
  rw [tokensOf_of_ne_nil h.strip_ne_nil, namedModifiers, List.filterMap_cons_some h,
    List.filterMap_nil]

theorem Names.keyTokens_eq {a : List Char} {m : Modifier} (h : Names a m) :
    keyTokens (tokensOf [a]) = [] := by
  have hnamed : Modifier.ofAlias? (String.ofList (Text.strip a)) = some m := h
  rw [tokensOf_of_ne_nil h.strip_ne_nil, keyTokens, List.filter_cons_of_neg (by simp [hnamed]),
    List.filter_nil]

theorem IsKey.namedModifiers_eq {a : List Char} (h : IsKey a) :
    namedModifiers (tokensOf [a]) = [] := by
  rw [tokensOf_of_ne_nil h.1, namedModifiers, List.filterMap_cons_none h.2, List.filterMap_nil]

theorem IsKey.keyTokens_eq {a : List Char} (h : IsKey a) :
    keyTokens (tokensOf [a]) = [String.ofList (Text.strip a)] := by
  rw [tokensOf_of_ne_nil h.1, keyTokens, List.filter_cons_of_pos (by simp [h.2]), List.filter_nil]

theorem tokensOf_pair (a b : List Char) : tokensOf [a, b] = tokensOf [a] ++ tokensOf [b] :=
  tokensOf_append [a] [b]

/-- The tokens of segments that are another way to write the same agree. -/
theorem Respelled.agree {as bs : List (List Char)} (h : Respelled as bs) :
    Agree (tokensOf as) (tokensOf bs) := by
  induction h with
  | @order a b m ha =>
    -- A modifier adds nothing to the keys, whatever stands beside it.
    rw [tokensOf_pair, tokensOf_pair]
    constructor
    · intro m'
      simp only [namedModifiers_append, List.mem_append]
      exact or_comm
    · simp only [keyTokens_append, ha.keyTokens_eq, List.nil_append, List.append_nil]
  | repetition ha hb =>
    rw [tokensOf_pair]
    constructor
    · intro m'
      simp only [namedModifiers_append, ha.namedModifiers_eq, hb.namedModifiers_eq, List.mem_append,
        or_self]
    · simp only [keyTokens_append, hb.keyTokens_eq, List.append_nil]
  | otherName ha hb =>
    constructor
    · intro m'
      rw [ha.namedModifiers_eq, hb.namedModifiers_eq]
    · rw [ha.keyTokens_eq, hb.keyTokens_eq]
  | @blanks a b h =>
    have htokens : tokensOf [a] = tokensOf [b] := by
      simp only [tokensOf, List.map_singleton, h]
    exact htokens ▸ .refl _
  | @empty a h =>
    have htokens : tokensOf [a] = tokensOf [] := by
      simp only [tokensOf, List.map_singleton, h]
      rfl
    exact htokens ▸ .refl _
  | earlierKey ha hb =>
    rw [tokensOf_pair]
    constructor
    · intro m'
      rw [namedModifiers_append, ha.namedModifiers_eq, List.nil_append]
    · rw [keyTokens_append, ha.keyTokens_eq, hb.keyTokens_eq]
      rfl
  | within pre post _ ih =>
    simp only [tokensOf_append]
    exact ih.within _ _
  | refl as => exact .refl _
  | symm _ ih => exact ih.symm
  | trans _ _ ih ih' => exact ih.trans ih'

end Shortcut

namespace Keystroke

open Shortcut

/-- Shortcuts that name the same modifiers and the same last key have the same normal form, or are
refused with the same failure. Nothing else about them matters: not the order or the repetition of
modifiers, not which of its names a modifier has, neither blanks nor blank segments, and no key but
the last. -/
theorem normalize_eq_of_agree (s t : String) :
    (Agree (tokens s) (tokens t) → normalize (.shortcut s) = normalize (.shortcut t)) ∧
    (Respelled (segments s) (segments t) →
      Agree (tokens s) (tokens t) ∧ normalize (.shortcut s) = normalize (.shortcut t)) := by
  have hnormal (h : Agree (tokens s) (tokens t)) :
      normalize (.shortcut s) = normalize (.shortcut t) := by
    rw [normalize, normalize, parse_eq_iff.mpr h]
  exact ⟨hnormal, fun h => ⟨h.agree, hnormal h.agree⟩⟩

/-- A shortcut written in two ways, and one that is refused in two ways. -/
theorem normalize_eq_of_agree_shiftD :
    normalize (.shortcut "Cmd+Shift+KeyD") = .ok ⟨768, some 2⟩ ∧
      normalize (.shortcut " x+ShiftLeft++Win +Command+ KeyD+Shift") = .ok ⟨768, some 2⟩ ∧
      Respelled (segments "Cmd+é") (segments "é + +Cmd") ∧
      normalize (.shortcut "Cmd+é") = normalize (.shortcut "é + +Cmd") := by
  obtain ⟨hagree, -⟩ := normalize_eq_of_agree "Cmd+Shift+KeyD"
    " x+ShiftLeft++Win +Command+ KeyD+Shift"
  obtain ⟨-, hrespelled⟩ := normalize_eq_of_agree "Cmd+é" "é + +Cmd"
  have hnormal : normalize (.shortcut "Cmd+Shift+KeyD") = .ok ⟨768, some 2⟩ := rfl
  have hparts : Agree (tokens "Cmd+Shift+KeyD")
      (tokens " x+ShiftLeft++Win +Command+ KeyD+Shift") :=
    ⟨fun m => by cases m <;> decide, by decide⟩
  have hsteps : Respelled (segments "Cmd+é") (segments "é + +Cmd") := by
    have hcmd : Names "Cmd".toList .cmd := by
      rw [Names]
      decide +kernel
    have hblank : Respelled ["Cmd".toList] [" ".toList, "Cmd".toList] :=
      .symm (.within [] ["Cmd".toList] (.empty (by decide +kernel)))
    have hkey : Respelled ["é".toList] ["é ".toList] := .blanks (by decide +kernel)
    exact ((Respelled.order hcmd).trans (.within ["é".toList] [] hblank)).trans
      (.within [] [" ".toList, "Cmd".toList] hkey)
  exact ⟨hnormal, (hagree hparts).symm.trans hnormal, hsteps, (hrespelled hsteps).2⟩

end Keystroke
end MacroScribe
