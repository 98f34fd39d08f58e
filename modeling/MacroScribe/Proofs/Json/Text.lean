import MacroScribe.Json.Reader
import MacroScribe.Json.Writer
import MacroScribe.Proofs.Decimal.Numeral
import MacroScribe.Proofs.Outcome
import Mathlib.Data.Option.Basic

/-!
# MacroScribe.Proofs.Json.Text

Texts survive JSON. The writer escapes a character in one of four ways, and the reader takes up each
of them in one step (`readText_writeChar`), so that it reads a written text as the text that it was,
whatever characters it has. A character beyond the first plane is written in two halves, and the
reader puts them together again. What is written, of whatever value, only has printable characters
of ASCII (`isPlain_write`), so any system takes it.
-/

namespace MacroScribe

namespace Text

/-- A hexadecimal digit has the value that it is written for. -/
theorem hexValue?_digitChar {k : Nat} (h : k < 16) : hexValue? (Nat.digitChar k) = some k := by
  have hall : ∀ k < 16, hexValue? (Nat.digitChar k) = some k := by decide
  exact hall k h

/-- Four hexadecimal digits are read as the number that they were made of. -/
theorem readHex?_hexDigits {n : Nat} (h : n < 0x10000) (rest : List Char) :
    readHex? 4 (hexDigits 4 n ++ rest) = some (n, rest) := by
  have hdigits : hexDigits 4 n = [Nat.digitChar (n / 4096 % 16), Nat.digitChar (n / 256 % 16),
      Nat.digitChar (n / 16 % 16), Nat.digitChar (n / 1 % 16)] := rfl
  have hvalue (m : Nat) : hexValue? (Nat.digitChar (m % 16)) = some (m % 16) :=
    hexValue?_digitChar (Nat.mod_lt m (by decide))
  have hsum : ((n / 4096 % 16 * 16 + n / 256 % 16) * 16 + n / 16 % 16) * 16 + n / 1 % 16 = n := by
    omega
  rw [hdigits, readHex?]
  simp only [List.cons_append, List.nil_append, List.take_succ_cons, List.take_zero,
    List.drop_succ_cons, List.drop_zero, List.length_cons, List.mapM_cons, List.mapM_nil, hvalue,
    Nat.le_add_left, guard_true, Option.bind_eq_bind, Option.bind_some, Option.pure_def,
    List.foldl_cons, List.foldl_nil, Nat.zero_mul, Nat.zero_add, hsum]

end Text

namespace Json

/-! ### One character -/

/-- A character of the first plane is written in one escape. -/
theorem readUnicode?_hexDigits {c : Char} (h : c.toNat ≤ 0xFFFF) (rest : List Char) :
    readUnicode? (Text.hexDigits 4 c.toNat ++ rest) = some (c, rest) := by
  -- No character has the number of half a character.
  have hvalid : c.toNat < 0xD800 ∨ 0xDFFF < c.toNat ∧ c.toNat < 0x110000 := c.valid
  have hhigh : ¬ (0xD800 ≤ c.toNat ∧ c.toNat ≤ 0xDBFF) := by omega
  have hlow : ¬ (0xDC00 ≤ c.toNat ∧ c.toNat ≤ 0xDFFF) := by omega
  rw [readUnicode?, Text.readHex?_hexDigits (by omega)]
  simp only [Option.bind_eq_bind, Option.bind_some, if_neg hhigh, if_neg hlow, Char.ofNat_toNat]
  rfl

/-- Two halves are one character. -/
theorem readUnicode?_pair {high low : Nat} (hhigh : 0xD800 ≤ high ∧ high ≤ 0xDBFF)
    (hlow : 0xDC00 ≤ low ∧ low ≤ 0xDFFF) (rest : List Char) :
    readUnicode? (Text.hexDigits 4 high ++ '\\' :: 'u' :: (Text.hexDigits 4 low ++ rest)) =
      some (Char.ofNat (0x10000 + (high - 0xD800) * 0x400 + (low - 0xDC00)), rest) := by
  rw [readUnicode?, Text.readHex?_hexDigits (by omega)]
  simp only [Option.bind_eq_bind, Option.bind_some, if_pos hhigh]
  rw [Text.readHex?_hexDigits (by omega)]
  simp only [Option.bind_some, if_pos hlow]
  rfl

/-- Any other character is written in two escapes, one for each half. -/
theorem readUnicode?_halves {c : Char} (h : 0xFFFF < c.toNat) (rest : List Char) :
    readUnicode? (Text.hexDigits 4 (0xD800 + (c.toNat - 0x10000) / 0x400) ++
      '\\' :: 'u' :: (Text.hexDigits 4 (0xDC00 + (c.toNat - 0x10000) % 0x400) ++ rest)) =
        some (c, rest) := by
  have hvalid : c.toNat < 0xD800 ∨ 0xDFFF < c.toNat ∧ c.toNat < 0x110000 := c.valid
  have hsum : 0x10000 + (0xD800 + (c.toNat - 0x10000) / 0x400 - 0xD800) * 0x400 +
      (0xDC00 + (c.toNat - 0x10000) % 0x400 - 0xDC00) = c.toNat := by omega
  rw [readUnicode?_pair (by omega) (by omega), hsum, Char.ofNat_toNat]

/-- An escape of one letter. -/
theorem readText_letter {e c : Char} (fuel : Nat) (done rest : List Char) (he : e ≠ 'u')
    (h : escaped? e = some c) :
    readText (fuel + 1) done ('\\' :: e :: rest) = readText fuel (c :: done) rest := by
  rw [readText]
  · simp only [h]
    rfl
  · exact he

/-- A character that stands for itself. -/
theorem readText_plain {c : Char} (fuel : Nat) (done rest : List Char) (hquote : c ≠ '"')
    (hback : c ≠ '\\') (hprintable : 0x20 ≤ c.toNat) :
    readText (fuel + 1) done (c :: rest) = readText fuel (c :: done) rest := by
  have hcontrol : ¬ c.toNat < 0x20 := Nat.not_lt.mpr hprintable
  rw [readText.eq_def]
  simp only [if_neg hquote, if_neg hback, if_neg hcontrol]

/-- An escape of a number. -/
theorem readText_unicode {c : Char} {s rest : List Char} (fuel : Nat) (done : List Char)
    (h : readUnicode? s = some (c, rest)) :
    readText (fuel + 1) done ('\\' :: 'u' :: s) = readText fuel (c :: done) rest := by
  simp only [readText, h]
  rfl

/-- A character is read as it was written, in one step. -/
theorem readText_writeChar (c : Char) (fuel : Nat) (done rest : List Char) :
    readText (fuel + 1) done (writeChar c ++ rest) = readText fuel (c :: done) rest := by
  unfold writeChar
  by_cases hquoted : c = '"' ∨ c = '\\'
  · rw [if_pos hquoted]
    rcases hquoted with rfl | rfl
    · exact readText_letter fuel done rest (by decide) rfl
    · exact readText_letter fuel done rest (by decide) rfl
  rw [if_neg hquoted]
  by_cases hn : c = '\n'
  · subst hn
    exact readText_letter fuel done rest (by decide) rfl
  rw [if_neg hn]
  by_cases hr : c = '\r'
  · subst hr
    exact readText_letter fuel done rest (by decide) rfl
  rw [if_neg hr]
  by_cases ht : c = '\t'
  · subst ht
    exact readText_letter fuel done rest (by decide) rfl
  rw [if_neg ht]
  by_cases hb : c = '\x08'
  · subst hb
    exact readText_letter fuel done rest (by decide) rfl
  rw [if_neg hb]
  by_cases hf : c = '\x0c'
  · subst hf
    exact readText_letter fuel done rest (by decide) rfl
  rw [if_neg hf]
  by_cases hascii : 0x20 ≤ c.toNat ∧ c.toNat < 0x7F
  · rw [if_pos hascii]
    obtain ⟨hquote, hback⟩ := not_or.mp hquoted
    exact readText_plain fuel done rest hquote hback hascii.1
  rw [if_neg hascii]
  by_cases hplane : c.toNat ≤ 0xFFFF
  · rw [if_pos hplane]
    exact readText_unicode fuel done (readUnicode?_hexDigits hplane rest)
  · rw [if_neg hplane]
    have h := readText_unicode fuel done (readUnicode?_halves (Nat.lt_of_not_le hplane) rest)
    simpa only [List.cons_append, List.append_assoc] using h

/-! ### Texts -/

/-- Characters are read as they were written, up to the closing quote. -/
theorem readText_writeChars (text done rest : List Char) {fuel : Nat} (h : text.length < fuel) :
    readText fuel done (text.flatMap writeChar ++ '"' :: rest) =
      some (done.reverse ++ text, rest) := by
  induction text generalizing fuel done with
  | nil =>
    obtain ⟨fuel, rfl⟩ := Nat.exists_eq_succ_of_ne_zero (Nat.ne_of_gt h)
    rw [List.flatMap_nil, List.nil_append, List.append_nil, readText.eq_def]
    rfl
  | cons c text ih =>
    have hpos : 0 < fuel := Nat.lt_of_le_of_lt (Nat.zero_le _) h
    obtain ⟨fuel, rfl⟩ := Nat.exists_eq_succ_of_ne_zero (Nat.ne_of_gt hpos)
    rw [List.length_cons] at h
    rw [List.flatMap_cons, List.append_assoc, readText_writeChar, ih _ (by omega),
      List.reverse_cons, List.append_assoc, List.singleton_append]

theorem writeChar_ne_nil (c : Char) : writeChar c ≠ [] := by
  unfold writeChar
  repeat' split
  all_goals exact List.cons_ne_nil _ _

/-- Each character is written as at least one, so there is fuel enough. -/
theorem length_le_flatMap_writeChar (text : List Char) :
    text.length ≤ (text.flatMap writeChar).length := by
  induction text with
  | nil => exact Nat.le_refl _
  | cons c text ih =>
    have hpos := List.length_pos_of_ne_nil (writeChar_ne_nil c)
    rw [List.flatMap_cons, List.length_append, List.length_cons]
    omega

/-- The JSON text of a text denotes the text. -/
theorem read_writeString (s : String) :
    read (Json.str s : Data).writeString.toList = .ok (Json.str s : Data) := by
  have hwritten : (Json.str s : Data).writeString.toList =
      '"' :: (s.toList.flatMap writeChar ++ ['"']) := String.toList_ofList
  have hlength := length_le_flatMap_writeChar s.toList
  have hfuel : s.toList.length <
      2 * ('"' :: (s.toList.flatMap writeChar ++ ['"'])).length + 1 := by
    rw [List.length_cons, List.length_append]
    omega
  have htext := readText_writeChars s.toList [] [] hfuel
  have hspace : ¬ isSpace '"' = true := by decide
  rw [hwritten, read, readValue]
  simp only [List.dropWhile_cons_of_neg hspace]
  rw [htext, List.reverse_nil, List.nil_append]
  change Except.ok (str (String.ofList s.toList)) = _
  rw [String.ofList_toList]

/-! ### Characters -/

end Json

namespace Text

/-- All characters of the text are printable ones of ASCII. -/
def IsPlain (s : List Char) : Prop :=
  ∀ c ∈ s, 0x20 ≤ c.toNat ∧ c.toNat < 0x7F

@[simp] theorem isPlain_nil : IsPlain [] :=
  List.forall_mem_nil _

@[simp] theorem isPlain_cons {c : Char} {s : List Char} :
    IsPlain (c :: s) ↔ (0x20 ≤ c.toNat ∧ c.toNat < 0x7F) ∧ IsPlain s :=
  List.forall_mem_cons

@[simp] theorem isPlain_append {s t : List Char} : IsPlain (s ++ t) ↔ IsPlain s ∧ IsPlain t :=
  List.forall_mem_append

instance : DecidablePred IsPlain := fun s =>
  List.decidableBAll (fun c : Char => 0x20 ≤ c.toNat ∧ c.toNat < 0x7F) s

/-- Hexadecimal digits are plain. -/
theorem isPlain_hexDigits (width n : Nat) : IsPlain (hexDigits width n) := by
  have hdigit : ∀ k < 16, 0x20 ≤ (Nat.digitChar k).toNat ∧ (Nat.digitChar k).toNat < 0x7F := by
    decide
  intro c hc
  obtain ⟨i, -, rfl⟩ := List.mem_map.mp hc
  exact hdigit _ (Nat.mod_lt _ (by decide))

/-- And so are numbers. -/
theorem isPlain_of_isNumeralChar {s : List Char} (h : s.all Decimal.isNumeralChar) : IsPlain s := by
  intro c hc
  have hnumeral := List.all_eq_true.mp h c hc
  rw [Decimal.isNumeralChar, Bool.or_eq_true] at hnumeral
  rcases hnumeral with hdigit | hother
  · simp only [Char.isDigit, Bool.and_eq_true, decide_eq_true_eq] at hdigit
    have hlow : 48 ≤ c.toNat := hdigit.1
    have hhigh : c.toNat ≤ 57 := hdigit.2
    omega
  · have hall : IsPlain ['-', '+', '.', 'e', 'n', 'a', 'i', 'f'] := by decide
    exact hall c (by simpa using hother)

theorem isPlain_intercalate {sep : List Char} {parts : List (List Char)} (hsep : IsPlain sep)
    (h : ∀ s ∈ parts, IsPlain s) : IsPlain (sep.intercalate parts) := by
  induction parts with
  | nil => exact isPlain_nil
  | cons s parts ih =>
    obtain ⟨hs, hrest⟩ := List.forall_mem_cons.mp h
    cases parts with
    | nil => simpa using hs
    | cons t parts =>
      rw [List.intercalate_cons_cons, isPlain_append, isPlain_append]
      exact ⟨⟨hs, hsep⟩, ih hrest⟩

/-! ### Halves of characters -/

namespace StandIns

/-- Plain texts have bytes, whichever characters stand for halves. -/
theorem isWhole_of_isPlain (standIns : StandIns) {s : List Char} (h : IsPlain s) :
    standIns.isWhole s = true := by
  refine List.all_eq_true.mpr fun c hc => ?_
  rw [standIns.ascii c (by have := (h c hc).2; omega)]
  rfl

/-- Texts have bytes part by part. -/
theorem isWhole_append {standIns : StandIns} {s t : List Char} :
    standIns.isWhole (s ++ t) = true ↔
      standIns.isWhole s = true ∧ standIns.isWhole t = true := by
  rw [isWhole, List.all_append, Bool.and_eq_true, isWhole, isWhole]

/-- Every text has bytes if no characters stand for halves. -/
theorem isWhole_absent (s : List Char) : absent.isWhole s = true :=
  List.all_eq_true.mpr fun _ _ => rfl

theorem isSystemText_absent (s : List Char) : absent.isSystemText s = true :=
  List.all_eq_true.mpr fun _ _ => rfl

/-- Half a character. -/
def half : Char :=
  ofSurrogate 0xD800

/-- A text with half a character has no bytes. -/
theorem isWhole_of_half_mem {s : List Char} (h : half ∈ s) : privateUse.isWhole s = false :=
  List.all_eq_false.mpr ⟨half, h, by decide⟩

end StandIns
end Text

namespace Json

open Text

/-- All characters beyond ASCII are escaped. -/
theorem isPlain_writeChar (c : Char) : IsPlain (writeChar c) := by
  unfold writeChar
  split
  · next h => rcases h with rfl | rfl <;> decide
  · split <;> [decide; skip]
    split <;> [decide; skip]
    split <;> [decide; skip]
    split <;> [decide; skip]
    split <;> [decide; skip]
    split
    · next h => simpa using h
    · split
      · exact isPlain_cons.mpr ⟨by decide, isPlain_cons.mpr ⟨by decide, isPlain_hexDigits 4 _⟩⟩
      · simp [isPlain_hexDigits]

theorem isPlain_writeText (s : List Char) : IsPlain (writeText s) := by
  have hchars : IsPlain (s.flatMap writeChar) := by
    intro c hc
    obtain ⟨d, -, hd⟩ := List.mem_flatMap.mp hc
    exact isPlain_writeChar d c hd
  rw [writeText, List.cons_append, isPlain_cons, isPlain_append]
  exact ⟨by decide, hchars, by decide⟩

theorem isPlain_writeFloat (x : Float) : IsPlain (writeFloat x) := by
  unfold writeFloat
  split
  · decide
  · split <;> decide
  · exact isPlain_of_isNumeralChar (Decimal.all_floatText x)

variable {ω : Type}

mutual

/-- So data is written as plain text, whatever is in it. -/
theorem isPlain_write : ∀ v : Json ω, IsPlain v.write
  | null => (by decide : IsPlain "null".toList)
  | bool b => by
    rw [write]
    cases b <;> decide
  | int n => isPlain_of_isNumeralChar (Decimal.all_intText n)
  | float x => isPlain_writeFloat x
  | str s => isPlain_writeText s.toList
  | embed _ => (by decide : IsPlain "null".toList)
  | list items => by
    have hitems := isPlain_intercalate (by decide : IsPlain [',', ' ']) (isPlain_writeItems items)
    simp only [write, List.cons_append, isPlain_cons, isPlain_append, hitems, isPlain_nil]
    decide
  | obj fields => by
    have hfields :=
      isPlain_intercalate (by decide : IsPlain [',', ' ']) (isPlain_writeFields fields)
    simp only [write, List.cons_append, isPlain_cons, isPlain_append, hfields, isPlain_nil]
    decide

theorem isPlain_writeItems : ∀ items : List (Json ω), ∀ s ∈ writeItems items, IsPlain s
  | [] => List.forall_mem_nil _
  | v :: rest => List.forall_mem_cons.mpr ⟨isPlain_write v, isPlain_writeItems rest⟩

theorem isPlain_writeFields :
    ∀ fields : List (String × Json ω), ∀ s ∈ writeFields fields, IsPlain s
  | [] => List.forall_mem_nil _
  | (k, v) :: rest => by
    have hkey := isPlain_writeText k.toList
    refine List.forall_mem_cons.mpr ⟨?_, isPlain_writeFields rest⟩
    simp only [isPlain_append, isPlain_cons, hkey, isPlain_write v]
    decide

end

/-- The JSON text of a value only has printable characters of ASCII. -/
theorem isPlain_writeString (v : Json ω) : IsPlain v.writeString.toList := by
  rw [writeString, String.toList_ofList]
  exact isPlain_write v

end Json
end MacroScribe
