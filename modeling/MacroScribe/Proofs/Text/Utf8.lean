import MacroScribe.Text.Encoding

/-!
# MacroScribe.Proofs.Text.Utf8

Reading the bytes of a text leniently gives the text (`ofUtf8Lenient_utf8`): its characters are read
one by one, whatever follows them. A character of two, three or four bytes is under way after the
first of them, and each byte after that lies in the range in which it is waited for. The ranges that
are narrower than the others keep out codes that would fit into fewer bytes, surrogates, and codes
that are too high, and characters have none of these.
-/

namespace MacroScribe.Text

variable {bits owed low high v : Nat} {b : UInt8}

/-! ### Bytes -/

theorem lenientFrom_start {p : Pending} (h : Pending.start b.toNat = ([], some p))
    (rest : List UInt8) : lenientFrom none (b :: rest) = lenientFrom (some p) rest := by
  rw [lenientFrom, Pending.step, h]
  rfl

/-- A byte that is waited for, and not the last one. -/
theorem lenientFrom_continue (hlow : low ≤ b.toNat) (hhigh : b.toNat ≤ high) (howed : owed ≠ 1)
    (rest : List UInt8) : lenientFrom (some ⟨bits, owed, low, high⟩) (b :: rest) =
      lenientFrom (some ⟨bits * 0x40 + b.toNat % 0x40, owed - 1, 0x80, 0xBF⟩) rest := by
  simp [lenientFrom, Pending.step, hlow, hhigh, howed]

/-- The last byte that is waited for. -/
theorem lenientFrom_finish (hlow : low ≤ b.toNat) (hhigh : b.toNat ≤ high) (rest : List UInt8) :
    lenientFrom (some ⟨bits, 1, low, high⟩) (b :: rest) =
      Char.ofNat (bits * 0x40 + b.toNat % 0x40) :: lenientFrom none rest := by
  simp [lenientFrom, Pending.step, hlow, hhigh]

theorem toNat_ofNat_of_lt (h : v < 256) : (UInt8.ofNat v).toNat = v := by
  simp [Nat.mod_eq_of_lt h]

/-! ### First bytes -/

theorem start_two (hlow : 0x80 ≤ v) (hhigh : v ≤ 0x7FF) :
    Pending.start (v / 64 % 32 + 192) = ([], some ⟨v / 64, 1, 0x80, 0xBF⟩) := by
  have hbits : (v / 64 % 32 + 192) % 0x20 = v / 64 := by omega
  rw [Pending.start, if_neg (by omega), if_pos (by simp; omega), hbits]

/-- The first of three bytes: the second one shows that the code is high enough and is not that of a
surrogate. -/
theorem start_three (hlow : 0x800 ≤ v) (hhigh : v ≤ 0xFFFF) (hvalid : v < 0xD800 ∨ 0xDFFF < v) :
    ∃ low high, Pending.start (v / 4096 % 16 + 224) = ([], some ⟨v / 4096, 2, low, high⟩) ∧
      low ≤ v / 64 % 64 + 128 ∧ v / 64 % 64 + 128 ≤ high := by
  have hbits : (v / 4096 % 16 + 224) % 0x10 = v / 4096 := by omega
  unfold Pending.start
  rw [if_neg (by omega), if_neg (by simp)]
  split
  · have hzero : v / 4096 = 0 := by omega
    exact ⟨0xA0, 0xBF, by rw [hzero], by omega, by omega⟩
  · split
    · have hbefore : v / 4096 = 0xD := by omega
      exact ⟨0x80, 0x9F, by rw [hbefore], by omega, by omega⟩
    · rw [if_pos (by simp; omega), hbits]
      exact ⟨0x80, 0xBF, rfl, by omega, by omega⟩

/-- The first of four bytes: the second one shows that the code is high enough and not too high. -/
theorem start_four (hlow : 0x10000 ≤ v) (hhigh : v ≤ 0x10FFFF) :
    ∃ low high, Pending.start (v / 262144 % 8 + 240) = ([], some ⟨v / 262144, 3, low, high⟩) ∧
      low ≤ v / 4096 % 64 + 128 ∧ v / 4096 % 64 + 128 ≤ high := by
  have hbits : (v / 262144 % 8 + 240) % 8 = v / 262144 := by omega
  unfold Pending.start
  rw [if_neg (by omega), if_neg (by simp), if_neg (by omega), if_neg (by omega), if_neg (by simp)]
  split
  · have hzero : v / 262144 = 0 := by omega
    exact ⟨0x90, 0xBF, by rw [hzero], by omega, by omega⟩
  · split
    · have hlast : v / 262144 = 4 := by omega
      exact ⟨0x80, 0x8F, by rw [hlast], by omega, by omega⟩
    · rw [if_pos (by simp; omega), hbits]
      exact ⟨0x80, 0xBF, rfl, by omega, by omega⟩

/-! ### Characters -/

theorem lenientFrom_one (hhigh : v ≤ 0x7F) (rest : List UInt8) :
    lenientFrom none ([UInt8.ofNat v] ++ rest) = Char.ofNat v :: lenientFrom none rest := by
  have hbyte := toNat_ofNat_of_lt (v := v) (by omega)
  rw [List.singleton_append, lenientFrom, hbyte, Pending.step, Pending.start, if_pos (by omega)]
  rfl

theorem lenientFrom_two (hlow : 0x80 ≤ v) (hhigh : v ≤ 0x7FF) (rest : List UInt8) :
    lenientFrom none ([UInt8.ofNat (v / 64 % 32 + 192), UInt8.ofNat (v % 64 + 128)] ++ rest) =
      Char.ofNat v :: lenientFrom none rest := by
  have hfirst := toNat_ofNat_of_lt (v := v / 64 % 32 + 192) (by omega)
  have hlast := toNat_ofNat_of_lt (v := v % 64 + 128) (by omega)
  have hbits : v / 64 * 0x40 + (v % 64 + 128) % 0x40 = v := by omega
  rw [List.cons_append, lenientFrom_start (by rw [hfirst, start_two hlow hhigh]),
    List.singleton_append, lenientFrom_finish (by omega) (by omega), hlast, hbits]

theorem lenientFrom_three (hlow : 0x800 ≤ v) (hhigh : v ≤ 0xFFFF)
    (hvalid : v < 0xD800 ∨ 0xDFFF < v) (rest : List UInt8) :
    lenientFrom none ([UInt8.ofNat (v / 4096 % 16 + 224), UInt8.ofNat (v / 64 % 64 + 128),
      UInt8.ofNat (v % 64 + 128)] ++ rest) = Char.ofNat v :: lenientFrom none rest := by
  have hfirst := toNat_ofNat_of_lt (v := v / 4096 % 16 + 224) (by omega)
  have hnext := toNat_ofNat_of_lt (v := v / 64 % 64 + 128) (by omega)
  have hlast := toNat_ofNat_of_lt (v := v % 64 + 128) (by omega)
  have hbits : (v / 4096 * 0x40 + (v / 64 % 64 + 128) % 0x40) * 0x40 + (v % 64 + 128) % 0x40 = v :=
    by omega
  obtain ⟨low, high, hstart, hmin, hmax⟩ := start_three hlow hhigh hvalid
  rw [List.cons_append, lenientFrom_start (by rw [hfirst, hstart]), List.cons_append,
    lenientFrom_continue (by omega) (by omega) (by omega), List.singleton_append,
    lenientFrom_finish (by omega) (by omega), hlast, hnext, hbits]

theorem lenientFrom_four (hlow : 0x10000 ≤ v) (hhigh : v ≤ 0x10FFFF) (rest : List UInt8) :
    lenientFrom none ([UInt8.ofNat (v / 262144 % 8 + 240), UInt8.ofNat (v / 4096 % 64 + 128),
      UInt8.ofNat (v / 64 % 64 + 128), UInt8.ofNat (v % 64 + 128)] ++ rest) =
        Char.ofNat v :: lenientFrom none rest := by
  have hfirst := toNat_ofNat_of_lt (v := v / 262144 % 8 + 240) (by omega)
  have hsecond := toNat_ofNat_of_lt (v := v / 4096 % 64 + 128) (by omega)
  have hthird := toNat_ofNat_of_lt (v := v / 64 % 64 + 128) (by omega)
  have hlast := toNat_ofNat_of_lt (v := v % 64 + 128) (by omega)
  have hbits : ((v / 262144 * 0x40 + (v / 4096 % 64 + 128) % 0x40) * 0x40 +
      (v / 64 % 64 + 128) % 0x40) * 0x40 + (v % 64 + 128) % 0x40 = v := by omega
  obtain ⟨low, high, hstart, hmin, hmax⟩ := start_four hlow hhigh
  rw [List.cons_append, lenientFrom_start (by rw [hfirst, hstart]), List.cons_append,
    lenientFrom_continue (by omega) (by omega) (by omega), List.cons_append,
    lenientFrom_continue (by omega) (by omega) (by omega), List.singleton_append,
    lenientFrom_finish (by omega) (by omega), hlast, hthird, hsecond, hbits]

/-- The bytes of a character give the character, whatever follows. -/
theorem lenientFrom_utf8EncodeChar (c : Char) (rest : List UInt8) :
    lenientFrom none (String.utf8EncodeChar c ++ rest) = c :: lenientFrom none rest := by
  have hvalid : c.toNat < 0xD800 ∨ 0xDFFF < c.toNat ∧ c.toNat < 0x110000 := c.valid
  have hcode : c.val.toNat = c.toNat := rfl
  have hchar : c :: lenientFrom none rest = Char.ofNat c.toNat :: lenientFrom none rest := by
    rw [Char.ofNat_toNat]
  rw [String.utf8EncodeChar.eq_1, hcode, hchar]
  split
  · exact lenientFrom_one (by omega) rest
  · split
    · exact lenientFrom_two (by omega) (by omega) rest
    · split
      · exact lenientFrom_three (by omega) (by omega) (by omega) rest
      · exact lenientFrom_four (by omega) (by omega) rest

/-- The bytes of a text are read as the text. -/
theorem ofUtf8Lenient_utf8 (s : List Char) : ofUtf8Lenient (utf8 s) = s := by
  unfold ofUtf8Lenient utf8
  induction s with
  | nil => rfl
  | cons c s ih => rw [List.flatMap_cons, lenientFrom_utf8EncodeChar, ih]

end MacroScribe.Text
