import MacroScribe.Proofs.Plist.Markup
import MacroScribe.StyledText.Basic

/-!
# MacroScribe.Proofs.StyledText.Encoding

Encoding and decoding documents. Decoding takes white space out before it looks at anything else, so
that all that counts of an encoded document is its symbols (`decode_of_filter`), however they are
laid out on lines.
-/

namespace MacroScribe

open Text

namespace Text

/-- The text of the bytes of a text. -/
theorem ofUtf8?_utf8 (s : List Char) : ofUtf8? (utf8 s) = some s := by
  have hbytes : (⟨(utf8 s).toArray⟩ : ByteArray) = s.utf8Encode :=
    ByteArray.ext List.data_toByteArray.symm
  rw [ofUtf8?, hbytes, List.utf8Decode?_utf8Encode, Option.map_some]

/-- Only the bytes of a text are read as that text. -/
theorem ofUtf8?_eq_some_iff {bs : List UInt8} {s : List Char} :
    ofUtf8? bs = some s ↔ utf8 s = bs := by
  refine ⟨fun h => ?_, fun h => h ▸ ofUtf8?_utf8 s⟩
  obtain ⟨cs, hcs, rfl⟩ := Option.map_eq_some_iff.mp h
  have hencode : cs.toList.utf8Encode = ⟨bs.toArray⟩ := by
    have hget := ByteArray.utf8Encode_get_utf8Decode? (b := ⟨bs.toArray⟩) (h := by rw [hcs]; rfl)
    simpa only [hcs, Option.get_some] using hget
  have hdata := congrArg (fun b : ByteArray => b.data.toList) hencode
  simpa [List.utf8Encode, utf8] using hdata

/-- White space between symbols and at their sides is all that lines add to them. -/
theorem filter_unlines {ls : List (List Char)} (h : ls ≠ []) :
    (unlines ls).filter (!isBlank ·) = ls.flatMap (·.filter (!isBlank ·)) := by
  have hfeed : (!isBlank '\n') = false := by decide
  have hcons (s : List Char) : ('\n' :: s).filter (!isBlank ·) = s.filter (!isBlank ·) := by
    rw [List.filter_cons, hfeed, if_neg Bool.false_ne_true]
  rw [← hcons, cons_unlines h, List.filter_flatMap]
  exact List.flatMap_congr fun l _ => hcons l

namespace Base64

/-- All symbols are in ASCII. -/
theorem toNat_symbol_le : ∀ n < 64, (symbol n).toNat ≤ 127 := by
  decide

theorem toNat_le_of_mem_encode {bs : List UInt8} {c : Char} (h : c ∈ encode bs) :
    c.toNat ≤ 127 := by
  rcases mem_encode h with ⟨n, hn, rfl⟩ | rfl
  · exact toNat_symbol_le n hn
  · decide

end Base64
end Text

namespace Plist

/-- All pieces of a text have the full width, only the last one may be shorter. -/
theorem exists_full_chunks {width : Nat} {s : List Char} (hw : width ≠ 0) (hs : s ≠ []) :
    ∃ full last, chunks width s = full ++ [last] ∧ (∀ l ∈ full, l.length = width) ∧
      last.length ≤ width := by
  fun_induction chunks width s with
  | case1 s h => exact absurd (h.resolve_right hw) hs
  | case2 s h ih =>
    by_cases hrest : s.drop width = []
    · rw [hrest, chunks, if_pos (Or.inl rfl)]
      exact ⟨[], s.take width, rfl, List.forall_mem_nil _, List.length_take_le ..⟩
    · obtain ⟨full, last, heq, hfull, hlast⟩ := ih hrest
      have hlen : width ≤ s.length :=
        Nat.le_of_not_le fun hle => hrest (List.drop_eq_nil_iff.mpr hle)
      refine ⟨s.take width :: full, last, by rw [heq, List.cons_append], ?_, hlast⟩
      exact List.forall_mem_cons.mpr ⟨List.length_take_of_le hlen, hfull⟩

theorem exists_full_lines (s : List Char) :
    ∃ full last, wrapLines dataColumns s = full ++ [last] ∧
      (∀ l ∈ full, l.length = dataColumns) ∧ last.length ≤ dataColumns := by
  unfold wrapLines
  split
  · exact ⟨[], [], rfl, List.forall_mem_nil _, Nat.zero_le _⟩
  · next h => exact exists_full_chunks (by decide) (List.isEmpty_eq_false_iff.mp (by simpa using h))

theorem wrapLines_ne_nil (s : List Char) : wrapLines dataColumns s ≠ [] := by
  obtain ⟨full, last, h, -⟩ := exists_full_lines s
  rw [h]
  exact List.append_ne_nil_of_right_ne_nil full (List.cons_ne_nil last [])

end Plist

namespace StyledText

open Plist

/-- The lines of an encoded document are those of its symbols. -/
theorem splitOn_encode (rtf : List Char) :
    splitOn '\n' (encode rtf true) = wrapLines dataColumns (Base64.encode (utf8 rtf)) := by
  refine splitOn_joinWith (wrapLines_ne_nil _) fun l hl hmem => ?_
  exact absurd (Base64.isBlank_of_mem_encode ((mem_wrapLines hl).2 _ hmem)) (by decide)

/-- Without white space an encoded document is its symbols. -/
theorem filter_encode (rtf : List Char) (wrapped : Bool) :
    (encode rtf wrapped).filter (!isBlank ·) = Base64.encode (utf8 rtf) := by
  have hall {s : List Char} (hs : ∀ c ∈ s, c ∈ Base64.encode (utf8 rtf)) :
      s.filter (!isBlank ·) = s :=
    List.filter_eq_self.mpr fun c hc => by rw [Base64.isBlank_of_mem_encode (hs c hc)]; rfl
  cases wrapped with
  | false => exact hall fun _ => id
  | true =>
    have hlines : (encode rtf true).filter (!isBlank ·) =
        (wrapLines dataColumns (Base64.encode (utf8 rtf))).flatMap (·.filter (!isBlank ·)) :=
      filter_unlines (wrapLines_ne_nil _)
    rw [hlines, List.flatMap_congr fun l hl => hall (mem_wrapLines hl).2, List.flatMap_id',
      flatten_wrapLines]

/-- Whatever white space is among its symbols, a document is decoded. -/
theorem decode_of_filter {payload rtf : List Char}
    (h : payload.filter (!isBlank ·) = Base64.encode (utf8 rtf)) : decode payload = .ok rtf := by
  have hascii : (Base64.encode (utf8 rtf)).any (127 < ·.toNat) = false := by
    rw [List.any_eq_false]
    intro c hc
    simpa using Base64.toNat_le_of_mem_encode hc
  simp only [decode, h, hascii, Base64.decode?_encode, Option.bind_some, ofUtf8?_utf8]
  rfl

end StyledText
end MacroScribe
