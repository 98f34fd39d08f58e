import MacroScribe.Proofs.Outcome
import MacroScribe.Proofs.StyledText.Encoding

/-!
# MacroScribe.Proofs.StyledText.Payload

Which texts are payloads, and how the others are refused. White space is left out first, then there
are three ways to fail: a character that is not ASCII, symbols and padding that are not base64, and
bytes that are not UTF-8. The last two are reported as an undecodable styled text, the first one is
not (`decode_spec`).
-/

namespace MacroScribe.StyledText

open Outcome Text

/-- Up to white space, the text is a base64 text of the bytes of the document. -/
def Stores (payload rtf : List Char) : Prop :=
  Base64.Denotes (payload.filter (!isBlank ·)) (utf8 rtf)

/-- Nothing but ASCII characters and white space. -/
def IsAscii (payload : List Char) : Prop :=
  ∀ c ∈ payload, isBlank c = false → c.toNat ≤ 127

theorem any_filter_eq_false_iff {payload : List Char} :
    (payload.filter (!isBlank ·)).any (127 < ·.toNat) = false ↔ IsAscii payload := by
  simp only [List.any_eq_false, List.mem_filter, Bool.not_eq_true', decide_eq_true_eq, Nat.not_lt,
    and_imp, IsAscii]

theorem Stores.isAscii {payload rtf : List Char} (h : Stores payload rtf) : IsAscii payload := by
  obtain ⟨ns, pads, hlt, -, hsymbols, -⟩ := h
  intro c hc hblank
  have hmem : c ∈ payload.filter (!isBlank ·) := List.mem_filter.mpr ⟨hc, by rw [hblank]; rfl⟩
  rw [hsymbols, List.mem_append, List.mem_map] at hmem
  rcases hmem with ⟨n, hn, rfl⟩ | hpad
  · exact Base64.toNat_symbol_le n (hlt n hn)
  · rw [List.eq_of_mem_replicate hpad]
    decide

/-- A text that is not ASCII is not even looked at. -/
theorem decode_of_not_isAscii {payload : List Char} (h : ¬IsAscii payload) :
    decode payload = misused .notAscii := by
  rw [← any_filter_eq_false_iff, Bool.not_eq_false] at h
  rw [decode, if_pos h]

theorem decode_of_isAscii {payload : List Char} (h : IsAscii payload) :
    decode payload = ((Base64.decode? (payload.filter (!isBlank ·))).bind ofUtf8?).elim
      (.error .undecodable) .ok := by
  rw [← any_filter_eq_false_iff] at h
  simp only [decode, h]
  cases (Base64.decode? (payload.filter (!isBlank ·))).bind ofUtf8? <;> rfl

/-- What is decoded are the texts that store documents. -/
theorem decode_eq_ok_iff {payload rtf : List Char} :
    decode payload = .ok rtf ↔ Stores payload rtf := by
  by_cases hascii : IsAscii payload
  · have hread : (Base64.decode? (payload.filter (!isBlank ·))).bind ofUtf8? = some rtf ↔
        Stores payload rtf := by
      simp only [Option.bind_eq_some_iff, ofUtf8?_eq_some_iff, exists_eq_right',
        Base64.decode?_eq_some_iff, Stores]
    rw [decode_of_isAscii hascii, ← hread]
    cases (Base64.decode? (payload.filter (!isBlank ·))).bind ofUtf8? <;> simp
  · rw [decode_of_not_isAscii hascii]
    exact ⟨nofun, fun h => absurd h.isAscii hascii⟩

/-- A text is decoded if it stores a document. Otherwise it is reported as an undecodable styled
text if all of its characters are ASCII or white space, and only then. -/
theorem decode_spec (payload : List Char) :
    (∀ rtf, decode payload = .ok rtf ↔ Stores payload rtf) ∧
      (FailsAs .styledText (decode payload) ↔ IsAscii payload) := by
  refine ⟨fun rtf => decode_eq_ok_iff, ?_⟩
  by_cases hascii : IsAscii payload
  · rw [decode_of_isAscii hascii]
    refine iff_of_true ?_ hascii
    cases (Base64.decode? (payload.filter (!isBlank ·))).bind ofUtf8? with
    | some rtf => exact failsAs_ok rtf
    | none => exact failsAs_error.mpr rfl
  · rw [decode_of_not_isAscii hascii, failsAs_misused]
    exact iff_of_false (by decide) hascii

/-- One letter that is not ASCII is reported as a value that cannot be used, not as an undecodable
styled text. -/
theorem decode_letter :
    decode ['é'] = misused .notAscii ∧ ¬FailsAs .styledText (decode ['é']) := by
  have hletter : decode ['é'] = misused .notAscii := rfl
  refine ⟨hletter, ?_⟩
  rw [hletter, failsAs_misused]
  decide

end MacroScribe.StyledText
