import MacroScribe.Text.Encoding
import MacroScribe.Text.Class
import Mathlib.Data.List.Basic

/-!
# MacroScribe.Proofs.Text.Base64

Base64 texts: which characters they consist of, and that reading takes back what writing made of any
bytes (`decode?_encode`). The written text is split into its *sextets*, the values of the symbols,
and the padding after them.
-/

namespace MacroScribe.Text.Base64

/-! ### Symbols -/

/-- What every symbol satisfies: it has its own value, and it is neither white space, padding nor
markup. -/
theorem symbol_spec : ∀ n < 64, value? (symbol n) = some n ∧ symbol n ≠ '=' ∧ symbol n ≠ '<' ∧
    isBlank (symbol n) = false := by
  decide

/-! ### The sextets of bytes -/

/-- The values of the symbols that bytes are written with. -/
def sextets : List UInt8 → List Nat
  | [] => []
  | [a] => [a.toNat / 4, a.toNat % 4 * 16]
  | [a, b] => [a.toNat / 4, a.toNat % 4 * 16 + b.toNat / 16, b.toNat % 16 * 4]
  | a :: b :: c :: rest =>
    a.toNat / 4 :: (a.toNat % 4 * 16 + b.toNat / 16) :: (b.toNat % 16 * 4 + c.toNat / 64) ::
      c.toNat % 64 :: sextets rest

/-- The number of padding characters after bytes. -/
def padding : List UInt8 → Nat
  | [] => 0
  | [_] => 2
  | [_, _] => 1
  | _ :: _ :: _ :: rest => padding rest

theorem encode_eq (bs : List UInt8) :
    encode bs = (sextets bs).map symbol ++ List.replicate (padding bs) '=' := by
  fun_induction encode bs with
  | case1 => rfl
  | case2 a => rfl
  | case3 a b => rfl
  | case4 a b c rest ih => simp [sextets, padding, ih]

theorem sextets_lt (bs : List UInt8) : ∀ n ∈ sextets bs, n < 64 := by
  fun_induction sextets bs with
  | case1 => simp
  | case2 a =>
    have := a.toNat_lt
    simp only [List.mem_cons, List.not_mem_nil, or_false]
    omega
  | case3 a b =>
    have := a.toNat_lt
    have := b.toNat_lt
    simp only [List.mem_cons, List.not_mem_nil, or_false]
    omega
  | case4 a b c rest ih =>
    have := a.toNat_lt
    have := b.toNat_lt
    have := c.toNat_lt
    simp only [List.mem_cons]
    rintro n (rfl | rfl | rfl | rfl | h)
    · omega
    · omega
    · omega
    · omega
    · exact ih n h

/-- The padding is the one that the number of symbols asks for. -/
theorem paddingFits_sextets (bs : List UInt8) :
    paddingFits (sextets bs).length (padding bs) = true := by
  fun_induction sextets bs with
  | case1 => rfl
  | case2 a => rfl
  | case3 a b => rfl
  | case4 a b c rest ih =>
    have hmod : (sextets rest).length + 1 + 1 + 1 + 1 = (sextets rest).length + 4 := rfl
    simp only [paddingFits, List.length_cons, padding, hmod, Nat.add_mod_right] at ih ⊢
    split at ih <;> simp_all

theorem bytes_sextets (bs : List UInt8) : bytes (sextets bs) = bs := by
  fun_induction sextets bs with
  | case1 => rfl
  | case2 a =>
    have ha : a.toNat / 4 * 4 + a.toNat % 4 * 16 / 16 = a.toNat := by omega
    simp only [bytes, ha, UInt8.ofNat_toNat]
  | case3 a b =>
    have := b.toNat_lt
    have ha : a.toNat / 4 * 4 + (a.toNat % 4 * 16 + b.toNat / 16) / 16 = a.toNat := by omega
    have hb : (a.toNat % 4 * 16 + b.toNat / 16) % 16 * 16 + b.toNat % 16 * 4 / 4 = b.toNat := by
      omega
    simp only [bytes, ha, hb, UInt8.ofNat_toNat]
  | case4 a b c rest ih =>
    have := b.toNat_lt
    have := c.toNat_lt
    have ha : a.toNat / 4 * 4 + (a.toNat % 4 * 16 + b.toNat / 16) / 16 = a.toNat := by omega
    have hb : (a.toNat % 4 * 16 + b.toNat / 16) % 16 * 16 +
        (b.toNat % 16 * 4 + c.toNat / 64) / 4 = b.toNat := by omega
    have hc : (b.toNat % 16 * 4 + c.toNat / 64) % 4 * 64 + c.toNat % 64 = c.toNat := by omega
    simp only [bytes, ha, hb, hc, ih, UInt8.ofNat_toNat]

/-! ### Reading back -/

theorem mapM_value?_map_symbol {ns : List Nat} (h : ∀ n ∈ ns, n < 64) :
    (ns.map symbol).mapM value? = some ns := by
  induction ns with
  | nil => rfl
  | cons n ns ih =>
    rw [List.map_cons, List.mapM_cons, (symbol_spec n (h n (by simp))).1,
      ih fun m hm => h m (by simp [hm])]
    rfl

/-- What every ASCII character satisfies: its value, if it has one, is that of the symbol it is. -/
theorem value?_spec : ∀ k < 128, ∀ n ∈ value? (Char.ofNat k), n < 64 ∧ symbol n = Char.ofNat k := by
  decide

theorem toNat_lt_of_value? {c : Char} {n : Nat} (h : value? c = some n) : c.toNat < 128 := by
  have hbelow (high : Char) (hc : c ≤ high) (hhigh : high.toNat < 128) : c.toNat < 128 :=
    Nat.lt_of_le_of_lt hc hhigh
  unfold value? Char.isUpper Char.isLower Char.isDigit at h
  simp only [Bool.and_eq_true, decide_eq_true_eq] at h
  split at h
  · next hc => exact hbelow 'Z' hc.2 (by decide)
  · split at h
    · next hc => exact hbelow 'z' hc.2 (by decide)
    · split at h
      · next hc => exact hbelow '9' hc.2 (by decide)
      · split at h
        · next hc => exact hc ▸ by decide
        · split at h
          · next hc => exact hc ▸ by decide
          · cases h

/-- Only symbols have values. -/
theorem eq_symbol_of_value? {c : Char} {n : Nat} (h : value? c = some n) :
    n < 64 ∧ symbol n = c := by
  have hspec := value?_spec c.toNat (toNat_lt_of_value? h) n
  rw [Char.ofNat_toNat] at hspec
  exact hspec h

theorem map_symbol_of_mapM {s : List Char} {ns : List Nat} (h : s.mapM value? = some ns) :
    (∀ n ∈ ns, n < 64) ∧ ns.map symbol = s := by
  induction s generalizing ns with
  | nil =>
    cases h
    exact ⟨List.forall_mem_nil _, rfl⟩
  | cons c s ih =>
    rw [List.mapM_cons] at h
    obtain ⟨n, hn, h⟩ := Option.bind_eq_some_iff.mp h
    obtain ⟨rest, hrest, h⟩ := Option.bind_eq_some_iff.mp h
    cases h
    obtain ⟨hlt, hmap⟩ := ih hrest
    obtain ⟨hn64, hsymbol⟩ := eq_symbol_of_value? hn
    exact ⟨List.forall_mem_cons.mpr ⟨hn64, hlt⟩, by rw [List.map_cons, hsymbol, hmap]⟩

/-- The text is the symbols of six-bit values with the padding that their number asks for, and the
values are those of the bytes. Bits after the last byte do not count. -/
def Denotes (s : List Char) (bs : List UInt8) : Prop :=
  ∃ ns pads, (∀ n ∈ ns, n < 64) ∧ paddingFits ns.length pads ∧
    s = ns.map symbol ++ List.replicate pads '=' ∧ bytes ns = bs

/-- Symbols and padding are told apart. -/
theorem splitPadding {ns : List Nat} (h : ∀ n ∈ ns, n < 64) (pads : Nat) :
    (ns.map symbol ++ List.replicate pads '=').takeWhile (· != '=') = ns.map symbol ∧
      (ns.map symbol ++ List.replicate pads '=').dropWhile (· != '=') =
        List.replicate pads '=' := by
  have hsymbols : ∀ c ∈ ns.map symbol, (c != '=') = true := by
    intro c hc
    obtain ⟨n, hn, rfl⟩ := List.mem_map.mp hc
    simpa using (symbol_spec n (h n hn)).2.1
  rw [List.takeWhile_append_of_pos hsymbols, List.dropWhile_append_of_pos hsymbols]
  cases pads <;> simp [List.replicate_succ]

/-- The texts that are read are those that denote bytes, and they are read as these. -/
theorem decode?_eq_some_iff {s : List Char} {bs : List UInt8} :
    decode? s = some bs ↔ Denotes s bs := by
  constructor
  · intro h
    simp only [decode?] at h
    split at h
    · next hpadding =>
      rw [Bool.and_eq_true, List.all_eq_true] at hpadding
      obtain ⟨ns, hvalues, hbytes⟩ := Option.map_eq_some_iff.mp h
      obtain ⟨hlt, hsymbols⟩ := map_symbol_of_mapM hvalues
      refine ⟨ns, (s.dropWhile (· != '=')).length, hlt, ?_, ?_, hbytes⟩
      · rw [← List.length_map (f := symbol), hsymbols]
        exact hpadding.2
      · rw [hsymbols, ← List.eq_replicate_of_mem fun c hc => by simpa using hpadding.1 c hc,
          List.takeWhile_append_dropWhile]
    · cases h
  · rintro ⟨ns, pads, hlt, hfits, rfl, rfl⟩
    obtain ⟨htake, hdrop⟩ := splitPadding hlt pads
    simp only [decode?, htake, hdrop, List.length_map, List.length_replicate, hfits]
    rw [if_pos (by simp), mapM_value?_map_symbol hlt, Option.map_some]

/-- Reading gives back the bytes that were written. -/
theorem decode?_encode (bs : List UInt8) : decode? (encode bs) = some bs :=
  decode?_eq_some_iff.mpr
    ⟨sextets bs, padding bs, sextets_lt bs, paddingFits_sextets bs, encode_eq bs, bytes_sextets bs⟩

/-- The characters of a base64 text are symbols or padding. -/
theorem mem_encode {bs : List UInt8} {c : Char} (h : c ∈ encode bs) :
    (∃ n < 64, c = symbol n) ∨ c = '=' := by
  rw [encode_eq, List.mem_append, List.mem_map] at h
  rcases h with ⟨n, hn, rfl⟩ | h
  · exact Or.inl ⟨n, sextets_lt bs n hn, rfl⟩
  · exact Or.inr (List.eq_of_mem_replicate h)

theorem isBlank_of_mem_encode {bs : List UInt8} {c : Char} (h : c ∈ encode bs) :
    isBlank c = false := by
  rcases mem_encode h with ⟨n, hn, rfl⟩ | rfl
  · exact (symbol_spec n hn).2.2.2
  · decide

theorem ne_of_mem_encode {bs : List UInt8} {c : Char} (h : c ∈ encode bs) : c ≠ '<' := by
  rcases mem_encode h with ⟨n, hn, rfl⟩ | rfl
  · exact (symbol_spec n hn).2.2.1
  · decide

theorem encode_eq_nil_iff {bs : List UInt8} : encode bs = [] ↔ bs = [] := by
  fun_cases encode bs <;> simp

end MacroScribe.Text.Base64
