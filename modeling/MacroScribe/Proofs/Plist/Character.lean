import MacroScribe.Plist.Markup
import MacroScribe.Proofs.Plist.Indentation

/-!
# MacroScribe.Proofs.Plist.Character

Which characters documents have. XML 1.0 allows most characters, but hardly any control character;
of those that it allows, a carriage return that stands for itself is read as a line feed. Escaping
leaves all of them as they are. So the written form of a property list is *readable*, with no
character but those that come back as they were, exactly if its texts and keys are
(`readable_lines`): what the writer puts around them is.
-/

namespace MacroScribe.Plist

open Text

/-! ### Characters -/

/-- A character that documents may have, which XML 1.0 calls `Char`. -/
def isXmlChar (c : Char) : Bool :=
  c == '\t' || c == '\n' || c == '\r' || (0x20 ≤ c.toNat && c.toNat ≤ 0xD7FF) ||
    (0xE000 ≤ c.toNat && c.toNat ≤ 0xFFFD) || (0x10000 ≤ c.toNat && c.toNat ≤ 0x10FFFF)

/-- A character that is read from a document as it stands there. -/
def isKept (c : Char) : Bool :=
  isXmlChar c && c != '\r'

/-- Each character of the text is read as it stands there. -/
def Readable (s : List Char) : Prop :=
  ∀ c ∈ s, isKept c

instance : DecidablePred Readable := fun s =>
  decidable_of_iff (s.all isKept) List.all_eq_true

theorem readable_iff {s : List Char} : Readable s ↔ (∀ c ∈ s, isXmlChar c) ∧ '\r' ∉ s := by
  simp only [Readable, isKept, Bool.and_eq_true, bne_iff_ne]
  constructor
  · intro h
    exact ⟨fun c hc => (h c hc).1, fun hr => (h '\r' hr).2 rfl⟩
  · rintro ⟨hchar, hr⟩ c hc
    refine ⟨hchar c hc, ?_⟩
    rintro rfl
    exact hr hc

@[simp] theorem readable_nil : Readable [] :=
  List.forall_mem_nil _

@[simp] theorem readable_cons {c : Char} {s : List Char} :
    Readable (c :: s) ↔ isKept c ∧ Readable s :=
  List.forall_mem_cons

@[simp] theorem readable_append {s t : List Char} :
    Readable (s ++ t) ↔ Readable s ∧ Readable t :=
  List.forall_mem_append

/-- Escaping changes nothing about it. -/
@[simp] theorem readable_escape {s : List Char} : Readable (escape s) ↔ Readable s := by
  induction s with
  | nil => rfl
  | cons c s ih =>
    rw [escape_cons, readable_append, ih, readable_cons]
    refine and_congr_left fun _ => ?_
    rcases escapeChar_cases c with ⟨-, -, -, e⟩ | ⟨rfl, e⟩ | ⟨rfl, e⟩ | ⟨rfl, e⟩ <;> rw [e]
    · simp
    · decide
    · decide
    · decide

theorem isKept_of_isDigit {c : Char} (h : c.isDigit) : isKept c := by
  simp only [Char.isDigit, Bool.and_eq_true, decide_eq_true_eq] at h
  have hlow : 48 ≤ c.toNat := h.1
  have hhigh : c.toNat ≤ 57 := h.2
  have hrange : 0x20 ≤ c.toNat ∧ c.toNat ≤ 0xD7FF := by omega
  have hreturn : c ≠ '\r' := by
    rintro rfl
    exact absurd hlow (by decide)
  simp [isKept, isXmlChar, hrange, hreturn]

theorem readable_of_isNumeralChar {s : List Char} (h : s.all Decimal.isNumeralChar) :
    Readable s := by
  intro c hc
  have hnumeral := List.all_eq_true.mp h c hc
  rw [Decimal.isNumeralChar, Bool.or_eq_true] at hnumeral
  rcases hnumeral with hdigit | hother
  · exact isKept_of_isDigit hdigit
  · have hall : Readable ['-', '+', '.', 'e', 'n', 'a', 'i', 'f'] := by decide
    exact hall c (by simpa using hother)

theorem readable_encode (bytes : List UInt8) : Readable (Base64.encode bytes) := by
  have hsymbol : ∀ n < 64, isKept (Base64.symbol n) := by decide
  intro c hc
  rcases Base64.mem_encode hc with ⟨n, hn, rfl⟩ | rfl
  · exact hsymbol n hn
  · decide

theorem readable_indent (depth : Nat) : Readable (indent depth) := by
  intro c hc
  rw [eq_tab_of_mem_indent hc]
  decide

/-! ### Lines -/

/-- Each line is readable. -/
def ReadableLines (ls : List Line) : Prop :=
  ∀ l ∈ ls, Readable l

@[simp] theorem readableLines_nil : ReadableLines [] :=
  List.forall_mem_nil _

@[simp] theorem readableLines_cons {l : Line} {ls : List Line} :
    ReadableLines (l :: ls) ↔ Readable l ∧ ReadableLines ls :=
  List.forall_mem_cons

@[simp] theorem readableLines_append {ls ls' : List Line} :
    ReadableLines (ls ++ ls') ↔ ReadableLines ls ∧ ReadableLines ls' :=
  List.forall_mem_append

/-- Line feeds between lines are read as they are. -/
theorem readable_unlines {ls : List Line} : Readable (unlines ls) ↔ ReadableLines ls := by
  induction ls with
  | nil => simp [unlines, joinWith]
  | cons l ls ih =>
    by_cases hls : ls = []
    · subst hls
      simp [unlines]
    · have hfeed : isKept '\n' := by decide
      rw [unlines, joinWith_cons '\n' l hls, readable_append, readable_cons,
        and_iff_right hfeed, readableLines_cons, ← ih]
      rfl

theorem readableLines_flatMap_lines {ls : List Line} :
    ReadableLines (ls.flatMap Text.lines) ↔ ReadableLines ls := by
  rw [← readable_unlines, unlines_flatMap_lines, readable_unlines]

/-- What the writer puts around the lines inside a container can be read. -/
theorem readable_enclose {depth : Nat} {name : String} {body : List Line}
    (hname : Readable name.toList) :
    ReadableLines (enclose depth name body) ↔ ReadableLines body := by
  have hindent := readable_indent depth
  have hopen : Readable (openTag name) := by
    simpa [openTag, hname] using (by decide : Readable ['<', '>'])
  have hclose : Readable (closeTag name) := by
    simpa [closeTag, hname] using (by decide : Readable ['<', '/', '>'])
  have hempty : Readable (emptyTag name) := by
    simpa [emptyTag, hname] using (by decide : Readable ['<', '/', '>'])
  cases body with
  | nil => simp [enclose, hindent, hempty]
  | cons l ls => simp [enclose, hindent, hopen, hclose]

theorem readable_element {name : String} {content : List Char} (hname : Readable name.toList) :
    Readable (element name content) ↔ Readable content := by
  have hopen : Readable (openTag name) := by
    simpa [openTag, hname] using (by decide : Readable ['<', '>'])
  have hclose : Readable (closeTag name) := by
    simpa [closeTag, hname] using (by decide : Readable ['<', '/', '>'])
  simp [element, hopen, hclose]

/-! ### Property lists -/

/-- A leaf whose text is readable, if it is a text. -/
def ReadableLeaf : Plist → Prop
  | string s _ => Readable s.toList
  | _ => True

/-- Each text and each key in the property list is readable. -/
def ReadableTexts (v : Plist) : Prop :=
  v.Every ReadableLeaf fun key => Readable key.toList

theorem readable_dataLines (depth : Nat) (bytes : List UInt8) :
    ReadableLines (dataLines depth bytes) := by
  intro l hl
  obtain ⟨t, ht, rfl⟩ := List.mem_map.mp hl
  refine readable_append.mpr ⟨readable_indent depth, ?_⟩
  rw [List.cons_append, List.mem_cons, List.mem_append, List.mem_singleton] at ht
  rcases ht with rfl | ht | rfl
  · decide
  · intro c hc
    exact readable_encode bytes c ((mem_wrapLines ht).2 c hc)
  · decide

theorem readable_textElement (s : List Char) (compact : Bool) :
    Readable (textElement s compact) ↔ Readable s := by
  unfold textElement
  split
  · next hempty =>
    have hs : s = [] := by simpa using hempty.1
    subst hs
    decide +revert
  · rw [readable_element (by decide), readable_escape]

mutual

/-- The written form of a property list is readable exactly if its texts and keys are. -/
theorem readable_lines (d : Nat) :
    ∀ {v : Plist} {ls : List Line}, v.Solid → v.lines d = .ok ls →
      (ReadableLines ls ↔ v.ReadableTexts)
  | string s compact, _, _, h => by
    obtain rfl := Except.ok.inj h
    have hindent := readable_indent d
    simp [hindent, readable_textElement, ReadableTexts, Every, ReadableLeaf]
  | integer n, _, _, h => by
    obtain rfl := Except.ok.inj h
    have hnumeral := readable_of_isNumeralChar (Decimal.all_intText n)
    have hname : Readable "integer".toList := by decide
    have hline := (readable_element hname).mpr hnumeral
    simp [readable_indent d, hline, ReadableTexts, Every, ReadableLeaf]
  | real x, _, _, h => by
    obtain rfl := Except.ok.inj h
    have hnumeral := readable_of_isNumeralChar (Decimal.all_compact x)
    have hname : Readable "real".toList := by decide
    have hline := (readable_element hname).mpr hnumeral
    simp [readable_indent d, hline, ReadableTexts, Every, ReadableLeaf]
  | bool b, _, _, h => by
    obtain rfl := Except.ok.inj h
    have hline : Readable (emptyTag (if b then "true" else "false")) := by
      cases b <;> decide
    simp [readable_indent d, hline, ReadableTexts, Every, ReadableLeaf]
  | data bytes, _, _, h => by
    obtain rfl := Except.ok.inj h
    simp [readable_dataLines, ReadableTexts, Every, ReadableLeaf]
  | array items, _, hv, h => by
    rw [lines_array, Outcome.map_eq_ok] at h
    obtain ⟨body, hbody, rfl⟩ := h
    rw [readable_enclose (by decide), readable_itemLines (d + 1) hv hbody]
    rfl
  | dict entries, _, hv, h => by
    rw [lines_dict, Outcome.map_eq_ok] at h
    obtain ⟨body, hbody, rfl⟩ := h
    rw [readable_enclose (by decide), readable_entryLines (d + 1) hv hbody]
    rfl

theorem readable_itemLines (d : Nat) :
    ∀ {items : List Plist} {ls : List Line}, EveryItem SolidLeaf (fun _ => True) items →
      itemLines d items = .ok ls →
      (ReadableLines ls ↔ EveryItem ReadableLeaf (fun key => Readable key.toList) items)
  | [], _, _, h => by
    obtain rfl := Except.ok.inj h
    simp [EveryItem]
  | v :: rest, _, hv, h => by
    obtain ⟨first, others, hfirst, hothers, rfl⟩ := itemLines_cons_eq_ok.mp h
    rw [readableLines_append, readable_lines d hv.1 hfirst, readable_itemLines d hv.2 hothers]
    rfl

theorem readable_entryLines (d : Nat) :
    ∀ {entries : List (String × Plist)} {ls : List Line},
      EveryEntry SolidLeaf (fun _ => True) entries → entryLines d entries = .ok ls →
      (ReadableLines ls ↔ EveryEntry ReadableLeaf (fun key => Readable key.toList) entries)
  | [], _, _, h => by
    obtain rfl := Except.ok.inj h
    simp [EveryEntry]
  | (key, v) :: rest, _, hv, h => by
    obtain ⟨first, others, hfirst, hothers, rfl⟩ := entryLines_cons_eq_ok.mp h
    have hkey : Readable (keyLine d key) ↔ Readable key.toList := by
      rw [keyLine, readable_append, and_iff_right (readable_indent d),
        readable_element (by decide), readable_escape]
    rw [List.cons_append, readableLines_cons, readableLines_append, hkey,
      readable_lines d hv.1.2 hfirst, readable_entryLines d hv.2 hothers, ← and_assoc]
    rfl

end

theorem readable_itemRows {d : Nat} {items : List Plist} {ls : List Line}
    (hv : ∀ v ∈ items, v.Solid) (h : itemRows d items = .ok ls) :
    ReadableLines ls ↔ ∀ v ∈ items, v.ReadableTexts := by
  obtain ⟨body, hbody, rfl⟩ := exists_itemLines_of_itemRows h
  rw [readableLines_flatMap_lines, readable_itemLines d (everyItem_iff.mpr hv) hbody, everyItem_iff]
  rfl

/-- Of a document the lines inside its envelope matter. -/
theorem readable_wrap {body : String} :
    Readable (wrap body).toList ↔ ReadableLines (fragmentLines 1 body.toList) := by
  have hheader : Readable header.toList := by decide +kernel
  have hfooter : Readable footer.toList := by decide +kernel
  simp only [wrap, String.toList_append, readable_append, hheader, hfooter, true_and, and_true]
  split
  · next hempty =>
    rw [List.isEmpty_iff.mp hempty]
    simp
  · have hfeed : Readable "\n".toList := by decide
    rw [String.toList_append, readable_append, and_iff_left hfeed, String.toList_ofList,
      readable_unlines]

/-- What stands in the lines of a text stands in the document around it. -/
theorem mem_wrap {c : Char} {body : String} (h : c ∈ unlines (fragmentLines 1 body.toList)) :
    c ∈ (wrap body).toList := by
  have hne : (fragmentLines 1 body.toList).isEmpty = false := by
    cases hlines : fragmentLines 1 body.toList with
    | nil =>
      rw [hlines] at h
      exact absurd h List.not_mem_nil
    | cons line lines => rfl
  simp only [wrap, hne, Bool.false_eq_true, if_false, String.toList_append, String.toList_ofList,
    List.mem_append]
  exact .inl (.inr (.inl h))

end MacroScribe.Plist
