import MacroScribe.Proofs.Rtf.Pieces

/-!
# MacroScribe.Proofs.Rtf.Preview

The preview of the document that is made of a plain text. A preview resolves hexadecimal escapes but
not the escapes of backslashes and braces, so the text comes back, up to white space, exactly if it
has none of these characters (`toText_ofText_iff`).
-/

namespace MacroScribe.Rtf

open Text

/-! ### The beginning of the document -/

/-- What the documents begin with that are made of a text. -/
def header : List Char :=
  "\x7b\\rtf1\\ansi\\deff0 ".toList

theorem ofText_eq (text : List Char) :
    ofText text = header ++ (text.flatMap escapeChar ++ ['\x7d']) :=
  List.append_assoc ..

theorem hexEscape_header (s : List Char) :
    substitute hexEscape (header ++ s) = header ++ substitute hexEscape s := by
  rfl

theorem fonttbl_header (s : List Char) :
    substitute (table "fonttbl") (header ++ s) = header ++ substitute (table "fonttbl") s := by
  rfl

theorem colortbl_header (s : List Char) :
    substitute (table "colortbl") (header ++ s) = header ++ substitute (table "colortbl") s := by
  rfl

/-- Each control word of the header is shown as a blank. -/
theorem shown_header (s : List Char) : shown (header ++ s) = [' ', ' ', ' '] ++ shown s := by
  rfl

/-- The document with hexadecimal escapes resolved and without its tables. -/
def bare (s : List Char) : List Char :=
  substitute (table "colortbl") (substitute (table "fonttbl") (substitute hexEscape s))

theorem toText_eq (rtf : List Char) : toText rtf = collapse (shown (bare rtf)) := rfl

/-- What is in front of the first special character of a text stays as it is. -/
theorem bare_header {p : List Char} (hp : Plain p) (s : List Char) :
    bare (header ++ (p ++ s)) = header ++ (p ++ bare s) := by
  rw [bare, hexEscape_header, hexEscape_starts.substitute_append hp.backslash_not_mem,
    fonttbl_header, (table_starts _).substitute_append hp.opening_not_mem, colortbl_header,
    (table_starts _).substitute_append hp.opening_not_mem, bare]

theorem toText_header {p : List Char} (hp : Plain p) (s : List Char) :
    toText (header ++ (p ++ s)) = collapse (p ++ shown (bare s)) := by
  have hblank : allBlank [' ', ' ', ' '] := by decide
  rw [toText_eq, bare_header hp, shown_header, hp.shown_append, collapse_append hblank]

/-- A preview shows no brace. -/
theorem visible_toText_subset (rtf : List Char) :
    '\x7b' ∉ visible (toText rtf) ∧ '\x7d' ∉ visible (toText rtf) := by
  rw [toText_eq, visible_collapse]
  constructor <;>
  · intro hmem
    have hshown := (List.mem_filter.mp (mem_visible.mp hmem).1).2
    simp at hshown

/-! ### Texts that come back -/

theorem toText_ofText_of_plain {text : List Char} (h : Plain text) :
    toText (ofText text) = collapse text := by
  have hbrace : shown (bare ['\x7d']) = [] := by decide
  rw [ofText_eq, h.escape_eq, toText_header h, hbrace, List.append_nil]

/-- A text comes back, with its white space collapsed, if and only if it has no backslash and no
brace. -/
theorem toText_ofText_iff (text : List Char) :
    toText (ofText text) = collapse text ↔ Plain text := by
  refine ⟨fun h => ?_, toText_ofText_of_plain⟩
  have hseen := congrArg visible h
  rw [visible_collapse] at hseen
  have hbraces := visible_toText_subset (ofText text)
  rw [hseen] at hbraces
  have hopening : '\x7b' ∉ text := fun hmem => hbraces.1 (mem_visible.mpr ⟨hmem, by decide⟩)
  have hclosing : '\x7d' ∉ text := fun hmem => hbraces.2 (mem_visible.mpr ⟨hmem, by decide⟩)
  obtain ⟨p, t, rfl, hp, hstop⟩ := exists_plain_append text
  have hdocument : ofText (p ++ t) = header ++ (p ++ (t.flatMap escapeChar ++ ['\x7d'])) := by
    rw [ofText_eq, List.flatMap_append, hp.escape_eq, List.append_assoc]
  rw [hdocument, toText_header hp, visible_collapse, visible_append, visible_append,
    List.append_cancel_left_eq] at hseen
  rw [List.mem_append, not_or] at hopening hclosing
  have hpieces : Pieces t (bare (t.flatMap escapeChar ++ ['\x7d'])) :=
    ((pieces_hexEscape hstop hopening.2 hclosing.2).table "fonttbl").table "colortbl"
  have hnothing := hpieces.shifts.eq_nil_of_eq hseen.symm
  cases t with
  | nil => rwa [List.append_nil]
  | cons c t =>
    rw [visible_cons_of_not_blank (isBlank_of_isSpecial (hstop c rfl))] at hnothing
    cases hnothing

/-- The braces are lost, and the letter after the backslash is taken for a control word. -/
theorem toText_ofText_ne :
    toText (ofText "a\x7bb\x7d\\c".toList) = "a\\b\\\\".toList ∧
      toText (ofText "a\x7bb\x7d\\c".toList) ≠ collapse "a\x7bb\x7d\\c".toList := by
  decide +kernel

end MacroScribe.Rtf
