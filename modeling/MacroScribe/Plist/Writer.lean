import MacroScribe.Plist.Basic
import MacroScribe.Plist.Markup
import MacroScribe.Text.Encoding
/-!
# MacroScribe.Plist.Writer

The written form of a property list: one line for each tag or leaf, indented by its depth. A text
with line feeds remains one line of the result, so that nothing is inserted into it. Bytes are
written as base64, 76 symbols to a line. Integers of any size are written in decimal
(`Decimal.intText`); a host may refuse to convert very long ones, and then has no result at all.
-/

namespace MacroScribe.Plist

/-- The text cut into pieces of `width` characters; the last one may be shorter. -/
def chunks (width : Nat) (s : List Char) : List (List Char) :=
  if s = [] ∨ width = 0 then [] else s.take width :: chunks width (s.drop width)
termination_by s.length
decreasing_by
  rename_i h
  simp only [not_or] at h
  have := List.length_pos_iff.2 h.1
  simp only [List.length_drop]
  omega

/-- The lines of a base64 text; there is always one. -/
def wrapLines (width : Nat) (s : List Char) : List Line :=
  if s.isEmpty then [[]] else chunks width s

/-- The symbols on a line of base64. -/
def dataColumns : Nat := 76

/-- A text element. -/
def textElement (s : List Char) (compact : Bool) : Line :=
  if s.isEmpty ∧ compact then emptyTag "string" else element "string" (escape s)

/-- The lines of a byte string. -/
def dataLines (depth : Nat) (bytes : List UInt8) : List Line :=
  (openTag "data" :: wrapLines dataColumns (Text.Base64.encode bytes) ++ [closeTag "data"]).map
    (indent depth ++ ·)

mutual

/-- The lines of a property list at a depth. -/
def lines (depth : Nat) : Plist → Outcome (List Line)
  | string s compact => .ok [indent depth ++ textElement s.toList compact]
  | integer n => .ok [indent depth ++ element "integer" (Decimal.intText n)]
  | real x => .ok [indent depth ++ element "real" x.compact]
  | bool b => .ok [indent depth ++ emptyTag (if b then "true" else "false")]
  | data bytes => .ok (dataLines depth bytes)
  | array items => do
    let body ← itemLines (depth + 1) items
    return if body.isEmpty then [indent depth ++ emptyTag "array"]
      else (indent depth ++ openTag "array") :: body ++ [indent depth ++ closeTag "array"]
  | dict entries => do
    let body ← entryLines (depth + 1) entries
    return if body.isEmpty then [indent depth ++ emptyTag "dict"]
      else (indent depth ++ openTag "dict") :: body ++ [indent depth ++ closeTag "dict"]
  | fragment xml => .ok (fragmentLines depth xml.toList)
  | broken cause => .error cause

/-- The lines of the items of an array. -/
def itemLines (depth : Nat) : List Plist → Outcome (List Line)
  | [] => .ok []
  | item :: rest => do
    let first ← lines depth item
    let others ← itemLines depth rest
    return first ++ others

/-- The lines of the entries of a dictionary: the key and then the value. -/
def entryLines (depth : Nat) : List (String × Plist) → Outcome (List Line)
  | [] => .ok []
  | (key, value) :: rest => do
    let first ← lines depth value
    let others ← entryLines depth rest
    return (indent depth ++ element "key" (escape key.toList)) :: first ++ others

end

/-- The written form of a property list at a depth. -/
def write (depth : Nat) (value : Plist) : Outcome String := do
  let ls ← value.lines depth
  return String.ofList (Text.unlines ls)

end MacroScribe.Plist
