import MacroScribe.Fault
import MacroScribe.Plist.Writer
import MacroScribe.Text.Encoding
import MacroScribe.Text.Class
import MacroScribe.Text.Split
/-!
# MacroScribe.StyledText.Basic

Styled texts: RTF documents stored as the base64 text of their UTF-8 bytes.

Of the Rich Text Format there is as much as styled texts need: the smallest document that holds a
plain text, and a preview of a document as plain text. The preview is a heuristic. It resolves
hexadecimal escapes, leaves the font and colour tables out, and shows a blank for every control
word.
-/

namespace MacroScribe.Rtf

/-! ### Rich text -/

open Text

/-- A character inside a document. Backslashes and braces are special and get a backslash. -/
def escapeChar (c : Char) : List Char :=
  if c = '\\' ∨ c = '\x7b' ∨ c = '\x7d' then ['\\', c] else [c]

/-- The smallest document that holds a plain text. -/
def ofText (text : List Char) : List Char :=
  "\x7b\\rtf1\\ansi\\deff0 ".toList ++ text.flatMap escapeChar ++ ['\x7d']

/-- An escape `\'hh` stands for the character with that code. -/
def hexEscape : List Char → Option (Nat × List Char)
  | '\\' :: '\'' :: a :: b :: _ => do
    let high ← hexValue? a
    let low ← hexValue? b
    return (4, [Char.ofNat (high * 16 + low)])
  | _ => none

/-- The number of characters up to the brace that closes a table. Groups inside the table do not
hold groups of their own; `inner` says that one is open. -/
def tableLength (inner : Bool) : List Char → Option Nat
  | [] => none
  | c :: rest =>
    if c = '\x7d' then if inner then (tableLength false rest).map (· + 1) else some 1
    else if c = '\x7b' then if inner then none else (tableLength true rest).map (· + 1)
    else (tableLength inner rest).map (· + 1)

/-- A table, such as `{\fonttbl …}`, is left out. -/
def table (name : String) (s : List Char) : Option (Nat × List Char) :=
  let opening := '\x7b' :: '\\' :: name.toList
  if opening.isPrefixOf s then
    (tableLength false (s.drop opening.length)).map fun n => (opening.length + n, [])
  else none

/-- A control word, a backslash and ASCII letters with a number and a blank after it, shows a
blank. -/
def controlWord : List Char → Option (Nat × List Char)
  | '\\' :: rest =>
    let letters := rest.takeWhile Char.isAlpha
    if letters.isEmpty then none
    else
      let rest := rest.drop letters.length
      let digits := rest.takeWhile isDecimal
      let blank := ((rest.drop digits.length).head?.map isBlank).getD false
      some (1 + letters.length + digits.length + (if blank then 1 else 0), [' '])
  | _ => none

/-- The preview of a document. -/
def toText (rtf : List Char) : List Char :=
  let bare := substitute controlWord
    (substitute (table "colortbl") (substitute (table "fonttbl") (substitute hexEscape rtf)))
  collapse (bare.filter fun c => c ≠ '\x7b' && c ≠ '\x7d')

end MacroScribe.Rtf

namespace MacroScribe.StyledText

/-! ### Styled texts -/

/-- The bytes that store a document. -/
def bytes (rtf : String) : List UInt8 :=
  Text.utf8 rtf.toList

/-- The base64 text that stores a document, on lines of equal length or on one line. -/
def encode (rtf : List Char) (wrapped : Bool) : List Char :=
  let symbols := Text.Base64.encode (Text.utf8 rtf)
  if wrapped then Text.unlines (Plist.wrapLines Plist.dataColumns symbols) else symbols

/-- The document that a base64 text stores. White space in it does not count. -/
def decode (payload : List Char) : Outcome (List Char) :=
  let compact := payload.filter (!Text.isBlank ·)
  if compact.any (127 < ·.toNat) then misused .notAscii
  else
    match (Text.Base64.decode? compact).bind Text.ofUtf8? with
    | some rtf => .ok rtf
    | none => .error .undecodable

end MacroScribe.StyledText
