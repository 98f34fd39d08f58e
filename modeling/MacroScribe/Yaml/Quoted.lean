import MacroScribe.Json.Token
import MacroScribe.Text.Class
/-!
# MacroScribe.Yaml.Quoted

The characters of YAML, and texts between double quotes. A text may go over several lines: a single
line end is read as a space, of several the first is left out, and the blanks around them do not
count. Where no line ends, blanks stay as they are.
-/

namespace MacroScribe.Yaml

/-! ### Characters -/

/-- Tab and line feed, the space and the visible characters of ASCII, the next line, and what lies
beyond the other control characters, up to the two code points that are no characters. -/
def printableTable : List Text.CodeRange :=
  [⟨0x9, 0xa⟩, ⟨0x20, 0x7e⟩, ⟨0x85, 0x85⟩, ⟨0xa0, 0xfffd⟩, ⟨0x10000, 0x10ffff⟩]

/-- A file may hold the character as it is. -/
def isPrintable (c : Char) : Bool :=
  Text.inClass printableTable c

/-- The character ends a line. -/
def isBreak (c : Char) : Bool :=
  c = '\n' || c = '\u0085' || c = '\u2028' || c = '\u2029'

/-- The character divides words inside a line. -/
def isBlank (c : Char) : Bool :=
  c = ' ' || c = '\t'

/-- The character divides words. -/
def isSpace (c : Char) : Bool :=
  isBlank c || isBreak c

/-- What is left of the end of a line: the separators of lines and of paragraphs stand for
themselves. -/
def lineEnd (c : Char) : Char :=
  if c = '\u0085' then '\n' else c

/-- A line that begins so, with three hyphens or three points, divides documents. -/
def isMarker : List Char → Bool
  | a :: b :: c :: rest => a == b && b == c && (a == '-' || a == '.') && rest.head?.all isSpace
  | _ => false

/-- What follows spaces, line ends and comments. A comment goes from a number sign to the end of its
line; `comment` says that one has begun. -/
def dropGap (comment : Bool) : List Char → List Char
  | [] => []
  | c :: rest =>
    if isBreak c then dropGap false rest
    else if comment || c = ' ' then dropGap comment rest
    else if c = '#' then dropGap true rest
    else c :: rest

/-! ### Texts between quotes -/

open Json (ReadFault malformed orMalformed)

/-- What the white space between two words of a text stands for. -/
def folded (gap : List Char) : List Char :=
  match (gap.filter isBreak).map lineEnd with
  | [] => gap
  | ['\n'] => [' ']
  | '\n' :: more => more
  | breaks => breaks

/-- White space inside a text, and what follows it. No line of the text may divide documents;
`atStart` says that a line begins where the white space does. -/
def readGap (atStart : Bool) (s : List Char) : Except ReadFault (List Char × List Char) :=
  let gap := s.takeWhile isSpace
  let rest := s.dropWhile isSpace
  if (gap.getLast?.map isBreak).getD atStart && isMarker rest then malformed else .ok (gap, rest)

/-- The character that a one-letter escape stands for. -/
def escaped? (c : Char) : Option Char :=
  match c with
  | '0' => some '\x00'
  | 'a' => some '\x07'
  | '\t' => some '\t'
  | 'v' => some '\x0b'
  | 'e' => some '\x1b'
  | ' ' => some ' '
  | 'N' => some '\u0085'
  | '_' => some '\u00a0'
  | 'L' => some '\u2028'
  | 'P' => some '\u2029'
  | c => Json.escaped? c

/-- The character with a code of eight digits, or the stand-in for half of one. -/
def character (code : Nat) : Except ReadFault Char :=
  if 0x10FFFF < code then .error (.noCharacter code)
  else if 0xD800 ≤ code ∧ code ≤ 0xDFFF then .ok (Text.StandIns.ofSurrogate code)
  else .ok (Char.ofNat code)

/-- What an escape stands for, after its backslash, and what follows it. The end of a line that is
escaped stands for nothing, and so do the blanks at the beginning of the next one. -/
def readEscape : List Char → Except ReadFault (List Char × List Char)
  | [] => malformed
  | 'x' :: rest => do
    let (code, rest) ← orMalformed (Text.readHex? 2 rest)
    return ([Char.ofNat code], rest)
  | 'u' :: rest => do
    let (c, rest) ← orMalformed (Json.readUnicode? rest)
    return ([c], rest)
  | 'U' :: rest => do
    let (code, rest) ← orMalformed (Text.readHex? 8 rest)
    return ([← character code], rest)
  | c :: rest => do
    if isBreak c then
      let (gap, rest) ← readGap true rest
      return ((gap.filter isBreak).map lineEnd, rest)
    else return ([← orMalformed (escaped? c)], rest)

/-- The rest of a text after its opening quote; `done` holds its characters so far, the last one
first. Each unit of fuel reads at least one character. -/
def readText : Nat → List Char → List Char → Except ReadFault (List Char × List Char)
  | 0, _, _ => malformed
  | _, _, [] => malformed
  | fuel + 1, done, c :: rest => do
    if c = '"' then return (done.reverse, rest)
    else if c = '\\' then
      let (text, rest) ← readEscape rest
      readText fuel (text.reverse ++ done) rest
    else if isSpace c then
      let (gap, rest) ← readGap false (c :: rest)
      readText fuel ((folded gap).reverse ++ done) rest
    else readText fuel (c :: done) rest

end MacroScribe.Yaml
