/-!
# MacroScribe.Text.Class

Character classes given as tables of code point ranges, as Unicode 14 lists them: white space,
together with the four information separators of ASCII, and the digits of all scripts. A table lists
its ranges in ascending order; a character is in the class when one range of the table holds its
code point.

A *decimal digit* takes part in positional notation: its ten values follow each other, so a script
is given by its zero. A *digit* may also be a superscript, a circled digit or the like, which stands
for a value but not in a numeral.
-/

namespace MacroScribe.Text

/-- The code points from `first` to `last`, both included. -/
structure CodeRange where
  first : Nat
  last : Nat
  deriving Repr, DecidableEq

/-- A code point lies in the range. -/
def CodeRange.holds (r : CodeRange) (code : Nat) : Bool :=
  r.first ≤ code && code ≤ r.last

/-- A character belongs to the class that the table lists. -/
def inClass (table : List CodeRange) (c : Char) : Bool :=
  table.any (·.holds c.toNat)

/-! ### White space -/

/-- Tab to carriage return, the information separators and the space, and the spaces and line ends
beyond ASCII. -/
def blankTable : List CodeRange :=
  [⟨0x9, 0xd⟩, ⟨0x1c, 0x20⟩, ⟨0x85, 0x85⟩, ⟨0xa0, 0xa0⟩, ⟨0x1680, 0x1680⟩, ⟨0x2000, 0x200a⟩,
   ⟨0x2028, 0x2029⟩, ⟨0x202f, 0x202f⟩, ⟨0x205f, 0x205f⟩, ⟨0x3000, 0x3000⟩]

/-- White space. -/
def isBlank (c : Char) : Bool :=
  inClass blankTable c

/-- The text without the characters at its end that satisfy `p`. -/
def dropTrailing (p : Char → Bool) (s : List Char) : List Char :=
  (s.reverse.dropWhile p).reverse

/-- The text without the characters at either end that satisfy `p`. -/
def dropEnds (p : Char → Bool) (s : List Char) : List Char :=
  dropTrailing p (s.dropWhile p)

/-- The text without the white space at its ends. -/
def strip (s : List Char) : List Char :=
  dropEnds isBlank s

/-- The text holds nothing but white space. -/
def allBlank (s : List Char) : Bool :=
  s.all isBlank

/-- The text with each run of white space shrunk to one space, and without any at its ends. -/
def collapse (s : List Char) : List Char :=
  [' '].intercalate ((s.splitBy fun a b => isBlank a == isBlank b).filter (!allBlank ·))

/-! ### Digits -/

/-- The zeros of the scripts with positional digits; the nine code points after each are its other
digits. -/
def zeros : List Nat :=
  [0x30, 0x660, 0x6f0, 0x7c0, 0x966, 0x9e6, 0xa66, 0xae6, 0xb66, 0xbe6, 0xc66, 0xce6, 0xd66,
   0xde6, 0xe50, 0xed0, 0xf20, 0x1040, 0x1090, 0x17e0, 0x1810, 0x1946, 0x19d0, 0x1a80, 0x1a90,
   0x1b50, 0x1bb0, 0x1c40, 0x1c50, 0xa620, 0xa8d0, 0xa900, 0xa9d0, 0xa9f0, 0xaa50, 0xabf0,
   0xff10, 0x104a0, 0x10d30, 0x11066, 0x110f0, 0x11136, 0x111d0, 0x112f0, 0x11450, 0x114d0,
   0x11650, 0x116c0, 0x11730, 0x118e0, 0x11950, 0x11c50, 0x11d50, 0x11da0, 0x16a60, 0x16ac0,
   0x16b50, 0x1d7ce, 0x1d7d8, 0x1d7e2, 0x1d7ec, 0x1d7f6, 0x1e140, 0x1e2f0, 0x1e950, 0x1fbf0]

/-- The value of a decimal digit. -/
def decimalValue (c : Char) : Option Nat :=
  (zeros.find? fun z => z ≤ c.toNat && c.toNat < z + 10).map (c.toNat - ·)

/-- A digit of positional notation, in any script. -/
def isDecimal (c : Char) : Bool :=
  (decimalValue c).isSome

/-- Digits that stand alone: superscripts, subscripts, circled and bracketed digits. -/
def specialDigitTable : List CodeRange :=
  [⟨0xb2, 0xb3⟩, ⟨0xb9, 0xb9⟩, ⟨0x1369, 0x1371⟩, ⟨0x19da, 0x19da⟩, ⟨0x2070, 0x2070⟩, ⟨0x2074,
   0x2079⟩, ⟨0x2080, 0x2089⟩, ⟨0x2460, 0x2468⟩, ⟨0x2474, 0x247c⟩, ⟨0x2488, 0x2490⟩, ⟨0x24ea,
   0x24ea⟩, ⟨0x24f5, 0x24fd⟩, ⟨0x24ff, 0x24ff⟩, ⟨0x2776, 0x277e⟩, ⟨0x2780, 0x2788⟩, ⟨0x278a,
   0x2792⟩, ⟨0x10a40, 0x10a43⟩, ⟨0x10e60, 0x10e68⟩, ⟨0x11052, 0x1105a⟩, ⟨0x1f100, 0x1f10a⟩]

/-- A decimal digit, or a digit that stands alone. -/
def isDigit (c : Char) : Bool :=
  isDecimal c || inClass specialDigitTable c

end MacroScribe.Text
