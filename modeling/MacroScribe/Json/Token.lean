import MacroScribe.Decimal.Reading
import MacroScribe.Json.Basic
import MacroScribe.Text.Encoding
/-!
# MacroScribe.Json.Token

The tokens of data: escapes in texts and numerals, and why a text cannot be read.

In a text, after a backslash, a letter stands for a character, and `u` and four hexadecimal digits
for half or all of one. A numeral has digits after an optional minus, then perhaps a fraction and a
power of ten. It begins with a zero only if that is its whole part. `Numeral.read?` takes the
longest one that a text begins with; what it denotes is for the reader of the text to say.
-/

namespace MacroScribe.Json

/-! ### Faults -/

/-- Why a text cannot be read. -/
inductive ReadFault where
  /-- It does not follow the rules. -/
  | malformed
  /-- It has an integer of more digits than are converted. -/
  | longNumeral (digits : Nat)
  /-- It asks for a character by a number that no character has. -/
  | noCharacter (code : Nat)
  deriving Repr, DecidableEq

/-- The text does not follow the rules. -/
def malformed {α : Type} : Except ReadFault α :=
  .error .malformed

/-- Goes on with a result if there is one; the text does not follow the rules otherwise. -/
def orMalformed {α : Type} (found : Option α) : Except ReadFault α :=
  found.elim malformed .ok

/-! ### Escapes -/

/-- The character that a one-letter escape stands for. -/
def escaped? (c : Char) : Option Char :=
  if c = '"' ∨ c = '\\' ∨ c = '/' then some c
  else if c = 'b' then some '\x08'
  else if c = 'f' then some '\x0c'
  else if c = 'n' then some '\n'
  else if c = 'r' then some '\r'
  else if c = 't' then some '\t'
  else none

/-- The character of a `\u` escape, which may take two escapes, and what follows. For half of a
character alone there is its stand-in. -/
def readUnicode? (s : List Char) : Option (Char × List Char) := do
  let (high, rest) ← Text.readHex? 4 s
  if 0xD800 ≤ high ∧ high ≤ 0xDBFF then
    match rest with
    | '\\' :: 'u' :: rest' =>
      let (low, rest'') ← Text.readHex? 4 rest'
      if 0xDC00 ≤ low ∧ low ≤ 0xDFFF then
        return (Char.ofNat (0x10000 + (high - 0xD800) * 0x400 + (low - 0xDC00)), rest'')
      else return (Text.StandIns.ofSurrogate high, rest)
    | _ => return (Text.StandIns.ofSurrogate high, rest)
  else if 0xDC00 ≤ high ∧ high ≤ 0xDFFF then return (Text.StandIns.ofSurrogate high, rest)
  else return (Char.ofNat high, rest)

/-! ### Numerals -/

/-- The power of ten in a numeral. -/
structure NumeralPower where
  /-- The sign, if one is written: whether it is a minus. -/
  sign : Option Bool
  digits : List Char
  deriving Repr, DecidableEq

/-- A numeral. -/
structure Numeral where
  negative : Bool
  whole : List Char
  /-- The digits after the point, if there is one. -/
  fraction : Option (List Char)
  power : Option NumeralPower
  deriving Repr, DecidableEq

namespace Numeral

/-- The digits that a text begins with, and what follows them. -/
def digits (s : List Char) : List Char × List Char :=
  (s.takeWhile Char.isDigit, s.dropWhile Char.isDigit)

/-- The value of some digits. -/
def valueOf (s : List Char) : Nat :=
  s.foldl (fun n c => n * 10 + (c.toNat - 48)) 0

/-- The whole part that a text begins with. -/
def readWhole? : List Char → Option (List Char × List Char)
  | '0' :: rest => some (['0'], rest)
  | s => if (digits s).1.isEmpty then none else some (digits s)

/-- The fraction that a text begins with. A point without digits begins none. -/
def readFraction : List Char → Option (List Char) × List Char
  | '.' :: rest => if (digits rest).1.isEmpty then (none, '.' :: rest)
    else (some (digits rest).1, (digits rest).2)
  | s => (none, s)

/-- A sign, if one is written, and what follows. -/
def readSign : List Char → Option Bool × List Char
  | '-' :: rest => (some true, rest)
  | '+' :: rest => (some false, rest)
  | s => (none, s)

/-- The power of ten that a text begins with. A letter without digits begins none. -/
def readPower (s : List Char) : Option NumeralPower × List Char :=
  match s with
  | [] => (none, [])
  | c :: rest =>
    let (sign, body) := readSign rest
    if (c = 'e' ∨ c = 'E') ∧ !(digits body).1.isEmpty then
      (some ⟨sign, (digits body).1⟩, (digits body).2)
    else (none, s)

/-- The numeral that a text begins with, and what follows it. -/
def read? (s : List Char) : Option (Numeral × List Char) := do
  let negative := s.head? == some '-'
  let (whole, rest) ← readWhole? (if negative then s.drop 1 else s)
  let (fraction, rest) := readFraction rest
  let (power, rest) := readPower rest
  return (⟨negative, whole, fraction, power⟩, rest)

/-- A numeral without fraction and power denotes an integer. -/
def isInteger (n : Numeral) : Bool :=
  n.fraction.isNone && n.power.isNone

/-- The integer that a numeral without fraction and power denotes. -/
def integer (n : Numeral) : Int :=
  if n.negative then -(valueOf n.whole) else valueOf n.whole

/-- The float that is nearest to the numeral. -/
def float (n : Numeral) : Float :=
  let fraction := n.fraction.getD []
  let power := (n.power.map fun p =>
    Decimal.boundedPower (p.sign == some true) (valueOf p.digits)).getD 0
  Decimal.scaled n.negative (valueOf (n.whole ++ fraction)) (power - fraction.length)

end Numeral
end MacroScribe.Json
