import MacroScribe.Text.Class
/-!
# MacroScribe.Decimal.Reading

Numerals that people write: with blanks around them, a sign, digits of any script, and single
underscores between digits.
-/

namespace MacroScribe.Decimal

open Text

/-- White space that may surround a numeral: all but the information separators. -/
def isNumeralBlank (c : Char) : Bool :=
  isBlank c && !(0x1c ≤ c.toNat && c.toNat ≤ 0x1f)

/-- What a run of digits holds: its value, how many digits it has, and what follows it. -/
structure Digits where
  value : Nat
  count : Nat
  rest : List Char

/-- Reads digits on, after `count` digits worth `value`. An underscore is passed over when it stands
between two digits; `none` when it does not. -/
def readDigits (value count : Nat) : List Char → Option Digits
  | [] => some ⟨value, count, []⟩
  | [c] =>
    match decimalValue c with
    | some d => some ⟨value * 10 + d, count + 1, []⟩
    | none => if c = '_' then none else some ⟨value, count, [c]⟩
  | c :: next :: rest =>
    match decimalValue c with
    | some d => readDigits (value * 10 + d) (count + 1) (next :: rest)
    | none =>
      if c = '_' then
        if count ≠ 0 ∧ isDecimal next then readDigits value count (next :: rest) else none
      else some ⟨value, count, c :: next :: rest⟩

/-- A leading sign: whether it is a minus, and what follows. -/
def readSign : List Char → Bool × List Char
  | '-' :: rest => (true, rest)
  | '+' :: rest => (false, rest)
  | s => (false, s)

/-- Why a text is not an integer. -/
inductive IntegerFault where
  /-- It is not written as one. -/
  | malformed
  /-- It has more digits than are converted. -/
  | tooLong (digits : Nat)

/-- The most digits that a numeral may have. -/
def maxDigits : Nat := 4300

/-- The integer that a text denotes. -/
def readInt (s : List Char) : Except IntegerFault Int :=
  let (negative, body) := readSign (dropEnds isNumeralBlank s)
  match readDigits 0 0 body with
  | none => .error .malformed
  | some ⟨value, count, rest⟩ =>
    if count = 0 then .error .malformed
    else if maxDigits < count then .error (.tooLong count)
    else if rest.isEmpty then .ok (if negative then -value else value)
    else .error .malformed

/-- The float nearest to `digits · 10 ^ power`; far beyond the range it is zero or infinite. -/
def scaled (negative : Bool) (digits : Nat) (power : Int) : Float :=
  let size := ((Nat.toDigits 10 digits).length : Int) + power
  let x : Float :=
    if digits = 0 ∨ size < -400 then 0.0
    else if 400 < size then 1.0 / 0.0
    else Float.ofScientific digits (power < 0) power.natAbs
  if negative then -x else x

/-- A power of ten as far as it matters: one that is greater makes any numeral of less than
`10 ^ 20` digits zero or infinite just the same. -/
def boundedPower (negative : Bool) (size : Nat) : Int :=
  let size := min size (Nat.pow 10 20)
  if negative then -size else size

/-- The power of ten after a mantissa: nothing, or `e`, a sign and digits. -/
def readPower : List Char → Option Int
  | [] => some 0
  | c :: rest =>
    if c = 'e' ∨ c = 'E' then
      let (negative, body) := readSign rest
      match readDigits 0 0 body with
      | some ⟨value, _ + 1, []⟩ => some (boundedPower negative value)
      | _ => none
    else none

/-- The named floats. -/
def namedFloat? (negative : Bool) (s : List Char) : Option Float :=
  let word := String.ofList (s.map Char.toLower)
  let infinity : Float := 1.0 / 0.0
  if word = "inf" ∨ word = "infinity" then some (if negative then -infinity else infinity)
  else if word = "nan" then some (0.0 / 0.0)
  else none

/-- The float that a text denotes. -/
def readFloat? (s : List Char) : Option Float :=
  let (negative, body) := readSign (dropEnds isNumeralBlank s)
  match namedFloat? negative body with
  | some x => some x
  | none => do
    let whole ← readDigits 0 0 body
    match whole.rest with
    | '.' :: rest =>
      -- An underscore may not follow the point, so the fraction counts its digits anew.
      let fraction ← readDigits 0 0 rest
      guard (whole.count + fraction.count ≠ 0)
      let power ← readPower fraction.rest
      return scaled negative (whole.value * Nat.pow 10 fraction.count + fraction.value)
        (power - fraction.count)
    | rest =>
      guard (whole.count ≠ 0)
      let power ← readPower rest
      return scaled negative whole.value power

end MacroScribe.Decimal
