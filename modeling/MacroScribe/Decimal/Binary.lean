/-!
# MacroScribe.Decimal.Binary

The exact value of a double-precision number, read off its bits.
-/

namespace MacroScribe.Decimal

/-- What a double-precision number stands for. -/
inductive Binary where
  /-- `mantissa · 2 ^ exponent`, with the sign kept also for zero. -/
  | finite (negative : Bool) (mantissa : Nat) (exponent : Int)
  | infinite (negative : Bool)
  | nan
  deriving Repr, DecidableEq

namespace Binary

/-- The number of fractions, which 52 bits hold. -/
def fractions : Nat := 0x10000000000000

/-- The number of exponents, which eleven bits hold. -/
def exponents : Nat := 0x800

/-- The value of 64 bits: a sign, eleven bits of exponent and 52 of fraction. -/
def ofBits (bits : Nat) : Binary :=
  let negative := bits / fractions / exponents % 2 == 1
  let exponent : Nat := bits / fractions % exponents
  let fraction : Nat := bits % fractions
  if exponent = 2047 then
    if fraction = 0 then infinite negative else nan
  else if exponent = 0 then finite negative fraction (-1074)
  else finite negative (fractions + fraction) ((exponent : Int) - 1075)

/-- The value of a float. -/
def ofFloat (x : Float) : Binary :=
  ofBits x.toBits.toNat

/-- The integer part and the numerator and denominator of what is left over, for
`mantissa · 2 ^ exponent`. -/
def split (mantissa : Nat) (exponent : Int) : Nat × Nat × Nat :=
  match exponent with
  | .ofNat e => (mantissa * Nat.pow 2 e, 0, 1)
  | .negSucc e =>
    let unit := Nat.pow 2 (e + 1)
    (mantissa / unit, mantissa % unit, unit)

/-- The number is finite and has no fractional part. -/
def isIntegral : Binary → Bool
  | finite _ m e => (split m e).2.1 == 0
  | _ => false

/-- The integer next to a finite number in the direction of zero. -/
def truncate? : Binary → Option Int
  | finite negative m e =>
    let whole : Int := (split m e).1
    some (if negative then -whole else whole)
  | _ => none

/-- The greatest integer that a finite number reaches. -/
def floor? : Binary → Option Int
  | finite negative m e =>
    let (whole, rest, _) := split m e
    some (if negative then (if rest = 0 then -whole else -whole - 1) else whole)
  | _ => none

/-- A finite number is equal to the integer. -/
def equalsInt (b : Binary) (n : Int) : Bool :=
  b.isIntegral && b.truncate? == some n

end Binary
end MacroScribe.Decimal
