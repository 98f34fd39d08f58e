import MacroScribe.Decimal.Binary
/-!
# MacroScribe.Decimal.Text

Numbers as descriptions hold them, and their decimal texts. Integers have as few digits as possible,
and a minus sign before negative ones. Floats have the shortest digits that read back, laid out by a
`Style`. A *number* is either of them, and the two kinds are kept apart. It has two texts: the
*plain* one tells the kinds apart (`2` and `2.0`); the *compact* one, which property lists use,
drops the fraction of a float that has none.

The shortest decimal is found by the rounding interval. A positive number `m · 2 ^ q` is read back
from every real of this interval, which reaches half way to its neighbours; both ends belong to it
when `m` is even. On each decimal grid `10 ^ k` only the two neighbours of the number can lie in the
interval, so the coarsest grid with a hit gives the fewest digits. Of two hits on that grid the
nearer one is taken, and the even one of two equally near.

An integer of any size has a text here. A host may refuse to convert integers of very many digits;
where the program itself answers for that, as in the report of a key code, the limit is part of the
definition (`Decimal.maxDigits`), and elsewhere it is left out: it is a setting of the host, not a
rule of the program, and a statement about texts is one about the numbers that the host converts.
-/

namespace MacroScribe.Decimal

/-! ### Integers -/

/-- The decimal digits of a natural number. -/
def natText (n : Nat) : List Char :=
  Nat.toDigits 10 n

/-- An integer in decimal notation. -/
def intText : Int → List Char
  | .ofNat n => natText n
  | .negSucc n => '-' :: natText (n + 1)

/-- At least `width` digits, with zeros in front where the number has fewer. -/
def paddedText (width n : Nat) : List Char :=
  let digits := natText n
  List.replicate (width - digits.length) '0' ++ digits

end MacroScribe.Decimal

namespace MacroScribe.Decimal.Shortest

/-! ### Shortest digits -/

/-- `a · 2 ^ x` as a multiple of the unit `2 ^ -x⁻ · 10 ^ -k⁻`. -/
def binaryUnits (a : Nat) (x k : Int) : Nat :=
  a * Nat.pow 2 x.toNat * Nat.pow 10 (-k).toNat

/-- `c · 10 ^ k` as a multiple of the same unit. -/
def decimalUnits (c : Nat) (x k : Int) : Nat :=
  c * Nat.pow 10 k.toNat * Nat.pow 2 (-x).toNat

/-- The quarters of `2 ^ q` from `m · 2 ^ q` down to the lower end of its rounding interval: two,
but only one below a power of two, where the neighbours lie closer. -/
def lowerGap (m : Nat) (q : Int) : Nat :=
  if m = Binary.fractions ∧ q ≠ -1074 then 1 else 2

/-- `c · 10 ^ k` lies in the rounding interval of `m · 2 ^ q`. -/
def inside (m : Nat) (q : Int) (c : Nat) (k : Int) : Bool :=
  let point := decimalUnits c (q - 2) k
  let low := binaryUnits (4 * m - lowerGap m q) (q - 2) k
  let high := binaryUnits (4 * m + 2) (q - 2) k
  if m % 2 = 0 then low ≤ point && point ≤ high else low < point && point < high

/-- The multiple of `10 ^ k` just below `m · 2 ^ q`, or equal to it. -/
def below (m : Nat) (q k : Int) : Nat :=
  binaryUnits m q k / decimalUnits 1 q k

/-- The nearer of `c · 10 ^ k` and `(c + 1) · 10 ^ k`, the even one of two equally near. -/
def nearer (m : Nat) (q : Int) (c : Nat) (k : Int) : Nat :=
  let twice := 2 * binaryUnits m q k
  let middle := decimalUnits (2 * c + 1) q k
  if twice < middle then c
  else if middle < twice then c + 1
  else if c % 2 = 0 then c else c + 1

/-- Tries the grid `10 ^ k` and then finer ones. -/
def search (m : Nat) (q : Int) : Nat → Int → Nat × Int
  | 0, k => (below m q k, k)
  | fuel + 1, k =>
    let c := below m q k
    match inside m q c k, inside m q (c + 1) k with
    | true, true => (nearer m q c k, k)
    | true, false => (c, k)
    | false, true => (c + 1, k)
    | false, false => search m q fuel (k - 1)

/-- The shortest decimal of `m · 2 ^ q` for positive `m`, as a multiple of a power of ten. The
search starts at a power of ten above the number, and no number needs a grid finer than seventeen
digits. -/
def digits (m : Nat) (q : Int) : Nat × Int :=
  search m q 30 (((Nat.log2 m : Int) + q + 1) * 30103 / 100000 + 2)

end MacroScribe.Decimal.Shortest

namespace MacroScribe.Decimal

/-! ### Floats -/

/-- How the digits of a float are laid out. A number `0.d₁d₂… · 10 ^ point` is written positionally
when `point` lies between the two bounds, otherwise with an exponent of at least `exponentDigits`
digits and a sign. -/
structure Style where
  leastPoint : Int
  greatestPoint : Int
  exponentDigits : Nat

/-- Positional notation from one ten-thousandth up to sixteen digits before the point; whole numbers
keep a zero after the point. -/
def plainStyle : Style := ⟨-3, 16, 2⟩

/-- Digits with the decimal point before the digit number `point`. -/
def positional (digits : List Char) (point : Int) : List Char :=
  if point ≤ 0 then '0' :: '.' :: List.replicate (-point).toNat '0' ++ digits
  else if digits.length ≤ point.toNat then
    digits ++ List.replicate (point.toNat - digits.length) '0' ++ ['.', '0']
  else digits.take point.toNat ++ '.' :: digits.drop point.toNat

/-- One digit before the point, the others after it, and the power of ten. -/
def scientific (style : Style) (digits : List Char) (point : Int) : List Char :=
  let fraction := digits.drop 1
  let power := point - 1
  digits.take 1 ++ (if fraction.isEmpty then [] else '.' :: fraction) ++
    'e' :: (if power < 0 then '-' else '+') :: paddedText style.exponentDigits power.natAbs

/-- The digits of a positive number in the given style. -/
def Style.layout (style : Style) (digits : List Char) (point : Int) : List Char :=
  if style.leastPoint ≤ point ∧ point ≤ style.greatestPoint then positional digits point
  else scientific style digits point

/-- The shortest text that reads back as the float. -/
def floatText (x : Float) : List Char :=
  match Binary.ofFloat x with
  | .nan => ['n', 'a', 'n']
  | .infinite negative => (if negative then ['-'] else []) ++ ['i', 'n', 'f']
  | .finite negative m e =>
    (if negative then ['-'] else []) ++
      if m = 0 then ['0', '.', '0']
      else
        let (c, k) := Shortest.digits m e
        let digits := natText c
        plainStyle.layout digits (digits.length + k)

end MacroScribe.Decimal

namespace MacroScribe

/-! ### Numbers -/

/-- An integer or a float. -/
inductive Number where
  | int (n : Int)
  | float (x : Float)

namespace Number

open Decimal

/-- The text that shows which kind of number it is. -/
def plain : Number → List Char
  | int n => intText n
  | float x => floatText x

/-- The text that shows the value alone: a float without a fractional part is written as the integer
it equals. -/
def compact : Number → List Char
  | int n => intText n
  | float x =>
    let b := Binary.ofFloat x
    match b.isIntegral, b.truncate? with
    | true, some n => intText n
    | _, _ => floatText x

/-- Two numbers have the same value. -/
def same : Number → Number → Bool
  | int a, int b => a == b
  | int a, float y => (Binary.ofFloat y).equalsInt a
  | float x, int b => (Binary.ofFloat x).equalsInt b
  | float x, float y => x == y

end Number
end MacroScribe
