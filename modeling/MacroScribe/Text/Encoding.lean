/-!
# MacroScribe.Text.Encoding

Texts as bytes and bytes as texts. A text has its UTF-8 bytes, unless it holds half a character
(`StandIns`). Bytes are read as a text strictly, where every byte must belong to a character, or
leniently, where each longest run of bytes that starts a character without finishing it is shown as
U+FFFD. Base64 and hexadecimal digits write bytes and numbers in symbols.
-/

namespace MacroScribe.Text

/-! ### Hexadecimal digits -/

/-- The last `width` hexadecimal digits of a number, in lower case. -/
def hexDigits (width n : Nat) : List Char :=
  (List.range width).reverse.map fun i => Nat.digitChar (n / Nat.pow 16 i % 16)

/-- The value of a hexadecimal digit. -/
def hexValue? (c : Char) : Option Nat :=
  if c.isDigit then some (c.toNat - 48)
  else if 'a' ≤ c && c ≤ 'f' then some (c.toNat - 87)
  else if 'A' ≤ c && c ≤ 'F' then some (c.toNat - 55)
  else none

/-- The number that the first `count` characters denote as hexadecimal digits, and what follows
them. -/
def readHex? (count : Nat) (s : List Char) : Option (Nat × List Char) := do
  guard (count ≤ s.length)
  let digits ← (s.take count).mapM hexValue?
  return (digits.foldl (fun n x => n * 16 + x) 0, s.drop count)

/-- The bytes that pairs of hexadecimal digits stand for. -/
def hexBytes? : List Char → Option (List UInt8)
  | [] => some []
  | a :: b :: rest => do
    let high ← hexValue? a
    let low ← hexValue? b
    return UInt8.ofNat (high * 16 + low) :: (← hexBytes? rest)
  | _ => none

/-! ### UTF-8 -/

/-- The bytes of a text. -/
def utf8 (s : List Char) : List UInt8 :=
  s.flatMap String.utf8EncodeChar

/-- The characters that stand for surrogates, the halves of characters. Texts may hold a surrogate
alone: it is no character and has no bytes, so a text with one is no text of a file. -/
structure StandIns where
  /-- The surrogate that a character stands for, if it stands for one. -/
  surrogate? : Char → Option Nat
  /-- ASCII characters stand for themselves. -/
  ascii : ∀ c, c.toNat < 0x80 → surrogate? c = none

namespace StandIns

/-- Each character stands for itself. -/
def absent : StandIns := ⟨fun _ => none, fun _ _ => rfl⟩

/-- The distance from the surrogates to the last characters for private use. -/
def privateDistance : Nat := 0x102000

/-- The last characters for private use stand for the surrogates, in order. -/
def privateUse : StandIns where
  surrogate? c :=
    if 0xD800 + privateDistance ≤ c.toNat then some (c.toNat - privateDistance) else none
  ascii c h := if_neg (by simp only [privateDistance]; omega)

/-- The character for private use that stands for a surrogate. -/
def ofSurrogate (code : Nat) : Char :=
  Char.ofNat (code + privateDistance)

/-- The text has no surrogates. -/
def isWhole (s : StandIns) (text : List Char) : Bool :=
  text.all fun c => (s.surrogate? c).isNone

/-- The text may be a name or an argument of the system: of the surrogates it has at most those that
stand for bytes which belong to no text. -/
def isSystemText (s : StandIns) (text : List Char) : Bool :=
  text.all fun c => (s.surrogate? c).all fun code => 0xDC80 ≤ code && code ≤ 0xDCFF

/-- The bytes of a text. A text with a surrogate has none. -/
def utf8? (s : StandIns) (text : List Char) : Option (List UInt8) :=
  if s.isWhole text then some (utf8 text) else none

end StandIns

/-- The text of the bytes, if they are the bytes of a text. -/
def ofUtf8? (bytes : List UInt8) : Option (List Char) :=
  (ByteArray.utf8Decode? ⟨bytes.toArray⟩).map Array.toList

/-- The beginning of a character: the bits read so far, the number of bytes still owed, and the
range in which the next one must lie. -/
structure Pending where
  bits : Nat
  owed : Nat
  low : Nat := 0x80
  high : Nat := 0xBF

/-- What a byte begins when no character is under way. -/
def Pending.start (b : Nat) : List Char × Option Pending :=
  if b < 0x80 then ([Char.ofNat b], none)
  else if 0xC2 ≤ b && b ≤ 0xDF then ([], some { bits := b % 0x20, owed := 1 })
  else if b = 0xE0 then ([], some { bits := 0, owed := 2, low := 0xA0 })
  else if b = 0xED then ([], some { bits := 0xD, owed := 2, high := 0x9F })
  else if 0xE1 ≤ b && b ≤ 0xEF then ([], some { bits := b % 0x10, owed := 2 })
  else if b = 0xF0 then ([], some { bits := 0, owed := 3, low := 0x90 })
  else if b = 0xF4 then ([], some { bits := 4, owed := 3, high := 0x8F })
  else if 0xF1 ≤ b && b ≤ 0xF3 then ([], some { bits := b % 8, owed := 3 })
  else (['\uFFFD'], none)

/-- One byte more: the characters that it completes, and the character that is then under way. -/
def Pending.step (state : Option Pending) (b : Nat) : List Char × Option Pending :=
  match state with
  | none => start b
  | some p =>
    if p.low ≤ b && b ≤ p.high then
      let bits := p.bits * 0x40 + b % 0x40
      if p.owed = 1 then ([Char.ofNat bits], none) else ([], some { bits, owed := p.owed - 1 })
    else
      let (text, next) := start b
      ('\uFFFD' :: text, next)

/-- The text of the bytes that follow what is under way. -/
def lenientFrom (state : Option Pending) : List UInt8 → List Char
  | [] => if state.isSome then ['\uFFFD'] else []
  | b :: rest =>
    let (text, next) := Pending.step state b.toNat
    text ++ lenientFrom next rest

/-- The text of any bytes: U+FFFD stands for the ones that belong to no character. -/
def ofUtf8Lenient (bytes : List UInt8) : List Char :=
  lenientFrom none bytes

end MacroScribe.Text

namespace MacroScribe.Text.Base64

/-! ### Base64 -/

/-- The symbol of a six-bit value. -/
def symbol (n : Nat) : Char :=
  if n < 26 then Char.ofNat (65 + n)
  else if n < 52 then Char.ofNat (71 + n)
  else if n < 62 then Char.ofNat (n - 4)
  else if n = 62 then '+' else '/'

/-- The value of a symbol. -/
def value? (c : Char) : Option Nat :=
  if c.isUpper then some (c.toNat - 65)
  else if c.isLower then some (c.toNat - 71)
  else if c.isDigit then some (c.toNat + 4)
  else if c = '+' then some 62
  else if c = '/' then some 63
  else none

/-- The base64 text of bytes. -/
def encode : List UInt8 → List Char
  | [] => []
  | [a] => [symbol (a.toNat / 4), symbol (a.toNat % 4 * 16), '=', '=']
  | [a, b] =>
    [symbol (a.toNat / 4), symbol (a.toNat % 4 * 16 + b.toNat / 16), symbol (b.toNat % 16 * 4), '=']
  | a :: b :: c :: rest =>
    symbol (a.toNat / 4) :: symbol (a.toNat % 4 * 16 + b.toNat / 16) ::
      symbol (b.toNat % 16 * 4 + c.toNat / 64) :: symbol (c.toNat % 64) :: encode rest

/-- The bytes of a list of six-bit values. -/
def bytes : List Nat → List UInt8
  | a :: b :: c :: d :: rest =>
    UInt8.ofNat (a * 4 + b / 16) :: UInt8.ofNat (b % 16 * 16 + c / 4) ::
      UInt8.ofNat (c % 4 * 64 + d) :: bytes rest
  | [a, b, c] => [UInt8.ofNat (a * 4 + b / 16), UInt8.ofNat (b % 16 * 16 + c / 4)]
  | [a, b] => [UInt8.ofNat (a * 4 + b / 16)]
  | _ => []

/-- `pads` equals signs are the right padding after `count` symbols. A last group of two symbols
needs two and one of three needs one; after full groups any number may follow. -/
def paddingFits (count pads : Nat) : Bool :=
  match count % 4 with
  | 0 => count != 0 || pads == 0
  | 2 => pads == 2
  | 3 => pads == 1
  | _ => false

/-- The bytes that a base64 text stands for. -/
def decode? (s : List Char) : Option (List UInt8) :=
  let symbols := s.takeWhile (· != '=')
  let padding := s.dropWhile (· != '=')
  if padding.all (· == '=') && paddingFits symbols.length padding.length then
    (symbols.mapM value?).map bytes
  else none

end MacroScribe.Text.Base64
