import MacroScribe.Json.Basic
import MacroScribe.Text.Quoted
/-!
# MacroScribe.Json.Writer

Writing JSON text on one line, with a blank after each comma and colon and with ASCII characters
only: every other character is escaped, in two steps if it lies beyond the first plane. What stands
in for half a character is escaped like the character that it is.
-/

namespace MacroScribe.Json

variable {ω : Type}

/-- One character inside a JSON text. -/
def writeChar (c : Char) : List Char :=
  if c = '"' ∨ c = '\\' then ['\\', c]
  else if c = '\n' then ['\\', 'n']
  else if c = '\r' then ['\\', 'r']
  else if c = '\t' then ['\\', 't']
  else if c = '\x08' then ['\\', 'b']
  else if c = '\x0c' then ['\\', 'f']
  else if 0x20 ≤ c.toNat ∧ c.toNat < 0x7F then [c]
  else if c.toNat ≤ 0xFFFF then '\\' :: 'u' :: Text.hexDigits 4 c.toNat
  else
    let code := c.toNat - 0x10000
    '\\' :: 'u' :: Text.hexDigits 4 (0xD800 + code / 0x400) ++
      '\\' :: 'u' :: Text.hexDigits 4 (0xDC00 + code % 0x400)

/-- A text between double quotes. -/
def writeText (s : List Char) : List Char :=
  '"' :: s.flatMap writeChar ++ ['"']

/-- A float; the names of infinities and of the undefined value start with a capital. -/
def writeFloat (x : Float) : List Char :=
  match Decimal.Binary.ofFloat x with
  | .nan => "NaN".toList
  | .infinite negative => (if negative then "-Infinity" else "Infinity").toList
  | .finite .. => Decimal.floatText x

mutual

/-- The JSON text of a value. Objects have none and are written as null. -/
def write : Json ω → List Char
  | null => "null".toList
  | bool b => (if b then "true" else "false").toList
  | int n => Decimal.intText n
  | float x => writeFloat x
  | str s => writeText s.toList
  | list items => '[' :: [',', ' '].intercalate (writeItems items) ++ [']']
  | obj fields => '\x7b' :: [',', ' '].intercalate (writeFields fields) ++ ['\x7d']
  | embed _ => "null".toList

/-- The JSON text of each item. -/
def writeItems : List (Json ω) → List (List Char)
  | [] => []
  | v :: rest => write v :: writeItems rest

/-- The JSON text of each field. -/
def writeFields : List (String × Json ω) → List (List Char)
  | [] => []
  | (k, v) :: rest => (writeText k.toList ++ ':' :: ' ' :: write v) :: writeFields rest

end

/-- The JSON text of a value. -/
def writeString (v : Json ω) : String :=
  String.ofList v.write

end MacroScribe.Json
