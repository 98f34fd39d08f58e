import MacroScribe.Json.Token
import MacroScribe.Yaml.Quoted
/-!
# MacroScribe.Yaml.Reader

Reading YAML in flow style, where brackets and braces show the structure and texts stand between
quotes, as in JSON. What differs from JSON is below the structure: the characters that a file may
hold, white space and comments between tokens, texts that go over several lines, and which numerals
denote floats. A file without a value holds null.

The end of each line of a file is a line feed here.

This is one reader, for the part of YAML in which documents can be kept like JSON; what it does not
read it calls malformed. Another one may read files in its place: nothing that is proved rests on
what is read.
-/

namespace MacroScribe.Yaml

open Json (Numeral ReadFault malformed orMalformed)

variable {ω : Type}

/-! ### Words and numbers -/

/-- The character may belong to a word or a number. -/
def isPlain (c : Char) : Bool :=
  c.isAlphanum || c = '+' || c = '-' || c = '.'

/-- A word or a number may end before the character. -/
def endsPlain (c : Char) : Bool :=
  isSpace c || c = ',' || c = ']' || c = '\x7d'

/-- A float has a point, and a sign in its power of ten if it has one. -/
def isFloat (n : Numeral) : Bool :=
  n.fraction.isSome && n.power.all (·.sign.isSome)

/-- The value of a word or a number. A numeral that is neither an integer nor a float is a text, and
so are the names of the floats that are no numbers. -/
def plainValue (token : List Char) : Except ReadFault (Json ω) :=
  let text : Json ω := .str (String.ofList token)
  match String.ofList token with
  | "null" => .ok .null
  | "true" => .ok (.bool true)
  | "false" => .ok (.bool false)
  | "NaN" | "Infinity" | "-Infinity" => .ok text
  | _ =>
    match Numeral.read? token with
    | some (n, []) =>
      if n.isInteger then .ok (.int n.integer)
      else if isFloat n then .ok (.float n.float)
      else .ok text
    | _ => malformed

/-- A word or a number, and what follows it. -/
def readPlain (s : List Char) : Except ReadFault (Json ω × List Char) := do
  let rest := s.dropWhile isPlain
  if rest.head?.all endsPlain then return (← plainValue (s.takeWhile isPlain), rest)
  else malformed

/-! ### Structure -/

/-- The greatest distance from the opening quote of a key to its colon. -/
def keyReach : Nat := 1024

/-- A key after white space, and what follows its colon. The colon stands on the line on which the
key begins, within its reach, with nothing but spaces before it. The faults of a key are found
first. -/
def readKey (fuel : Nat) (s : List Char) : Except ReadFault (String × List Char) := do
  if s.head? = some '"' then let _ ← readText fuel [] (s.drop 1)
  let near := (s.take (keyReach + 1)).takeWhile (!isBreak ·)
  match near with
  | '"' :: rest =>
    let (key, rest) ← readText near.length [] rest
    match rest.dropWhile (· = ' ') with
    | ':' :: rest => return (String.ofList key, s.drop (near.length - rest.length))
    | _ => malformed
  | _ => malformed

mutual

/-- A value, and what follows it. -/
def readValue : Nat → List Char → Except ReadFault (Json ω × List Char)
  | 0, _ => malformed
  | fuel + 1, s =>
    match dropGap false s with
    | '"' :: rest => do
      let (text, rest) ← readText fuel [] rest
      return (.str (String.ofList text), rest)
    | '[' :: rest =>
      match dropGap false rest with
      | ']' :: rest => .ok (.list [], rest)
      | rest => do
        let (items, rest) ← readItems fuel rest
        return (.list items, rest)
    | '\x7b' :: rest =>
      match dropGap false rest with
      | '\x7d' :: rest => .ok (.obj [], rest)
      | rest => do
        let (fields, rest) ← readFields fuel rest
        return (.obj fields, rest)
    | rest => readPlain rest

/-- The items of a list up to its closing bracket. -/
def readItems : Nat → List Char → Except ReadFault (List (Json ω) × List Char)
  | 0, _ => malformed
  | fuel + 1, s => do
    let (item, rest) ← readValue fuel s
    match dropGap false rest with
    | ']' :: rest => return ([item], rest)
    | ',' :: rest =>
      let (items, rest) ← readItems fuel rest
      return (item :: items, rest)
    | _ => malformed

/-- The fields of a mapping up to its closing brace, as often as they are given. -/
def readFields : Nat → List Char → Except ReadFault (List (String × Json ω) × List Char)
  | 0, _ => malformed
  | fuel + 1, s => do
    let (key, rest) ← readKey fuel (dropGap false s)
    let (value, rest) ← readValue fuel rest
    match dropGap false rest with
    | '\x7d' :: rest => return ([(key, value)], rest)
    | ',' :: rest =>
      let (fields, rest) ← readFields fuel rest
      return ((key, value) :: fields, rest)
    | _ => malformed

end

/-! ### Values -/

/-- The number of digits of an integer. -/
def digitCount (n : Int) : Nat :=
  (Nat.toDigits 10 n.natAbs).length

mutual

/-- The integers that have too many digits, in the order in which they are written: how deep they
stand, and how many digits they have. -/
def longIntegers (depth : Nat) : Json ω → List (Nat × Nat)
  | .int n => if Decimal.maxDigits < digitCount n then [(depth, digitCount n)] else []
  | .list items => longIntegersOfItems depth items
  | .obj fields => longIntegersOfFields depth fields
  | _ => []

/-- The same for the items of a list. -/
def longIntegersOfItems (depth : Nat) : List (Json ω) → List (Nat × Nat)
  | [] => []
  | v :: rest => longIntegers (depth + 1) v ++ longIntegersOfItems depth rest

/-- The same for the values of a mapping. -/
def longIntegersOfFields (depth : Nat) : List (String × Json ω) → List (Nat × Nat)
  | [] => []
  | (_, v) :: rest => longIntegers (depth + 1) v ++ longIntegersOfFields depth rest

end

/-- The number of digits of the integer that is met first among those with too many: values are made
level by level, those of one level in their order. -/
def longInteger? (v : Json ω) : Option Nat :=
  ((longIntegers 0 v).foldl (fun best found =>
    match best with
    | none => some found
    | some kept => if found.1 < kept.1 then some found else some kept) none).map (·.2)

mutual

/-- The value with each key of its mappings in its first place and with its last value. -/
def settled : Json ω → Json ω
  | .list items => .list (settledItems items)
  | .obj fields => .obj (Fields.ofList (settledFields fields))
  | v => v

/-- The settled items of a list. -/
def settledItems : List (Json ω) → List (Json ω)
  | [] => []
  | v :: rest => settled v :: settledItems rest

/-- The settled values of a mapping. -/
def settledFields : List (String × Json ω) → List (String × Json ω)
  | [] => []
  | (k, v) :: rest => (k, settled v) :: settledFields rest

end

/-- The value that a file holds. A byte order mark at its beginning does not count. -/
def read (s : List Char) : Except ReadFault (Json ω) := do
  if !s.all isPrintable then malformed
  else
    let s := if s.head? == some '\uFEFF' then s.drop 1 else s
    if (dropGap false s).isEmpty then return .null
    else
      let (value, rest) ← readValue (2 * s.length + 2) s
      if !(dropGap false rest).isEmpty then malformed
      else match longInteger? value with
        | some digits => throw (.longNumeral digits)
        | none => return settled value

end MacroScribe.Yaml
