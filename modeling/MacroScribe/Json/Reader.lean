import MacroScribe.Json.Token
/-!
# MacroScribe.Json.Reader

Reading JSON text. The reader consumes a list of characters and gives back what it did not consume.
Each step takes the longest literal or numeral that stands there, so a fault is found where the text
first departs from the rules. Fuel, two units for each character, bounds the calls, and `read`
hides it.
-/

namespace MacroScribe.Json

variable {ω : Type}

/-- White space between tokens. -/
def isSpace (c : Char) : Bool :=
  c = ' ' || c = '\n' || c = '\t' || c = '\r'

/-- The rest of a text after its opening quote; `done` holds its characters so far, the last one
first. -/
def readText : Nat → List Char → List Char → Option (List Char × List Char)
  | 0, _, _ => none
  | _, _, [] => none
  | fuel + 1, done, c :: rest =>
    if c = '"' then some (done.reverse, rest)
    else if c = '\\' then
      match rest with
      | 'u' :: rest' => do
        let (x, rest'') ← readUnicode? rest'
        readText fuel (x :: done) rest''
      | e :: rest' => do
        let x ← escaped? e
        readText fuel (x :: done) rest'
      | [] => none
    else if c.toNat < 0x20 then none
    else readText fuel (c :: done) rest

/-- The values that are written as words. -/
def literals : List (String × Json ω) :=
  let infinity : Float := 1.0 / 0.0
  [("null", null), ("true", bool true), ("false", bool false), ("NaN", float (0.0 / 0.0)),
   ("Infinity", float infinity), ("-Infinity", float (-infinity))]

/-- The value of a numeral. Only integers have a limit to their digits. -/
def ofNumeral (n : Numeral) : Except ReadFault (Json ω) :=
  if !n.isInteger then .ok (float n.float)
  else if Decimal.maxDigits < n.whole.length then .error (.longNumeral n.whole.length)
  else .ok (int n.integer)

/-- A word or a number, and what follows it. -/
def readToken (s : List Char) : Except ReadFault (Json ω × List Char) :=
  match literals.find? (·.1.toList.isPrefixOf s) with
  | some (word, v) => .ok (v, s.drop word.length)
  | none => do
    let (n, rest) ← orMalformed (Numeral.read? s)
    return (← ofNumeral n, rest)

mutual

/-- A value, and what follows it. -/
def readValue : Nat → List Char → Except ReadFault (Json ω × List Char)
  | 0, _ => malformed
  | fuel + 1, s =>
    match s.dropWhile isSpace with
    | '"' :: rest => do
      let (text, rest) ← orMalformed (readText fuel [] rest)
      return (str (String.ofList text), rest)
    | '[' :: rest =>
      match rest.dropWhile isSpace with
      | ']' :: rest => .ok (list [], rest)
      | rest => do
        let (items, rest) ← readItems fuel rest
        return (list items, rest)
    | '\x7b' :: rest =>
      match rest.dropWhile isSpace with
      | '\x7d' :: rest => .ok (obj [], rest)
      | rest => do
        let (fields, rest) ← readFields fuel [] rest
        return (obj fields, rest)
    | rest => readToken rest

/-- The items of a list up to its closing bracket. -/
def readItems : Nat → List Char → Except ReadFault (List (Json ω) × List Char)
  | 0, _ => malformed
  | fuel + 1, s => do
    let (item, rest) ← readValue fuel s
    match rest.dropWhile isSpace with
    | ']' :: rest => return ([item], rest)
    | ',' :: rest =>
      let (items, rest) ← readItems fuel rest
      return (item :: items, rest)
    | _ => malformed

/-- The fields of a mapping up to its closing brace, after those in `done`. A key given twice keeps
its first place and its last value. -/
def readFields :
    Nat → List (String × Json ω) → List Char → Except ReadFault (List (String × Json ω) × List Char)
  | 0, _, _ => malformed
  | fuel + 1, done, s =>
    match s.dropWhile isSpace with
    | '"' :: rest => do
      let (key, rest) ← orMalformed (readText fuel [] rest)
      match rest.dropWhile isSpace with
      | ':' :: rest =>
        let (value, rest) ← readValue fuel rest
        let done := Fields.put (String.ofList key) value done
        match rest.dropWhile isSpace with
        | '\x7d' :: rest => return (done, rest)
        | ',' :: rest => readFields fuel done rest
        | _ => malformed
      | _ => malformed
    | _ => malformed

end

/-- The value that a text denotes, if it is the text of exactly one value. -/
def read (s : List Char) : Except ReadFault (Json ω) := do
  let (value, rest) ← readValue (2 * s.length + 2) s
  if rest.all isSpace then return value else malformed

end MacroScribe.Json
