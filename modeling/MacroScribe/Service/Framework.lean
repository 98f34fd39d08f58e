import MacroScribe.Json.Token
import MacroScribe.Json.View
import MacroScribe.Text.Encoding
import MacroScribe.Text.Split
/-!
# MacroScribe.Service.Framework

What a web framework does for the service before it is asked for anything: it takes the target of a
request apart, finds the part of the service to which the path leads, and checks the fields of the
body against their types.

This is one such framework, as far as requests of the service go. The service takes any reading of
requests (`answerWith`), and what is said about its answers only relies on what is said about the
reading.
-/

namespace MacroScribe.Service

/-! ### Targets

A target is a path, and a query after a question mark. Bytes may be given by escapes, a percent sign
and two hexadecimal digits.
-/

/-- The bytes of a text with its escapes resolved. -/
def unescapedBytes : List Char → List UInt8
  | [] => []
  | '%' :: a :: b :: rest =>
    match Text.hexValue? a, Text.hexValue? b with
    | some high, some low => UInt8.ofNat (high * 16 + low) :: unescapedBytes rest
    | _, _ => UInt8.ofNat '%'.toNat :: unescapedBytes (a :: b :: rest)
  | c :: rest => Text.utf8 [c] ++ unescapedBytes rest

/-- A text with its escapes resolved. -/
def unescape (s : List Char) : List Char :=
  Text.ofUtf8Lenient (unescapedBytes s)

/-- Takes up a segment of a path: one point stays where it is, and two points go back. -/
def stepSegment (done : List (List Char)) (segment : List Char) : List (List Char) :=
  if segment = ['.'] then done
  else if segment = ['.', '.'] then if done = [] ∨ done = [[]] then done else done.dropLast
  else done ++ [segment]

/-- The path without segments that consist of points. -/
def plainPath (path : List Char) : List Char :=
  Text.joinWith '/' ((Text.splitOn '/' path).foldl stepSegment [])

/-- A target in its parts. -/
structure Target where
  path : String
  query : Fields String

namespace Target

/-- One item of a query: a name and, after an equals sign, a value. A plus sign stands for a blank.
-/
def queryItem (item : List Char) : String × String :=
  let readable (s : List Char) : String :=
    String.ofList (unescape (s.map fun c => if c = '+' then ' ' else c))
  let name := item.takeWhile (· != '=')
  (readable name, readable (item.drop (name.length + 1)))

/-- The items of a query. -/
def queryItems (query : List Char) : Fields String :=
  Fields.ofList (((Text.splitOn '&' query).filter (!·.isEmpty)).map queryItem)

/-- The path in which escapes may themselves be escaped, from a single slash on. -/
def readPath (path : List Char) : String :=
  String.ofList (unescape (unescape (plainPath ('/' :: path.dropWhile (· == '/')))))

/-- The target that a text is. What follows a hash sign does not count. -/
def ofText (text : String) : Target :=
  let bare := text.toList.takeWhile (· != '#')
  let path := bare.takeWhile (· != '?')
  { path := readPath path, query := queryItems (bare.drop (path.length + 1)) }

end Target

/-! ### Routes

Slashes at the end of a path are disregarded if the path leads nowhere with them.
-/

/-- The parts of the service. -/
inductive Route where
  | health
  | render
  | keystroke
  | tokens
  | run
  /-- The macro file with this name. -/
  | download (name : String)
  deriving Repr, DecidableEq

namespace Route

/-- What precedes the name of a file. -/
def downloadStart : List Char := "/download/".toList

/-- The route to which exactly this path leads. -/
def direct? (path : String) : Option Route :=
  match path with
  | "/health" => some health
  | "/render" => some render
  | "/keystroke" => some keystroke
  | "/tokens" => some tokens
  | "/run" => some run
  | _ =>
    let name := path.toList.drop downloadStart.length
    if downloadStart.isPrefixOf path.toList && !name.isEmpty && !name.contains '/' then
      some (download (String.ofList name))
    else none

/-- The route of a path. -/
def ofPath? (path : String) : Option Route :=
  (direct? path).or
    (direct? (String.ofList (path.toList.reverse.dropWhile (· == '/')).reverse))

/-- The method of the requests that a route answers. -/
def method : Route → String
  | render | keystroke | run => "POST"
  | health | tokens | download _ => "GET"

end Route
end MacroScribe.Service

namespace MacroScribe.Service.Form

/-! ### Fields

Each field of a body has a type, and some types are read leniently: a flag may be given as a word,
and an integer as a numeral. A value that has not the type of its field makes the whole body
unacceptable, which is `none` here.
-/

/-- The words for true. -/
def trueWords : List String := ["1", "t", "true", "y", "yes", "on"]

/-- The words for false. -/
def falseWords : List String := ["0", "f", "false", "n", "no", "off"]

/-- A flag. -/
def flag? : Data → Option Bool
  | .bool b => some b
  | .str s =>
    let word := String.ofList (s.toList.map Char.toLower)
    if trueWords.contains word then some true
    else if falseWords.contains word then some false
    else none
  | v =>
    match v.number? with
    | some x => if x.same (.int 1) then some true else if x.same (.int 0) then some false else none
    | none => none

/-- A text. -/
def text? : Data → Option String
  | .str s => some s
  | _ => none

/-- A numeral without its plus, which does not stand before a minus. -/
def withoutPlus : List Char → Option (List Char)
  | '+' :: '-' :: _ => none
  | '+' :: rest => some rest
  | s => some s

/-- A numeral without the zeros that it begins with and the underscores among them. One zero stays
where no other digit follows. -/
def withoutLeadingZeros (s : List Char) : Option (List Char) := do
  let first ← s.head?
  if first = '0' then
    let isLeading (c : Char) : Bool := c = '0' || c = '_'
    let rest := s.dropWhile isLeading
    if rest.head?.any Char.isDigit then return rest
    else
      guard ((s.takeWhile isLeading).getLast? = some '0')
      return '0' :: rest
  else
    guard (first = '-' ∨ first.isDigit)
    return s

/-- A numeral without a fraction that consists of zeros. -/
def withoutZeroFraction (s : List Char) : List Char :=
  let whole := s.takeWhile (· ≠ '.')
  let zeros := s.drop (whole.length + 1)
  if !zeros.isEmpty && zeros.all (· = '0') then whole else s

/-- A numeral without the underscores between its digits. -/
def withoutUnderscores (s : List Char) : Option (List Char) :=
  let parts := Text.splitOn '_' s
  if parts.any (·.isEmpty) then none else some parts.flatten

/-- The integer that a numeral in ASCII digits denotes. White space around it, a plus, zeros at the
beginning, a fraction of zeros and single underscores do not count; what is left has to be an
integer as in JSON, where no zero precedes another digit. -/
def integerOfNumeral? (s : String) : Option Int := do
  let bare ← withoutLeadingZeros (← withoutPlus (Text.dropEnds Decimal.isNumeralBlank s.toList))
  let bare ← withoutUnderscores (withoutZeroFraction bare)
  guard (bare.length ≤ Decimal.maxDigits)
  let (n, rest) ← Json.Numeral.read? bare
  guard (rest.isEmpty && n.isInteger)
  return n.integer

/-- Floats below this size may stand for integers. -/
def floatBound : Int := 0x8000000000000000

/-- An integer. -/
def integer? : Data → Option Int
  | .bool b => some (if b then 1 else 0)
  | .int n => some n
  | .float x =>
    let b := Decimal.Binary.ofFloat x
    if b.isIntegral then b.truncate?.filter fun n => -floatBound < n && n < floatBound else none
  | .str s => integerOfNumeral? s
  | _ => none

/-- A mapping. -/
def mapping? : Data → Option Data
  | .obj fields => some (.obj fields)
  | _ => none

/-- A list of mappings. -/
def mappings? : Data → Option (List Data)
  | .list items => items.mapM mapping?
  | _ => none

/-- A value or null. -/
def nullable? {α : Type} (read : Data → Option α) : Data → Option (Option α)
  | .null => some none
  | v => some <$> read v

/-- A field with the value that it has when it is not given. -/
def field? {α : Type} (fields : Fields Data) (key : String) (read : Data → Option α)
    (standard : α) : Option α :=
  match fields.get? key with
  | none => some standard
  | some v => read v

end MacroScribe.Service.Form
