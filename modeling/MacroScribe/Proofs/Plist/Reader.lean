import MacroScribe.Proofs.Plist.Markup

/-!
# MacroScribe.Proofs.Plist.Reader

A reader of the written form. It goes over the characters once and keeps the containers that are
open, innermost first, and the leaf that is open, if any. Nothing but tabs and line feeds may stand
between tags; what stands inside a leaf is taken as it is, and only then is it undone: the escapes
of a text or a key, the digits of an integer, the base64 of a byte string, from which white space is
taken out first. A real number is read as its text.

Main definitions:

* `Reading` — what a reader finds, with the type of each leaf;
* `read`, `readAll` — the value of a text, and the values that stand one after the other in it;
* `view` — what there is to be found of a property list.
-/

namespace MacroScribe.Plist

open Text

/-- What can be read. A text has one form here, and a real number is its text. -/
inductive Reading where
  | string (text : String)
  | integer (n : Int)
  | real (text : String)
  | bool (b : Bool)
  | data (bytes : List UInt8)
  | array (items : List Reading)
  | dict (entries : List (String × Reading))

mutual

/-- What there is to be found of a property list. A fragment or a broken leaf is no leaf of the
written form. -/
def view : Plist → Reading
  | string s _ => .string s
  | integer n => .integer n
  | real x => .real (String.ofList x.compact)
  | bool b => .bool b
  | data bytes => .data bytes
  | array items => .array (viewItems items)
  | dict entries => .dict (viewEntries entries)
  | fragment _ | broken _ => .string ""

/-- What there is to be found of each item. -/
def viewItems : List Plist → List Reading
  | [] => []
  | v :: rest => v.view :: viewItems rest

/-- What there is to be found of each entry. -/
def viewEntries : List (String × Plist) → List (String × Reading)
  | [] => []
  | (key, v) :: rest => (key, v.view) :: viewEntries rest

end

theorem viewItems_eq_map (items : List Plist) : viewItems items = items.map view := by
  induction items with
  | nil => rfl
  | cons v rest ih => rw [viewItems, ih, List.map_cons]

theorem viewEntries_eq_map (entries : List (String × Plist)) :
    viewEntries entries = entries.map fun e => (e.1, e.2.view) := by
  induction entries with
  | nil => rfl
  | cons e rest ih => rw [viewEntries, ih, List.map_cons]

namespace Reader

/-- The elements with characters in them. -/
inductive Leaf where
  | string
  | key
  | integer
  | real
  | data
  deriving DecidableEq

/-- The name of a leaf in its tags. -/
def Leaf.name : Leaf → String
  | string => "string"
  | key => "key"
  | integer => "integer"
  | real => "real"
  | data => "data"

/-- An open container, with what is in it so far. A dictionary may have a key that still waits for
its value. -/
inductive Level where
  | array (items : List Reading)
  | dict (entries : List (String × Reading)) (key : Option String)

/-- Where the reader is: inside `inner`, which is inside `outer`, and inside a leaf or not. The
outermost level is the array of what is read altogether. -/
structure State where
  inner : Level
  outer : List Level
  leaf : Option Leaf

/-- Nothing was read. -/
def start : State := ⟨.array [], [], none⟩

/-- Puts a value where the reader is. In a dictionary there must be a key for it. -/
def State.put (s : State) (r : Reading) : Option State :=
  match s.inner with
  | .array items => some { s with inner := .array (items ++ [r]) }
  | .dict entries (some key) => some { s with inner := .dict (entries ++ [(key, r)]) none }
  | .dict _ none => none

/-- Goes into a container. -/
def State.enter (s : State) (level : Level) : State :=
  { s with inner := level, outer := s.inner :: s.outer }

/-- Leaves a container that is read as `r`. -/
def State.exit (s : State) (r : Reading) : Option State :=
  match s.outer with
  | [] => none
  | level :: outer => { s with inner := level, outer }.put r

/-- Puts a key where the reader is, which has to be a dictionary whose last key has its value. -/
def State.putKey (s : State) (key : String) : Option State :=
  match s.inner with
  | .dict entries none => some { s with inner := .dict entries (some key) }
  | _ => none

/-- Closes a leaf with these characters in it. -/
def State.close (s : State) (content : List Char) : Leaf → Option State
  | .string => s.put (.string (String.ofList (unescape content)))
  | .key => s.putKey (String.ofList (unescape content))
  | .integer => (Decimal.integerOfText? content).bind fun n => s.put (.integer n)
  | .real => s.put (.real (String.ofList content))
  | .data => (Base64.decode? (content.filter (!isBlank ·))).bind fun bytes => s.put (.data bytes)

/-- The characters that may stand between tags. -/
def isGap (s : List Char) : Bool :=
  s.all fun c => c == '\t' || c == '\n'

/-- What a tag outside leaves does. -/
def State.tag (s : State) : String → Option State
  | "string" => some { s with leaf := some .string }
  | "key" => some { s with leaf := some .key }
  | "integer" => some { s with leaf := some .integer }
  | "real" => some { s with leaf := some .real }
  | "data" => some { s with leaf := some .data }
  | "array" => some (s.enter (.array []))
  | "dict" => some (s.enter (.dict [] none))
  | "/array" =>
    match s.inner with
    | .array items => s.exit (.array items)
    | .dict _ _ => none
  | "/dict" =>
    match s.inner with
    | .dict entries none => s.exit (.dict entries)
    | _ => none
  | "string/" => s.put (.string "")
  | "array/" => s.put (.array [])
  | "dict/" => s.put (.dict [])
  | "true/" => s.put (.bool true)
  | "false/" => s.put (.bool false)
  | _ => none

/-- Reads a tag with the characters before it. -/
def State.step (s : State) (before : List Char) (tag : String) : Option State :=
  match s.leaf with
  | some leaf => if tag = "/" ++ leaf.name then { s with leaf := none }.close before leaf else none
  | none => if isGap before then s.tag tag else none

/-- Reads characters. `before` is what stands between the last tag and the next one so far, and
`tag` the tag so far that is being read. -/
def run (s : State) (before : List Char) : Option (List Char) → List Char → Option State
  | none, [] => if s.leaf.isNone && isGap before then some s else none
  | some _, [] => none
  | none, c :: rest =>
    if c = '<' then run s before (some []) rest else run s (before ++ [c]) none rest
  | some tag, c :: rest =>
    if c = '>' then (s.step before (String.ofList tag)).bind fun s => run s [] none rest
    else run s before (some (tag ++ [c])) rest

end Reader

open Reader in
/-- The values that a text holds, one after the other. -/
def readAll (s : List Char) : Option (List Reading) :=
  (run start [] none s).bind fun s =>
    match s.inner, s.outer with
    | .array items, [] => some items
    | _, _ => none

/-- The value that a text is. -/
def read (s : List Char) : Option Reading :=
  (readAll s).bind fun items =>
    match items with
    | [r] => some r
    | _ => none

end MacroScribe.Plist
