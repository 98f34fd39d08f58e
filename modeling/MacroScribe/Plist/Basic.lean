import MacroScribe.Fault
/-!
# MacroScribe.Plist.Basic

Property lists, the format in which actions are stored: typed leaves, arrays, and dictionaries whose
entries keep their order. Two leaves are peculiar to this library. A *fragment* is the text of
dictionaries that are already written; it is spliced in with new indentation. A *broken* leaf stands
for an option that has no written form, and the list that holds it cannot be written.
-/

namespace MacroScribe

/-- A property list. -/
inductive Plist where
  /-- A text. An empty one is written as one tag if it is `compact` and as two tags otherwise. -/
  | string (text : String) (compact : Bool)
  | integer (n : Int)
  | real (x : Number)
  | bool (b : Bool)
  | data (bytes : List UInt8)
  | array (items : List Plist)
  | dict (entries : List (String × Plist))
  /-- Dictionaries in written form. -/
  | fragment (xml : String)
  /-- An option without a written form, and why it has none. -/
  | broken (cause : Fault)

/-- A key and the value under it. -/
abbrev Entry := String × Plist

namespace Plist

/-- A text that has two tags when it is empty. -/
def text (s : String) : Plist :=
  string s false

/-- A text that has one tag when it is empty. -/
def compactText (s : String) : Plist :=
  string s true

end Plist

/-- What was given where a text is to be written: a text, or something that cannot be written. -/
inductive Slot where
  | text (s : String)
  | broken (cause : Misuse)
  deriving Repr, DecidableEq

namespace Slot

/-- The slot of a value: only a text can be written. -/
def ofJson {ω : Type} : Json ω → Slot
  | .str s => .text s
  | _ => .broken .notText

/-- The slot of a value, where anything that does not count as given stands for the empty text. -/
def orEmpty {ω : Type} (v : Json ω) : Slot :=
  if v.truthy then ofJson v else .text ""

/-- The slot of a value that counts as given. -/
def given? {ω : Type} (v : Json ω) : Option Slot :=
  if v.truthy then some (ofJson v) else none

/-- The leaf that writes a slot, with two tags for an empty text. -/
def leaf : Slot → Plist
  | text s => .text s
  | broken cause => .broken (.misuse cause)

/-- The leaf that writes a slot, with one tag for an empty text. -/
def compactLeaf : Slot → Plist
  | text s => .compactText s
  | broken cause => .broken (.misuse cause)

end Slot
end MacroScribe
