import MacroScribe.Condition.Normal
import MacroScribe.Part.Record
import MacroScribe.Text.Case
/-!
# MacroScribe.Condition.Basic

Conditions, and lists of them, as the values that conditional actions hold. A condition is given as
a mapping with the engine's own key names; its type is checked, it is brought into its normal form,
and its keys are put in order. Null values are left out at the end.

Keys are sorted without regard to case, and those that differ in nothing else by their characters.
Some keys have a place of their own: the flags of a condition come last, and the keys of an
application come first.
-/

namespace MacroScribe.Condition

/-! ### The order of keys -/

/-- The key `a` comes before the key `b`, or is the same. -/
def inOrder (a b : String) : Bool :=
  let lowerA := String.ofList (Text.lower a.toList)
  let lowerB := String.ofList (Text.lower b.toList)
  lowerA < lowerB || (lowerA == lowerB && !(b < a))

/-- Things sorted by their keys. -/
def sortByKey {α : Type} (key : α → String) (items : List α) : List α :=
  items.mergeSort fun a b => inOrder (key a) (key b)

/-- The things with these keys, one for each key and in the order of the keys. -/
def pick {α : Type} (key : α → String) (keys : List String) (items : List α) : List α :=
  keys.filterMap fun k => items.find? (key · == k)

/-- The things with other keys. -/
def others {α : Type} (key : α → String) (keys : List String) (items : List α) : List α :=
  items.filter fun i => !keys.contains (key i)

/-- The flags that end a condition. -/
def trailingFlags : List String :=
  ["IsFrontApplication", "IsFrontWindow", "IsFront"]

/-- The order in a condition. -/
def conditionOrder {α : Type} (key : α → String) (items : List α) : List α :=
  sortByKey key (others key trailingFlags items) ++ pick key trailingFlags items

/-- The order in an application. -/
def applicationOrder {α : Type} (key : α → String) (items : List α) : List α :=
  pick key Application.keyOrder items ++ sortByKey key (others key Application.keyOrder items)

/-! ### Written conditions -/

/-- The types of condition, sorted. -/
def types : List String :=
  ["ActionResult", "AnyWindow", "Application", "Button", "Calculation", "Clipboard", "Disk",
   "EnvironmentVariable", "FileAttribute", "FrontWindow", "Key", "Location", "Macro", "Menu",
   "Modifiers", "MouseButton", "OCR", "Path", "Pixel", "ScreenImage", "Script", "Text",
   "TypedString", "USBDevice", "Variable", "WirelessNetwork"]

/-- How many conditions of a list have to hold. -/
def matchings : List String :=
  ["All", "Any", "None", "NotAll"]

mutual

/-- A value inside a condition. The items of a list are written as texts. -/
def leaf : Argument → Outcome Plist
  | .bool b => .ok (.bool b)
  | .int n => .ok (.integer n)
  | .float x => .ok (.real (.float x))
  | .str s => .ok (.compactText s)
  | .list items => .ok (.array (items.map fun item => .compactText item.plainText))
  | .obj fields => do return .dict (sortByKey (·.1) (← leafEntries fields))
  | v => .error (.condition (.unsupportedValue v.typeName v.quotedText))

/-- The entries of a mapping inside a condition, in the given order. -/
def leafEntries : List (String × Argument) → Outcome (List Entry)
  | [] => .ok []
  | (key, value) :: rest => do
    let here ← if value.isNull then pure [] else do pure [(key, ← leaf value)]
    return here ++ (← leafEntries rest)

end

/-- A screen area in a condition. -/
def areaLeaf (type key : String) (value : Argument) : Outcome Plist :=
  match value.area with
  | .ok area => .ok (((area.getD .allScreens)).toPlist)
  | .error cause => .error (.inCondition key type cause)

/-- The keys of screen areas. -/
def areaKeys : List String := ["ScreenArea", "ImageScreenArea"]

/-- The types of condition that look at the screen. -/
def screenTypes : List String := ["ScreenImage", "OCR"]

/-- The entry for a field of a condition of a type. Some fields are not written: those that are
null, and whether a mouse button is pressed unless it is not. -/
def entry (type key : String) (value : Argument) : Outcome (List Entry) :=
  if value.isNull then .ok []
  else if areaKeys.contains key && screenTypes.contains type then do
    return [(key, ← areaLeaf type key value)]
  else if key = "Pressed" ∧ type = "MouseButton" then
    .ok (match value with
      | .bool false => [(key, .bool false)]
      | _ => [])
  else
    match key, value with
    | "Application", .obj fields => do
      return [(key, .dict (applicationOrder (·.1) (← leafEntries fields)))]
    | _, _ => do return [(key, ← leaf value)]

/-- The type of a condition. -/
def typeOf (c : Given) : Outcome String := do
  let type := c.value "ConditionType"
  type.requireScalar
  match type.str?.filter types.contains with
  | some type => return type
  | none => .error (.condition (.unknownType type.plainText types))

/-- The value of the condition with these fields. -/
def ofFields (c : Given) : Outcome Plist := do
  let type ← typeOf c
  let fields := conditionOrder (·.1) (← normal type c)
  return .dict (← fields.mapM fun f => entry type f.1 f.2).flatten

/-- The value of a condition. -/
def toPlist (v : Argument) : Outcome Plist :=
  match v with
  | .obj fields => ofFields fields
  | v => .error (.condition (.notMapping v.typeName))

/-- The value of a list of conditions. -/
def listToPlist (conditions : List Argument) (matching : Argument) : Outcome Plist :=
  match matching.str?.filter matchings.contains with
  | none => .error (.condition (.unknownMatch matching.plainText matchings))
  | some matching => do
    let items ← conditions.mapM toPlist
    return .dict [("ConditionList", .array items), ("ConditionListMatch", .text matching)]

end MacroScribe.Condition
