import MacroScribe.Json.View
import MacroScribe.Plist.Basic
/-!
# MacroScribe.Part.Record

The parts of actions that are given as records: applications, clipboards and regions of the screens.
An action addresses the front application unless some identification of another one is given. A
clipboard is the one of the system, the one that triggered the macro, or a named one. A region is a
screen, a window, or a rectangle; its numbers are expressions, so that they may also be given as
texts.
-/

namespace MacroScribe

/-! ### Applications -/

/-- An identification of an application. What is not given is not written. -/
structure Application where
  bundleIdentifier : Option Slot
  matching : Option Slot
  name : Option Slot
  newFile : Option Slot
  path : Option Slot
  deriving Repr, DecidableEq

namespace Application

/-- The front application. -/
def front : Application := ⟨none, none, none, none, none⟩

/-- Nothing identifies the application. -/
def isEmpty (app : Application) : Bool :=
  app == front

/-- The application that a mapping describes. -/
def ofFields {ω : Type} (fields : Fields (Json ω)) : Outcome Application := do
  knownRecordFields "SpecificApp.__init__"
    ["name", "bundle_identifier", "path", "match", "new_file"] fields
  return { bundleIdentifier := Slot.given? (fields.value "bundle_identifier"),
           matching := Slot.given? (fields.value "match"),
           name := Slot.given? (fields.value "name"),
           newFile := Slot.given? (fields.value "new_file"),
           path := Slot.given? (fields.value "path") }

/-- The keys of an application in written order. -/
def keyOrder : List String :=
  ["BundleIdentifier", "Match", "Name", "NewFile", "Path"]

/-- The entry of an identification, if it is given. -/
def entry (key : String) (slot : Option Slot) : List Entry :=
  (slot.map fun s => (key, s.leaf)).toList

/-- The entries of an application. -/
def entries (app : Application) : List Entry :=
  entry "BundleIdentifier" app.bundleIdentifier ++ entry "Match" app.matching ++
    entry "Name" app.name ++ entry "NewFile" app.newFile ++ entry "Path" app.path

/-- The written form of an application; it is empty for the front one. -/
def toPlist (app : Application) : Plist :=
  .dict app.entries

end Application

/-! ### Clipboards -/

/-- A clipboard. -/
inductive Clipboard where
  | system
  | trigger
  | named (name : Slot) (uid : Option Slot)
  deriving Repr, DecidableEq

namespace Clipboard

/-- The word for the clipboard that triggered the macro. -/
def triggerWord : String := "TriggerClipboard"

/-- The named clipboard that a mapping describes. -/
def ofFields {ω : Type} (fields : Fields (Json ω)) : Outcome Clipboard := do
  let owner := "NamedClipboard.__init__"
  knownRecordFields owner ["name", "uid"] fields
  match fields.get? "name" with
  | none => misused (.missingField owner "name")
  | some name => return named (Slot.ofJson name) (Slot.given? (fields.value "uid"))

/-- The entries that point an action at a clipboard. Their keys start with `role`, the part that the
clipboard plays in the action. -/
def entries (role : String) : Clipboard → List Entry
  | system => []
  | trigger => [(role ++ "UseTriggerClipboard", .bool true)]
  | named name uid =>
    [(role ++ "NamedClipboardRedundantDisplayName", name.leaf)] ++
      (uid.map fun u => (role ++ "NamedClipboardUID", u.leaf)).toList ++
      [(role ++ "UseNamedClipboard", .bool true)]

end Clipboard

/-! ### Screen areas -/

/-- A region of the screens. -/
inductive ScreenArea where
  /-- A screen or a window that its type alone determines. -/
  | plain (type : String)
  /-- The screen or window with a number. -/
  | indexed (type : String) (index : String)
  /-- The windows with a name. -/
  | named (type : String) (name : String)
  /-- A rectangle. -/
  | rectangle (left top width height : String)
  deriving Repr, DecidableEq

namespace ScreenArea

/-- The types of area, in the order in which messages list them. -/
def types : List String :=
  ["ScreenAll", "ScreenMain", "ScreenSecond", "ScreenThird", "ScreenInternal", "ScreenExternal",
   "ScreenFront", "ScreenBack", "ScreenBack2", "ScreenMouse", "ScreenIndex", "WindowFront",
   "WindowName", "WindowNameContaining", "WindowNameMatching", "WindowIndex", "Area"]

/-- The types of area that have a number. -/
def indexedTypes : List String := ["ScreenIndex", "WindowIndex"]

/-- The types of area that have a name. -/
def namedTypes : List String := ["WindowName", "WindowNameContaining", "WindowNameMatching"]

/-- All screens. -/
def allScreens : ScreenArea := plain "ScreenAll"

/-- The area of a type, with the values that the type needs taken from a mapping. -/
def ofType {ω : Type} [Described ω] (type : String) (fields : Fields (Json ω)) :
    Outcome ScreenArea :=
  if type = "Area" then
    let sides := ["left", "top", "width", "height"].map fields.value
    if sides.any (·.isNull) then .error (.part .incompleteArea)
    else .ok (rectangle (fields.value "left").expression (fields.value "top").expression
      (fields.value "width").expression (fields.value "height").expression)
  else if indexedTypes.contains type then
    let index := fields.value "index"
    .ok (indexed type (if index.isNull then "1" else index.expression))
  else if namedTypes.contains type then
    let name := fields.value "name"
    .ok (named type (if name.truthy then name.expression else ""))
  else .ok (plain type)

/-- The area that a mapping describes. -/
def ofFields {ω : Type} [Described ω] (fields : Fields (Json ω)) : Outcome ScreenArea := do
  knownRecordFields "ScreenArea.__init__"
    ["type", "index", "name", "left", "top", "width", "height"] fields
  let type := (fields.get? "type").getD (.str "ScreenAll")
  match type.str?.filter types.contains with
  | some type => ofType type fields
  | none => .error (.part (.unknownArea type.plainText types))

/-- The entries of an area. -/
def entries : ScreenArea → List Entry
  | plain type => [("ScreenAreaType", .text type)]
  | indexed type index => [("IndexExpression", .text index), ("ScreenAreaType", .text type)]
  | named type name => [("ScreenAreaType", .text type), ("WindowName", .text name)]
  | rectangle left top width height =>
    [("HeightExpression", .text height), ("LeftExpression", .text left),
     ("ScreenAreaType", .text "Area"), ("TopExpression", .text top),
     ("WidthExpression", .text width)]

/-- The written form of an area. -/
def toPlist (area : ScreenArea) : Plist :=
  .dict area.entries

end ScreenArea
end MacroScribe
