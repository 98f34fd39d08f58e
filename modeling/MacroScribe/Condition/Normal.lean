import MacroScribe.Json.View
import MacroScribe.Part.Basic
/-!
# MacroScribe.Condition.Normal

What the editor adds to conditions and takes from them without being asked. Five types of condition
have such rules; each is a function on the fields of a condition.
-/

namespace MacroScribe.Condition

/-- The fields of a condition. -/
abbrev Given := Fields Argument

/-- A value that is a text. -/
def isWord (v : Argument) (word : String) : Bool :=
  v.str? == some word

/-- The operators that compare the title of a window. -/
def titleOperators : List String :=
  ["TitleIs", "TitleIsNot", "TitleContains", "TitleDoesNotContain", "TitleMatches",
   "TitleDoesNotMatch"]

/-- The operators that may compare the title of a window. -/
def optionalTitleOperators : List String :=
  ["ExistsButTitleIsNot", "ExistsButTitleDoesNotContain", "ExistsButTitleDoesNotMatch"]

/-- Windows are those of the front application unless that is denied, and then of some application.
A title is there when the operator needs one. -/
def normalWindow (c : Given) : Outcome Given := do
  let c := if (c.value "IsFrontApplication").isNull then c.put "IsFrontApplication" (.bool true)
    else c
  let c := if (c.value "IsFrontApplication").truthy then c.erase "Application"
    else if (c.value "Application").truthy then c
    else c.put "Application" (.obj [])
  match c.get? "ConditionType" with
  | none => misused (.missingKey "ConditionType")
  | some type =>
    if isWord type "FrontWindow" then
      let operator := c.value "FrontWindowConditionType"
      operator.requireScalar
      match operator.str? with
      | some op =>
        if titleOperators.contains op then return c.putNew "FrontWindowTitle" (.str "Untitled")
        else if optionalTitleOperators.contains op then return c.putNew "FrontWindowTitle" (.str "")
        else return c.erase "FrontWindowTitle"
      | none => return c.erase "FrontWindowTitle"
    else return c.putNew "AnyWindowTitle" (.str "")

/-- The number that stands for all variables. -/
def allVariables : Argument := .list [.str "9999"]

/-- Scripts list the variables that they see; one entry may stand for all. -/
def normalScript (c : Given) : Given :=
  let includeAll := c.value "includeAllVariables"
  let c := c.erase "includeAllVariables"
  match c.value "IncludedVariables", includeAll with
  | .list _, _ => c
  | _, .bool true => c.put "IncludedVariables" allVariables
  | _, _ => c.put "IncludedVariables" (.list [])

/-- The operators on pixels, each with the one that the editor pairs it with. -/
def pixelPairs : List (String × String) :=
  [("Is", "IsNot"), ("IsNot", "IsBrighter"), ("IsBrighter", "IsDarker"),
   ("IsDarker", "IsMoreRed"), ("IsMoreRed", "IsLessRed"), ("IsLessRed", "IsMoreGreen"),
   ("IsMoreGreen", "IsLessGreen"), ("IsLessGreen", "IsMoreBlue"),
   ("IsMoreBlue", "IsLessBlueIsNot"), ("IsLessBlue", "IsLessBlue")]

/-- Of the two operators on pixels, the good one determines the other. -/
def normalPixel (c : Given) : Outcome Given := do
  let good := c.value "PixelConditionTypeGood"
  good.requireScalar
  let (good, bad) := (good.str?.bind fun g => pixelPairs.find? (·.1 == g)).getD ("Is", "IsNot")
  return (c.put "PixelConditionType" (.str bad)).put "PixelConditionTypeGood" (.str good)

/-- The keys about a named clipboard. -/
def clipboardKeys : List String :=
  ["ImageNamedClipboardName", "ImageNamedClipboardRedundandDisplayName"]

/-- The sources that need none of the keys about images. -/
def bareSources : List String :=
  ["SystemClipboard", "TriggerClipboard", "Icon"]

/-- The keys that do not apply to a source of text recognition. -/
def ocrIdle (source : String) : List String :=
  if source = "File" then clipboardKeys ++ ["ImageScreenArea"]
  else if source = "NamedClipboard" then ["ImagePath", "ImageScreenArea"]
  else if source = "Screen" then "ImagePath" :: clipboardKeys
  else if source = "Image" ∨ bareSources.contains source then
    ["ImagePath", "ImageScreenArea"] ++ clipboardKeys
  else []

/-- Text recognition has the keys of its source only; the source `Image` is the default and not
written. -/
def normalOcr (c : Given) : Outcome Given := do
  let source := c.value "ImageSource"
  source.requireScalar
  let c := c.eraseAll ((source.str?.map ocrIdle).getD [])
  return if isWord source "Image" then c.erase "ImageSource" else c

/-- The keys that do not apply to a source of image search. -/
def screenImageIdle (source : String) : List String :=
  if source = "File" then clipboardKeys
  else if source = "NamedClipboard" then ["ImagePath"]
  else if source = "Screen" ∨ bareSources.contains source then "ImagePath" :: clipboardKeys
  else []

/-- The value names no screen area. -/
def lacksArea (v : Argument) : Bool :=
  match v with
  | .obj fields => !(Fields.value fields "type").truthy
  | v => !v.truthy

/-- The image comes from the condition itself. -/
def isOwnImage (source : Argument) : Bool :=
  source.isNull || isWord source "" || isWord source "Image"

/-- Image search covers all screens unless an area is given, and takes the image from that area when
its source is the screen; it has the keys of its source only. -/
def normalScreenImage (c : Given) : Outcome Given := do
  let c := if lacksArea (c.value "ScreenArea") then
      c.put "ScreenArea" (.obj [("type", .str "ScreenAll")])
    else c
  let c := if isWord (c.value "ImageSource") "Screen" && !(c.value "ImageScreenArea").truthy then
      c.put "ImageScreenArea" (c.value "ScreenArea")
    else c
  let c := c.erase "ImageSelection"
  let source := c.value "ImageSource"
  let c ← if isOwnImage source then
      pure (c.eraseAll (["ImagePath", "ImageSource"] ++ clipboardKeys))
    else do
      source.requireScalar
      pure (c.eraseAll ((source.str?.map screenImageIdle).getD []))
  return (c.putNew "DisplayMatches" (.bool false)).putNew "Fuzz" (.int 0)

/-- The fields of a condition of this type after the editor's changes. -/
def normal (type : String) (c : Given) : Outcome Given :=
  if type = "FrontWindow" ∨ type = "AnyWindow" then normalWindow c
  else if type = "Script" then .ok (normalScript c)
  else if type = "Pixel" then normalPixel c
  else if type = "OCR" then normalOcr c
  else if type = "ScreenImage" then normalScreenImage c
  else .ok c

end MacroScribe.Condition
