import MacroScribe.Builder.Option
/-!
# MacroScribe.Builder.Mouse

Builders of the actions on the mouse. A click may be measured from an image on the screen; what is
said about the image only matters then, but it has to be valid in any case.
-/

namespace MacroScribe.Builder

open Parameter

/-- The mouse buttons. -/
def buttons : List String :=
  ["Left", "Right", "Center", "Button4", "Button5", "Button6"]

/-- The kinds of click. -/
def clickKinds : List String :=
  ["Move", "Click", "DoubleClick", "TripleClick", "Release"]

/-- The sources of images. -/
def imageSources : List String :=
  ["Image", "Icon", "SystemClipboard", "TriggerClipboard", "NamedClipboard", "File", "Screen"]

/-- The named clipboard that is meant when none is given. -/
def standardClipboard : String := "FE1390C3-74DF-4983-9C6B-E2C441F97963"

/-- How often a button is pressed for a kind of click. -/
def clickCount (kind : String) : Int :=
  if kind = "Move" then 0
  else if kind = "Release" then -1
  else if kind = "DoubleClick" then 2
  else if kind = "TripleClick" then 3
  else 1

/-- The action for a kind of click, given whether the mouse goes back to its place afterwards. -/
def clickAction (kind : String) (restore : Bool) : String :=
  if kind = "Move" then "Move"
  else if kind ≠ "Release" ∧ restore then "Click"
  else "MoveAndClick"

/-- The source of an image with what belongs to it. -/
def imageSource (source : String) (path clipboard : Argument) (area : ScreenArea) : ImageSource :=
  if source = "Image" then .image
  else if source = "File" then .file (Slot.ofJson path)
  else if source = "NamedClipboard" then
    .namedClipboard (if clipboard.truthy then Slot.ofJson clipboard else .text standardClipboard)
  else if source = "Screen" then .screen area
  else .other source

/-- The screen area given for a parameter. -/
def areaParameter (args : Arguments) (name : String) : Outcome (Option ScreenArea) :=
  inParameter name (Argument.area (args.value name))

/-- A click with all its options. -/
def clicking (args : Arguments) : Outcome Action := do
  let kind ← choice "click kind" clickKinds (args.value "click_kind")
  let button ← choice "mouse button" buttons (args.value "button")
  let reference ← choice "relative" ["Image", "Window", "Screen", "Mouse", "Absolute"]
    (args.value "relative")
  let corner ← optionalChoice "relative corner"
    ["Center", "TopLeft", "TopRight", "BottomLeft", "BottomRight"] (args.value "relative_corner")
  let source ← choice "image source" imageSources (args.value "image_source")
  let selection ← choice "image selection" ["Unique", "Best", "Top", "Left", "Bottom", "Right"]
    (args.value "image_selection")
  let drag ← choice "mouse drag" ["None", "To", "Absolute", "Relative", "Hold"]
    (args.value "mouse_drag")
  let path := args.value "file_path"
  if source = "File" ∧ path.truthy = false then invalid .missingImageFile
  else
    let restore := kind != "Release" && (args.value "restore_mouse_location").truthy
    let area := (← areaParameter args "screen_area").getD .allScreens
    let imageArea := (← areaParameter args "image_screen_area").getD area
    let modifiers ← modifierMask (args.value "click_modifiers")
    let fuzz := args.value "fuzz"
    let fuzz ← if fuzz.isNull then pure 15 else percent fuzz
    let found := imageSource source path (args.value "named_clipboard_uuid") imageArea
    let standardCorner := if ["Mouse", "Absolute"].contains reference then "TopLeft" else "Center"
    return .step (.click {
      action := clickAction kind restore
      button := buttons.idxOf button
      count := clickCount kind
      modifiers
      horizontal := (args.value "horizontal").expression
      vertical := (args.value "vertical").expression
      reference := if reference = "Image" then .image ⟨found, selection, area⟩ else .other reference
      corner := corner.getD standardCorner
      drag
      dragHorizontal := (args.value "drag_target_x").expression
      dragVertical := (args.value "drag_target_y").expression
      restore
      fuzz
      waits := match args.value "wait_for_image" with
        | .bool true => true
        | _ => false })

/-- A parameter that is a number or an expression, zero by default. -/
def zero (name : String) : Parameter := withDefault name (.int 0)

/-- What the parameters of a click begin with. -/
def clickStart : List Parameter :=
  [withDefault "click_kind" (.str "Click"), withDefault "button" (.str "Left"),
   zero "click_modifiers", zero "horizontal", zero "vertical"]

/-- What the parameters of a click end with. -/
def clickEnd : List Parameter :=
  [withDefault "mouse_drag" (.str "None"), zero "drag_target_x", zero "drag_target_y",
   flag "restore_mouse_location" false]

/-- Clicking on an image that is found on the screen. -/
def clickAtFoundImage : Builder where
  name := "ClickAtFoundImage"
  parameters := clickStart ++ [withDefault "relative" (.str "Image"), nullable "relative_corner",
    withDefault "image_source" (.str "Image"), nullable "fuzz", nullable "wait_for_image",
    withDefault "image_selection" (.str "Unique"), nullable "named_clipboard_uuid",
    nullable "file_path", nullable "screen_area", nullable "image_screen_area"] ++ clickEnd
  build := clicking

/-- Clicking at a place. -/
def moveAndClick : Builder where
  name := "MoveAndClick"
  parameters := clickStart ++ [withDefault "relative" (.str "Window"),
    withDefault "relative_corner" (.str "TopLeft")] ++ clickEnd
  build args := clicking (args ++ [("image_source", .str "Image"), ("fuzz", .int 15),
    ("image_selection", .str "Unique")])

/-- Turning the wheel. -/
def scrollWheelEvent : Builder where
  name := "ScrollWheelEvent"
  parameters := [required "scroll_amount", required "direction"] ++ Parameter.failure
  build args := do
    let direction ← choice "scroll direction" ["Up", "Down", "Left", "Right"]
      (args.value "direction")
    return .step (.scroll (args.value "scroll_amount").expression direction (failure args false))

end MacroScribe.Builder
