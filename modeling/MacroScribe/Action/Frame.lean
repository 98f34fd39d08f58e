import MacroScribe.Action.Step
/-!
# MacroScribe.Action.Frame

The dictionaries that a step writes, entry by entry in written order. A *frame* is one dictionary
that still needs its identifier. Most steps have one frame; a notification with a sound file has a
second one that plays the file, and a held key has three, which press it, wait and release it.
-/

namespace MacroScribe

/-- A dictionary to be written, given the identifier of the action. -/
abbrev Frame := Int → List Entry

namespace Frame

/-- The entry of the identifier. -/
def uid (n : Int) : List Entry := [("ActionUID", .integer n)]

/-- The entry that names the type of the action. -/
def type (name : String) : List Entry := [("MacroActionType", .text name)]

/-- The entry of a text. -/
def text (key value : String) : List Entry := [(key, .text value)]

/-- The entry of an option that should be a text. -/
def slot (key : String) (value : Slot) : List Entry := [(key, value.leaf)]

/-- The entry of an option that may be absent. -/
def slot? (key : String) (value : Option Slot) : List Entry :=
  optionalEntry key (value.map Slot.leaf)

/-- The entry of a text that may be absent. -/
def text? (key : String) (value : Option String) : List Entry :=
  optionalEntry key (value.map Plist.text)

/-- The entry of an integer. -/
def integer (key : String) (value : Int) : List Entry := [(key, .integer value)]

/-- The entry of a flag. -/
def flag (key : String) (value : Bool) : List Entry := [(key, .bool value)]

/-- The entry of a flag that is only written when it is set. -/
def raised (key : String) (value : Bool) : List Entry :=
  if value then flag key true else []

/-- The entry of a styled text. -/
def styled (rtf : Slot) : List Entry :=
  [("StyledText", match rtf with
    | .text s => .data (StyledText.bytes s)
    | .broken cause => .broken (.misuse cause))]

/-- The entry of a styled text that may be absent. -/
def styled? (rtf : Option Slot) : List Entry :=
  (rtf.map styled).getD []

/-- The entry of an application. -/
def application (key : String) (app : Application) : List Entry := [(key, app.toPlist)]

/-- The entry that says whether an action addresses the front application. -/
def target (key : String) (app : Application) : List Entry :=
  text key (if app.isEmpty then "Front" else "Specific")

/-- The application that opens something, or that it is the default one. -/
def opener (app : Application) : List Entry :=
  (if app.isEmpty then [] else application "Application" app) ++
    flag "IsDefaultApplication" app.isEmpty

/-- Waiting. -/
def pause (time : String) (unit : Option String) : Frame := fun n =>
  uid n ++ type "Pause" ++ text "Time" time ++ flag "TimeOutAbortsMacro" true ++
    text? "Unit" (unit.filter (· != "Seconds"))

/-- Showing a notification. -/
def notification (title body subtitle sound : Slot) : Frame := fun n =>
  uid n ++ type "Notification" ++ slot "SoundName" sound ++ slot "Subtitle" subtitle ++
    slot "Text" body ++ slot "Title" title

/-- Playing a sound file. Full volume is not written. -/
def playback (p : Playback) : Frame := fun n =>
  uid n ++ raised "Asynchronously" p.asynchronous ++ text "DeviceID" "SOUNDEFFECTS" ++
    type "PlaySound" ++ slot "Path" p.path ++ flag "TimeOutAbortsMacro" p.aborts ++
    (if p.volume = 100 then [] else integer "Volume" p.volume)

/-- Pressing or releasing a key; `press` is not written for a simple stroke. -/
def stroke (key modifiers : Int) (press : Option String) : Frame := fun n =>
  uid n ++ integer "KeyCode" key ++ type "SimulateKeystroke" ++ integer "Modifiers" modifiers ++
    text? "Press" press ++ flag "ReleaseAll" false ++ application "TargetApplication" .front ++
    text "TargetingType" "Front"

/-- The accessibility action behind an action on a button; pressing it needs none. -/
def accessibilityAction? : String → Option String
  | "ShowMenuOfButtonNamed" => some "AXShowMenu"
  | "DecrementSliderNamed" => some "AXDecrement"
  | "IncrementSliderNamed" => some "AXIncrement"
  | "CancelButtonNamed" => some "AXCancel"
  | _ => none

/-- Pressing a button. The entries about timeouts are there when the action waits. -/
def button (action : String) (name : Slot) (wait : Option TimeoutPolicy)
    (failure : FailurePolicy) : Frame := fun n =>
  text? "AXAction" (accessibilityAction? action) ++ uid n ++ slot "ButtonName" name ++
    type "PressButton" ++ failure.notifyEntries ++ (wait.map (·.notifyEntries)).getD [] ++
    failure.stopEntries ++ (wait.map (·.abortEntries)).getD [] ++
    raised "WaitForEnabledButton" wait.isSome

/-- The name that a named clipboard shows when its own is not known. -/
def unnamedClipboard : String := "Unnamed Named Clipboard"

/-- The entries about the source of an image. -/
def imageSource : ImageSource → List Entry
  | .file path => slot "ImagePath" path
  | .namedClipboard uid =>
    slot "ImageNamedClipboardName" uid ++
      text "ImageNamedClipboardRedundandDisplayName" unnamedClipboard
  | .screen area => [("ImageScreenArea", area.toPlist)]
  | .image | .other _ => []

/-- The name of a source, which is not written for the image in the action itself. -/
def imageSourceName? : ImageSource → Option String
  | .image => none
  | .file _ => some "File"
  | .namedClipboard _ => some "NamedClipboard"
  | .screen _ => some "Screen"
  | .other name => some name

/-- The entries about the image that is looked for. -/
def imageTarget : Reference → List Entry
  | .image target =>
    imageSource target.source ++
      text? "ImageSelection" ((some target.selection).filter (· != "Unique")) ++
      text? "ImageSource" (imageSourceName? target.source)
  | .other _ => []

/-- The area that is searched for an image. -/
def searchedArea : Reference → List Entry
  | .image target => [("ScreenArea", target.area.toPlist)]
  | .other _ => []

/-- The word for a reference. -/
def referenceName : Reference → String
  | .image _ => "Image"
  | .other name => name

/-- Moving the mouse and using its buttons. -/
def click (c : Click) : Frame := fun n =>
  text "Action" c.action ++ uid n ++ integer "Button" c.button ++ integer "ClickCount" c.count ++
    flag "DisplayMatches" false ++ text "DragHorizontalPosition" c.dragHorizontal ++
    text "DragVerticalPosition" c.dragVertical ++ integer "Fuzz" c.fuzz ++
    text "HorizontalPositionExpression" c.horizontal ++ imageTarget c.reference ++
    type "MouseMoveAndClick" ++ integer "Modifiers" c.modifiers ++ text "MouseDrag" c.drag ++
    text "Relative" (referenceName c.reference) ++ text "RelativeCorner" c.corner ++
    flag "RestoreMouseLocation" c.restore ++ searchedArea c.reference ++
    text "VerticalPositionExpression" c.vertical ++ raised "TimeOutAbortsMacro" c.waits ++
    raised "WaitForImage" c.waits

end Frame

open MacroScribe.Frame in
/-- The frames of a step. -/
def Step.frames : Step → List Frame
  | pause time unit => [Frame.pause time unit]
  | notification title body subtitle sound =>
    match sound with
    | .named name => [Frame.notification title body subtitle name]
    | .file path =>
      [Frame.notification title body subtitle (.text ""), Frame.playback ⟨path, true, 75, true⟩]
  | playSound p => [playback p]
  | cancel type target => [fun n =>
      text "Action" type ++ uid n ++ slot? "Instance" target ++ Frame.type "Cancel"]
  | comment title rtf => [fun n => uid n ++ type "Comment" ++ styled rtf ++ slot "Title" title]
  | returnText text => [fun n => uid n ++ type "Return" ++ slot "Text" text]
  | setVariable name text processing placement => [fun n =>
      uid n ++ type "SetVariableToText" ++ text? "ProcessingMode" processing ++ slot "Text" text ++
        Frame.text "Variable" name ++ text? "Where" placement]
  | calculate name text format failure => [fun n =>
      uid n ++ slot? "Format" format ++ type "SetVariableToCalculation" ++ failure.notifyEntries ++
        failure.stopEntries ++ Frame.text "Text" text ++ flag "UseFormat" format.isSome ++
        slot "Variable" name]
  | useVariable name action failure => [fun n =>
      text "Action" action ++ uid n ++ type "UseVariable" ++ failure.notifyEntries ++
        failure.stopEntries ++ slot "Variable" name]
  | insertText text action processing rtf => [fun n =>
      Frame.text "Action" action ++ uid n ++ type "InsertText" ++
        text? "ProcessingMode" processing ++ styled? rtf ++
        (if action = "ByTyping" then
          application "TargetApplication" .front ++ Frame.text "TargetingType" "Front" else []) ++
        slot "Text" text]
  | setClipboard text processing rtf destination failure => [fun n =>
      uid n ++ flag "JustDisplay" false ++ type "SetClipboardToText" ++ failure.notifyEntries ++
        text? "ProcessingMode" processing ++ failure.stopEntries ++ styled? rtf ++
        destination.entries "Target" ++ slot "Text" text]
  | edit action timeout => [fun n =>
      text "Action" action ++ uid n ++ flag "IsDisclosed" false ++ type "CutCopyPaste" ++
        timeout.entries]
  | system action => [fun n =>
      uid n ++ flag "IsDisclosed" false ++ type "SystemAction" ++ text "SystemAction" action]
  | typeKey key modifiers press =>
    match press with
    | .once => [stroke key modifiers none]
    | .repeated => [stroke key modifiers (some "PressAndRepeat")]
    | .held time =>
      [stroke key modifiers (some "PressAndHold"), Frame.pause time none,
       stroke key modifiers (some "Release")]
  | activate app allWindows reopenWindows whenActive aborts => [fun n =>
      uid n ++ flag "AllWindows" allWindows ++ text "AlreadyActivatedActionType" whenActive ++
        application "Application" app ++ type "ActivateApplication" ++
        flag "ReopenWindows" reopenWindows ++ flag "TimeOutAbortsMacro" aborts]
  | quit app aborts => [fun n =>
      text "Action" "Quit" ++ uid n ++ application "Application" app ++ type "QuitSpecificApp" ++
        target "Target" app ++ flag "TimeOutAbortsMacro" aborts]
  | showApplication app => [fun n =>
      uid n ++ application "Application" app ++ type "ShowSpecificApp"]
  | selectMenu path app failure => [fun n =>
      uid n ++ type "SelectMenuItem" ++ [("Menu", .array (path.map .text))] ++
        failure.notifyEntries ++ failure.stopEntries ++ application "TargetApplication" app ++
        target "TargetingType" app]
  | pressButton action name wait failure => [button action name wait failure]
  | openFile path app failure => [fun n =>
      uid n ++ opener app ++ type "Open1File" ++ failure.notifyEntries ++ slot "Path" path ++
        failure.stopEntries]
  | openUrl url app processing background failure timeout => [fun n =>
      uid n ++ opener app ++ type "OpenURL" ++ failure.notifyEntries ++ timeout.notifyEntries ++
        raised "OpenInBackground" background ++ text? "ProcessingMode" processing ++
        failure.stopEntries ++ timeout.abortEntries ++ slot "URL" url]
  | file operation source destination output failure => [fun n =>
      uid n ++ slot "Destination" destination ++ type "File" ++ failure.notifyEntries ++
        text "Operation" operation ++ slot? "OutputPath" output ++ slot "Source" source ++
        failure.stopEntries]
  | click c => [Frame.click c]
  | scroll amount direction failure => [fun n =>
      uid n ++ type "ScrollWheelEvent" ++ failure.notifyEntries ++
        text "ScrollAmountExpression" amount ++ text "ScrollDirection" direction ++
        failure.stopEntries]

end MacroScribe
