import MacroScribe.Action.Policy
import MacroScribe.Part.Record
import MacroScribe.StyledText.Basic
/-!
# MacroScribe.Action.Step

The actions that hold no other actions. Options have been checked when a step is made: a choice is
one of the offered words, a number is within its range, and an expression is the text of its value.
Where a text is wanted and the checks let something else pass, the option is a `Slot`.
-/

namespace MacroScribe

/-- What a notification plays. -/
inductive Sound where
  /-- A sound of the system, by name. -/
  | named (name : Slot)
  /-- A sound file, which needs an action of its own. -/
  | file (path : Slot)
  deriving Repr, DecidableEq

/-- Playing a sound file. -/
structure Playback where
  path : Slot
  asynchronous : Bool
  /-- From 0 to 100. -/
  volume : Int
  aborts : Bool
  deriving Repr, DecidableEq

/-- How a key is pressed. -/
inductive Press where
  | once
  | repeated
  /-- Held for some time and released. -/
  | held (time : String)
  deriving Repr, DecidableEq

/-- Where the image to be found comes from. -/
inductive ImageSource where
  /-- The image in the action itself. -/
  | image
  | file (path : Slot)
  | namedClipboard (uid : Slot)
  | screen (area : ScreenArea)
  /-- A source that its name alone determines. -/
  | other (name : String)
  deriving Repr, DecidableEq

/-- An image that is looked for on the screen. -/
structure ImageTarget where
  source : ImageSource
  /-- Which of several places counts. -/
  selection : String
  area : ScreenArea
  deriving Repr, DecidableEq

/-- What a click is measured from. -/
inductive Reference where
  | image (target : ImageTarget)
  /-- The window, the screen, the mouse or nothing. -/
  | other (name : String)
  deriving Repr, DecidableEq

/-- Moving the mouse and using its buttons. -/
structure Click where
  action : String
  button : Int
  /-- How often the button is pressed; −1 releases it. -/
  count : Int
  modifiers : Int
  horizontal : String
  vertical : String
  reference : Reference
  corner : String
  drag : String
  dragHorizontal : String
  dragVertical : String
  restore : Bool
  /-- How much the image may differ, from 0 to 100. -/
  fuzz : Int
  waits : Bool
  deriving Repr, DecidableEq

/-- An action without actions inside. -/
inductive Step where
  /-- Waits, for a number of seconds unless another unit is given. -/
  | pause (time : String) (unit : Option String)
  | notification (title body subtitle : Slot) (sound : Sound)
  | playSound (playback : Playback)
  /-- Stops macros or leaves loops; some ways of stopping name a macro. -/
  | cancel (type : String) (target : Option Slot)
  | comment (title rtf : Slot)
  | returnText (text : Slot)
  | setVariable (name : String) (text : Slot) (processing placement : Option String)
  | calculate (name : Slot) (text : String) (format : Option Slot) (failure : FailurePolicy)
  /-- Uses the value of a variable, for instance as the position of the mouse. -/
  | useVariable (name : Slot) (action : String) (failure : FailurePolicy)
  /-- Types, pastes or shows a text. -/
  | insertText (text : Slot) (action : String) (processing : Option String) (rtf : Option Slot)
  | setClipboard (text : Slot) (processing : Option String) (rtf : Option Slot)
      (destination : Clipboard) (failure : FailurePolicy)
  /-- Cuts, copies or pastes. -/
  | edit (action : String) (timeout : TimeoutPolicy)
  | system (action : String)
  | typeKey (key modifiers : Int) (press : Press)
  | activate (application : Application) (allWindows reopenWindows : Bool)
      (whenActive : String) (aborts : Bool)
  | quit (application : Application) (aborts : Bool)
  | showApplication (application : Application)
  | selectMenu (path : List String) (application : Application) (failure : FailurePolicy)
  /-- Presses a button, or opens its menu and the like; it may wait until the button is enabled. -/
  | pressButton (action : String) (name : Slot) (wait : Option TimeoutPolicy)
      (failure : FailurePolicy)
  | openFile (path : Slot) (application : Application) (failure : FailurePolicy)
  | openUrl (url : Slot) (application : Application) (processing : Option String)
      (background : Bool) (failure : FailurePolicy) (timeout : TimeoutPolicy)
  | file (operation : String) (source destination : Slot) (output : Option Slot)
      (failure : FailurePolicy)
  | click (click : Click)
  | scroll (amount direction : String) (failure : FailurePolicy)
  deriving Repr, DecidableEq

/-- The type under which the engine knows a step. -/
def Step.typeName : Step → String
  | pause .. => "Pause"
  | notification .. => "Notification"
  | playSound .. => "PlaySound"
  | cancel .. => "Cancel"
  | comment .. => "Comment"
  | returnText .. => "Return"
  | setVariable .. => "SetVariableToText"
  | calculate .. => "SetVariableToCalculation"
  | useVariable .. => "UseVariable"
  | insertText .. => "InsertText"
  | setClipboard .. => "SetClipboardToText"
  | edit .. => "CutCopyPaste"
  | system .. => "SystemAction"
  | typeKey .. => "SimulateKeystroke"
  | activate .. => "ActivateApplication"
  | quit .. => "QuitSpecificApp"
  | showApplication .. => "ShowSpecificApp"
  | selectMenu .. => "SelectMenuItem"
  | pressButton .. => "PressButton"
  | openFile .. => "Open1File"
  | openUrl .. => "OpenURL"
  | file .. => "File"
  | click .. => "MouseMoveAndClick"
  | scroll .. => "ScrollWheelEvent"

end MacroScribe
