import MacroScribe.Builder.Option
/-!
# MacroScribe.Builder.Interface

Builders of the actions on keys, applications, menus, buttons and the system.
-/

namespace MacroScribe.Builder

open Parameter

/-- How a key is pressed, given how long it is held, if at all. -/
def press (holds repeats : Bool) (time : Argument) : Press :=
  if !time.isNull then .held time.expression
  else if holds then .held "0.05"
  else if repeats then .repeated
  else .once

/-- Pressing a key. -/
def typeKeystroke : Builder where
  name := "TypeKeystroke"
  parameters := [required "keystroke", flag "press_and_hold" false, flag "press_and_repeat" false,
    nullable "hold_time"]
  build args := do
    let holds := (args.value "press_and_hold").truthy
    let repeats := (args.value "press_and_repeat").truthy
    let time := args.value "hold_time"
    if repeats && (holds || !time.isNull) then invalid .repeatedHold
    else
      let keystroke := args.value "keystroke"
      let k ← Keystroke.ofJson keystroke
      match k.key with
      | none => invalid (.keylessKeystroke keystroke.quotedText)
      | some key => return .step (.typeKey key k.mask (press holds repeats time))

/-- A fixed command to the system. -/
def system (name command : String) : Builder where
  name := name
  parameters := []
  build _ := .ok (.step (.system command))

/-- Forgetting what was typed. -/
def clearTypedStringBuffer : Builder := system "ClearTypedStringBuffer" "ClearTypedString"

/-- Opening the status menu. -/
def showStatusMenu : Builder := system "ShowStatusMenu" "ShowStatusMenu"

/-- What may be done with an application that is active already. -/
def activeChoices : List String :=
  ["Normal", "SwitchToLast", "BringAllWindows", "Reopen", "Hide", "HideOthers", "Quit"]

/-- Bringing an application to the front. -/
def activate : Builder where
  name := "Activate"
  parameters := [nullable "application", flag "all_windows" false, flag "reopen_windows" false,
    withDefault "already_activated_action" (.str "Normal"), flag "timeout_aborts" true]
  build args := do
    let whenActive ← choice "already-activated action" activeChoices
      (args.value "already_activated_action")
    let app ← application args
    return .step (.activate app (args.value "all_windows").truthy
      (args.value "reopen_windows").truthy whenActive (args.value "timeout_aborts").truthy)

/-- Quitting an application. -/
def quit : Builder where
  name := "Quit"
  parameters := [nullable "application", flag "timeout_aborts" true]
  build args := do
    return .step (.quit (← application args) (args.value "timeout_aborts").truthy)

/-- Showing an application, which has to be given. -/
def showSpecificApp : Builder where
  name := "ShowSpecificApp"
  parameters := [required "application"]
  build args := do
    let app ← application args
    if app.isEmpty then invalid .missingApplication else return .step (.showApplication app)

/-- Selecting an item of a menu. -/
def selectMenuItem : Builder where
  name := "SelectMenuItem"
  parameters := [required "menu_path", nullable "application"] ++ Parameter.failure
  build args := do
    let path := args.value "menu_path"
    if path.str?.isSome || !path.truthy then invalid .missingMenuPath
    else
      let titles := (← path.items).map fun item => if item.isNull then "" else item.plainText
      return .step (.selectMenu titles (← application args) (failure args true))

/-- What may be done with a button or a slider. -/
def buttonActions : List String :=
  ["PressButtonNamed", "ShowMenuOfButtonNamed", "DecrementSliderNamed", "IncrementSliderNamed",
   "CancelButtonNamed"]

/-- Using a button. -/
def pressButton : Builder where
  name := "PressButton"
  parameters := [required "button_name", withDefault "action" (.str "PressButtonNamed"),
    flag "wait_for_enabled_button" false, flag "timeout_aborts" true,
    flag "notify_on_timeout" true] ++ Parameter.failure
  build args := do
    let action ← choice "button action" buttonActions (args.value "action")
    let wait := if (args.value "wait_for_enabled_button").truthy then some (timeout args) else none
    return .step (.pressButton action (Slot.orEmpty (args.value "button_name")) wait
      (failure args true))

end MacroScribe.Builder
