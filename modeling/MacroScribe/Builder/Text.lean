import MacroScribe.Builder.Option
/-!
# MacroScribe.Builder.Text

Builders of the actions on variables, texts and clipboards.
-/

namespace MacroScribe.Builder

open Parameter

/-- The scopes of variables, each with what it puts before the name. -/
def scopes : List (String × String) :=
  [("global", ""), ("local", "LOCAL"), ("instance", "INSTANCE")]

/-- Setting a variable to a text. -/
def setVariable : Builder where
  name := "SetVariable"
  parameters := [required "variable", emptyText "text", nullable "processing_mode",
    nullable "where", nullable "preset_mode", withDefault "scope" (.str "global")]
  build args := do
    let name := args.value "variable"
    if !name.truthy then invalid .setWithoutVariable
    else
      let mode ← processing (args.value "processing_mode")
      let placement ← optionalChoice "where" ["Prepend", "Append"] (args.value "where")
      let scope ← choice "variable scope" (Fields.keys scopes) (args.value "scope")
      match name.str? with
      | none => misused (.notNumber name.typeName)
      | some name =>
        let text ← presetOr (orEmpty (args.value "text")) (args.value "preset_mode")
        return .step (.setVariable ((Fields.get? scopes scope).getD "" ++ name) (Slot.ofJson text)
          mode placement)

/-- Setting a variable to the result of a calculation. -/
def calculate : Builder where
  name := "SetVariableToCalculation"
  parameters := [required "variable", required "text", nullable "format"] ++ Parameter.failure
  build args :=
    let name := args.value "variable"
    let format := args.value "format"
    if !name.truthy then invalid .calculateWithoutVariable
    else .ok (.step (.calculate (Slot.ofJson name) (args.value "text").plainText
      (Slot.given? format) (failure args true)))

/-- What the value of a variable may be used for. -/
def variableUses : List String :=
  ["SetMouse", "SetWindowPosition", "SetWindowSize", "SetWindowFrame", "SetWindowByName",
   "SetWindowByNameContains", "SetWindowByNameMatches", "SetApplicationByName",
   "SetApplicationByNameContains", "SetApplicationByNameMatches", "SetSystemVolume"]

/-- Using the value of a variable. -/
def useVariable : Builder where
  name := "UseVariable"
  parameters := [required "variable", required "action"] ++ Parameter.failure
  build args := do
    let action ← choice "use-variable action" variableUses (args.value "action")
    return .step (.useVariable (Slot.orEmpty (args.value "variable")) action (failure args false))

/-- The ways of inserting a text. -/
def insertions : List String :=
  ["ByTyping", "ByPasting", "ByPastingStyles", "DisplayWindow", "DisplayBriefly", "DisplayLarge"]

/-- The ways that can show styles. -/
def styledInsertions : List String :=
  ["ByPastingStyles", "DisplayWindow"]

/-- Inserting a text in a way given by a value. -/
def insertion (args : Arguments) (action : Argument) : Outcome Action := do
  let action ← choice "insert-text action" insertions action
  let mode ← processing (args.value "processing_mode")
  let text ← tokenOr (orEmpty (args.value "text")) (args.value "token_preset")
  if (args.value "include_styled_text").truthy && styledInsertions.contains action then
    let (text, rtf) ← styled text (args.value "rtf_content")
    return .step (.insertText text action mode rtf)
  else return .step (.insertText (Slot.ofJson text) action mode none)

/-- Inserting a text. -/
def insertText : Builder where
  name := "InsertText"
  parameters := [emptyText "text", nullable "token_preset", withDefault "action" (.str "ByTyping"),
    nullable "processing_mode", flag "include_styled_text" false, nullable "rtf_content"]
  build args := insertion args (args.value "action")

/-- Showing a text for a moment. -/
def displayBriefly : Builder where
  name := "DisplayTextBriefly"
  parameters := [emptyText "text", nullable "token_preset", nullable "processing_mode"]
  build args := insertion args (.str "DisplayBriefly")

/-- Showing a text in a window. -/
def displayWindow : Builder where
  name := "DisplayTextWindow"
  parameters := [emptyText "text", nullable "token_preset", nullable "processing_mode",
    flag "include_styled_text" false, nullable "rtf_content"]
  build args := insertion args (.str "DisplayWindow")

/-- Setting a clipboard to a text. -/
def setClipboard : Builder where
  name := "SetClipboardToText"
  parameters := [emptyText "text", nullable "preset_mode", nullable "processing_mode",
    flag "include_styled_text" false, nullable "rtf_content", nullable "destination"] ++
    Parameter.failure
  build args := do
    let mode ← processing (args.value "processing_mode")
    let text ← presetOr (orEmpty (args.value "text")) (args.value "preset_mode")
    let (text, rtf) ← if (args.value "include_styled_text").truthy then
        styled text (args.value "rtf_content")
      else pure (Slot.ofJson text, none)
    let destination ← inParameter "clipboard destination"
      (Argument.clipboard (args.value "destination"))
    return .step (.setClipboard text mode rtf destination (failure args false))

/-- An editing command, which aborts the macro by default or does not. -/
def editing (command : String) (aborts : Bool) : Builder where
  name := command
  parameters := [Parameter.flag "timeout_aborts" aborts, Parameter.flag "notify_on_timeout" true]
  build args := .ok (.step (.edit command (timeout args)))

/-- Cutting. -/
def cut : Builder := editing "Cut" false

/-- Copying. -/
def copy : Builder := editing "Copy" true

/-- Pasting. -/
def paste : Builder := editing "Paste" false

end MacroScribe.Builder
