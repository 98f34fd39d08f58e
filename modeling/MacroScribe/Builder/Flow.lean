import MacroScribe.Builder.Option
/-!
# MacroScribe.Builder.Flow

Builders of the actions that steer a macro: pauses, ways of stopping, comments and results.
-/

namespace MacroScribe.Builder

open Parameter

/-- Waiting for a while. -/
def pause : Builder where
  name := "Pause"
  parameters := [nullable "time", nullable "unit"]
  build args := do
    let time := args.value "time"
    let unit := args.value "unit"
    if time.isNull ∧ ¬ unit.isNull then invalid .unitWithoutTime
    else
      let unit ← optionalChoice "pause unit" ["Hours", "Minutes", "Seconds", "Hundredths"] unit
      return .step (.pause (if time.isNull then "0.05" else time.expression) unit)

/-- The ways of stopping. -/
def cancelTypes : List String :=
  ["CancelAllMacros", "CancelAllOtherMacros", "CancelThisMacro", "CancelJustThisMacro",
   "CancelSpecificMacro", "RetryThisLoop", "ContinueLoop", "BreakFromLoop"]

/-- Stopping in one of several ways. -/
def cancel : Builder where
  name := "Cancel"
  parameters := [withDefault "cancel_type" (.str "CancelThisMacro"), nullable "instance"]
  build args := do
    let type ← choice "cancel type" cancelTypes (args.value "cancel_type")
    let target := args.value "instance"
    if type = "CancelSpecificMacro" then
      if target.truthy then return .step (.cancel type (some (Slot.ofJson target)))
      else invalid .cancelWithoutInstance
    else return .step (.cancel type none)

/-- Stopping in a fixed way. -/
def cancelling (name type : String) : Builder where
  name := name
  parameters := []
  build _ := .ok (.step (.cancel type none))

/-- Leaving the loop. -/
def breakFromLoop : Builder := cancelling "BreakFromLoop" "BreakFromLoop"

/-- Going on with the next round of the loop. -/
def continueLoop : Builder := cancelling "ContinueLoop" "ContinueLoop"

/-- Starting the round of the loop again. -/
def retryThisLoop : Builder := cancelling "RetryThisLoop" "RetryThisLoop"

/-- The result of a macro. -/
def returnText : Builder where
  name := "Return"
  parameters := [emptyText "text", nullable "token_preset"]
  build args := do
    let text ← tokenOr (orEmpty (args.value "text")) (args.value "token_preset")
    return .step (.returnText (Slot.ofJson text))

/-- A comment, from a document or a plain text. -/
def comment : Builder where
  name := "Comment"
  parameters := [required "title", emptyText "text", nullable "rtf_content"]
  build args := do
    let title := Slot.ofJson (args.value "title")
    let rtf := args.value "rtf_content"
    if rtf.truthy then return .step (.comment title (Slot.ofJson rtf))
    else
      match (args.value "text").str? with
      | some s => return .step (.comment title (.text (String.ofList (Rtf.ofText s.toList))))
      | none => misused .notText

end MacroScribe.Builder
