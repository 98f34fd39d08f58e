import MacroScribe.Builder.Composite
import MacroScribe.Builder.File
import MacroScribe.Builder.Flow
import MacroScribe.Builder.Interface
import MacroScribe.Builder.Mouse
import MacroScribe.Builder.Notice
import MacroScribe.Builder.Text
/-!
# MacroScribe.Builder.Registry

All builders, and their names. A name may be spelled with other case, and with underscores or
hyphens between its words.
-/

namespace MacroScribe.Builder

/-- The builders in the order of their names. -/
def all : List Builder :=
  [activate, breakFromLoop, cancel, clearTypedStringBuffer, clickAtFoundImage, comment,
   continueLoop, copy, cut, displayBriefly, displayWindow, fileOperation, group, ifThenElse,
   insertText, moveAndClick, notification, openFile, openUrl, paste, pause, playSound, pressButton,
   quit, retryThisLoop, returnText, scrollWheelEvent, selectMenuItem, setClipboard, setVariable,
   calculate, showSpecificApp, showStatusMenu, switch, typeKeystroke, useVariable, whileLoop]

/-- The names of the builders. -/
def names : List String :=
  all.map (·.name)

/-- What remains of a spelling: lower-case letters, without the separators. -/
def plainName (separators : List Char) (spelling : String) : List Char :=
  Text.lower (spelling.toList.filter (!separators.contains ·))

/-- The builder with this name, spelled with those separators. -/
def find? (separators : List Char) (spelling : String) : Option Builder :=
  all.find? fun b => plainName [] b.name == plainName separators spelling

/-- The builder of a name, in any spelling. -/
def ofName (name : Argument) : Outcome Builder :=
  match find? ['_', '-'] name.plainText with
  | some b => .ok b
  | none => invalid (.unknownAction name.plainText names)

/-- The action that the builder of a name makes from parameters. -/
def make (name : Argument) (given : Fields Argument) : Outcome Action := do
  if given.has "kind" then misused (.repeatedField "make" "kind")
  else (← ofName name).apply given

/-- The names of the parameters of a builder. -/
def parameterNames (name : Argument) : Outcome (List String) := do
  return (← ofName name).parameters.map (·.name)

end MacroScribe.Builder
