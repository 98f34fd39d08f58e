import MacroScribe.Action.Basic
import MacroScribe.Json.View
/-!
# MacroScribe.Part.Basic

The parts that may be given ready-made to the builders of actions: other actions, the cases of a
switch, applications, screen areas and clipboards. An *argument* is JSON data with parts in it.
-/

namespace MacroScribe

/-- A ready-made part. -/
inductive Part where
  | action (a : Action)
  /-- A case of a switch, or what is wrong with it. -/
  | switchCase (c : Outcome SwitchCase)
  | application (app : Application)
  | area (area : ScreenArea)
  | clipboard (c : Clipboard)

instance : Described Part where
  typeName
    | .action _ => "VirtualAction"
    | .switchCase _ => "CaseEntry"
    | .application _ => "SpecificApp"
    | .area _ => "ScreenArea"
    | .clipboard _ => "NamedClipboard"

/-- What is given for a parameter. -/
abbrev Argument := Json Part

namespace Argument

/-- The application that an argument describes; null is the front one. -/
def application (v : Argument) : Outcome Application :=
  match v with
  | .null => .ok .front
  | .embed (.application app) => .ok app
  | .obj fields => Application.ofFields fields
  | v => .error (.part (.notApplication v.typeName))

/-- The screen area that an argument describes; null is none. -/
def area (v : Argument) : Outcome (Option ScreenArea) :=
  match v with
  | .null => .ok none
  | .embed (.area area) => .ok (some area)
  | .str type => some <$> ScreenArea.ofFields [("type", (.str type : Argument))]
  | .obj fields => some <$> ScreenArea.ofFields fields
  | v => .error (.part (.notArea v.typeName))

/-- The clipboard that an argument describes; null is that of the system. -/
def clipboard (v : Argument) : Outcome Clipboard :=
  match v with
  | .null => .ok .system
  | .embed (.clipboard c) => .ok c
  | .obj fields => Clipboard.ofFields fields
  | v =>
    if v.str? = some Clipboard.triggerWord then .ok .trigger
    else .error (.part (.notClipboard v.quotedText))

/-- The action that an argument is. -/
def action? : Argument → Option Action
  | .embed (.action a) => some a
  | _ => none

end Argument
end MacroScribe
