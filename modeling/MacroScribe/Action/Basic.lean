import MacroScribe.Action.Step
/-!
# MacroScribe.Action.Basic

Actions: single steps, and the actions that hold others. The conditions of a composite action are a
property list already.
-/

namespace MacroScribe

/-- What a switch looks at. -/
inductive SwitchSource where
  | variableNamed (name : Slot)
  | text (text : String) (processing : Option String)
  | environment (name : Slot)
  /-- A named clipboard, if it is known which: its identifier and its name. -/
  | namedClipboard (which : Option (Slot × String))
  | calculation (expression : Slot)
  | file (path : Slot)
  /-- A source that its name alone determines. -/
  | other (name : String)
  deriving Repr, DecidableEq

/-- The name of the source of a switch. -/
def SwitchSource.name : SwitchSource → String
  | variableNamed _ => "Variable"
  | text _ _ => "Text"
  | environment _ => "EnvironmentVariable"
  | namedClipboard _ => "NamedClipboard"
  | calculation _ => "Calculation"
  | file _ => "File"
  | other name => name

mutual

/-- An action. -/
inductive Action where
  | step (s : Step)
  | group (name : Slot) (actions : List Action) (timeout : TimeoutPolicy)
  | switch (source : SwitchSource) (cases : List SwitchCase)
  | ifThenElse (conditions : Plist) (thenActions elseActions : List Action) (aborts : Bool)
  | whileLoop (conditions : Plist) (actions : List Action) (aborts : Bool) (notify : Option Bool)

/-- A case of a switch: how the source is compared with which value, and what is done then. -/
inductive SwitchCase where
  | mk (operator : String) (testValue : Slot) (actions : List Action)

end

/-- The type under which the engine knows an action. -/
def Action.typeName : Action → String
  | step s => s.typeName
  | group .. => "Group"
  | switch .. => "Switch"
  | ifThenElse .. => "IfThenElse"
  | whileLoop .. => "While"

end MacroScribe
