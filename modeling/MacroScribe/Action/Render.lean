import MacroScribe.Action.Basic
import MacroScribe.Action.Frame
import MacroScribe.Plist.Writer
/-!
# MacroScribe.Action.Render

The written form of actions. Identifiers are consecutive numbers: each dictionary takes the next one
when it is begun, and the actions inside it take theirs before it is written. Of a conditional, the
`else` branch comes first, as it does in the written form.

Rendering threads the next identifier. A rendering that fails keeps the identifiers that it took.
-/

namespace MacroScribe

/-- A computation that takes identifiers and may fail. -/
abbrev Rendering (α : Type) := ExceptT Fault (StateM Int) α

namespace Rendering

/-- The next identifier. -/
def nextUid : Rendering Int := do
  let n ← get
  set (n + 1)
  return n

/-- A dictionary in written form. -/
def write (entries : List Entry) : Rendering String :=
  ExceptT.mk (pure (Plist.write 0 (.dict entries)))

/-- The frames of a step in written form, each with an identifier of its own. -/
def writeFrames : List Frame → Rendering (List String)
  | [] => return []
  | frame :: rest => do
    let n ← nextUid
    let first ← write (frame n)
    return first :: (← writeFrames rest)

/-- Written dictionaries one after the other. -/
def joined (texts : List String) : String :=
  "\n".intercalate texts

/-- Written actions inside a list. -/
def fragments (texts : List String) : Plist :=
  .array (texts.map .fragment)

end Rendering

open MacroScribe.Rendering MacroScribe.Frame

/-- The entries that precede the cases of a switch. -/
def SwitchSource.leading : SwitchSource → List Entry
  | calculation expression => [("Calculation", expression.compactLeaf)]
  | _ => []

/-- The entries that follow the type of a switch. -/
def SwitchSource.trailing : SwitchSource → List Entry
  | variableNamed name => Frame.text "Source" "Variable" ++ [("Variable", name.compactLeaf)]
  | text s processing =>
    Frame.text "Source" "Text" ++ textEntries s (processing.map Plist.text)
  | environment name => Frame.text "Source" "EnvironmentVariable" ++ [("Text", name.compactLeaf)]
  | namedClipboard which =>
    Frame.text "Source" "NamedClipboard" ++
      match which with
      | none => []
      | some (uid, name) =>
        slot "ClipboardSourceNamedClipboardUID" uid ++
          Frame.text "ClipboardSourceNamedClipboardRedundantDisplayName" name
  | calculation _ => Frame.text "Source" "Calculation"
  | file path => [("Path", path.compactLeaf)] ++ Frame.text "Source" "File"
  | other name => Frame.text "Source" name

namespace Frame

/-- A group around its actions. -/
def group (name : Slot) (timeout : TimeoutPolicy) (actions : Plist) : Frame := fun n =>
  slot "ActionName" name ++ uid n ++ [("Actions", actions)] ++ type "Group" ++ timeout.entries

/-- A switch around its cases. -/
def switch (source : SwitchSource) (cases : Plist) : Frame := fun n =>
  uid n ++ source.leading ++ [("CaseEntries", cases)] ++ type "Switch" ++ source.trailing

/-- The entries of a case around its actions. A case has no identifier. -/
def switchCase (operator : String) (testValue : Slot) (actions : Plist) : List Entry :=
  [("Actions", actions)] ++ text "ConditionType" operator ++
    [("TestValue", testValue.compactLeaf)]

/-- A conditional around the actions of its branches. -/
def ifThenElse (conditions : Plist) (aborts : Bool) (elseActions thenActions : Plist) : Frame :=
  fun n =>
    uid n ++ [("Conditions", conditions), ("ElseActions", elseActions)] ++ type "IfThenElse" ++
      [("ThenActions", thenActions)] ++ flag "TimeOutAbortsMacro" aborts

/-- A loop around its actions. -/
def whileLoop (conditions : Plist) (aborts : Bool) (notify : Option Bool) (actions : Plist) :
    Frame := fun n =>
  uid n ++ [("Actions", actions), ("Conditions", conditions)] ++ type "While" ++
    optionalEntry "NotifyOnTimeOut" (notify.map .bool) ++ flag "TimeOutAbortsMacro" aborts

end Frame

mutual

/-- The written form of an action: one dictionary or several on lines of their own. -/
def Action.render : Action → Rendering String
  | .step s => do return joined (← writeFrames s.frames)
  | .group name actions timeout => do
    let n ← nextUid
    let children ← renderEach actions
    write (Frame.group name timeout (fragments children) n)
  | .switch source cases => do
    let n ← nextUid
    let children ← renderCases cases
    write (Frame.switch source (.array children) n)
  | .ifThenElse conditions thenActions elseActions aborts => do
    let n ← nextUid
    let elseChildren ← renderEach elseActions
    let thenChildren ← renderEach thenActions
    write (Frame.ifThenElse conditions aborts (fragments elseChildren) (fragments thenChildren) n)
  | .whileLoop conditions actions aborts notify => do
    let n ← nextUid
    let children ← renderEach actions
    write (Frame.whileLoop conditions aborts notify (fragments children) n)

/-- The written form of each action. -/
def renderEach : List Action → Rendering (List String)
  | [] => return []
  | a :: rest => do
    let first ← a.render
    return first :: (← renderEach rest)

/-- The cases of a switch, with their actions in written form. -/
def renderCases : List SwitchCase → Rendering (List Plist)
  | [] => return []
  | .mk operator testValue actions :: rest => do
    let children ← renderEach actions
    return .dict (Frame.switchCase operator testValue (fragments children)) ::
      (← renderCases rest)

end

/-- Actions in written form, one after the other. -/
def renderActions (actions : List Action) : Rendering String := do
  return joined (← renderEach actions)

end MacroScribe
