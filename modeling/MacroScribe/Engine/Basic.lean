import MacroScribe.Assembly
import MacroScribe.Config
import MacroScribe.Engine.Log
import MacroScribe.Engine.Script
import MacroScribe.Json.Writer
/-!
# MacroScribe.Engine.Basic

What can be asked of the engine and of its editor: to run actions, to run, import and delete macros,
and to read and set variables. Each request is a script for a program, and the way in which the
program ends tells how it went.

When actions are run, failures also show in the log of the engine. They are part of the report,
unless a result is asked for: then a program that fails makes the request fail.
-/

namespace MacroScribe

/-- How running actions went. -/
structure RunReport where
  success : Bool
  output : String
  errors : List String
  deriving Repr, DecidableEq

namespace Engine

/-- The failure of the engine. -/
def failed {α : Type} (f : EngineFault) : Work α :=
  throw (.engine f)

/-- A text without the white space around it. -/
def stripped (s : String) : String :=
  String.ofList (Text.strip s.toList)

/-- The text that a setting or an argument has to be. -/
def textOf (v : Data) : Work String :=
  match v.str? with
  | some s => return s
  | none => throw (.misuse .notText)

/-- What a program printed. -/
structure Printed where
  status : Int
  output : String
  errors : String
  deriving Repr, DecidableEq

/-- Calls the program with some arguments, if they can be passed on to it. A name that no program
can have is the name of a missing one. -/
def callProgram (c : EngineConfig) (args : List String) : Work Printed := do
  match c.osascript.str? with
  | none => throw (.misuse (.notName c.osascript.typeName))
  | some program =>
    if let some cause := args.findSome? (← get).objection? then throw (.misuse cause)
    match ← Work.call (program :: args) c.timeout.quotedText with
    | .finished status output errors => return ⟨status, output, errors⟩
    | .timedOut => failed (.timedOut c.timeout.plainText)
    | .missing => throw (.misuse (.missingProgram "osascript"))

/-- Runs a script in the dialect of the engine. -/
def runJxa (c : EngineConfig) (script : String) : Work Printed :=
  callProgram c ["-l", "JavaScript", "-e", script]

/-- Runs a script in the dialect of the editor. -/
def runAppleScript (c : EngineConfig) (script : String) : Work Printed :=
  callProgram c ["-e", script]

/-- What a program that ran actions says about a failure. -/
def complaint? (p : Printed) : Option String :=
  let errors := stripped p.errors
  if errors ≠ "" then some errors
  else if p.status ≠ 0 then
    some s!"osascript exited with status {String.ofList (Decimal.intText p.status)}"
  else none

/-- What actions are called that have no name. -/
def unnamed : String := "virtual macro"

/-- A request to run actions. -/
structure RunRequest where
  actions : List Action
  /-- What to call the actions in messages. -/
  label : String
  /-- What the actions return. -/
  returned : Option Slot
  /-- The result is asked for. -/
  captures : Bool
  /-- The first identifier; the clock gives one if it is not set. -/
  start : Option Int

/-- Runs actions once. -/
def run (c : EngineConfig) (r : RunRequest) : Work RunReport := do
  if r.actions.isEmpty && r.returned.isNone then return ⟨true, "", []⟩
  else
    let host ← get
    let xml ← Work.ofOutcome
      ((Assembly.ephemeral r.actions r.returned).run (r.start.getD host.second)).1
    let app := c.engineApp.writeString
    let document := (Json.str xml : Data).writeString
    let script := if r.captures then Script.runDocumentForResult app document
      else Script.runDocument app document
    let path ← Work.ofOutcome (c.resolvedLogPath host.homes)
    let log ← Work.ofOutcome (EngineLog.follow host.files path)
    let printed ← runJxa c script
    match complaint? printed with
    | some message =>
      if r.captures then failed (.runFailed r.label message)
      else report log printed [message]
    | none => report log printed []
where
  /-- The report, with the failures in the log added to the complaint of the program. -/
  report (log : EngineLog) (printed : Printed) (complaints : List String) : Work RunReport := do
    let host ← get
    let errors := complaints ++ (log.newFailures host.files).map String.ofList
    return ⟨errors.isEmpty, stripped printed.output, errors⟩

/-- The text of the parameter of a macro: mappings are written as JSON. -/
def parameterText (v : Data) : Work String :=
  match v with
  | .obj _ => return v.writeString
  | v => if v.truthy then textOf v else return ""

/-- Runs a macro that the engine knows. -/
def runNamed (c : EngineConfig) (name parameter : Data) : Work String := do
  let app ← textOf c.engineApp
  let name ← textOf name
  let printed ← runJxa c (Script.runNamed app name (← parameterText parameter))
  if printed.status = 0 then return stripped printed.output
  else failed (.macroFailed name (stripped printed.errors))

/-- Imports a file into the editor. -/
def importFile (c : EngineConfig) (path : Data) : Work Unit := do
  let app ← textOf c.editorApp
  let path ← textOf path
  let printed ← runAppleScript c (Script.importFile app path)
  if printed.status = 0 then return ()
  else failed (.importFailed path (stripped printed.errors))

/-- Deletes a macro; says whether the editor did so. -/
def delete (c : EngineConfig) (name : Data) : Work Bool := do
  let app ← textOf c.editorApp
  let name ← textOf name
  let printed ← runAppleScript c (Script.delete app name)
  return printed.status == 0

/-- The instance to which a variable belongs, which instance variables need. -/
def instanceOf (name : String) (given : Data) : Work (Option String) := do
  if !Script.isInstanceVariable name then return none
  else if given.truthy then return some (← textOf given)
  else
    match (← get).instanceId.filter (· != "") with
    | some id => return some id
    | none => failed (.noInstance name)

/-- The value of a variable. -/
def readVariable (c : EngineConfig) (name given : Data) : Work String := do
  let app ← textOf c.engineApp
  let name ← textOf name
  let id ← instanceOf name given
  let printed ← runAppleScript c (Script.readVariable app name id)
  if printed.status = 0 then
    return String.ofList (Text.dropTrailing (· == '\n') printed.output.toList)
  else failed (.readFailed name (stripped printed.errors))

/-- Sets a variable to the text of a value. -/
def writeVariable (c : EngineConfig) (name value given : Data) : Work Unit := do
  let app ← textOf c.engineApp
  let name ← textOf name
  let id ← instanceOf name given
  let printed ← runAppleScript c (Script.writeVariable app name value.plainText id)
  if printed.status = 0 then return ()
  else failed (.writeFailed name (stripped printed.errors))

end Engine
end MacroScribe
