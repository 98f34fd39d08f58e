import MacroScribe.Files.Reading
import MacroScribe.Json.View
/-!
# MacroScribe.Config

The configuration: how the engine is reached, where macros are exported to, and how identifiers
start. Each setting has a default. A setting is taken over as it is given; only the time limit has
to be a number and the first identifier an integer.
-/

namespace MacroScribe

/-- How the engine is reached. -/
structure EngineConfig where
  osascript : Data
  engineApp : Data
  editorApp : Data
  logPath : Data
  timeout : Data

/-- Where macros are exported to. -/
structure ExportConfig where
  outputDir : Data
  nameOfMacro : Data
  groupName : Data

/-- The configuration. -/
structure Config where
  engine : EngineConfig
  exporting : ExportConfig
  /-- The first identifier; null leaves it to the clock. -/
  uidSeed : Data

namespace EngineConfig

/-- The names of the settings. -/
def names : List String :=
  ["osascript", "engine_app", "editor_app", "log_path", "timeout_s"]

/-- The settings that are given, and the defaults of the others. -/
def ofFields (fields : Fields Data) : EngineConfig where
  osascript := (fields.get? "osascript").getD (.str "osascript")
  engineApp := (fields.get? "engine_app").getD (.str "Keyboard Maestro Engine")
  editorApp := (fields.get? "editor_app").getD (.str "Keyboard Maestro")
  logPath := (fields.get? "log_path").getD (.str "~/Library/Logs/Keyboard Maestro/Engine.log")
  timeout := (fields.get? "timeout_s").getD (.float 30.0)

/-- The default settings. -/
def standard : EngineConfig := ofFields []

/-- A path that is given as a text, with a home directory put in. -/
def expanded (homes : Fields String) (path : Data) : Outcome String :=
  match path.str? with
  | some s => .ok (Path.expandHome homes s)
  | none => misused (.notName path.typeName)

/-- The path of the log. -/
def resolvedLogPath (c : EngineConfig) (homes : Fields String) : Outcome String :=
  expanded homes c.logPath

end EngineConfig

namespace ExportConfig

/-- The names of the settings. -/
def names : List String :=
  ["output_dir", "macro_name", "group_name"]

/-- The settings that are given, and the defaults of the others. The directory of the program is
`root`. -/
def ofFields (root : String) (fields : Fields Data) : ExportConfig where
  outputDir := (fields.get? "output_dir").getD (.str (Path.inside root "output"))
  nameOfMacro := (fields.get? "macro_name").getD (.str "Generated Macro")
  groupName := (fields.get? "group_name").getD (.str "kmforge")

/-- The directory to which macros are exported. -/
def resolvedOutputDir (c : ExportConfig) (root : String) (homes : Fields String) :
    Outcome String := do
  return Path.inside root (← EngineConfig.expanded homes c.outputDir)

end ExportConfig

namespace Config

/-- The failure of a configuration. -/
def invalid {α : Type} (f : ConfigFault) : Outcome α :=
  .error (.config f)

/-- A section of a configuration; one that does not count as given is empty. -/
def section? (path : String) (fields : Fields Data) (name : String) : Outcome (Fields Data) :=
  let v := fields.value name
  if !v.truthy then .ok []
  else
    match v with
    | .obj fields => .ok fields
    | _ => invalid (.sectionNotMapping name path)

/-- A section that only holds settings of these names. -/
def settings (path : String) (fields : Fields Data) (name : String) (names : List String) :
    Outcome (Fields Data) := do
  let given ← section? path fields name
  let unknown := (given.keys.filter (!names.contains ·)).mergeSort (fun a b => !(b < a))
  if unknown.isEmpty then return given
  else invalid (.unknownKeys name path (Json.list (unknown.map .str) : Data).quotedText)

/-- The first identifier may be left to the clock. -/
def checkSeed (path : String) (seed : Data) : Outcome Unit :=
  match seed with
  | .null | .int _ | .bool _ => .ok ()
  | v => invalid (.seedNotInteger path v.quotedText)

/-- The configuration that a mapping describes. -/
def ofFields (root path : String) (fields : Fields Data) : Outcome Config := do
  let engine := EngineConfig.ofFields (← settings path fields "engine" EngineConfig.names)
  let timeout ← engine.timeout.toFloat
  let seed := (← settings path fields "render" ["uid_seed"]).value "uid_seed"
  checkSeed path seed
  let exported ← settings path fields "export" ExportConfig.names
  return { engine := { engine with timeout := .float timeout }
           exporting := ExportConfig.ofFields root exported
           uidSeed := seed }

/-- The configuration that comes with the program. -/
def shipped : Config where
  engine := EngineConfig.standard
  exporting := ExportConfig.ofFields "" [("output_dir", .str "output")]
  uidSeed := .null

/-- The first identifier that is set; true and false stand for one and zero. -/
def start? (c : Config) : Option Int :=
  match c.uidSeed with
  | .int n => some n
  | .bool b => some (if b then 1 else 0)
  | _ => none

/-- The configuration in a file. -/
def load (root : String) (files : Files) (path : String) : Outcome Config := do
  let shown := Path.clean path
  match ← files.readData .yaml path with
  | .absent => invalid (.missing shown)
  | .unreadable => invalid (.unparsable shown)
  | .data .null => ofFields root shown []
  | .data (.obj fields) => ofFields root shown fields
  | .data _ => invalid (.notMapping shown)

/-- The configuration in a file, or the one that comes with the program if no file is named. -/
def loadOr (root : String) (files : Files) (path : Option String) : Outcome Config :=
  match path.filter (· != "") with
  | none => .ok shipped
  | some path => load root files path

end Config
end MacroScribe
