import MacroScribe.Engine.Basic
/-!
# MacroScribe.Export

Generating a macro: its actions are written, and besides being given back the result may be shown in
a window, written to a file, or imported into a group of macros. A file and an import need the
envelope around the actions. The identifiers of the actions come from a source that the caller may
share with others (`generateFrom`), or from a new one (`generate`).
-/

namespace MacroScribe

/-- Where a macro goes. -/
structure ExportTarget where
  /-- It is shown in a window. -/
  display : Bool
  /-- It is written to a file. -/
  filePath : Option Slot
  /-- It is imported into a group. -/
  group : Option Slot

namespace ExportTarget

/-- Nowhere. -/
def none : ExportTarget := ⟨false, .none, .none⟩

/-- The target that a mapping describes. -/
def ofFields (fields : Fields Data) : Outcome ExportTarget := do
  knownRecordFields "ExportTarget.__init__"
    ["display_in_text_window", "file_path", "to_km_group"] fields
  return { display := (fields.value "display_in_text_window").truthy
           filePath := Slot.given? (fields.value "file_path")
           group := Slot.given? (fields.value "to_km_group") }

/-- The result needs its envelope. -/
def needsEnvelope (t : ExportTarget) : Bool :=
  t.filePath.isSome || t.group.isSome

/-- The engine is needed. -/
def needsEngine (t : ExportTarget) : Bool :=
  t.display || t.group.isSome

end ExportTarget

namespace Export

/-- The ending of the names of macro files. -/
def ending : String := ".kmmacros"

/-- The name of a macro file, with its ending. -/
def fileName (path : String) : String :=
  if ending.toList.isSuffixOf path.toList then path else path ++ ending

/-- The text of a slot. -/
def textOf : Slot → Work String
  | .text s => return s
  | .broken cause => throw (.misuse cause)

/-- Writes a macro file. -/
def writeFile (xml : String) (path : Slot) : Work Unit := do
  Work.saveFile (fileName (← textOf path)) xml

/-- A request to generate a macro. -/
structure Request where
  actions : List Action
  envelope : Bool
  target : ExportTarget
  name : Slot
  /-- The first identifier; the clock gives one if it is not set. -/
  start : Option Int

/-- The label of an importable document that is made now. -/
def newLabel (name group : Slot) : Work Assembly.Label := do
  let date := Assembly.documentDate (← get).clock
  let nameUid ← Work.drawUuid
  let groupUid ← Work.drawUuid
  return ⟨group, name, .text groupUid, .text nameUid, .real date⟩

/-- Imports a macro into a group, in place of the one that has its name. The document is a temporary
file while the editor reads it. -/
def importInto (c : EngineConfig) (body : String) (name group : Slot) : Work Unit := do
  let xml ← Work.ofOutcome (Assembly.importable (← newLabel name group) body)
  let path := (← get).scratch
  Work.makeFile path
  Work.andFinally (do
      Work.fillFile path xml
      let _ ← Engine.delete c (.str (← textOf name))
      Engine.importFile c (.str path))
    fun host => { host with files := host.files.remove (host.files.place path) }

/-- What the macro that shows a text is called. -/
def displayLabel : String := "Display Generated XML"

/-- Shows a text in a window of the engine. -/
def display (c : EngineConfig) (xml : String) : Work Unit := do
  let step := Step.insertText (.text xml) "DisplayWindow" (some "Nothing") none
  let _ ← Engine.run c ⟨[.step step], displayLabel, none, false, none⟩

/-- Work with a source of identifiers, which gives the next one. Failing leaves the source where it
is by then. -/
abbrev Drawing (α : Type) := ExceptT Fault (StateT Int (StateM Host)) α

/-- Renders with the identifiers of the source. -/
def Drawing.rendering {α : Type} (r : Rendering α) : Drawing α :=
  ExceptT.mk fun next => return r.run next

/-- Work that draws no identifiers from the source. -/
def Drawing.working {α : Type} (work : Work α) : Drawing α :=
  ExceptT.mk fun next => return (← work.run, next)

/-- What is given back if the actions are written like this. -/
def Request.result (r : Request) (body : String) : String :=
  if r.envelope || r.target.needsEnvelope then Plist.wrap body else body

/-- Brings actions that are written like this to where they go, and gives the result back. -/
def deliver (c : EngineConfig) (r : Request) (body : String) : Work String := do
  let xml := r.result body
  if r.target.display then display c xml
  if let some path := r.target.filePath then writeFile xml path
  if let some group := r.target.group then importInto c body r.name group
  return xml

/-- Generates a macro with the identifiers of a source and gives the result back. -/
def generateFrom (c : EngineConfig) (r : Request) : Drawing String := do
  let body ← Drawing.rendering (renderActions r.actions)
  Drawing.working (deliver c r body)

/-- Generates a macro with the identifiers of a source of its own. -/
def generate (c : EngineConfig) (r : Request) : Work String :=
  ExceptT.mk do
    let start := r.start.getD (← get).second
    let (result, _) ← (generateFrom c r).run.run start
    return result

end Export
end MacroScribe
