import MacroScribe.CommandLine.Invocation
import MacroScribe.Document.Basic
import MacroScribe.Export
/-!
# MacroScribe.CommandLine.Basic

Running a command. The result is printed on the output, remarks about it on the error output, and
the exit status is 0, 1 if something failed, or 2 if the words are no command.

Each step of a command reports the failures that belong to it, such as those of its input; any other
failure is one of the whole run.
-/

namespace MacroScribe.CommandLine

/-- How running the program ends. -/
structure Result where
  status : Nat
  /-- What is printed on the output. -/
  output : String
  /-- The lines that are printed on the error output. -/
  remarks : List String
  /-- The failure that the remarks report. -/
  failure : Option Fault

namespace Result

/-- A result without remarks. -/
def printed (output : String) : Result := ⟨0, output, [], none⟩

/-- A failure that is reported. -/
def failed (f : Fault) : Result := ⟨1, "", [s!"Error: {f.message}"], some f⟩

end Result

/-- The summary of all commands. -/
def usage : String :=
  "usage: macroscribe [--config FILE] [--verbose] COMMAND ...\n\n" ++
  "commands:\n" ++
  "  render FILE [--wrap] [--output FILE] [--group [NAME]] [--display] [--run] [--uid-seed N]\n" ++
  "  keystroke SPEC [--raw]\n" ++
  "  tokens [TEXT]\n"

/-- Goes on with the result of a step. Its failures of some kinds are reported. -/
def reporting {α : Type} (kinds : Kind → Bool) (work : Work α) (next : α → Work Result) :
    Work Result := do
  match ← Work.attempt work with
  | .ok x => next x
  | .error f => if kinds f.kind then return .failed f else throw f

/-- The kinds of failure that an input file can cause. -/
def ofInput (kind : Kind) : Bool :=
  kind.isValue || kind == .missingFile

/-- The kinds of failure that the engine can cause. -/
def ofEngine (kind : Kind) : Bool :=
  kind == .engine || kind == .missingFile

/-- The group to import into: the one that is named, that of the document, or that of the
configuration. -/
def groupOf (config : Config) (group : Option String) (doc : MacroDocument) : Data :=
  match group with
  | none => .null
  | some "" => if doc.group.truthy then doc.group else config.exporting.groupName
  | some name => .str name

/-- What a document gave and, if it was run, how that went. -/
def generate (config : Config) (c : RenderCommand) (doc : MacroDocument) (group : Data) :
    Work (String × Option RunReport) := do
  let target : ExportTarget := ⟨c.display, c.output.bind fun s => Slot.given? (.str s : Data),
    Slot.given? group⟩
  let xml ← Export.generate config.engine
    ⟨doc.actions, c.envelope, target, .text doc.name, c.start.or config.start?⟩
  if c.run then
    return (xml, some (← Engine.run config.engine ⟨doc.actions, doc.name, none, false, none⟩))
  else return (xml, none)

/-- The remarks about a document that was written or imported. -/
def remarks (c : RenderCommand) (doc : MacroDocument) (group : Data) : List String :=
  ((c.output.filter (· != "")).map fun path => s!"  ✓ Saved:    {path}").toList ++
    if group.truthy then
      [s!"  ✓ Imported: {Text.quoteString doc.name} into group {group.quotedText}"]
    else []

/-- Writes the actions of a document. The result is printed unless it goes to a file. -/
def render (config : Config) (verbose : Bool) (c : RenderCommand) : Work Result :=
  reporting ofInput (do Work.ofOutcome (MacroDocument.load (← get).files c.file)) fun doc =>
    let group := groupOf config c.group doc
    reporting ofEngine (generate config c doc group) fun (xml, report) =>
      match report.filter (!·.success) with
      | some report => return ⟨1, "", report.errors.map ("  engine: " ++ ·), none⟩
      | none =>
        let isPrinted := verbose || (c.output.filter (· != "")).isNone
        return ⟨0, if isPrinted then xml ++ "\n" else "", remarks c doc group, none⟩

/-- Shows the normal form of a keystroke. -/
def keystroke (spec : String) (isCode : Bool) : Work Result :=
  let found : Outcome Keystroke := do
    Keystroke.normalize (← if isCode then .code <$> integerOfText spec else .ok (.shortcut spec))
  reporting Kind.isValue (Work.ofOutcome found) fun k =>
    return .printed ((Json.obj k.toFields : Data).writeString ++ "\n")

/-- A text filled up with blanks. -/
def padded (width : Nat) (s : String) : String :=
  s ++ String.ofList (List.replicate (width - s.length) ' ')

/-- Lists token presets, each with its token on a line. -/
def tokens (start : Option String) : Result :=
  .printed (String.join ((Token.list (start.getD "")).map fun (name, token) =>
    padded 40 name ++ " " ++ token ++ "\n"))

/-- Runs a command. -/
def Command.run (config : Config) (verbose : Bool) : Command → Work Result
  | .render c => CommandLine.render config verbose c
  | .keystroke spec isCode => CommandLine.keystroke spec isCode
  | .tokens start => return CommandLine.tokens start

/-- Runs the program. Its directory is `root`. -/
def run (root : String) (words : List String) : Work Result :=
  match Invocation.ofWords words with
  | .error .help => return .printed usage
  | .error .wrong => return ⟨2, "", [usage], none⟩
  | .ok call =>
    match call.command with
    | none => return ⟨1, usage, [], none⟩
    | some command =>
      reporting ofInput (do Work.ofOutcome (Config.loadOr root (← get).files call.config))
        fun config => command.run config call.verbose

end MacroScribe.CommandLine
