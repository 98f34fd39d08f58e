import MacroScribe.CommandLine.Reading
/-!
# MacroScribe.CommandLine.Invocation

The commands of the program and their settings.
-/

namespace MacroScribe.CommandLine

/-- What to do with a macro document. -/
structure RenderCommand where
  file : String
  /-- The envelope is asked for. -/
  envelope : Bool
  /-- The file to write to. -/
  output : Option String
  /-- The group to import into; the empty name leaves it to the document. -/
  group : Option String
  display : Bool
  run : Bool
  /-- The first identifier. -/
  start : Option Int
  deriving Repr, DecidableEq

/-- A command. -/
inductive Command where
  | render (c : RenderCommand)
  /-- Shows the normal form of a shortcut, or of a key code. -/
  | keystroke (spec : String) (isCode : Bool)
  /-- Lists the token presets whose names begin with a text. -/
  | tokens (start : Option String)
  deriving Repr, DecidableEq

/-- How the program is called. -/
structure Invocation where
  config : Option String
  verbose : Bool
  command : Option Command
  deriving Repr, DecidableEq

namespace Command

/-- The settings of `render`. -/
def renderSettings : List Setting :=
  [.help, ⟨"--wrap", none, .nothing⟩, ⟨"--output", none, .word⟩,
   ⟨"--group", none, .wordOrNothing⟩, ⟨"--display", none, .nothing⟩, ⟨"--run", none, .nothing⟩,
   ⟨"--uid-seed", none, .numeral⟩]

/-- The settings of `keystroke`. -/
def keystrokeSettings : List Setting :=
  [.help, ⟨"--raw", none, .nothing⟩]

/-- The settings of `tokens`. -/
def tokensSettings : List Setting :=
  [.help]

/-- The command `render`. -/
def ofRender (file : String) (r : Reading) : Command :=
  .render
    { file
      envelope := r.has "--wrap"
      output := r.value? "--output"
      group := r.value? "--group"
      display := r.has "--display"
      run := r.has "--run"
      start := (r.value? "--uid-seed").bind fun s => (integerOfText s).toOption }

/-- An operand that has to be given. -/
def required (r : Reading) : Except Stop String :=
  match r.operand with
  | some text => .ok text
  | none => .error .wrong

/-- The command of a name, and whether there are superfluous words. -/
def ofWords (name : String) (words : List String) : Except Stop (Command × Bool) :=
  if name = "render" then do
    let r ← Reading.ofWords renderSettings false words
    return (ofRender (← required r) r, r.surplus)
  else if name = "keystroke" then do
    let r ← Reading.ofWords keystrokeSettings false words
    return (.keystroke (← required r) (r.has "--raw"), r.surplus)
  else if name = "tokens" then do
    let r ← Reading.ofWords tokensSettings false words
    return (.tokens r.operand, r.surplus)
  else .error .wrong

end Command

namespace Invocation

/-- The settings that precede the command. -/
def settings : List Setting :=
  [.help, ⟨"--config", none, .word⟩, ⟨"--verbose", some 'v', .nothing⟩]

/-- The call of the program with a command that has been read. -/
def finish (r : Reading) (command : Option Command) (surplus : Bool) : Except Stop Invocation :=
  if r.surplus || surplus then .error .wrong
  else .ok { config := r.value? "--config", verbose := r.has "--verbose", command }

/-- The call of the program that some words are. -/
def ofWords (words : List String) : Except Stop Invocation := do
  let r ← Reading.ofWords settings true words
  match r.operand with
  | none => finish r none false
  | some name =>
    let (command, surplus) ← Command.ofWords name r.rest
    finish r (some command) surplus

end Invocation
end MacroScribe.CommandLine
