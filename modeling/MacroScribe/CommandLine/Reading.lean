import MacroScribe.CommandLine.Word
import MacroScribe.Json.View
/-!
# MacroScribe.CommandLine.Reading

Reading the words of a command in their order: settings with what follows them, and one operand.
Reading stops as soon as help is asked for or a setting is wrong; superfluous words are only
reported at the end.
-/

namespace MacroScribe.CommandLine

/-- What has been read. -/
structure Reading where
  /-- The settings by their names, with what followed them. -/
  values : Fields String
  operand : Option String
  /-- The words after the operand, if it takes them all. -/
  rest : List String
  /-- There are words that belong to nothing. -/
  surplus : Bool

namespace Reading

/-- Nothing has been read. -/
def empty : Reading := ⟨[], none, [], false⟩

/-- The setting was given. -/
def has (r : Reading) (name : String) : Bool :=
  r.values.has name

/-- What followed the setting when it was given last. -/
def value? (r : Reading) (name : String) : Option String :=
  r.values.get? name

/-- Takes up a setting and what follows it. -/
def note (s : Setting) (value : String) (r : Reading) : Except Stop Reading :=
  if s = .help then .error .help
  else if s.takes = .numeral ∧ (integerOfText value).toOption.isNone then .error .wrong
  else .ok { r with values := r.values.put s.name value }

/-- Takes up a setting with something attached by an equals sign. -/
def noteAttached (s : Setting) (attached : String) (r : Reading) : Except Stop Reading :=
  if s.takes = .nothing then .error .wrong else note s attached r

/-- The settings of letters that follow each other, and whether something follows that is no letter
of a setting. Nothing may be attached to a letter by an equals sign, and no hyphen follows one. -/
def settingsOfLetters (settings : List Setting) : List Char → Except Stop (List Setting × Bool)
  | [] => .ok ([], false)
  | c :: rest =>
    if c = '-' then .error .wrong
    else
      match settings.find? (·.letter == some c) with
      | none => .ok ([], true)
      | some s => do
        if rest.head? = some '=' then throw .wrong
        let (more, surplus) ← settingsOfLetters settings rest
        return (s :: more, surplus)

/-- Takes up a setting and those of the letters that follow its letter, once all of them are known.
-/
def noteLetters (settings : List Setting) (s : Setting) (more : List Char) (r : Reading) :
    Except Stop Reading := do
  let (others, surplus) ← settingsOfLetters settings more
  (s :: others).foldlM (fun r s => note s "" r) { r with surplus := r.surplus || surplus }

/-- Takes up a word that may be the operand. -/
def noteOperand (text : String) (r : Reading) : Reading :=
  if r.operand.isNone then { r with operand := some text } else { r with surplus := true }

/-- Reads words. With `takesAll` the operand takes all words after it; otherwise a divider may stand
beside the operand, and nowhere else. -/
def read (settings : List Setting) (takesAll : Bool) (r : Reading) :
    List Word → Except Stop Reading
  | [] => .ok r
  | .unknown _ :: rest => read settings takesAll { r with surplus := true } rest
  | .setting _ s (some attached) :: rest => do
    read settings takesAll (← noteAttached s attached r) rest
  | .letters _ s more :: rest => do
    read settings takesAll (← noteLetters settings s more r) rest
  | .setting _ s none :: .plain value :: rest => do
    if s.takes = .nothing then
      read settings takesAll (← note s "" r) (.plain value :: rest)
    else read settings takesAll (← note s value r) rest
  | .setting _ s none :: rest => do
    if s.takes = .nothing ∨ s.takes = .wordOrNothing then
      read settings takesAll (← note s "" r) rest
    else .error .wrong
  | .plain text :: .divider :: rest =>
    if takesAll then .ok { r with operand := some text, rest := (.divider :: rest).map Word.text }
    else read settings takesAll (noteOperand text r) rest
  | .plain text :: rest =>
    if takesAll then .ok { r with operand := some text, rest := rest.map Word.text }
    else read settings takesAll (noteOperand text r) rest
  | .divider :: .plain text :: rest =>
    if takesAll then .error .wrong
    else read settings takesAll (noteOperand text r) rest
  | .divider :: rest =>
    if takesAll then .error .wrong
    else read settings takesAll { r with surplus := r.surplus || r.operand.isSome } rest
  termination_by words => words.length

/-- Reads the words of a command. -/
def ofWords (settings : List Setting) (takesAll : Bool) (words : List String) :
    Except Stop Reading := do
  read settings takesAll empty (← Word.classifyAll settings words)

end Reading
end MacroScribe.CommandLine
