import MacroScribe.Text.Class
/-!
# MacroScribe.CommandLine.Word

The words of a command line. A word that starts with a hyphen may be a setting. A setting has a name
of several letters, which may be cut short as long as it remains unique, and may have a letter;
letters may follow each other in one word. A value may be attached to a name by an equals sign.

A word of two hyphens, the *divider*, ends the settings: what follows it is plain.
-/

namespace MacroScribe.CommandLine

/-- What follows a setting. -/
inductive Takes where
  | nothing
  | word
  /-- A word that is the numeral of an integer. -/
  | numeral
  /-- A word or nothing. -/
  | wordOrNothing
  deriving Repr, DecidableEq

/-- A setting that a command has. -/
structure Setting where
  /-- The name with its hyphens. -/
  name : String
  /-- The letter; only settings that take nothing have one. -/
  letter : Option Char
  takes : Takes
  deriving Repr, DecidableEq

/-- Why the reading of a command line stops. -/
inductive Stop where
  /-- Help is asked for. -/
  | help
  /-- The words are no command. -/
  | wrong
  deriving Repr, DecidableEq

/-- A word of a command line, and what it is. -/
inductive Word where
  | plain (text : String)
  | divider
  /-- A setting, and what is attached to it by an equals sign. -/
  | setting (text : String) (s : Setting) (attached : Option String)
  /-- A setting given by its letter, and the characters that follow that. -/
  | letters (text : String) (s : Setting) (more : List Char)
  /-- It looks like a setting that there is not. -/
  | unknown (text : String)
  deriving Repr, DecidableEq

/-- How the divider is written. -/
def dividerText : String := "--"

/-- The word as it was written. -/
def Word.text : Word → String
  | plain text => text
  | divider => dividerText
  | setting text _ _ => text
  | letters text _ _ => text
  | unknown text => text

namespace Setting

/-- The setting that asks for help, which every command has. -/
def help : Setting := ⟨"--help", some 'h', .nothing⟩

/-- A word spells a setting out, by its name or by its letter. -/
def isSpelled (s : Setting) (word : String) : Bool :=
  s.name == word || (s.letter.map fun c => String.ofList ['-', c]) == some word

end Setting

namespace Word

/-- A word up to its first equals sign, and what follows that. -/
def cutAtEquals (word : String) : String × Option String :=
  let name := word.toList.takeWhile (· != '=')
  match word.toList.drop name.length with
  | [] => (word, none)
  | _ :: value => (String.ofList name, some (String.ofList value))

/-- The settings that a word may mean without spelling one out. -/
def candidates (settings : List Setting) (word : String) : List Word :=
  match word.toList with
  | '-' :: '-' :: _ =>
    let (stem, value) := cutAtEquals word
    (settings.filter fun s => stem.toList.isPrefixOf s.name.toList).map fun s =>
      setting word s value
  | '-' :: c :: rest =>
    (settings.filter fun s => s.letter == some c).map fun s => letters word s rest
  | _ => []

/-- A text without the line feed that may end it. -/
def withoutLineFeed (s : List Char) : List Char :=
  if s.getLast? = some '\n' then s.dropLast else s

/-- The word is a negative number in positional notation. -/
def isNegativeNumber (word : String) : Bool :=
  match withoutLineFeed word.toList with
  | '-' :: body =>
    let whole := body.takeWhile Text.isDecimal
    match body.drop whole.length with
    | [] => !whole.isEmpty
    | '.' :: fraction => !fraction.isEmpty && fraction.all Text.isDecimal
    | _ => false
  | _ => false

/-- A word that starts with a hyphen and spells no setting out. It must not mean several settings. A
number, or a word with a blank in it, is plain if it means none. -/
def ofHyphened (settings : List Setting) (word : String) : Except Stop Word :=
  match candidates settings word with
  | [candidate] => .ok candidate
  | [] =>
    .ok (if isNegativeNumber word || word.toList.contains ' ' then plain word else unknown word)
  | _ => .error .wrong

/-- What a word is that may be a setting. -/
def classify (settings : List Setting) (word : String) : Except Stop Word :=
  match word.toList with
  | '-' :: _ :: _ =>
    match settings.find? (·.isSpelled word) with
    | some s => .ok (setting word s none)
    | none =>
      let (name, value) := cutAtEquals word
      match settings.find? (·.isSpelled name), value with
      | some s, some value => .ok (setting word s (some value))
      | _, _ => ofHyphened settings word
  | _ => .ok (plain word)

/-- What each word of a command line is. -/
def classifyAll (settings : List Setting) : List String → Except Stop (List Word)
  | [] => .ok []
  | word :: rest =>
    if word = dividerText then .ok (divider :: rest.map plain)
    else do
      let first ← classify settings word
      return first :: (← classifyAll settings rest)

end Word
end MacroScribe.CommandLine
