import MacroScribe.Text.Case
import MacroScribe.Text.Split
/-!
# MacroScribe.Engine.Script

The scripts that are sent to the engine and its editor. The texts in them are escaped, so that each
one stays within the quotes around it.

Scripts are also read here, by the rules of their languages and without regard to how they are
written: as code with literals in it. The reader only knows the part of the languages that scripts
are made of: it gives up at a comment, at another sort of literal and at the longer escapes, so what
it does read is read as the language has it.
-/

namespace MacroScribe.Script

/-! ### Writing scripts -/

/-- A character between single quotes. Line ends may not stand there. -/
def escapeSingleChar (c : Char) : List Char :=
  if c = '\\' ∨ c = '\'' then ['\\', c]
  else if c = '\n' then ['\\', 'n']
  else if c = '\r' then ['\\', 'r']
  else [c]

/-- A text between single quotes. -/
def escapeSingle (s : String) : String :=
  String.ofList (s.toList.flatMap escapeSingleChar)

/-- A character between double quotes. -/
def escapeDoubleChar (c : Char) : List Char :=
  if c = '\\' ∨ c = '"' then ['\\', c] else [c]

/-- A text between double quotes. -/
def escapeDouble (s : String) : String :=
  String.ofList (s.toList.flatMap escapeDoubleChar)

/-- Running a document, given the application and the document as quoted texts. -/
def runDocument (app document : String) : String :=
  s!"Application({app}).doScript({document})"

/-- Running a document and giving its result back. -/
def runDocumentForResult (app document : String) : String :=
  "(function() \x7b var result = " ++ runDocument app document ++ "; return String(result); \x7d)()"

/-- Running a macro with a parameter. -/
def runNamed (app name parameter : String) : String :=
  s!"var kme = Application('{escapeSingle app}'); kme.doScript('{escapeSingle name}', " ++
    "\x7b withParameter: '" ++ escapeSingle parameter ++ "' \x7d);"

/-- Telling an application to do something. -/
def tell (app command : String) : String :=
  "tell application \"" ++ escapeDouble app ++ "\" to " ++ command

/-- Importing a file. -/
def importFile (app path : String) : String :=
  tell app ("importMacros (POSIX file \"" ++ escapeDouble path ++ "\" as alias)")

/-- Deleting a macro. -/
def delete (app name : String) : String :=
  tell app ("deleteMacro \"" ++ escapeDouble name ++ "\"")

/-- The instance to which a variable belongs, if any. -/
def inInstance (id : Option String) : String :=
  match id with
  | some id => " instance \"" ++ escapeDouble id ++ "\""
  | none => ""

/-- Reading a variable. -/
def readVariable (app name : String) (id : Option String) : String :=
  tell app ("getvariable \"" ++ escapeDouble name ++ "\"" ++ inInstance id)

/-- Setting a variable. -/
def writeVariable (app name value : String) (id : Option String) : String :=
  tell app ("setvariable \"" ++ escapeDouble name ++ "\" to \"" ++ escapeDouble value ++ "\"" ++
    inInstance id)

/-- Variables that only exist inside a running macro. -/
def isInstanceVariable (name : String) : Bool :=
  ["instance", "local"].any fun word =>
    Text.isWordText word.toList (name.toList.take word.length)

/-! ### Reading scripts -/

/-- A part of a script. -/
inductive Piece where
  | code (text : String)
  /-- A literal, by the text that it denotes. -/
  | literal (text : String)
  deriving Repr, DecidableEq

/-- How a language writes texts. -/
structure Dialect where
  /-- What stands around a literal. -/
  quote : Char
  quote_ne : quote ≠ '\\'
  /-- What a backslash and a character denote together. -/
  escaped? : Char → Option Char
  /-- A character that may not stand in a literal as it is. -/
  isBarred : Char → Bool
  /-- A character with which comments and other literals begin or end. -/
  isOpening : Char → Bool

/-- Single-quoted literals. They end on the line on which they begin. -/
def javaScript : Dialect where
  quote := '\''
  quote_ne := by decide
  escaped? c :=
    if c = 'n' then some '\n'
    else if c = 'r' then some '\r'
    else if c = 't' then some '\t'
    else if c = 'b' then some '\x08'
    else if c = 'f' then some '\x0c'
    else if c = 'v' then some '\x0b'
    else if c = 'x' ∨ c = 'u' ∨ c.isDigit ∨ c ∈ ['\n', '\r', '\u2028', '\u2029'] then none
    else some c
  isBarred c := c = '\n' ∨ c = '\r'
  isOpening c := c ∈ ['"', '\x60', '/', '<', '#']

/-- Double-quoted literals. -/
def appleScript : Dialect where
  quote := '"'
  quote_ne := by decide
  escaped? c :=
    if c = 'n' then some '\n'
    else if c = 'r' then some '\r'
    else if c = 't' then some '\t'
    else if c = '\\' ∨ c = '"' then some c
    else none
  isBarred _ := false
  isOpening c := c ∈ ['-', '#', '*', '|', '\u00ab', '\u00bb', '\u00ac']

/-- Code that has been read; there may be none. -/
def codeBefore (done : List Char) : List Piece :=
  if done = [] then [] else [.code (String.ofList done)]

mutual

/-- Reads on after the code `done`. -/
def readCode (d : Dialect) (done : List Char) : List Char → Option (List Piece)
  | [] => some (codeBefore done)
  | c :: rest =>
    if c = d.quote then (readLiteral d [] rest).map (codeBefore done ++ ·)
    else if d.isOpening c then none
    else readCode d (done ++ [c]) rest

/-- Reads on in a literal, after characters that denote the text `done`. -/
def readLiteral (d : Dialect) (done : List Char) : List Char → Option (List Piece)
  | [] => none
  | '\\' :: [] => none
  | '\\' :: c :: rest =>
    match d.escaped? c with
    | some c => readLiteral d (done ++ [c]) rest
    | none => none
  | c :: rest =>
    if c = d.quote then (readCode d [] rest).map (.literal (String.ofList done) :: ·)
    else if d.isBarred c then none
    else readLiteral d (done ++ [c]) rest

end

/-- Reads a script. -/
def read (d : Dialect) (script : String) : Option (List Piece) :=
  readCode d [] script.toList

/-- The path of the file that a script asks the editor to import. -/
def importedPath? (script : String) : Option String :=
  match read appleScript script with
  | some [.code "tell application ", .literal _, .code " to importMacros (POSIX file ",
      .literal path, .code " as alias)"] => some path
  | _ => none

end MacroScribe.Script
