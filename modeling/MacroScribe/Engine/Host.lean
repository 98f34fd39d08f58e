import MacroScribe.Decimal.Text
import MacroScribe.Engine.Script
import MacroScribe.Fault
import MacroScribe.Files.Basic
/-!
# MacroScribe.Engine.Host

The computer on which the library works, as far as it matters: its files, the program through which
the engine is reached, and the calls of that program. What the program will answer is given in
advance, so that a session with the engine is a function of the host on which it starts.

A text may hold half a character, which no `Char` is. The host says which characters stand for such
halves; statements about all hosts are therefore about all texts. Files and arguments of programs
cannot hold these halves, and writing them fails.
-/

namespace MacroScribe

/-- How a call of a program ends. -/
inductive Ending where
  /-- It ends by itself, with a status and what it printed. -/
  | finished (status : Int) (output errors : String)
  /-- It takes too long. -/
  | timedOut
  /-- There is no such program. -/
  | missing
  deriving Repr, DecidableEq

namespace Ending

/-- The program ended well. -/
def isSuccess : Ending → Bool
  | finished 0 _ _ => true
  | _ => false

end Ending

/-- A call of a program, as it will go: how it ends, and what is added to files meanwhile. -/
structure Reply where
  ending : Ending
  appended : List (Place × List UInt8)
  deriving Repr, DecidableEq

/-- A call that ends well without printing anything. -/
def Reply.silent : Reply := ⟨.finished 0 "" "", []⟩

/-- A call that was made. -/
structure Call where
  command : List String
  /-- The text of the number of seconds that it may take. -/
  timeout : String
  /-- The files that the program came upon. -/
  files : Files

/-- The contents of the file that a call imports, if its script imports one that is there. -/
def Call.imported (c : Call) : Option (List UInt8) := do
  c.files.read? (← Script.importedPath? (← c.command.getLast?))

/-- A computer. -/
structure Host where
  /-- The time in seconds since the start of 1970. -/
  clock : Number
  /-- The home directories of users, one's own under the empty name. -/
  homes : Fields String
  /-- The macro instance in which the library runs. -/
  instanceId : Option String
  /-- The path of temporary files. -/
  scratch : String
  /-- The unique identifiers that will be drawn. -/
  uuid : Nat → String
  /-- How many have been drawn. -/
  drawn : Nat
  files : Files
  /-- The replies to calls to come; further calls are silent. -/
  replies : List Reply
  /-- The calls that were made, in order. -/
  calls : List Call
  /-- The characters that stand for halves of characters. -/
  standIns : Text.StandIns := .privateUse

/-- Why the system takes a text neither as a path nor as an argument of a program: some half of a
character has no bytes, or a null character would end the text. -/
def Host.objection? (host : Host) (text : String) : Option Misuse :=
  if !host.standIns.isSystemText text.toList then some .notEncodable
  else if text.toList.contains '\x00' then some .nullArgument
  else none

/-- Work on a host that may fail. -/
abbrev Work (α : Type) := ExceptT Fault (StateM Host) α

namespace Work

/-- Fails or goes on as a pure computation does. -/
def ofOutcome {α : Type} (result : Outcome α) : Work α :=
  ExceptT.mk (pure result)

/-- The result of work, whether it failed or not. -/
def attempt {α : Type} (work : Work α) : Work (Outcome α) :=
  ExceptT.mk do return .ok (← work.run)

/-- Draws a unique identifier. -/
def drawUuid : Work String := do
  let host ← get
  set { host with drawn := host.drawn + 1 }
  return host.uuid (host.drawn + 1)

/-- Writes a text to a file, where `holding` is how the files come to hold the bytes of one. The
file is empty before the text is written, and stays so if the text has no bytes. -/
def fill (holding : Files → List UInt8 → Files × Outcome Unit) (text : String) : Work Unit := do
  let host ← get
  let bytes? := host.standIns.utf8? text.toList
  let (files, result) := holding host.files (bytes?.getD [])
  set { host with files }
  ofOutcome result
  if bytes?.isNone then throw (.misuse .notEncodable)

/-- Writes a text to a file, and makes the directories for it. -/
def saveFile (path text : String) : Work Unit := do
  if (← get).standIns.isSystemText path.toList then
    fill (fun files bytes => files.save path bytes) text
  else throw (.misuse .notEncodable)

/-- Makes an empty temporary file. -/
def makeFile (path : String) : Work Unit := do
  let host ← get
  if let some cause := host.objection? path then throw (.misuse cause)
  set { host with files := host.files.put (host.files.place path) [] }

/-- Writes a text to a temporary file. -/
def fillFile (path text : String) : Work Unit :=
  fill (fun files bytes => (files.put (files.place path) bytes, .ok ())) text

/-- Does `last` after `work`, also if that fails. -/
def andFinally {α : Type} (work : Work α) (last : Host → Host) : Work α :=
  ExceptT.mk fun host =>
    let (result, after) := work.run host
    (result, last after)

/-- Calls a program and gives back how the call ended. -/
def call (command : List String) (timeout : String) : Work Ending := do
  let host ← get
  let reply := host.replies.head?.getD .silent
  let made : Call := ⟨command, timeout, host.files⟩
  let files := reply.appended.foldl (fun files f => files.append f.1 f.2) host.files
  set { host with
    replies := host.replies.drop 1
    calls := host.calls ++ [made]
    files }
  return reply.ending

end Work

/-- The second that the clock shows. -/
def Host.second (host : Host) : Int :=
  match host.clock with
  | .int n => n
  | .float x => ((Decimal.Binary.ofFloat x).truncate?).getD 0

end MacroScribe
