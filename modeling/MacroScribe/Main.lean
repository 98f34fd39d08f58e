import MacroScribe.CommandLine.Basic
import MacroScribe.Text.Encoding
import Std.Time.DateTime.Timestamp
/-!
# MacroScribe.Main

The program. It reads the files that its words name, runs the command on them, and writes the files
that have changed. Other programs are not started from here, so the engine is never there. Unique
identifiers, in their usual written form of five groups of hexadecimal digits, are made from random
bytes.
-/

namespace MacroScribe.Program

open CommandLine

/-! ### Files -/

/-- The words that may name files. -/
def fileNames (words : List String) : List String :=
  words ++ words.filterMap fun word => (Word.cutAtEquals word).2

/-- The files with these names, as far as they can be read. -/
def readFiles (names : List String) : IO Files := do
  let here := (← IO.currentDir).toString
  let mut files := Files.empty ((Files.names here).filter (· != ""))
  for name in names do
    try
      let bytes ← IO.FS.readBinFile name
      files := files.put (files.place name) bytes.toList
    catch _ => pure ()
  return files

/-- Writes the files that are not as they were. -/
def writeFiles (before after : Files) : IO Unit := do
  for (place, bytes) in after.entries do
    if before.entries.get? place != some bytes then
      let path := "/" ++ place
      IO.FS.createDirAll (Path.directory path)
      IO.FS.writeBinFile path ⟨bytes.toArray⟩

/-! ### Unique identifiers -/

/-- The bytes with those bits set that mark an identifier as made from random bytes. -/
def markRandom (bytes : List UInt8) : List UInt8 :=
  bytes.zipIdx.map fun (b, i) =>
    if i = 6 then b &&& 0x0F ||| 0x40 else if i = 8 then b &&& 0x3F ||| 0x80 else b

/-- The written form of sixteen bytes. -/
def identifierText (bytes : List UInt8) : String :=
  let digits := bytes.flatMap fun b => (Text.hexDigits 2 b.toNat).map Char.toUpper
  let group (start count : Nat) : String := String.ofList ((digits.drop start).take count)
  "-".intercalate [group 0 8, group 8 4, group 12 4, group 16 4, group 20 12]

/-- The identifier that is made from sixteen random bytes. -/
def randomIdentifier (bytes : List UInt8) : String :=
  identifierText (markRandom bytes)

/-! ### The computer -/

/-- The number of identifiers that are at hand. -/
def identifiersAtHand : Nat := 16

/-- The number of calls that are sure to find no program. -/
def callsRefused : Nat := 16

/-- The computer on which the program runs. -/
def host (files : Files) : IO Host := do
  let now ← Std.Time.Timestamp.now
  let bytes := (← IO.getRandomBytes (16 * identifiersAtHand).toUSize).toList
  return {
    clock := .float (Decimal.scaled false now.toNanosecondsSinceUnixEpoch.val.toNat (-9))
    homes := ((← IO.getEnv "HOME").map fun home => ("", home)).toList
    instanceId := ← IO.getEnv "KMINSTANCE"
    scratch := "/tmp/macroscribe.kmmacros"
    uuid := fun n => randomIdentifier ((bytes.drop (16 * (n - 1))).take 16)
    drawn := 0
    files
    replies := List.replicate callsRefused ⟨.missing, []⟩
    calls := [] }

end MacroScribe.Program

open MacroScribe Program in
/-- Runs the program on the words of its command line. -/
def main (words : List String) : IO UInt32 := do
  let files ← readFiles (fileNames words)
  let root := Path.directory (← IO.appPath).toString
  let (result, after) := (CommandLine.run root words).run (← host files)
  writeFiles files after.files
  match result with
  | .ok r =>
    IO.print r.output
    r.remarks.forM IO.eprintln
    return r.status.toUInt32
  | .error f =>
    IO.eprintln f.message
    return 1
