import MacroScribe.Engine.Host
import MacroScribe.Text.Class
import MacroScribe.Text.Case
import MacroScribe.Text.Split
import MacroScribe.Text.Word
/-!
# MacroScribe.Engine.Log

The log of the engine from a certain point on. Failures are the lines with a word that says so;
their time stamps are taken off.
-/

namespace MacroScribe

/-- A log that is followed from a certain byte on. -/
structure EngineLog where
  path : String
  start : Nat
  deriving Repr, DecidableEq

namespace EngineLog

open Text

/-- The bytes of the log; a log that is not there has none. -/
def bytes (files : Files) (path : String) : List UInt8 :=
  (files.read? path).getD []

/-- Follows a log from its present end. -/
def follow (files : Files) (path : String) : Outcome EngineLog :=
  if path.toList.contains '\x00' then Files.failAt path (.error .nullCharacter)
  else .ok ⟨path, (bytes files path).length⟩

/-- The lines of some bytes of a log, without the blank ones. -/
def linesOf (added : List UInt8) : List (List Char) :=
  (lines (plainLineEnds (ofUtf8Lenient added))).filter (!allBlank ·)

/-- The lines that have been added. -/
def newLines (log : EngineLog) (files : Files) : List (List Char) :=
  linesOf ((bytes files log.path).drop log.start)

/-- The words that report a failure. -/
def failureWords : List (List Char) :=
  ["fail".toList, "failed".toList, "failure".toList, "error".toList]

/-- The line reports a failure. -/
def isFailure (line : List Char) : Bool :=
  (words line).any fun word => failureWords.any (isWordText · word)

/-- The form of a time stamp; `0` stands for any digit. -/
def stamp : List Char := "0000-00-00 00:00:00 ".toList

/-- Text of the form of a time stamp. -/
def isStamp (s : List Char) : Bool :=
  s.length == stamp.length && (s.zip stamp).all fun (c, form) =>
    if form = '0' then isDecimal c else c == form

/-- The line without the time stamp that it starts with. -/
def withoutStamp (line : List Char) : List Char :=
  if isStamp (line.take stamp.length) then line.drop stamp.length else line

/-- The failures that have been added. -/
def newFailures (log : EngineLog) (files : Files) : List (List Char) :=
  ((log.newLines files).filter isFailure).map withoutStamp

end EngineLog
end MacroScribe
