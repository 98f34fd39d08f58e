import MacroScribe.Files.Basic
import MacroScribe.Json.Reader
import MacroScribe.Text.Split
import MacroScribe.Yaml.Reader
/-!
# MacroScribe.Files.Reading

Data in files. A path is brought into its plainest spelling before it is followed, so a slash at its
end does not ask for a directory.
-/

namespace MacroScribe

/-- The rules that the text of a file follows. -/
inductive Format where
  | json
  | yaml
  deriving Repr, DecidableEq

/-- The data that a text denotes. -/
def Format.read : Format → List Char → Except Json.ReadFault Data
  | json => Json.read
  | yaml => Yaml.read

/-- What is found where data is looked for. -/
inductive Finding where
  /-- There is no file. -/
  | absent
  /-- The file holds something else. -/
  | unreadable
  | data (v : Data)

/-- The data of bytes that are text. -/
def Finding.ofBytes (format : Format) (bytes : List UInt8) : Outcome Finding :=
  match Text.ofUtf8? bytes with
  | none => .ok .unreadable
  | some s =>
    match format.read (Text.plainLineEnds s) with
    | .ok v => .ok (.data v)
    | .error .malformed => .ok .unreadable
    | .error (.longNumeral digits) => misused (.longNumeral digits)
    | .error (.noCharacter code) => misused (.notCharacter code)

/-- The data in a file. A directory cannot be read, and a path that is too long cannot be followed.
-/
def Files.readData (files : Files) (format : Format) (path : String) : Outcome Finding :=
  let path := Path.clean path
  match files.find path with
  | .ok (.file bytes) => Finding.ofBytes format bytes
  | .ok .directory => failAt path (.error .directory)
  | .error .longName => failAt path (.error .longName)
  | .error _ => .ok .absent

end MacroScribe
