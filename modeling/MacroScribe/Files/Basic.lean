import MacroScribe.Fault
import MacroScribe.Files.Path
import MacroScribe.Text.Encoding
/-!
# MacroScribe.Files.Basic

Files and directories, as paths lead to them. A *place* is the list of names that lead from the root
to a file or a directory; a path is followed name by name from the root or from the working
directory, and each name has to be looked up in a directory that is there. So a path that goes back
from a directory leads nowhere when that directory is missing, though it names the same place as a
path that does not (`place`).

There are no links: a file has one place.
-/

namespace MacroScribe

/-- The names that lead from the root to a file or a directory. -/
abbrev Place := List String

/-- Files and directories. -/
structure Files where
  /-- The place of the working directory. -/
  workplace : Place
  /-- The texts of the places of the directories. -/
  directories : List String
  /-- The bytes of the files, by the texts of their places. -/
  entries : Fields (List UInt8)

namespace Files

/-- The text of a place: its names between slashes. -/
def key (place : Place) : String :=
  "/".intercalate place

/-- The texts of the places from the root to a place. -/
def above (place : Place) : List String :=
  (List.range (place.length + 1)).map fun n => key (place.take n)

/-- An empty working directory. -/
def empty (workplace : Place) : Files :=
  ⟨workplace, above workplace, []⟩

/-- A directory is at the place. -/
def isDirectory (files : Files) (place : Place) : Bool :=
  files.directories.contains (key place)

/-- The bytes of the file at a place. -/
def bytesAt? (files : Files) (place : Place) : Option (List UInt8) :=
  files.entries.get? (key place)

/-- A file or a directory is at the place. -/
def isTaken (files : Files) (place : Place) : Bool :=
  files.isDirectory place || (files.bytesAt? place).isSome

/-! ### Following paths -/

/-- The place that a path starts from. -/
def start (files : Files) (path : String) : Place :=
  if Path.isAbsolute path then [] else files.workplace

/-- The names in a path, empty ones included. -/
def names (path : String) : List String :=
  (Text.splitOn '/' path.toList).map String.ofList

/-- Goes on from a place by a name: two points lead back, one point and no name nowhere else. -/
def step (place : Place) (name : String) : Place :=
  if name = "" ∨ name = "." then place
  else if name = ".." then place.dropLast
  else place ++ [name]

/-- The place that a path names, whether it is there or not. -/
def place (files : Files) (path : String) : Place :=
  (names path).foldl step (files.start path)

/-- The number of bytes that a name may have. -/
def maxName : Nat := 255

/-- The number of bytes that a path has to stay below. -/
def pathLimit : Nat := 4096

/-- Looks a name up in the directory at a place. -/
def enter (files : Files) (place : Place) (name : String) : Except FileFault Place :=
  if !files.isDirectory place then
    .error (if (files.bytesAt? place).isSome then .notDirectory else .missing)
  else if maxName < name.utf8ByteSize then .error .longName
  else .ok (step place name)

/-- The place to which a path leads. Only its last name may be that of nothing. -/
def locate (files : Files) (path : String) : Except FileFault Place :=
  if path.toList.contains '\x00' then .error .nullCharacter
  else if path = "" then .error .missing
  else if pathLimit ≤ path.utf8ByteSize then .error .longName
  else (names path).foldlM files.enter (files.start path)

/-- What a path leads to. -/
inductive Found where
  | directory
  | file (bytes : List UInt8)
  deriving Repr, DecidableEq

/-- Follows a path to a file or a directory. -/
def find (files : Files) (path : String) : Except FileFault Found := do
  let place ← files.locate path
  if files.isDirectory place then return .directory
  else
    match files.bytesAt? place with
    | some bytes => return .file bytes
    | none => throw .missing

/-- The bytes of the file to which a path leads. -/
def read? (files : Files) (path : String) : Option (List UInt8) :=
  match files.find path with
  | .ok (.file bytes) => some bytes
  | _ => none

/-- Looking a name up leads where the name does. -/
theorem step_of_enter {files : Files} {place next : Place} {name : String}
    (h : files.enter place name = .ok next) : step place name = next := by
  unfold enter at h
  split at h
  · cases h
  · split at h
    · cases h
    · exact Except.ok.inj h

/-- Looking names up one after the other leads where they do. -/
theorem foldl_step_of_foldlM_enter {files : Files} {names : List String} {place last : Place}
    (h : names.foldlM files.enter place = .ok last) : names.foldl step place = last := by
  induction names generalizing place with
  | nil => exact Except.ok.inj h
  | cons name names ih =>
    rw [List.foldlM_cons] at h
    cases entered : files.enter place name with
    | error f => simp [entered, bind, Except.bind] at h
    | ok next =>
      rw [entered] at h
      rw [List.foldl_cons, step_of_enter entered]
      exact ih h

/-- A path that leads to a place names it. -/
theorem place_of_locate {files : Files} {path : String} {place : Place}
    (h : files.locate path = .ok place) : files.place path = place := by
  unfold locate at h
  split at h
  · cases h
  · split at h
    · cases h
    · split at h
      · cases h
      · exact foldl_step_of_foldlM_enter h

/-! ### Changes -/

/-- The files with the bytes of one set, and with the directories above it. -/
def put (files : Files) (place : Place) (bytes : List UInt8) : Files :=
  { files with
    directories := (above place.dropLast).foldl (fun ds d => ds.insert d) files.directories
    entries := files.entries.put (key place) bytes }

/-- The files with bytes added to one. -/
def append (files : Files) (place : Place) (bytes : List UInt8) : Files :=
  files.put place ((files.bytesAt? place).getD [] ++ bytes)

/-- The files without one. -/
def remove (files : Files) (place : Place) : Files :=
  { files with entries := files.entries.erase (key place) }

/-- A failure at a path. -/
def failAt {α : Type} (path : String) (result : Except FileFault α) : Outcome α :=
  result.mapError (.file path)

/-- The files with a directory at a place. -/
def makeDirectory (files : Files) (place : Place) : Files :=
  { files with directories := key place :: files.directories }

/-- Follows names from a place, and makes each directory on the way that is missing. Directories
that have been made stay when a later one cannot be. The names before have `size` bytes, slashes
included. A file on the way only matters to the name that follows it; at the end it stands where a
directory is to be made. -/
def makeAlong (files : Files) (place : Place) (size : Nat) :
    List String → Files × Except FileFault Unit
  | [] => (files, if files.isDirectory place then .ok () else .error .occupied)
  | "" :: rest => makeAlong files place (size + 1) rest
  | name :: rest =>
    let size := size + name.utf8ByteSize
    if name.toList.contains '\x00' then (files, .error .nullCharacter)
    else if pathLimit ≤ size then (files, .error .longName)
    else
      match files.enter place name with
      | .error f => (files, .error f)
      | .ok next =>
        let files := if files.isTaken next then files else files.makeDirectory next
        makeAlong files next (size + 1) rest

/-- Makes a directory and all those above it, as far as they are missing. -/
def makeDirectories (files : Files) (path : String) : Files × Outcome Unit :=
  let (made, result) := files.makeAlong (files.start path) 0 (names path)
  (made, failAt path result)

/-- The files after one has been written in a directory that is there. -/
def write (files : Files) (path : String) (bytes : List UInt8) : Outcome Files := do
  let place ← failAt path (files.locate path)
  if files.isDirectory place then failAt path (.error .directory)
  else return { files with entries := files.entries.put (key place) bytes }

/-- Makes the directories for a file. -/
def makeParents (files : Files) (path : String) : Files × Outcome Unit :=
  let directory := Path.directory path
  if directory = "" then (files, .ok ()) else files.makeDirectories directory

/-- Writes a file, after the directories for it have been made. -/
def save (files : Files) (path : String) (bytes : List UInt8) : Files × Outcome Unit :=
  let (made, result) := files.makeParents path
  match result >>= fun _ => made.write path bytes with
  | .ok written => (written, .ok ())
  | .error f => (made, .error f)

end Files
end MacroScribe
