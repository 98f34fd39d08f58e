import MacroScribe.Json.Basic
import MacroScribe.Text.Split
/-!
# MacroScribe.Files.Path

Paths of files as texts: components between slashes.
-/

namespace MacroScribe.Path

/-- The components of a path without those that mean nothing. -/
def components (path : String) : List String :=
  ((Text.splitOn '/' path.toList).map String.ofList).filter fun c => c ≠ "" && c ≠ "."

/-- What a path starts with: nothing, a slash, or exactly two slashes, which are kept. -/
def root (path : String) : String :=
  match path.toList with
  | '/' :: '/' :: '/' :: _ => "/"
  | '/' :: '/' :: _ => "//"
  | '/' :: _ => "/"
  | _ => ""

/-- The path does not depend on a working directory. -/
def isAbsolute (path : String) : Bool :=
  path.toList.head? == some '/'

/-- The path in its plainest spelling. -/
def clean (path : String) : String :=
  let text := root path ++ "/".intercalate (components path)
  if text = "" then "." else text

/-- A path inside a directory. -/
def inside (directory path : String) : String :=
  if isAbsolute path then clean path
  else "/".intercalate (directory :: components path)

/-- What comes before the last slash, without slashes at its end unless it has nothing else. -/
def directory (path : String) : String :=
  let head := (path.toList.reverse.dropWhile (· ≠ '/')).reverse
  let bare := (head.reverse.dropWhile (· = '/')).reverse
  String.ofList (if bare.isEmpty then head else bare)

/-- What follows the last slash. -/
def base (path : String) : String :=
  ((Text.splitOn '/' path.toList).getLast?.map String.ofList).getD ""

/-- The ending of the name of a file, from its last point on. A point that begins or ends the name
begins no ending. -/
def suffix (path : String) : String :=
  let name := ((components path).getLast?.getD "").toList
  match Text.splitOn '.' name with
  | parts@(_ :: _ :: _) =>
    let ending := parts.getLast?.getD []
    if ending.isEmpty ∨ name.length = ending.length + 1 then ""
    else String.ofList ('.' :: ending)
  | _ => ""

/-- The path with a tilde and the name of a user at its beginning replaced by the home directory of
that user, or by one's own if there is no name. The path stays as it is for a user without one. -/
def expandHome (homes : Fields String) (path : String) : String :=
  match path.toList with
  | '~' :: rest =>
    match homes.get? (String.ofList (rest.takeWhile (· ≠ '/'))) with
    | some home =>
      let bare := (home.toList.reverse.dropWhile (· = '/')).reverse
      let text := String.ofList (bare ++ rest.dropWhile (· ≠ '/'))
      if text = "" then "/" else text
    | none => path
  | _ => path

end MacroScribe.Path
