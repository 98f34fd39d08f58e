import MacroScribe.StyledText.Basic
import MacroScribe.Text.Case
/-!
# MacroScribe.StyledText.Update

Changing the styled text inside a written action. The payload is found by its tags, whatever their
case, and so is the plain text that accompanies it; both are written anew, and the rest of the
action stays as it is.
-/

namespace MacroScribe.StyledText

open Text

/-- What follows a word at the beginning of a text, case disregarded. The word is in lower case. -/
def afterWord? (word : String) (s : List Char) : Option (List Char) :=
  if isWordText word.toList (s.take word.length) then some (s.drop word.length) else none

/-- What follows a key and the opening tag of its value. -/
def afterOpening? (key tag : String) (s : List Char) : Option (List Char) := do
  let s ← afterWord? "<key>" s
  let s ← afterWord? key (s.dropWhile isBlank)
  let s ← afterWord? "</key>" (s.dropWhile isBlank)
  afterWord? s!"<{tag}>" (s.dropWhile isBlank)

/-- The text up to the first occurrence of a word, and what follows that. -/
def cutAtWord? (word : String) : List Char → Option (List Char × List Char)
  | [] => none
  | c :: rest =>
    match afterWord? word (c :: rest) with
    | some after => some ([], after)
    | none => (cutAtWord? word rest).map fun (content, after) => (c :: content, after)

/-- An element under a key, in its surroundings. The parts in their order are the whole text. -/
structure Element where
  before : List Char
  /-- The key and the opening tag of the element. -/
  opening : List Char
  content : List Char
  closing : List Char
  after : List Char

/-- The element at the beginning of a text. -/
def Element.here? (key tag : String) (s : List Char) : Option Element := do
  let rest ← afterOpening? key tag s
  let (content, after) ← cutAtWord? s!"</{tag}>" rest
  let ending := rest.drop content.length
  return { before := [], opening := s.take (s.length - rest.length), content,
           closing := ending.take (ending.length - after.length), after }

/-- The first element with this tag under this key. Both names are in lower case. -/
def Element.find? (key tag : String) : List Char → Option Element
  | [] => none
  | c :: rest =>
    match here? key tag (c :: rest) with
    | some e => some e
    | none => (find? key tag rest).map fun e => { e with before := c :: e.before }

/-- The blanks between the last line feed and the end of a text; none if something else stands
there. -/
def margin (before : List Char) : List Char :=
  let pad := (before.reverse.takeWhile (· != '\n')).reverse
  if allBlank pad then pad else []

/-- The element that holds a document, with `pad` before each line but the first. -/
def payload (pad rtf : List Char) : List Char :=
  unlines ("<key>StyledText</key>".toList ::
    (("<data>".toList :: splitOn '\n' (encode rtf true)) ++ ["</data>".toList]).map (pad ++ ·))

/-- The written action with its plain text replaced; one without a plain text stays as it is. -/
def replaceText (text xml : List Char) : List Char :=
  match Element.find? "text" "string" xml with
  | none => xml
  | some e => e.before ++ e.opening ++ text ++ e.closing ++ e.after

/-- The written action with its document changed by `f`. An action without one stays as it is. -/
def update (f : List Char → List Char) (xml : List Char) : Outcome (List Char) :=
  match Element.find? "styledtext" "data" xml with
  | none => .ok xml
  | some e => do
    let rtf := f (← decode e.content)
    let changed := e.before ++ payload (margin e.before) rtf ++ e.after
    return replaceText (Plist.escape (Rtf.toText rtf)) changed

end MacroScribe.StyledText
