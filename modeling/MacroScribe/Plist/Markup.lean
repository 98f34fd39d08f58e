import MacroScribe.Text.Class
import MacroScribe.Text.Split
/-!
# MacroScribe.Plist.Markup

The lexical side of the written form: tags, character data and indentation. Only `&`, `<` and `>`
are escaped, so that no text can open or close an element.

Written dictionaries are spliced into a surrounding list: each line is moved in by the given number
of tabs. A text element that spans several lines is character data from its second line on, and
those lines stay as they are. The envelope makes a document of them: a declaration, a document type,
and an array that holds them.
-/

namespace MacroScribe.Plist

/-! ### Tags and character data -/

/-- One line of the written form, or of a text inside it. -/
abbrev Line := List Char

/-- A character in character data. -/
def escapeChar (c : Char) : List Char :=
  if c = '&' then ['&', 'a', 'm', 'p', ';']
  else if c = '<' then ['&', 'l', 't', ';']
  else if c = '>' then ['&', 'g', 't', ';']
  else [c]

/-- A text as character data. -/
def escape (s : List Char) : List Char :=
  s.flatMap escapeChar

/-- The tag that opens an element. -/
def openTag (name : String) : Line :=
  '<' :: name.toList ++ ['>']

/-- The tag that closes an element. -/
def closeTag (name : String) : Line :=
  '<' :: '/' :: name.toList ++ ['>']

/-- The tag of an element without content. -/
def emptyTag (name : String) : Line :=
  '<' :: name.toList ++ ['/', '>']

/-- An element with content on one line. -/
def element (name : String) (content : List Char) : Line :=
  openTag name ++ content ++ closeTag name

/-- One tab for each level of nesting. -/
def indent (depth : Nat) : Line :=
  List.replicate depth '\t'

/-- The text ends with `suffix`. -/
def endsWith (suffix s : List Char) : Bool :=
  suffix.isSuffixOf s

/-- The text begins with `start`. -/
def startsWith (start s : List Char) : Bool :=
  start.isPrefixOf s

/-! ### Fragments -/

/-- The line opens a text element and does not close it. -/
def opensText (line : Line) : Bool :=
  let bare := Text.strip line
  startsWith (openTag "string") bare && !endsWith (closeTag "string") bare

/-- The line closes a text element. -/
def closesText (line : Line) : Bool :=
  endsWith (closeTag "string") line

/-- Moves lines in; `inText` says that they begin inside a text element. -/
def indentLines (depth : Nat) (inText : Bool) : List Line → List Line
  | [] => []
  | line :: rest =>
    if inText then line :: indentLines depth (!closesText line) rest
    else (if Text.allBlank line then line else indent depth ++ line) ::
      indentLines depth (opensText line) rest

/-- The lines of a fragment, moved in by `depth` tabs. Line feeds at its ends do not count. -/
def indentFragment (depth : Nat) (xml : List Char) : List Line :=
  indentLines depth false (Text.lines (Text.dropEnds (· == '\n') xml))

/-- The lines of a fragment inside a list. A blank fragment has none. -/
def fragmentLines (depth : Nat) (xml : List Char) : List Line :=
  if Text.allBlank xml then [] else indentFragment depth xml

/-! ### The envelope -/

/-- What precedes the dictionaries. -/
def header : String :=
  "<?xml version=\"1.0\" encoding=\"UTF-8\"?>\n" ++
  "<!DOCTYPE plist PUBLIC \"-//Apple//DTD PLIST 1.0//EN\" " ++
  "\"http://www.apple.com/DTDs/PropertyList-1.0.dtd\">\n" ++
  "<plist version=\"1.0\">\n<array>\n"

/-- What follows them. -/
def footer : String :=
  "</array>\n</plist>"

/-- The document that holds a sequence of written dictionaries. -/
def wrap (body : String) : String :=
  let inner := fragmentLines 1 body.toList
  header ++ (if inner.isEmpty then "" else String.ofList (Text.unlines inner) ++ "\n") ++ footer

end MacroScribe.Plist
