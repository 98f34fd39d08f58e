import MacroScribe.Document.Node
import MacroScribe.Files.Reading
import MacroScribe.Text.Case
/-!
# MacroScribe.Document.Basic

Macro documents: a name, a group, and the actions of a macro. A file whose name ends in `.json` is
read as JSON, any other as YAML.
-/

namespace MacroScribe

/-- A macro that a document describes. -/
structure MacroDocument where
  name : String
  actions : List Action
  /-- The group that the document asks for, whatever it gave. -/
  group : Data

namespace MacroDocument

/-- The name of a macro that has none. -/
def standardName : String := "Generated Macro"

/-- The document that a value describes; `source` says where the value comes from. -/
def ofData (source : String) (v : Data) : Outcome MacroDocument :=
  match v with
  | .obj fields =>
    match Fields.get? fields "actions" with
    | none => .error (.document (.noActions source))
    | some nodes => do
      let name := Fields.value fields "name"
      let actions ← Node.buildList "actions" nodes
      return { name := if name.truthy then name.plainText else standardName
               actions
               group := Fields.value fields "group" }
  | _ => .error (.document (.notMapping source))

end MacroDocument
end MacroScribe

namespace MacroScribe.MacroDocument

/-! ### Documents in files -/

/-- The rules that the text of a file follows, by the ending of its name. -/
def formatOf (path : String) : Format :=
  if Text.lower (Path.suffix path).toList = ".json".toList then .json else .yaml

/-- The document in a file. -/
def load (files : Files) (path : String) : Outcome MacroDocument := do
  let shown := Path.clean path
  match ← files.readData (formatOf path) path with
  | .absent => .error (.document (.missing shown))
  | .unreadable => .error (.document (.unparsable shown))
  | .data v => ofData shown v

end MacroScribe.MacroDocument
