import MacroScribe.Action.Render
import MacroScribe.Plist.Markup
/-!
# MacroScribe.Assembly

Documents made of actions: the one that is run once and forgotten, and the one that is imported,
which holds a group with a macro in it.
-/

namespace MacroScribe.Assembly

/-- The document that runs actions once. With a text to return, a last action returns it. -/
def ephemeral (actions : List Action) (returned : Option Slot) : Rendering String := do
  let last := (returned.map fun text => Action.step (.returnText text)).toList
  return Plist.wrap (← renderActions (actions ++ last))

/-- The seconds from the start of 1970, from which clocks count, to that of 2001, from which the
dates of documents do. -/
def epochOffset : Int := 978307200

/-- The date that a document shows for a time on the clock. -/
def documentDate : Number → Number
  | .int n => .int (n - epochOffset)
  | .float x => .float (x - 978307200.0)

/-- The identifier that stands for no macro. -/
def noMacro : String := "00000000-0000-0000-0000-000000000000"

/-- What an importable document says besides the actions. -/
structure Label where
  group : Slot
  name : Slot
  groupUid : Slot
  nameUid : Slot
  date : Plist

/-- The macro in an importable document. -/
def labelledMacro (label : Label) (body : String) : Plist :=
  .dict [("Actions", .array [.fragment body]), ("CreationDate", label.date),
    ("ModificationDate", label.date), ("Name", label.name.leaf), ("Triggers", .array []),
    ("UID", label.nameUid.leaf)]

/-- The group in an importable document. -/
def labelledGroup (label : Label) (body : String) : Plist :=
  .dict [("Activate", .text "Normal"), ("CreationDate", label.date),
    ("Macros", .array [labelledMacro label body]), ("Name", label.group.leaf),
    ("ToggleMacroUID", .text noMacro), ("UID", label.groupUid.leaf)]

/-- The importable document with one macro, whose actions are given in written form. -/
def importable (label : Label) (body : String) : Outcome String :=
  Plist.wrap <$> Plist.write 0 (labelledGroup label body)

end MacroScribe.Assembly
