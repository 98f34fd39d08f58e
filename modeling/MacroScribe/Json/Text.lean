import MacroScribe.Json.Basic
import MacroScribe.Text.Quoted
/-!
# MacroScribe.Json.Text

How a value reads in a message or in a field that takes any value. In the *quoted* form texts stand
between quotes; in the *plain* form a text stands for itself, and only the texts inside a list or a
mapping are quoted.
-/

namespace MacroScribe.Json

variable {ω : Type} [Described ω]

/-- Items with a comma between each two. -/
def commaList (items : List (List Char)) : List Char :=
  [',', ' '].intercalate items

mutual

/-- The value with texts between quotes. -/
def quoted : Json ω → List Char
  | null => "None".toList
  | bool b => (if b then "True" else "False").toList
  | int n => (Number.int n).plain
  | float x => (Number.float x).plain
  | str s => Text.quote s.toList
  | list items => '[' :: commaList (quotedItems items) ++ [']']
  | obj fields => '\x7b' :: commaList (quotedFields fields) ++ ['\x7d']
  | embed x => (Described.typeName x).toList

/-- Each item with texts between quotes. -/
def quotedItems : List (Json ω) → List (List Char)
  | [] => []
  | v :: rest => quoted v :: quotedItems rest

/-- Each field with texts between quotes. -/
def quotedFields : List (String × Json ω) → List (List Char)
  | [] => []
  | (k, v) :: rest => (Text.quote k.toList ++ ':' :: ' ' :: quoted v) :: quotedFields rest

end

/-- The value with texts between quotes. -/
def quotedText (v : Json ω) : String :=
  String.ofList v.quoted

/-- The value as a reader sees it: a text is itself. -/
def plainText : Json ω → String
  | str s => s
  | v => v.quotedText

/-- The text of a field that takes an expression: a number in its compact form, nothing for null,
and any other value in its plain form. -/
def expression : Json ω → String
  | null => ""
  | int n => String.ofList (Number.int n).compact
  | float x => String.ofList (Number.float x).compact
  | v => v.plainText

end MacroScribe.Json
