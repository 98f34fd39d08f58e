import MacroScribe.Main
import MacroScribe.Service.Basic
import MacroScribe.StyledText.Update
import MacroScribe.Proofs.Decimal.Numeral
import MacroScribe.Proofs.Plist.Markup
import MacroScribe.Proofs.Plist.Shape
import MacroScribe.Proofs.Plist.Indentation
import MacroScribe.Proofs.Plist.Moving
import MacroScribe.Proofs.Plist.Additivity
import MacroScribe.Proofs.Plist.RoundTrip
import MacroScribe.Proofs.Action.Shape
import MacroScribe.Proofs.Action.Tree
import MacroScribe.Proofs.Condition.Values
import MacroScribe.Proofs.Builder.Made
import MacroScribe.Proofs.Action.Numbering
import MacroScribe.Proofs.Document.Node
import MacroScribe.Proofs.Keystroke.Mask
import MacroScribe.Proofs.Document.Visit
import MacroScribe.Proofs.Builder.Branches
import MacroScribe.Proofs.Document.Locality
import MacroScribe.Proofs.Keystroke.Spelling
import MacroScribe.Proofs.Keystroke.Description
import MacroScribe.Proofs.Condition.Checks
import MacroScribe.Proofs.Condition.Keys
import MacroScribe.Proofs.StyledText.Restyling
import MacroScribe.Proofs.StyledText.RoundTrip
import MacroScribe.Proofs.Builder.Checks
import MacroScribe.Proofs.Document.Failure
import MacroScribe.Proofs.Plist.Character
import MacroScribe.Proofs.Action.Readable
import MacroScribe.Proofs.Engine.Literal
import MacroScribe.Proofs.Service.Store
import MacroScribe.Proofs.Export.Macro
import MacroScribe.Proofs.StyledText.Confinement
import MacroScribe.Proofs.Rtf.Preview
import MacroScribe.Proofs.StyledText.Payload
import MacroScribe.Proofs.Keystroke.Range
import MacroScribe.Proofs.Keystroke.Refusal
import MacroScribe.Proofs.Keystroke.Combination
import MacroScribe.Proofs.Keystroke.Grammar
import MacroScribe.Proofs.Condition.Reordering
import MacroScribe.Proofs.Condition.Nulls
import MacroScribe.Proofs.Condition.Sources
import MacroScribe.Proofs.Engine.Report
import MacroScribe.Proofs.Engine.Result
import MacroScribe.Proofs.Engine.Endings
import MacroScribe.Proofs.Export.Deleting
import MacroScribe.Proofs.Action.Gestures
import MacroScribe.Proofs.Keystroke.Held
import MacroScribe.Proofs.Document.Names
import MacroScribe.Proofs.Action.KeyOrder
