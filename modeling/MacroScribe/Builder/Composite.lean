import MacroScribe.Builder.Option
/-!
# MacroScribe.Builder.Composite

Builders of the actions that hold other actions.
-/

namespace MacroScribe.Builder

open Parameter

/-- A group of actions under a name. -/
def group : Builder where
  name := "Group"
  parameters := [required "name", withDefault "actions" (.list []), flag "timeout_aborts" true]
  build args := do
    let actions ← children "actions" (args.value "actions")
    return .group (Slot.orEmpty (args.value "name")) actions
      (TimeoutPolicy.ofValues (args.value "timeout_aborts") (.bool true : Argument))

/-- The list of conditions given for the parameters of those names. -/
def conditions (args : Arguments) : Outcome Plist := do
  Condition.listToPlist (← (args.value "conditions").itemsOrNone) (args.value "match")

/-- Actions for two cases. -/
def ifThenElse : Builder where
  name := "IfThenElse"
  parameters := [required "conditions", withDefault "then" (.list []),
    withDefault "else_" (.list []), withDefault "match" (.str "All"), flag "timeout_aborts" true]
  build args := do
    let conditions ← conditions args
    let thenActions ← children "then" (args.value "then")
    let elseActions ← children "else" (args.value "else_")
    return .ifThenElse conditions thenActions elseActions (args.value "timeout_aborts").truthy

/-- Actions that are repeated. -/
def whileLoop : Builder where
  name := "While"
  parameters := [required "conditions", withDefault "actions" (.list []),
    withDefault "match" (.str "All"), flag "timeout_aborts" true, nullable "notify_on_timeout"]
  build args := do
    let conditions ← conditions args
    let actions ← children "actions" (args.value "actions")
    let notify := args.value "notify_on_timeout"
    return .whileLoop conditions actions (args.value "timeout_aborts").truthy
      (if notify.isNull then none else some notify.truthy)

/-- The comparisons of a switch. -/
def operators : List String :=
  ["IsEmpty", "IsNotEmpty", "Is", "IsNot", "Contains", "DoesNotContain", "StartsWith", "EndsWith",
   "IsBefore", "IsAfter", "Matches", "DoesNotMatch", "LessThan", "LessThanOrEqual", "Equal",
   "GreaterThanOrEqual", "GreaterThan", "NotEqual", "Otherwise"]

/-- The value that a case compares with: a number is given by its text. -/
def testValue (v : Argument) : Slot :=
  if v.number?.isSome then .text v.expression else Slot.orEmpty v

/-- A case from its parts. -/
def switchCase (operator value actions : Argument) : Outcome SwitchCase := do
  let operator ← choice "switch case operator" operators operator
  return .mk operator (testValue value) (← children "case actions" actions)

/-- The case that a mapping describes. -/
def caseOfFields (fields : Fields Argument) : Outcome SwitchCase := do
  knownFields "case_entry" ["operator", "test_value", "actions"] fields
  match fields.get? "operator" with
  | none => misused (.missingField "case_entry" "operator")
  | some operator => switchCase operator (fields.value "test_value") (fields.value "actions")

/-- The case with a number in a switch. A mapping that is misused is reported with the number. -/
def caseOf (index : Nat) (v : Argument) : Outcome SwitchCase :=
  match v with
  | .embed (.switchCase c) => c
  | .obj fields => (caseOfFields fields).mapError fun fault =>
    if fault.kind = .type then .inCase index fault else fault
  | v => invalid (.notCase v.typeName)

/-- A key and a value, from the item with a number of a list of pairs. -/
def pair (index : Nat) (v : Argument) : Outcome (Argument × Argument) :=
  match v.items with
  | .error _ => misused (.pairShape index)
  | .ok [key, value] => do
    key.requireScalar
    return (key, value)
  | .ok parts => misused (.pairLength index parts.length)

/-- The mapping that a value is, or that its items are the pairs of. -/
def mapping (v : Argument) : Outcome (Fields Argument) :=
  match v with
  | .obj fields => .ok fields
  | v => do
    let pairs ← (← v.itemsOrNone).zipIdx.mapM fun (item, i) => pair i item
    return pairs.foldl (fun fields (key, value) =>
      match key.str? with
      | some key => fields.put key value
      | none => fields) []

/-- The value, or another one if it does not count as given. -/
def orElse (v other : Argument) : Argument :=
  if v.truthy then v else other

/-- The named clipboard that a mapping describes, if it says which one. -/
def namedClipboard (fields : Fields Argument) : Option (Slot × String) :=
  let name : Argument := orElse (fields.value "name") (fields.value "redundant_display_name")
  (Slot.given? (fields.value "uid")).map fun uid => (uid, name.expression)

/-- The sources of a switch. -/
def switchSources : List String :=
  ["Clipboard", "NamedClipboard", "TriggerClipboard", "Variable", "Text", "Calculation",
   "EnvironmentVariable", "File"]

/-- The source of a switch with what belongs to it. -/
def switchSource (source : String) (args : Arguments) (mode : Option String)
    (clipboard : Fields Argument) : SwitchSource :=
  if source = "Variable" then .variableNamed (Slot.orEmpty (args.value "variable"))
  else if source = "Text" then .text (orEmpty (args.value "text")).expression mode
  else if source = "EnvironmentVariable" then
    .environment (Slot.orEmpty (args.value "environment_variable"))
  else if source = "NamedClipboard" then .namedClipboard (namedClipboard clipboard)
  else if source = "Calculation" then .calculation (Slot.orEmpty (args.value "calculation"))
  else if source = "File" then .file (Slot.orEmpty (args.value "path"))
  else .other source

/-- Actions for several cases. -/
def switch : Builder where
  name := "SwitchCase"
  parameters := [required "source", required "cases", emptyText "variable", emptyText "text",
    nullable "text_processing_mode", emptyText "calculation", emptyText "environment_variable",
    emptyText "path", nullable "named_clipboard"]
  build args := do
    let source ← choice "switch source" switchSources (args.value "source")
    let mode ← processing (args.value "text_processing_mode")
    let cases ← (← (args.value "cases").itemsOrNone).zipIdx.mapM fun (item, i) => caseOf i item
    if cases.isEmpty then invalid .noCases
    else
      let clipboard ← mapping (args.value "named_clipboard")
      return .switch (switchSource source args mode clipboard) cases

end MacroScribe.Builder
