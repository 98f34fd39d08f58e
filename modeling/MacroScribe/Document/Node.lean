import MacroScribe.Builder.Registry
/-!
# MacroScribe.Document.Node

The nodes of a macro document: mappings with the name of an action under `kind` and its parameters
under their names. Where a parameter holds actions, its nodes are built first, each at its own path,
such as `actions[1].then[0]`. A failure names the path of the node at which it occurred.
-/

namespace MacroScribe.Node

/-- The failure of a document. -/
def invalid {α : Type} (f : DocumentFault) : Outcome α :=
  .error (.document f)

/-- The path of an item of a list. -/
def itemPath (path : String) (index : Nat) : String :=
  s!"{path}[{index}]"

/-- The parameters that hold actions, by the name of the builder, with the words for them in paths.
They are built in this order. -/
def branches (kind : String) : List (String × String) :=
  if kind = "Group" ∨ kind = "While" then [("actions", "actions")]
  else if kind = "IfThenElse" then [("then", "then"), ("else_", "else")]
  else []

/-- The parameter that a key of a node stands for. -/
def parameter (key : String) : String :=
  if key = "else" then "else_" else key

/-- The builder that a node asks for. Words in its name may be separated by underscores. -/
def builderOf (path : String) (kind : Data) : Outcome Builder :=
  match kind.str?.filter (· != "") with
  | none => invalid (.nodeWithoutKind path)
  | some kind =>
    match Builder.find? ['_'] kind with
    | some b => .ok b
    | none => invalid (.unknownKind path kind)

/-- Says at which node an unacceptable value was met. -/
def locate (path : String) (fault : Fault) : Fault :=
  if fault.kind.isValue then .atNode path fault else fault

/-- Actions as an argument. -/
def ofActions (actions : List Action) : Argument :=
  .list (actions.map fun a => .embed (.action a))

/-- The parameters, if none of them failed. The failures of those named first come first. -/
def gather (first : List String) (params : Fields (Outcome Argument)) :
    Outcome (Fields Argument) := do
  first.forM fun key =>
    match params.get? key with
    | some (.error fault) => .error fault
    | _ => .ok ()
  params.mapM fun (key, value) => do return (key, ← value)

mutual

/-- The action that a node describes. -/
def build (path : String) : Data → Outcome Action
  | .obj fields => do
    let b ← builderOf path (Fields.value fields "kind")
    let params := Fields.ofList (buildParams path b.name fields)
    let given ← gather ((branches b.name).map (·.1)) params
    (b.apply given).mapError (locate path)
  | v => invalid (.nodeNotMapping path v.typeName)

/-- The parameters of a node, each with what became of it. -/
def buildParams (path kind : String) : List (String × Data) → List (String × Outcome Argument)
  | [] => []
  | (key, value) :: rest =>
    let others := buildParams path kind rest
    let param := parameter key
    if key = "kind" then others
    else
      match Fields.get? (branches kind) param with
      | some label => (param, ofActions <$> buildList s!"{path}.{label}" value) :: others
      | none =>
        if kind = "SwitchCase" ∧ param = "cases" then (param, buildCases path value) :: others
        else (param, .ok value.lift) :: others

/-- The actions of a list of nodes; null is the empty list. -/
def buildList (path : String) : Data → Outcome (List Action)
  | .null => .ok []
  | .list nodes => buildItems path 0 nodes
  | v => invalid (.notList path v.typeName)

/-- The actions of nodes, numbered from `index`. -/
def buildItems (path : String) (index : Nat) : List Data → Outcome (List Action)
  | [] => .ok []
  | node :: rest => do
    let first ← build (itemPath path index) node
    return first :: (← buildItems path (index + 1) rest)

/-- The cases of a switch with their actions built. Anything but a list is left as it is. -/
def buildCases (path : String) : Data → Outcome Argument
  | .list cases => .list <$> buildCaseItems s!"{path}.cases" 0 cases
  | v => .ok v.lift

/-- Cases, numbered from `index`. -/
def buildCaseItems (path : String) (index : Nat) : List Data → Outcome (List Argument)
  | [] => .ok []
  | .obj fields :: rest => do
    let actions ← buildCaseActions s!"{itemPath path index}.actions" fields
    let first : Argument := .obj (Fields.put "actions" (ofActions actions)
      (fields.map fun f => (f.1, f.2.lift)))
    return first :: (← buildCaseItems path (index + 1) rest)
  | _ :: _ => invalid (.caseNotMapping (itemPath path index))

/-- The actions of a case. -/
def buildCaseActions (path : String) : List (String × Data) → Outcome (List Action)
  | [] => .ok []
  | (key, value) :: rest =>
    if key = "actions" then buildList path value else buildCaseActions path rest

end

end MacroScribe.Node
