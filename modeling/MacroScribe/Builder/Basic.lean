import MacroScribe.Condition.Basic
import MacroScribe.Text.Quoted
/-!
# MacroScribe.Builder.Basic

A builder makes an action from named parameters. Its parameters are known in advance: those without
a default are required, and no others are accepted.
-/

namespace MacroScribe

/-- A parameter and the value that it has when it is not given. -/
structure Parameter where
  name : String
  standard : Option Argument

namespace Parameter

/-- A parameter that has to be given. -/
def required (name : String) : Parameter := ⟨name, none⟩

/-- A parameter with a default. -/
def withDefault (name : String) (value : Argument) : Parameter := ⟨name, some value⟩

/-- A parameter that is null by default. -/
def nullable (name : String) : Parameter := withDefault name .null

/-- A parameter that is the empty text by default. -/
def emptyText (name : String) : Parameter := withDefault name (.str "")

/-- A parameter that is a flag. -/
def flag (name : String) (value : Bool) : Parameter := withDefault name (.bool value)

/-- The parameters about failures. -/
def failure : List Parameter :=
  [nullable "stop_on_failure", nullable "notify_on_failure"]

end Parameter

/-- The values of all parameters of a builder. -/
abbrev Arguments := Fields Argument

/-- A way to make actions. -/
structure Builder where
  name : String
  parameters : List Parameter
  build : Arguments → Outcome Action

namespace Builder

/-- The values of all parameters, given some of them. A parameter that is missing is reported before
one that is not known. -/
def bind (b : Builder) (given : Fields Argument) : Outcome Arguments :=
  let value (p : Parameter) : Option Argument := (given.get? p.name).or p.standard
  match b.parameters.find? fun p => (value p).isNone with
  | some p => .error (.option (.missingParameter b.name (Text.quoteString p.name)))
  | none =>
    match given.unknown? (b.parameters.map (·.name)) with
    | some name => .error (.option (.unknownParameter b.name (Text.quoteString name)))
    | none => .ok (b.parameters.map fun p => (p.name, (value p).getD .null))

/-- The action that a builder makes from parameters. -/
def apply (b : Builder) (given : Fields Argument) : Outcome Action := do
  b.build (← b.bind given)

end Builder
end MacroScribe
