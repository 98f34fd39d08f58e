import MacroScribe.Builder.Basic
import MacroScribe.Json.View
import MacroScribe.Keystroke.Basic
import MacroScribe.Token.Basic
/-!
# MacroScribe.Builder.Option

Checks that builders share. Each one turns an argument into the form in which actions hold the
option, or says why it cannot.
-/

namespace MacroScribe.Builder

/-- The failure of an option. -/
def invalid {α : Type} (f : OptionFault) : Outcome α :=
  .error (.option f)

/-- One of the offered words. -/
def choice (name : String) (valid : List String) (v : Argument) : Outcome String :=
  match v.str?.filter valid.contains with
  | some word => .ok word
  | none => invalid (.invalidChoice name v.plainText valid)

/-- One of the offered words, or null. -/
def optionalChoice (name : String) (valid : List String) (v : Argument) : Outcome (Option String) :=
  if v.isNull then .ok none else some <$> choice name valid v

/-- How the engine processes texts: it may only resolve tokens, or do nothing. -/
def processing (v : Argument) : Outcome (Option String) :=
  optionalChoice "processing mode" ["TextTokensOnly", "Nothing"] v

/-- What a value is, with the name of the parameter added to what may be wrong with it. -/
def inParameter {α : Type} (name : String) (result : Outcome α) : Outcome α :=
  result.mapError (.inParameter name)

/-- The application given for the parameter of that name. -/
def application (args : Arguments) : Outcome Application :=
  inParameter "application" (Argument.application (args.value "application"))

/-- The policy for failures. -/
def failure (args : Arguments) (standard : Bool) : FailurePolicy :=
  FailurePolicy.ofValues (args.value "stop_on_failure") (args.value "notify_on_failure") standard

/-- The policy for timeouts. -/
def timeout (args : Arguments) : TimeoutPolicy :=
  TimeoutPolicy.ofValues (args.value "timeout_aborts") (args.value "notify_on_timeout")

/-- The value, or the empty text if it does not count as given. -/
def orEmpty (v : Argument) : Argument :=
  if v.truthy then v else .str ""

/-- The token of a preset, or the text. -/
def tokenOr (text preset : Argument) : Outcome Argument :=
  if preset.truthy then do
    preset.requireScalar
    match preset.str?.bind Token.get? with
    | some token => return .str token
    | none => return text
  else .ok text

/-- The presets that stand beside the tokens where a variable or a clipboard is set. -/
def textPresets : List (String × String) :=
  [("delete", "%Delete%"), ("positionCursor", "%|%")]

/-- The text of a preset, or the given text. -/
def presetOr (text preset : Argument) : Outcome Argument := do
  preset.requireScalar
  match preset.str?.bind (Fields.get? textPresets) with
  | some token => return .str token
  | none => tokenOr text preset

/-- The nearest percentage to an integer. -/
def nearestPercent (n : Int) : Int :=
  max 0 (min 100 n)

/-- The integers that are as near to `2 ^ 1024` as to the greatest float, and those beyond, are not
within the range of floats. -/
def isWithinFloats (n : Int) : Bool :=
  n.natAbs < Nat.pow 2 1024 - Nat.pow 2 970

/-- A percentage: the nearest integer, halves upwards, and no less than 0 or more than 100. -/
def percent (v : Argument) : Outcome Int :=
  match v with
  | .bool b => .ok (if b then 1 else 0)
  | .int n => if isWithinFloats n then .ok (nearestPercent n) else misused .hugeNumber
  | .float x =>
    match Decimal.Binary.ofFloat (x + 0.5) with
    | .nan => misused .undefinedNumber
    | .infinite _ => misused .infiniteNumber
    | b => .ok (nearestPercent (b.floor?.getD 0))
  | v => misused (.notNumber v.typeName)

/-- The actions given for a parameter. -/
def children (name : String) (v : Argument) : Outcome (List Action) := do
  (← v.itemsOrNone).mapM fun item =>
    match Argument.action? item with
    | some a => .ok a
    | none => invalid (.notAction name item.typeName)

/-- The mask of the modifiers for a click: a mask already, a specification of a keystroke, or
nothing. -/
def modifierMask (v : Argument) : Outcome Int :=
  match v with
  | .bool _ => invalid .booleanModifiers
  | .int n => if Modifier.isMask n then .ok n else invalid (.invalidMask n)
  | v => if v.truthy then (·.mask) <$> Keystroke.ofJson v else .ok 0

/-- A styled text together with its plain text. A document may be given; otherwise it is made from
the text. -/
def styled (text rtf : Argument) : Outcome (Slot × Option Slot) :=
  if rtf.truthy then
    match rtf with
    | .str s => .ok (.text (String.ofList (Rtf.toText s.toList)), some (.text s))
    | v => misused (.notSearchable v.typeName)
  else
    match text with
    | .str s => .ok (.text s, some (.text (String.ofList (Rtf.ofText s.toList))))
    | _ => misused .notText

end MacroScribe.Builder
