import MacroScribe.Json.Text
/-!
# MacroScribe.Fault

Everything that can go wrong, as causes. Each cause has a kind, by which callers tell failures
apart, and a wording.

* `Misuse` collects the uses of a value as something that it is not, which no check precedes: a list
  where a text is written, a letter where a number is added. These failures are not announced
  (`Fault.announced`); their wording only shows when another fault encloses them.
* The other families belong to one part of the program each, and `Fault` joins them. Its remaining
  constructors enclose a fault and say where it was met.
-/

namespace MacroScribe

/-- The kinds of failure. -/
inductive Kind where
  | options
  | keystroke
  | condition
  | styledText
  | engine
  | value
  | type
  | key
  | missingFile
  | directory
  | notDirectory
  | fileExists
  | system
  | attribute
  | overflow
  | index
  deriving Repr, DecidableEq

/-- A failure of this kind says that some value is unacceptable. Documents report such failures with
the place at which they occurred. -/
def Kind.isValue : Kind → Bool
  | options | keystroke | condition | styledText | value => true
  | _ => false

/-- A failure of this kind comes from the system, mostly from its files. -/
def Kind.isSystem : Kind → Bool
  | missingFile | directory | notDirectory | fileExists | system => true
  | _ => false

/-- A value is used as something that it is not. -/
inductive Misuse where
  /-- A text is needed. -/
  | notText
  /-- A sequence is needed. -/
  | notIterable (type : String)
  /-- Something that can be searched is needed. -/
  | notSearchable (type : String)
  /-- A list or a mapping cannot be looked up in a table. -/
  | notScalar (type : String)
  /-- A number is needed, or a text to be joined to another. -/
  | notNumber (type : String)
  /-- A text is needed for a command or a path. -/
  | notName (type : String)
  /-- A record has no field of this name. -/
  | unknownField (owner field : String)
  /-- A field is given that the record sets itself. -/
  | repeatedField (owner field : String)
  /-- A record needs a field of this name. -/
  | missingField (owner field : String)
  /-- A text is not a numeral. -/
  | malformedNumeral (quoted : String)
  /-- A numeral has too many digits. -/
  | longNumeral (digits : Nat)
  /-- An integer has too many digits to be written. -/
  | longInteger
  /-- A text is not the numeral of a float. -/
  | malformedFloat (quoted : String)
  /-- The undefined float has no integer part. -/
  | undefinedNumber
  /-- An infinite float has no integer part. -/
  | infiniteNumber
  /-- An integer is beyond the range of floats. -/
  | hugeNumber
  /-- A table has no such key. -/
  | missingKey (key : String)
  /-- A list of pairs has an item of another length. -/
  | pairLength (index length : Nat)
  /-- A list of pairs has an item that is no sequence. -/
  | pairShape (index : Nat)
  /-- No character has this number. -/
  | notCharacter (code : Nat)
  /-- Base64 is written in ASCII. -/
  | notAscii
  /-- A list has no item of this number. -/
  | noSuchItem
  /-- The program to be called does not exist. -/
  | missingProgram (name : String)
  /-- An argument of a program has a null character in it. -/
  | nullArgument
  /-- A text with half a character in it has no bytes. -/
  | notEncodable
  deriving Repr, DecidableEq

namespace Misuse

/-- The kind of a misuse. -/
def kind : Misuse → Kind
  | notText => .attribute
  | notIterable _ | notSearchable _ | notScalar _ | notNumber _ | notName _ | unknownField _ _
  | repeatedField _ _ | missingField _ _ | pairShape _ => .type
  | malformedNumeral _ | longNumeral _ | longInteger | malformedFloat _ | undefinedNumber
  | pairLength _ _ | notAscii | nullArgument | notEncodable => .value
  | notCharacter code => if code < 0x80000000 then .value else .overflow
  | infiniteNumber | hugeNumber => .overflow
  | missingKey _ => .key
  | noSuchItem => .index
  | missingProgram _ => .missingFile

/-- The wording of a misuse. -/
def message : Misuse → String
  | notText => "a text is needed"
  | notIterable type => s!"'{type}' object is not iterable"
  | notSearchable type => s!"argument of type '{type}' is not iterable"
  | notScalar type => s!"unhashable type: '{type}'"
  | notNumber type => s!"unsupported operand type: '{type}'"
  | notName type => s!"expected str, not {type}"
  | unknownField owner field => s!"{owner}() got an unexpected keyword argument '{field}'"
  | repeatedField owner field => s!"{owner}() got multiple values for argument '{field}'"
  | missingField owner field => s!"{owner}() missing 1 required positional argument: '{field}'"
  | malformedNumeral quoted =>
    s!"invalid literal for int() with base 10: {String.ofList (quoted.toList.take 200)}"
  | longNumeral digits =>
    "Exceeds the limit (4300 digits) for integer string conversion: " ++
      s!"value has {digits} digits; use sys.set_int_max_str_digits() to increase the limit"
  | longInteger =>
    "Exceeds the limit (4300 digits) for integer string conversion; " ++
      "use sys.set_int_max_str_digits() to increase the limit"
  | malformedFloat quoted => s!"could not convert string to float: {quoted}"
  | undefinedNumber => "cannot convert float NaN to integer"
  | infiniteNumber => "cannot convert float infinity to integer"
  | hugeNumber => "int too large to convert to float"
  | missingKey key => key
  | pairLength index length =>
    s!"dictionary update sequence element #{index} has length {length}; 2 is required"
  | pairShape index =>
    s!"cannot convert dictionary update sequence element #{index} to a sequence"
  | notCharacter _ => "chr() arg not in range(0x110000)"
  | notAscii => "string argument should contain only ASCII characters"
  | noSuchItem => "list index out of range"
  | missingProgram name => name
  | nullArgument => "embedded null byte"
  | notEncodable => "surrogates not allowed"

end Misuse

/-- Alternatives, separated by commas. -/
def alternatives (names : List String) : String :=
  ", ".intercalate names

/-- A shortcut cannot be understood. -/
inductive KeystrokeFault where
  | outOfRange (code : Int)
  | unsupportedToken (token : String)
  | unknownCombination (combo : String)
  | malformedMapping (quoted : String)
  | unsupportedType (type : String)
  deriving Repr, DecidableEq

/-- The wording of a keystroke fault. -/
def KeystrokeFault.message : KeystrokeFault → String
  | outOfRange code => s!"Key code out of range: {String.ofList (Decimal.intText code)}"
  | unsupportedToken token => s!"Unsupported key token: '{token}'"
  | unknownCombination combo => s!"Unknown modifier combination: '{combo}'"
  | malformedMapping quoted =>
    "Keystroke mapping must have exactly one \x7bmask: key\x7d entry " ++
      s!"with a valid modifier mask, got {quoted}"
  | unsupportedType type => s!"Unsupported keystroke spec type: {type}"

/-- An application, a screen area or a clipboard cannot be made from what was given, or a value has
no form in a property list. -/
inductive PartFault where
  | notApplication (type : String)
  | notArea (type : String)
  | unknownArea (given : String) (valid : List String)
  | incompleteArea
  | notClipboard (quoted : String)
  | booleanNumber
  | unwritable (type : String)
  deriving Repr, DecidableEq

namespace PartFault

/-- The kind of a part fault. -/
def kind : PartFault → Kind
  | notApplication _ | notArea _ | booleanNumber | unwritable _ => .type
  | unknownArea _ _ | incompleteArea | notClipboard _ => .value

/-- The wording of a part fault. -/
def message : PartFault → String
  | notApplication type => s!"Cannot build a SpecificApp from {type}"
  | notArea type => s!"Cannot build a ScreenArea from {type}"
  | unknownArea given valid =>
    s!"Unknown screen area type '{given}'. Valid: {alternatives valid}"
  | incompleteArea => "Area screen areas need left, top, width and height"
  | notClipboard quoted =>
    s!"Clipboard destination must be 'TriggerClipboard' or a named clipboard, got {quoted}"
  | booleanNumber => "Booleans are not numbers here"
  | unwritable type => s!"Cannot serialize {type} as plist XML"

end PartFault

/-- A condition cannot be written. -/
inductive ConditionFault where
  | notMapping (type : String)
  | unknownType (given : String) (valid : List String)
  | unknownMatch (given : String) (valid : List String)
  | unsupportedValue (type quoted : String)
  deriving Repr, DecidableEq

/-- The wording of a condition fault. -/
def ConditionFault.message : ConditionFault → String
  | notMapping type => s!"Condition must be a mapping, got {type}"
  | unknownType given valid => s!"Unknown ConditionType '{given}'. Valid: {alternatives valid}"
  | unknownMatch given valid => s!"Unknown condition match '{given}'. Valid: {alternatives valid}"
  | unsupportedValue type quoted => s!"Unsupported condition value of type {type}: {quoted}"

/-- The options of an action are invalid or do not go together. -/
inductive OptionFault where
  | unknownAction (given : String) (valid : List String)
  | missingParameter (action quoted : String)
  | unknownParameter (action quoted : String)
  | invalidChoice (name given : String) (valid : List String)
  | notAction (name type : String)
  | unitWithoutTime
  | cancelWithoutInstance
  | setWithoutVariable
  | calculateWithoutVariable
  | repeatedHold
  | keylessKeystroke (quoted : String)
  | missingApplication
  | missingMenuPath
  | missingPath
  | missingUrl
  | missingImageFile
  | booleanModifiers
  | invalidMask (mask : Int)
  | notCase (type : String)
  | noCases
  deriving Repr, DecidableEq

/-- The wording of an option fault. -/
def OptionFault.message : OptionFault → String
  | unknownAction given valid => s!"Unknown action '{given}'. Known actions: {alternatives valid}"
  | missingParameter action quoted =>
    s!"Invalid parameters for '{action}': missing a required argument: {quoted}"
  | unknownParameter action quoted =>
    s!"Invalid parameters for '{action}': got an unexpected keyword argument {quoted}"
  | invalidChoice name given valid => s!"Invalid {name} '{given}'. Valid: {alternatives valid}"
  | notAction name type => s!"'{name}' must contain VirtualAction objects, got {type}"
  | unitWithoutTime => "Cannot specify 'unit' without 'time'."
  | cancelWithoutInstance =>
    "CancelSpecificMacro requires an 'instance' (macro name or UUID) to cancel."
  | setWithoutVariable => "set_variable requires a variable name"
  | calculateWithoutVariable => "set_variable_to_calculation requires a variable name"
  | repeatedHold => "pressAndRepeat cannot be combined with pressAndHold or holdTime"
  | keylessKeystroke quoted =>
    s!"TypeKeystroke requires a key, but received modifier-only keystroke {quoted}"
  | missingApplication => "show_specific_app requires an application (name, bundle id or path)"
  | missingMenuPath => "menu_path (list of menu/submenu titles) is required"
  | missingPath => "open_file requires a path"
  | missingUrl => "open_url requires a url"
  | missingImageFile => "file_path must be supplied when image_source is 'File'"
  | booleanModifiers => "click_modifiers must be a mask, a modifier string or a mapping"
  | invalidMask mask => s!"Invalid modifier mask: {String.ofList (Decimal.intText mask)}"
  | notCase type => s!"Switch cases must be CaseEntry or dict, got {type}"
  | noCases => "SwitchCase requires at least one case entry."

/-- A macro document, or a node of one, does not have the right shape. Nodes are given by their
path. -/
inductive DocumentFault where
  | notMapping (source : String)
  | noActions (source : String)
  | unparsable (path : String)
  | missing (path : String)
  | nodeNotMapping (path type : String)
  | nodeWithoutKind (path : String)
  | unknownKind (path kind : String)
  | notList (path type : String)
  | caseNotMapping (path : String)
  deriving Repr, DecidableEq

/-- The wording of a document fault. -/
def DocumentFault.message : DocumentFault → String
  | notMapping source => s!"{source}: macro document must be a mapping"
  | noActions source => s!"{source}: macro document has no 'actions'"
  | unparsable path => s!"Cannot parse {path}"
  | missing path => s!"Macro description not found: {path}"
  | nodeNotMapping path type => s!"{path}: action must be a mapping, got {type}"
  | nodeWithoutKind path => s!"{path}: every action needs a 'kind'"
  | unknownKind path kind => s!"{path}: unknown action kind '{kind}'"
  | notList path type => s!"{path}: expected a list of actions, got {type}"
  | caseNotMapping path => s!"{path}: case must be a mapping"

/-- The engine, or the tool that reaches it, failed. -/
inductive EngineFault where
  | timedOut (seconds : String)
  | runFailed (label message : String)
  | macroFailed (macroId message : String)
  | importFailed (path message : String)
  | noInstance (name : String)
  | readFailed (name message : String)
  | writeFailed (name message : String)
  deriving Repr, DecidableEq

/-- The wording of an engine fault. -/
def EngineFault.message : EngineFault → String
  | timedOut seconds => s!"osascript timed out after {seconds}s"
  | runFailed label message => s!"Failed to run {label}: {message}"
  | macroFailed macroId message => s!"Failed to run macro {macroId}: {message}"
  | importFailed path message => s!"Failed to import macros from {path}: {message}"
  | noInstance name =>
    s!"Variable '{name}' is instance-scoped but the KMINSTANCE env var is not set"
  | readFailed name message => s!"Failed to read variable {name}: {message}"
  | writeFailed name message => s!"Failed to set variable {name}: {message}"

/-- A file or a directory cannot be used as it is needed. -/
inductive FileFault where
  /-- Nothing is there. -/
  | missing
  /-- A directory stands where a file is needed. -/
  | directory
  /-- Something else stands where a directory is needed. -/
  | notDirectory
  /-- Something else stands where a directory is to be made. -/
  | occupied
  /-- A name is too long, or the whole path. -/
  | longName
  /-- No path holds a null character. -/
  | nullCharacter
  deriving Repr, DecidableEq

namespace FileFault

/-- The kind of a file fault. -/
def kind : FileFault → Kind
  | missing => .missingFile
  | directory => .directory
  | notDirectory => .notDirectory
  | occupied => .fileExists
  | longName => .system
  | nullCharacter => .value

/-- The wording of a file fault. -/
def message (path : String) : FileFault → String
  | missing => s!"[Errno 2] No such file or directory: '{path}'"
  | directory => s!"[Errno 21] Is a directory: '{path}'"
  | notDirectory => s!"[Errno 20] Not a directory: '{path}'"
  | occupied => s!"[Errno 17] File exists: '{path}'"
  | longName => s!"[Errno 36] File name too long: '{path}'"
  | nullCharacter => "embedded null byte"

end FileFault

/-- The configuration cannot be used. -/
inductive ConfigFault where
  | missing (path : String)
  | unparsable (path : String)
  | notMapping (path : String)
  | sectionNotMapping (name path : String)
  | unknownKeys (name path quoted : String)
  | seedNotInteger (path quoted : String)
  deriving Repr, DecidableEq

/-- The wording of a configuration fault. -/
def ConfigFault.message : ConfigFault → String
  | missing path => s!"kmforge config not found: {path}"
  | unparsable path => s!"Invalid YAML in {path}"
  | notMapping path => s!"Invalid kmforge config: top level must be a mapping in {path}"
  | sectionNotMapping name path => s!"Invalid kmforge config: '{name}' must be a mapping in {path}"
  | unknownKeys name path quoted => s!"Unknown keys in '{name}' section of {path}: {quoted}"
  | seedNotInteger path quoted =>
    s!"render.uid_seed must be an integer in {path}, got {quoted}"

/-- A failure. -/
inductive Fault where
  | misuse (m : Misuse)
  | keystroke (f : KeystrokeFault)
  | part (f : PartFault)
  | condition (f : ConditionFault)
  | option (f : OptionFault)
  | document (f : DocumentFault)
  | engine (f : EngineFault)
  | config (f : ConfigFault)
  /-- A path cannot be used. -/
  | file (path : String) (f : FileFault)
  /-- There is no token preset of this name. -/
  | unknownToken (name : String)
  /-- A styled text is not base64 of UTF-8. -/
  | undecodable
  /-- A macro file cannot be written. -/
  | unsaved (cause : Fault)
  /-- A screen area inside a condition is at fault. -/
  | inCondition (key type : String) (cause : Fault)
  /-- The part given for a parameter is at fault. -/
  | inParameter (name : String) (cause : Fault)
  /-- A case of a switch is at fault. -/
  | inCase (index : Nat) (cause : Fault)
  /-- A node of a document is at fault. -/
  | atNode (path : String) (cause : Fault)
  deriving Repr, DecidableEq

namespace Fault

/-- The kind of a fault. -/
def kind : Fault → Kind
  | misuse m => m.kind
  | keystroke _ => .keystroke
  | part f => f.kind
  | condition _ | inCondition _ _ _ => .condition
  | option _ | inParameter _ _ | inCase _ _ => .options
  | document (.missing _) => .missingFile
  | document _ => .value
  | engine _ => .engine
  | config (.missing _) => .missingFile
  | config _ => .value
  | file _ f => f.kind
  | unknownToken _ => .key
  | undecodable => .styledText
  | unsaved cause => cause.kind
  | atNode _ _ => .value

/-- The wording of a fault. -/
def message : Fault → String
  | misuse m => m.message
  | keystroke f => f.message
  | part f => f.message
  | condition f => f.message
  | option f => f.message
  | document f => f.message
  | engine f => f.message
  | config f => f.message
  | file path f => f.message path
  | unknownToken name => s!"Unknown token preset '{name}'"
  | undecodable => "Failed to decode StyledText payload"
  | unsaved _ => "Could not save macro file"
  | inCondition key type cause => s!"Invalid {key} in {type} condition: {cause.message}"
  | inParameter name cause => s!"Invalid {name}: {cause.message}"
  | inCase index cause => s!"Invalid switch case {index}: {cause.message}"
  | atNode path cause => s!"{path}: {cause.message}"

/-- The program says what went wrong, rather than running into it. -/
def announced : Fault → Bool
  | misuse _ | file _ _ => false
  | _ => true

end Fault

/-- Results of operations that may fail. -/
abbrev Outcome (α : Type) := Except Fault α

/-- Fails for a misuse. -/
def misused {α : Type} (m : Misuse) : Outcome α :=
  .error (.misuse m)

end MacroScribe
