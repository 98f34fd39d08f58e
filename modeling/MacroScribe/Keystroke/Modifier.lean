/-!
# MacroScribe.Keystroke.Modifier

The four modifier keys, the names under which they are known, and their encoding as a bit mask.
-/

namespace MacroScribe

/-- A modifier key. -/
inductive Modifier where
  | cmd
  | option
  | shift
  | control
  deriving Repr, DecidableEq

namespace Modifier

/-- All modifiers, in the order in which shortcuts list them. -/
def all : List Modifier :=
  [cmd, option, shift, control]

/-- The name that a shortcut shows. -/
def name : Modifier → String
  | cmd => "Cmd"
  | option => "Option"
  | shift => "Shift"
  | control => "Control"

/-- The bit that stands for the modifier in a mask. -/
def bit : Modifier → Nat
  | cmd => 256
  | shift => 512
  | option => 2048
  | control => 4096

/-- The names by which a modifier may be given, each side of the keyboard and other systems
included. -/
def aliases : List (String × Modifier) :=
  [("Cmd", .cmd), ("Command", .cmd), ("Meta", .cmd), ("CmdLeft", .cmd), ("CmdRight", .cmd),
   ("CommandLeft", .cmd), ("CommandRight", .cmd), ("MetaLeft", .cmd), ("MetaRight", .cmd),
   ("Win", .cmd), ("WinLeft", .cmd), ("WinRight", .cmd), ("Windows", .cmd), ("WindowsLeft", .cmd),
   ("WindowsRight", .cmd), ("Shift", .shift), ("ShiftLeft", .shift), ("ShiftRight", .shift),
   ("Option", .option), ("OptionLeft", .option), ("OptionRight", .option), ("Opt", .option),
   ("OptLeft", .option), ("OptRight", .option), ("Alt", .option), ("AltLeft", .option),
   ("AltRight", .option), ("Ctrl", .control), ("CtrlLeft", .control), ("CtrlRight", .control),
   ("Control", .control), ("ControlLeft", .control), ("ControlRight", .control),
   ("macControl", .control)]

/-- The modifier that a name stands for. -/
def ofAlias? (token : String) : Option Modifier :=
  (aliases.find? (·.1 == token)).map (·.2)

/-- The modifier that shows this name. -/
def ofName? (token : String) : Option Modifier :=
  all.find? (·.name == token)

/-- The modifiers of a collection, each once and in the order in which shortcuts list them. -/
def sorted (mods : List Modifier) : List Modifier :=
  all.filter mods.contains

/-- The mask of a collection of modifiers. -/
def mask (mods : List Modifier) : Nat :=
  ((sorted mods).map bit).foldr (· + ·) 0

/-- The modifiers whose bits a mask has. -/
def ofMask (mask : Int) : List Modifier :=
  all.filter fun m => mask / m.bit % 2 == 1

/-- The mask is that of some modifiers. -/
def isMask (n : Int) : Bool :=
  n == (mask (ofMask n) : Int)

/-- The masks of all combinations, under the names of their modifiers joined by plus signs. -/
def combinations : List (String × Nat) :=
  [("", 0), ("Cmd", 256), ("Shift", 512), ("Cmd+Shift", 768), ("Option", 2048),
   ("Cmd+Option", 2304), ("Option+Shift", 2560), ("Cmd+Option+Shift", 2816), ("Control", 4096),
   ("Cmd+Control", 4352), ("Shift+Control", 4608), ("Cmd+Shift+Control", 4864),
   ("Option+Control", 6144), ("Cmd+Option+Control", 6400), ("Option+Shift+Control", 6656),
   ("Cmd+Option+Shift+Control", 6912)]

/-- The names of modifiers joined by plus signs. -/
def join (mods : List Modifier) : String :=
  "+".intercalate (mods.map name)

/-- The mask that the table of combinations gives to a name. -/
def combinationMask? (combo : String) : Option Nat :=
  (combinations.find? (·.1 == combo)).map (·.2)

end Modifier
end MacroScribe
