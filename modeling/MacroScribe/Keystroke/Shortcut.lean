import MacroScribe.Fault
import MacroScribe.Keystroke.Modifier
import MacroScribe.Text.Class
import MacroScribe.Text.Split
/-!
# MacroScribe.Keystroke.Shortcut

Shortcuts as people write them, such as `Cmd+Shift+KeyD`: tokens between plus signs, with or without
blanks around them. Every token that names a modifier adds it; of the others only the last one
counts, and it names the key.
-/

namespace MacroScribe

/-- A shortcut in its parts: modifiers, and the token for the key, which is empty when there is
none. -/
structure Shortcut where
  modifiers : List Modifier
  token : String
  deriving Repr, DecidableEq

namespace Shortcut

/-- The tokens of a shortcut. -/
def tokens (text : String) : List String :=
  (((Text.splitOn '+' text.toList).map Text.strip).filter (!·.isEmpty)).map String.ofList

/-- The shortcut that a list of tokens describes. -/
def ofTokens (tokens : List String) : Shortcut where
  modifiers := Modifier.sorted (tokens.filterMap Modifier.ofAlias?)
  token := ((tokens.filter fun t => (Modifier.ofAlias? t).isNone).getLast?).getD ""

/-- The shortcut that a text describes. -/
def parse (text : String) : Shortcut :=
  ofTokens (tokens text)

/-- The mask of a shortcut that consists of modifiers only, looked up in the table of
combinations. -/
def comboMask (combo : String) : Outcome Nat :=
  match (tokens combo).mapM Modifier.ofAlias? with
  | none => .error (.keystroke (.unknownCombination combo))
  | some mods =>
    let key := Modifier.join (Modifier.sorted mods)
    match Modifier.combinationMask? key with
    | some mask => .ok mask
    | none => misused (.missingKey key)

end Shortcut
end MacroScribe
