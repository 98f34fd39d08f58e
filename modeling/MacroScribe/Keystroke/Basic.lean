import MacroScribe.Keystroke.Shortcut
import MacroScribe.Keystroke.Token
/-!
# MacroScribe.Keystroke.Basic

A keystroke in its normal form, a mask of modifiers and a key code, and the ways in which one may be
specified: as a key code, as a shortcut, or as a mapping that is the normal form already.

`Keystroke.describe` writes a keystroke as a shortcut. A keystroke with a key code within its range,
or with modifiers alone, is the normal form of that shortcut.
-/

namespace MacroScribe

/-- A keystroke: the mask of its modifiers and the code of its key. There is no key when modifiers
alone are pressed. -/
structure Keystroke where
  mask : Int
  key : Option Int
  deriving Repr, DecidableEq

/-- A specification of a keystroke. -/
inductive KeystrokeSpec where
  /-- A key code. -/
  | code (n : Int)
  /-- A shortcut in words. -/
  | shortcut (text : String)
  /-- A mapping from a mask to a key code. -/
  | chord (mask : Int) (key : Option Int)
  /-- Any other mapping, in quoted form. -/
  | mapping (quoted : String)
  /-- A value of another type. -/
  | other (type : String)
  deriving Repr, DecidableEq

namespace KeystrokeSpec

/-- The specification that a mapping from a mask to a value is. -/
def ofMasked {ω : Type} [Described ω] (mask : Int) : Json ω → KeystrokeSpec
  | .null => chord mask none
  | .int n => chord mask (some n)
  | v =>
    mapping (String.ofList ('\x7b' :: Decimal.intText mask ++ ':' :: ' ' :: v.quoted ++ ['\x7d']))

/-- The specification that a value is. The keys of mappings are texts, so a mask is given by its
ASCII digits. -/
def ofJson {ω : Type} [Described ω] (v : Json ω) : Outcome KeystrokeSpec :=
  match v with
  | .int n => .ok (code n)
  | .str s => .ok (shortcut s)
  | .obj [(key, value)] =>
    if key ≠ "" ∧ key.toList.all Char.isDigit then do return ofMasked (← integerOfText key) value
    else .ok (mapping v.quotedText)
  | .obj _ => .ok (mapping v.quotedText)
  | v => .ok (other v.typeName)

end KeystrokeSpec

namespace Keystroke

/-- A mapping from a mask to a key code in quoted form. -/
def quoted (mask : Int) (key : Option Int) : String :=
  String.ofList ('\x7b' :: Decimal.intText mask ++ ':' :: ' ' ::
    (match key with
      | some code => Decimal.intText code
      | none => "None".toList) ++ ['\x7d'])

/-- The keystroke that a shortcut means. -/
def ofShortcut (s : Shortcut) : Outcome Keystroke :=
  let mask := Modifier.mask s.modifiers
  if s.token = "" ∧ s.modifiers ≠ [] then .ok ⟨mask, none⟩
  else do return ⟨mask, some (← KeyCode.resolve s.token)⟩

/-- The normal form of a specification. -/
def normalize : KeystrokeSpec → Outcome Keystroke
  | .code n => do return ⟨0, some (← KeyCode.checked n)⟩
  | .shortcut text => ofShortcut (Shortcut.parse text)
  | .chord mask key =>
    if Modifier.isMask mask then .ok ⟨mask, key⟩
    else .error (.keystroke (.malformedMapping (quoted mask key)))
  | .mapping text => .error (.keystroke (.malformedMapping text))
  | .other type => .error (.keystroke (.unsupportedType type))

/-- The keystroke that a value specifies. -/
def ofJson {ω : Type} [Described ω] (v : Json ω) : Outcome Keystroke := do
  normalize (← KeystrokeSpec.ofJson v)

/-- The specification that a keystroke is of itself. -/
def toSpec (k : Keystroke) : KeystrokeSpec :=
  .chord k.mask k.key

/-- What a shortcut shows for a key code: the name of the key, or the code. -/
def keyText (code : Int) : String :=
  (KeyCode.name? code).getD (KeyCode.codeMark ++ String.ofList (Decimal.intText code))

/-- The keystroke as a shortcut. -/
def describe (k : Keystroke) : String :=
  "+".intercalate ((Modifier.ofMask k.mask).map Modifier.name ++ (k.key.map keyText).toList)

/-- The keystroke as data, with the shortcut that shows it. -/
def toFields (k : Keystroke) : Fields Data :=
  [("mask", .int k.mask), ("key", (k.key.map .int).getD .null), ("description", .str k.describe)]

end Keystroke
end MacroScribe
