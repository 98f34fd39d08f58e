import MacroScribe.Json.View
import MacroScribe.Text.Case
/-!
# MacroScribe.Keystroke.Token

The virtual key codes of the engine, by the name of the physical key, and the key that a single
token names. Some keys share a code; such a code shows the name that comes first. Of the rules for
tokens the first one that applies decides:

1. `KeyCode:` and digits give the code itself;
2. a name of the key table gives its code;
3. a single letter or digit is the key that carries it;
4. two or more digits are the code itself.
-/

namespace MacroScribe.KeyCode

/-! ### Key codes -/

/-- The keys and their codes. -/
def table : List (String × Nat) :=
  [("Backquote", 50), ("Digit1", 18), ("Digit2", 19), ("Digit3", 20), ("Digit4", 21),
   ("Digit5", 23), ("Digit6", 22), ("Digit7", 26), ("Digit8", 28), ("Digit9", 25), ("Digit0", 29),
   ("Minus", 27), ("Equal", 24), ("KeyQ", 12), ("KeyW", 13), ("KeyE", 14), ("KeyR", 15),
   ("KeyT", 17), ("KeyY", 16), ("KeyU", 32), ("KeyI", 34), ("KeyO", 31), ("KeyP", 35),
   ("BracketLeft", 33), ("BracketRight", 30), ("Backslash", 42), ("KeyA", 0), ("KeyS", 1),
   ("KeyD", 2), ("KeyF", 3), ("KeyG", 5), ("KeyH", 4), ("KeyJ", 38), ("KeyK", 40), ("KeyL", 37),
   ("Semicolon", 41), ("Quote", 39), ("KeyZ", 6), ("KeyX", 7), ("KeyC", 8), ("KeyV", 9),
   ("KeyB", 11), ("KeyN", 45), ("KeyM", 46), ("Comma", 43), ("Period", 47), ("Slash", 44),
   ("Space", 49), ("Tab", 48), ("Enter", 36), ("NumpadEnter", 76), ("Backspace", 51),
   ("Delete", 51), ("Escape", 53), ("CapsLock", 57), ("ArrowLeft", 123), ("ArrowRight", 124),
   ("ArrowDown", 125), ("ArrowUp", 126), ("Home", 115), ("End", 119), ("PageUp", 116),
   ("PageDown", 121), ("F1", 122), ("F2", 120), ("F3", 99), ("F4", 118), ("F5", 96), ("F6", 97),
   ("F7", 98), ("F8", 100), ("F9", 101), ("F10", 109), ("F11", 103), ("F12", 111), ("F13", 105),
   ("F14", 107), ("F15", 113), ("F16", 106), ("F17", 64), ("F18", 79), ("F19", 80), ("F20", 90),
   ("Numpad0", 82), ("Numpad1", 83), ("Numpad2", 84), ("Numpad3", 85), ("Numpad4", 86),
   ("Numpad5", 87), ("Numpad6", 88), ("Numpad7", 89), ("Numpad8", 91), ("Numpad9", 92),
   ("NumpadMultiply", 67), ("NumpadAdd", 69), ("NumpadSubtract", 78), ("NumpadDivide", 75),
   ("NumpadDecimal", 65), ("NumpadEqual", 81), ("NumLock", 71), ("Insert", 114),
   ("PrintScreen", 114), ("Pause", 131)]

/-- The code of a key. -/
def ofName? (name : String) : Option Nat :=
  (table.find? (·.1 == name)).map (·.2)

/-- The first key with this code. -/
def name? (code : Int) : Option String :=
  (table.find? fun entry => (entry.2 : Int) == code).map (·.1)

/-- Key codes are bytes. -/
def isCode (code : Int) : Bool :=
  0 ≤ code && code ≤ 255

/-! ### Tokens -/

/-- What precedes a code that is given as a number. -/
def codeMark : String := "KeyCode:"

/-- The token names no key. -/
def unsupported {α : Type} (token : String) : Outcome α :=
  .error (.keystroke (.unsupportedToken token))

/-- A code within the range of codes. The report of any other writes it out, which fails where it
has more digits than are converted. -/
def checked (code : Int) : Outcome Int :=
  if isCode code then .ok code
  else if Decimal.maxDigits < (Decimal.natText code.natAbs).length then misused .longInteger
  else .error (.keystroke (.outOfRange code))

/-- The code of a key that the table has to hold. -/
def required (name : String) : Outcome Int :=
  match ofName? name with
  | some code => .ok code
  | none => misused (.missingKey name)

/-- A text sorts between the letters `A` and `Z`, both included. -/
def isLetterLike : List Char → Bool
  | [] => false
  | c :: rest => 'A' ≤ c && (c < 'Z' || (c == 'Z' && rest.isEmpty))

/-- The code of the key that carries a character, by its upper case; `none` if it is neither a
letter nor a digit. -/
def ofChar? (c : Char) : Option (Outcome Int) :=
  let upper := Text.upperChar c
  if isLetterLike upper then some (required ("Key" ++ String.ofList upper))
  else if upper.length = 1 ∧ upper.all Char.isDigit then
    some (required ("Digit" ++ String.ofList upper))
  else none

/-- The code that a token names. -/
def resolve (token : String) : Outcome Int :=
  let chars := token.toList
  if codeMark.toList.isPrefixOf chars then
    let digits := chars.drop codeMark.length
    if !digits.isEmpty && digits.all Text.isDigit then do
      checked (← integerOfText (String.ofList digits))
    else unsupported token
  else
    match ofName? token with
    | some code => .ok code
    | none =>
      match chars with
      | [] => unsupported token
      | [c] => (ofChar? c).getD (unsupported token)
      | _ =>
        if chars.all Char.isDigit then do checked (← integerOfText token) else unsupported token

end MacroScribe.KeyCode
