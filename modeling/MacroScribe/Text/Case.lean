import MacroScribe.Text.CaseTable
/-!
# MacroScribe.Text.Case

Upper and lower case of whole texts, and the comparison of a text with a plain ASCII word without
regard to case. Upper case may lengthen a text (`ß` becomes `SS`), and the lower case of a capital
sigma is the final one at the end of a word.
-/

namespace MacroScribe.Text

/-- The partner that a table of runs gives to a code point. -/
def partner? (runs : List CaseRun) (code : Nat) : Option Nat :=
  (runs.find? (·.holds code)).map fun r => ((code : Int) + r.shift).toNat

/-- The upper case of one character. -/
def upperChar (c : Char) : List Char :=
  match upperExpansions.find? (·.1 == c.toNat) with
  | some (_, codes) => codes.map Char.ofNat
  | none => [((partner? upperRuns c.toNat).map Char.ofNat).getD c]

/-- The text in upper case. -/
def upper (s : List Char) : List Char :=
  s.flatMap upperChar

/-- The lower case of one character, wherever it stands. -/
def lowerChar (c : Char) : List Char :=
  if c = 'İ' then ['i', '\u0307'] else [((partner? lowerRuns c.toNat).map Char.ofNat).getD c]

/-- The nearest character that counts for case is a letter with a case. -/
def meetsCased (s : List Char) : Bool :=
  ((s.dropWhile (inClass caseIgnorableTable)).head?.map (inClass casedTable)).getD false

/-- Lower case from left to right; `before` holds the characters already passed, the last one
first. -/
def lowerFrom (before : List Char) : List Char → List Char
  | [] => []
  | c :: rest =>
    (if c = 'Σ' then (if meetsCased before && !meetsCased rest then ['ς'] else ['σ'])
      else lowerChar c) ++ lowerFrom (c :: before) rest

/-- The text in lower case. -/
def lower (s : List Char) : List Char :=
  lowerFrom [] s

/-- The ASCII letter that a character stands for when case is disregarded: the Kelvin sign is a `k`,
the long s an `s`, and an `i` may have its dot or not. -/
def foldChar (c : Char) : Char :=
  if c = 'ı' || c = 'İ' then 'i'
  else if c = 'ſ' then 's'
  else if c = '\u212a' then 'k'
  else c.toLower

/-- The text is the given lower-case ASCII word, case disregarded. -/
def isWordText (word : List Char) (s : List Char) : Bool :=
  s.map foldChar == word

end MacroScribe.Text
