/-!
# MacroScribe.Text.Split

Cutting a text at a separator and joining the parts again, and finding and replacing one text in
another. Texts are lists of characters; `joinWith_splitOn` says that cutting loses nothing. In files
a carriage return, a line feed, or the one followed by the other ends a line.
-/

namespace MacroScribe.Text

/-- Puts a character before a list of parts: a separator opens a new part, any other character
belongs to the first one. -/
def consPart (sep c : Char) (parts : List (List Char)) : List (List Char) :=
  if c = sep then [] :: parts
  else match parts with
    | [] => [[c]]
    | part :: rest => (c :: part) :: rest

/-- The parts of a text between its separators: always one more than there are separators. -/
def splitOn (sep : Char) (s : List Char) : List (List Char) :=
  s.foldr (consPart sep) [[]]

/-- The parts in order, with a separator between each two. -/
def joinWith (sep : Char) (parts : List (List Char)) : List Char :=
  [sep].intercalate parts

@[simp] theorem splitOn_nil (sep : Char) : splitOn sep [] = [[]] := rfl

@[simp] theorem splitOn_cons (sep c : Char) (s : List Char) :
    splitOn sep (c :: s) = consPart sep c (splitOn sep s) := rfl

theorem splitOn_ne_nil (sep : Char) (s : List Char) : splitOn sep s ≠ [] := by
  cases s with
  | nil => simp
  | cons c s =>
    simp only [splitOn_cons, consPart]
    split
    · simp
    · split <;> simp

/-- Putting a character before a list of parts puts it before the text that they are the parts of.
-/
theorem joinWith_consPart (sep c : Char) {parts : List (List Char)} (h : parts ≠ []) :
    joinWith sep (consPart sep c parts) = c :: joinWith sep parts := by
  match parts with
  | [] => exact absurd rfl h
  | [part] =>
    simp only [consPart]
    split <;> simp_all [joinWith, List.intercalate]
  | part :: next :: rest =>
    simp only [consPart]
    split <;> simp_all [joinWith, List.intercalate]

/-- The parts of a text, joined again, are the text. -/
theorem joinWith_splitOn (sep : Char) (s : List Char) : joinWith sep (splitOn sep s) = s := by
  induction s with
  | nil => simp [joinWith, List.intercalate]
  | cons c s ih => rw [splitOn_cons, joinWith_consPart sep c (splitOn_ne_nil sep s), ih]

/-- The lines of a text: its parts between line feeds. -/
def lines (s : List Char) : List (List Char) :=
  splitOn '\n' s

/-- Lines put together with line feeds. -/
def unlines (ls : List (List Char)) : List Char :=
  joinWith '\n' ls

/-- `part` occurs in the text. -/
def contains (part : List Char) : List Char → Bool
  | [] => part.isEmpty
  | c :: rest => part.isPrefixOf (c :: rest) || contains part rest

/-- The text with each match of a pattern replaced, from left to right. At a position the pattern
gives the number of characters that it matches there, at least one, and what replaces them; `skip`
characters of a match are still to be left out. -/
def substituteFrom (pattern : List Char → Option (Nat × List Char)) :
    Nat → List Char → List Char
  | _, [] => []
  | skip + 1, _ :: rest => substituteFrom pattern skip rest
  | 0, c :: rest =>
    match pattern (c :: rest) with
    | some (count, text) => text ++ substituteFrom pattern (count - 1) rest
    | none => c :: substituteFrom pattern 0 rest

/-- The text with each match of a pattern replaced. -/
def substitute (pattern : List Char → Option (Nat × List Char)) (s : List Char) : List Char :=
  substituteFrom pattern 0 s

/-- The text with each occurrence of `old` replaced by `new`. An empty `old` occurs before each
character and at the end. -/
def replace (old new : List Char) (s : List Char) : List Char :=
  if old.isEmpty then s.foldr (fun c rest => new ++ c :: rest) new
  else substitute (fun t => if old.isPrefixOf t then some (old.length, new) else none) s

/-! ### Line ends -/

/-- The text with every kind of line end replaced by a line feed. -/
def plainLineEnds : List Char → List Char
  | [] => []
  | '\r' :: '\n' :: rest => '\n' :: plainLineEnds rest
  | c :: rest => (if c = '\r' then '\n' else c) :: plainLineEnds rest

end MacroScribe.Text
