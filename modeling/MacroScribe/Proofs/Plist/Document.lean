import MacroScribe.Plist.Markup
import MacroScribe.Proofs.Plist.RoundTrip

/-!
# MacroScribe.Proofs.Plist.Document

Reading whole documents. A document is what stands between a fixed beginning and a fixed end, and
has to be an array (`readDocument`). The envelope around the lines of property lists is read as the
array of what there is to be found of them.
-/

namespace MacroScribe.Plist

open Text Reader

/-- The declaration, the document type and the tag that every document begins with. -/
def preamble : List Char :=
  ("<?xml version=\"1.0\" encoding=\"UTF-8\"?>\n" ++
    "<!DOCTYPE plist PUBLIC \"-//Apple//DTD PLIST 1.0//EN\" " ++
    "\"http://www.apple.com/DTDs/PropertyList-1.0.dtd\">\n" ++
    "<plist version=\"1.0\">").toList

/-- The tag that every document ends with. -/
def closing : List Char := "</plist>".toList

/-- The values in a document. -/
def readDocument (s : List Char) : Option (List Reading) :=
  let inner := s.drop preamble.length
  if preamble.isPrefixOf s && closing.isSuffixOf inner then
    match read (inner.take (inner.length - closing.length)) with
    | some (.array items) => some items
    | _ => none
  else none

theorem readDocument_append {inner : List Char} {items : List Reading}
    (h : read inner = some (.array items)) :
    readDocument (preamble ++ (inner ++ closing)) = some items := by
  have hbegins : preamble.isPrefixOf (preamble ++ (inner ++ closing)) = true :=
    List.isPrefixOf_iff_prefix.mpr (List.prefix_append _ _)
  have hends : closing.isSuffixOf (inner ++ closing) = true :=
    List.isSuffixOf_iff_suffix.mpr (List.suffix_append _ _)
  have hinner : (inner ++ closing).take ((inner ++ closing).length - closing.length) = inner := by
    rw [List.length_append, Nat.add_sub_cancel, List.take_left]
  simp only [readDocument, List.drop_left, hbegins, hends, hinner, h, Bool.and_self, if_true]

/-- The lines of property lists between the tags of an array. -/
theorem read_array_itemLines {items : List Plist} {inner : List Line}
    (hwhole : ∀ v ∈ items, v.Whole) (h : itemLines 1 items = .ok inner) :
    read ((openTag "array" :: inner ++ [closeTag "array"]).flatMap ('\n' :: ·) ++ ['\n']) =
      some (.array (items.map view)) := by
  have hopen (rest : List Char) := run_line (s := start) 0 "array".toList rest rfl (by decide)
  have hitems := run_itemLines 1 [] [.array []] ('\n' :: closeTag "array" ++ ['\n'])
    (everyItem_iff.mpr hwhole) h
  have hclose := run_line (s := ⟨.array (viewItems items), [.array []], none⟩) 0 "/array".toList
    ['\n'] rfl (by decide)
  have hrun : run start [] none
      ((openTag "array" :: inner ++ [closeTag "array"]).flatMap ('\n' :: ·) ++ ['\n']) =
        some ⟨.array [.array (viewItems items)], [], none⟩ := by
    rw [List.flatMap_append, List.flatMap_cons, List.flatMap_singleton, List.append_assoc,
      List.append_assoc]
    refine (hopen _).trans (hitems.trans (hclose.trans ?_))
    rfl
  rw [read, readAll, hrun, ← viewItems_eq_map]
  rfl

theorem feed_flatMap (ls : List Line) :
    '\n' :: ls.flatMap (· ++ ['\n']) = ls.flatMap ('\n' :: ·) ++ ['\n'] := by
  induction ls with
  | nil => rfl
  | cons l ls ih =>
    rw [List.flatMap_cons, List.flatMap_cons, List.append_assoc, List.append_assoc, ← ih]
    rfl

theorem header_eq_preamble : header.toList = preamble ++ ('\n' :: openTag "array" ++ ['\n']) := by
  decide +kernel

theorem footer_eq_closing : footer.toList = closeTag "array" ++ ['\n'] ++ closing := by
  decide +kernel

/-- The envelope around the lines of property lists is read as them. -/
theorem readDocument_envelope {items : List Plist} {inner : List Line}
    (hwhole : ∀ v ∈ items, v.Whole) (h : itemLines 1 items = .ok inner) :
    readDocument
      (header ++ String.ofList (inner.flatMap (· ++ ['\n'])) ++ footer).toList =
        some (items.map view) := by
  have hlines : (openTag "array" :: inner ++ [closeTag "array"]).flatMap ('\n' :: ·) ++ ['\n'] =
      '\n' :: openTag "array" ++ ('\n' :: inner.flatMap (· ++ ['\n'])) ++
        (closeTag "array" ++ ['\n']) := by
    rw [feed_flatMap]
    simp
  rw [← readDocument_append (read_array_itemLines hwhole h), hlines, String.toList_append,
    String.toList_append, String.toList_ofList, header_eq_preamble, footer_eq_closing]
  simp

end MacroScribe.Plist
