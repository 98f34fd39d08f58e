import MacroScribe.Plist.Markup
import MacroScribe.Proofs.Plist.Moving
import MacroScribe.Proofs.Plist.RoundTrip
import MacroScribe.Text.Case

/-!
# MacroScribe.Proofs.Plist.Marked

What a search through a written property list comes across. A written property list is a sequence of
pieces: tags, keys, byte strings, and what stands between tags. `Marked key s bytes` says that `s`
is put together of such pieces, that what its keys are written as satisfies `key`, and that `bytes`
are its byte strings in order. Lines of property lists are marked (`marked_lines`), and so is a
document around them, so that a search has only to be followed through one piece of each kind.
-/

namespace MacroScribe.Plist

open Text Reader

/-! ### Byte strings -/

mutual

/-- The byte strings in a property list, in written order. -/
def payloads : Plist → List (List UInt8)
  | data bytes => [bytes]
  | array items => payloadItems items
  | dict entries => payloadEntries entries
  | _ => []

/-- The byte strings in values. -/
def payloadItems : List Plist → List (List UInt8)
  | [] => []
  | v :: rest => v.payloads ++ payloadItems rest

/-- The byte strings in the values of entries. -/
def payloadEntries : List (String × Plist) → List (List UInt8)
  | [] => []
  | (_, v) :: rest => v.payloads ++ payloadEntries rest

end

theorem payloadItems_eq_flatMap (items : List Plist) :
    payloadItems items = items.flatMap payloads := by
  induction items with
  | nil => rfl
  | cons v rest ih => rw [payloadItems, ih, List.flatMap_cons]

theorem payloadEntries_append (as bs : List (String × Plist)) :
    payloadEntries (as ++ bs) = payloadEntries as ++ payloadEntries bs := by
  induction as with
  | nil => rfl
  | cons e as ih => rw [List.cons_append, payloadEntries, payloadEntries, ih, List.append_assoc]

mutual

/-- Moving a property list in does not touch its byte strings. -/
theorem payloads_moved (depth : Nat) : ∀ v : Plist, (v.moved depth).payloads = v.payloads
  | string .. | integer _ | real _ | bool _ | data _ | fragment _ | broken _ => rfl
  | array items => payloadItems_moved depth items
  | dict entries => payloadEntries_moved depth entries

theorem payloadItems_moved (depth : Nat) :
    ∀ items : List Plist, payloadItems (movedItems depth items) = payloadItems items
  | [] => rfl
  | v :: rest => by
    rw [movedItems, payloadItems, payloadItems, payloads_moved depth v,
      payloadItems_moved depth rest]

theorem payloadEntries_moved (depth : Nat) :
    ∀ entries : List (String × Plist),
      payloadEntries (movedEntries depth entries) = payloadEntries entries
  | [] => rfl
  | (_, v) :: rest => by
    rw [movedEntries, payloadEntries, payloadEntries, payloads_moved depth v,
      payloadEntries_moved depth rest]

end

/-! ### Pieces -/

/-- The name in a tag that begins neither a key nor a byte string, in whatever case. -/
def TagName (name : List Char) : Prop :=
  '<' ∉ name ∧ '>' ∉ name ∧ name.map foldChar ∉ ["key".toList, "data".toList]

instance : DecidablePred TagName := fun name =>
  inferInstanceAs (Decidable ('<' ∉ name ∧ '>' ∉ name ∧ _))

/-- The text is put together of tags, keys, byte strings and texts between tags. What the keys are
written as satisfies `key`, and the byte strings are the given ones. -/
inductive Marked (key : List Char → Prop) : List Char → List (List UInt8) → Prop where
  | gap {s : List Char} (hs : '<' ∉ s) : Marked key s []
  | tag {name : List Char} (hn : TagName name) : Marked key ('<' :: (name ++ ['>'])) []
  | key {content : List Char} (hc : '<' ∉ content) (hk : key content) :
      Marked key (element "key" content) []
  | data {content : List Char} {bytes : List UInt8} (hc : '<' ∉ content)
      (hb : content.filter (!isBlank ·) = Base64.encode bytes) :
      Marked key (element "data" content) [bytes]
  | append {s t : List Char} {as bs : List (List UInt8)} :
      Marked key s as → Marked key t bs → Marked key (s ++ t) (as ++ bs)

theorem TagName.close {name : List Char} (h : TagName name) : TagName ('/' :: name) := by
  refine ⟨by simp [h.1], by simp [h.2.1], ?_⟩
  have hslash : foldChar '/' = '/' := by decide
  simp [hslash]

namespace Marked

variable {key : List Char → Prop} {s t : List Char} {bytes : List (List UInt8)}

theorem append_left (hs : Marked key s []) (ht : Marked key t bytes) : Marked key (s ++ t) bytes :=
  hs.append ht

theorem append_right (hs : Marked key s bytes) (ht : Marked key t []) :
    Marked key (s ++ t) bytes :=
  List.append_nil bytes ▸ hs.append ht

/-- A line begins with a gap. -/
theorem line (d : Nat) (ht : Marked key t bytes) :
    Marked key ([indent d ++ t].flatMap ('\n' :: ·)) bytes := by
  rw [List.flatMap_singleton, ← List.cons_append]
  exact (gap (not_mem_feed_indent d)).append_left ht

/-- An element that is neither a key nor a byte string. -/
theorem element {name : String} {content : List Char} (hn : TagName name.toList)
    (hc : '<' ∉ content) : Marked key (element name content) [] :=
  ((tag hn).append (gap hc)).append (tag hn.close)

/-- The lines of a container. -/
theorem enclose (d : Nat) {name : String} {body : List Line} (hn : TagName name.toList)
    (hempty : TagName (name.toList ++ ['/'])) (hbody : Marked key (body.flatMap ('\n' :: ·)) bytes) :
    Marked key ((enclose d name body).flatMap ('\n' :: ·)) bytes := by
  rw [Plist.enclose]
  split
  · next h =>
    rw [List.isEmpty_iff.mp h] at hbody
    have htag : emptyTag name = '<' :: (name.toList ++ ['/'] ++ ['>']) := by simp [emptyTag]
    rw [← List.append_nil (List.flatMap _ _), htag]
    exact (line d (tag hempty)).append_left hbody
  · rw [List.cons_append, ← List.singleton_append, List.flatMap_append, List.flatMap_append]
    exact (line d (tag hn)).append_left (hbody.append_right (line d (tag hn.close)))

end Marked

/-! ### Lines -/

variable {key : List Char → Prop}

/-- A leaf that was not written before. -/
def FreshLeaf : Plist → Prop
  | fragment _ => False
  | _ => True

theorem SolidLeaf.fresh {v : Plist} (h : SolidLeaf v) : FreshLeaf v := by
  cases v <;> first | exact h.elim | trivial

/-- A predicate on keys, by what they are written as. -/
def WrittenKey (key : List Char → Prop) (k : String) : Prop :=
  key (escape k.toList)

theorem marked_dataLines (d : Nat) (bytes : List UInt8) :
    Marked key ((dataLines d bytes).flatMap ('\n' :: ·)) [bytes] := by
  have hdata : Marked key _ _ := .data (not_mem_dataContent d bytes) (filter_dataContent d bytes)
  rw [flatMap_feed_dataLines, ← List.cons_append]
  exact (Marked.gap (not_mem_feed_indent d)).append_left hdata

mutual

/-- The lines of a property list are marked, with the byte strings of the property list. -/
theorem marked_lines (d : Nat) : ∀ {v : Plist} {ls : List Line},
    v.Every FreshLeaf (WrittenKey key) → v.lines d = .ok ls →
      Marked key (ls.flatMap ('\n' :: ·)) v.payloads
  | string text compact, _, _, h => by
    obtain rfl := Except.ok.inj h
    rw [textElement]
    split
    · exact .line d (.tag (show TagName "string/".toList by decide))
    · exact .line d (.element (by decide) (not_mem_escape _))
  | integer n, _, _, h => by
    obtain rfl := Except.ok.inj h
    exact .line d (.element (by decide) (not_mem_intText n (by decide)))
  | real x, _, _, h => by
    obtain rfl := Except.ok.inj h
    exact .line d (.element (by decide) (not_mem_compact x (by decide)))
  | bool b, _, _, h => by
    obtain rfl := Except.ok.inj h
    cases b
    · exact .line d (.tag (show TagName "false/".toList by decide))
    · exact .line d (.tag (show TagName "true/".toList by decide))
  | data bytes, _, _, h => by
    obtain rfl := Except.ok.inj h
    exact marked_dataLines d bytes
  | broken _, _, _, h => nomatch h
  | array items, _, hv, h => by
    rw [lines_array, Outcome.map_eq_ok] at h
    obtain ⟨body, hbody, rfl⟩ := h
    exact .enclose d (by decide) (by decide) (marked_itemLines (d + 1) hv hbody)
  | dict entries, _, hv, h => by
    rw [lines_dict, Outcome.map_eq_ok] at h
    obtain ⟨body, hbody, rfl⟩ := h
    exact .enclose d (by decide) (by decide) (marked_entryLines (d + 1) hv hbody)

theorem marked_itemLines (d : Nat) : ∀ {items : List Plist} {ls : List Line},
    EveryItem FreshLeaf (WrittenKey key) items → itemLines d items = .ok ls →
      Marked key (ls.flatMap ('\n' :: ·)) (payloadItems items)
  | [], _, _, h => by
    obtain rfl := Except.ok.inj h
    exact .gap List.not_mem_nil
  | v :: items, _, hv, h => by
    obtain ⟨first, others, hfirst, hothers, rfl⟩ := itemLines_cons_eq_ok.mp h
    rw [List.flatMap_append]
    exact (marked_lines d hv.1 hfirst).append (marked_itemLines d hv.2 hothers)

theorem marked_entryLines (d : Nat) : ∀ {entries : List (String × Plist)} {ls : List Line},
    EveryEntry FreshLeaf (WrittenKey key) entries → entryLines d entries = .ok ls →
      Marked key (ls.flatMap ('\n' :: ·)) (payloadEntries entries)
  | [], _, _, h => by
    obtain rfl := Except.ok.inj h
    exact .gap List.not_mem_nil
  | (k, v) :: entries, _, hv, h => by
    obtain ⟨first, others, hfirst, hothers, rfl⟩ := entryLines_cons_eq_ok.mp h
    have hkey : Marked key ([keyLine d k].flatMap ('\n' :: ·)) [] :=
      .line d (.key (not_mem_escape _) hv.1.1)
    rw [List.cons_append, ← List.singleton_append, List.flatMap_append, List.flatMap_append]
    exact hkey.append_left
      ((marked_lines d hv.1.2 hfirst).append (marked_entryLines d hv.2 hothers))

end

/-! ### Documents -/

theorem header_eq : header.toList =
    openTag "?xml version=\"1.0\" encoding=\"UTF-8\"?" ++ ['\n'] ++
      openTag ("!DOCTYPE plist PUBLIC \"-//Apple//DTD PLIST 1.0//EN\" " ++
        "\"http://www.apple.com/DTDs/PropertyList-1.0.dtd\"") ++ ['\n'] ++
      openTag "plist version=\"1.0\"" ++ ['\n'] ++ openTag "array" ++ ['\n'] := by
  decide +kernel

theorem footer_eq : footer.toList = closeTag "array" ++ ['\n'] ++ closeTag "plist" := by
  decide +kernel

/-- A document is marked if the lines in it are. -/
theorem Marked.document {inner : List Line} {bytes : List (List UInt8)}
    (h : Marked key (inner.flatMap ('\n' :: ·)) bytes) :
    Marked key (header ++ String.ofList (inner.flatMap (· ++ ['\n'])) ++ footer).toList bytes := by
  -- The line feed that ends the header is the one before the first line.
  have hfeeds : '\n' :: inner.flatMap (· ++ ['\n']) = inner.flatMap ('\n' :: ·) ++ ['\n'] := by
    by_cases hinner : inner = []
    · subst hinner
      rfl
    · rw [← unlines_append_feed hinner, ← cons_unlines hinner, List.cons_append]
  have hfeed : Marked key ['\n'] [] := .gap (by decide)
  have hopen {name : String} (hn : TagName name.toList) : Marked key (openTag name) [] := .tag hn
  have hclose {name : String} (hn : TagName ('/' :: name.toList)) :
      Marked key (closeTag name) [] := .tag hn
  rw [String.toList_append, String.toList_append, String.toList_ofList, header_eq, footer_eq,
    List.append_assoc _ ['\n'] (inner.flatMap _), List.singleton_append, hfeeds]
  refine .append_right (.append_left ?_ (h.append_right hfeed)) ?_
  · exact (((((((hopen (by decide +kernel)).append hfeed).append (hopen (by decide +kernel))).append
      hfeed).append (hopen (by decide +kernel))).append hfeed).append (hopen (by decide)))
  · exact ((hclose (by decide)).append hfeed).append (hclose (by decide))

end MacroScribe.Plist
