import MacroScribe.Proofs.Plist.Marked
import MacroScribe.StyledText.Update

/-!
# MacroScribe.Proofs.StyledText.Search

Searching written property lists. Words are looked for at each place of a text, whatever their case,
so that it has to be said of every place where the word does not stand. Both searches of this module
go through the pieces of `Marked`: the texts between data tags are the byte strings of the property
list, one after the other (`dataTexts_marked`), and the search for the element under a key passes
over whatever has no such key in it (`skipped_marked`).
-/

namespace MacroScribe.StyledText

open Text Plist

/-! ### Words -/

/-- Only letters have other forms. -/
theorem eq_of_foldChar {c d : Char} (h : foldChar c = d) (hd : d.isLower = false) : c = d := by
  unfold foldChar at h
  split at h
  · exact absurd hd (h ▸ by decide)
  split at h
  · exact absurd hd (h ▸ by decide)
  split at h
  · exact absurd hd (h ▸ by decide)
  unfold Char.toLower at h
  split at h
  -- A capital letter becomes a small one.
  · next hc =>
    subst h
    change (decide (_ ≥ 'a'.val) && decide (_ ≤ 'z'.val)) = false at hd
    simp [UInt32.le_iff_toNat_le] at hc hd
    omega
  · exact h

/-- A character that is not a letter stands in a text if it stands in the folded text. -/
theorem not_mem_of_map_foldChar {s w : List Char} {c : Char} (h : s.map foldChar = w) (hc : c ∉ w)
    (hfold : foldChar c = c) : c ∉ s :=
  fun hmem => hc (h ▸ hfold ▸ List.mem_map_of_mem hmem)

/-- A word is found in any case, and what is behind it is left. -/
theorem afterWord?_eq_some {word : String} {s t : List Char} :
    afterWord? word s = some t ↔ ∃ p, s = p ++ t ∧ p.map foldChar = word.toList := by
  unfold afterWord? isWordText
  rw [Option.ite_none_right_eq_some, beq_iff_eq, Option.some_inj]
  constructor
  · rintro ⟨hword, rfl⟩
    exact ⟨s.take word.length, (List.take_append_drop ..).symm, hword⟩
  · rintro ⟨p, rfl, hp⟩
    have hlen : word.length = p.length := by
      rw [← String.length_toList, ← hp, List.length_map]
    rw [hlen, List.take_left, List.drop_left]
    exact ⟨hp, rfl⟩

theorem afterWord?_append {word : String} {p : List Char} (t : List Char)
    (h : p.map foldChar = word.toList) : afterWord? word (p ++ t) = some t :=
  afterWord?_eq_some.mpr ⟨p, rfl, h⟩

/-- A tag is not found but at a less-than sign. -/
theorem afterWord?_of_ne {word : String} {w : List Char} {c : Char} (s : List Char)
    (hword : word.toList = '<' :: w) (hc : c ≠ '<') : afterWord? word (c :: s) = none := by
  rw [Option.eq_none_iff_forall_ne_some]
  intro t h
  obtain ⟨p, hp, hmap⟩ := afterWord?_eq_some.mp h
  rw [hword] at hmap
  obtain ⟨d, p', rfl, hd, -⟩ := List.map_eq_cons_iff.mp hmap
  obtain rfl := (List.cons.inj hp).1
  exact hc (eq_of_foldChar hd (by decide))

/-- What stands before the first separator is determined by the text. -/
theorem eq_of_append_cons {c : Char} {a b s t : List Char} (h : a ++ c :: s = b ++ c :: t)
    (ha : c ∉ a) (hb : c ∉ b) : a = b := by
  have hsplit := congrArg (splitOn c) h
  rw [splitOn_append_sep, splitOn_append_sep, splitOn_of_not_mem ha, splitOn_of_not_mem hb] at hsplit
  exact (List.cons.inj hsplit).1

/-- What stands after the last separator is determined by the text. -/
theorem eq_of_cons_append {c : Char} {a b s t : List Char} (h : s ++ c :: a = t ++ c :: b)
    (ha : c ∉ a) (hb : c ∉ b) : a = b := by
  have hreverse : a.reverse ++ c :: s.reverse = b.reverse ++ c :: t.reverse := by
    simpa using congrArg List.reverse h
  exact List.reverse_inj.mp (eq_of_append_cons hreverse (by simpa using ha) (by simpa using hb))

/-- At a less-than sign a tag is found if it is the one that stands there. -/
theorem afterWord?_tag {word : String} {w name : List Char} (rest : List Char)
    (hword : word.toList = '<' :: (w ++ ['>'])) (hw : '>' ∉ w) (hn : '>' ∉ name) :
    afterWord? word ('<' :: (name ++ ['>']) ++ rest) =
      if name.map foldChar = w then some rest else none := by
  split
  · next h =>
    refine afterWord?_append rest ?_
    rw [hword, List.map_cons, List.map_append, h]
    rfl
  · next h =>
    rw [Option.eq_none_iff_forall_ne_some]
    intro t ht
    obtain ⟨p, hp, hmap⟩ := afterWord?_eq_some.mp ht
    rw [hword] at hmap
    obtain ⟨d, q, rfl, -, hmap⟩ := List.map_eq_cons_iff.mp hmap
    obtain ⟨q, close, rfl, hq, hclose⟩ := List.map_eq_append_iff.mp hmap
    obtain ⟨e, tail, rfl, he, htail⟩ := List.map_eq_cons_iff.mp hclose
    obtain rfl := List.map_eq_nil_iff.mp htail
    obtain rfl := eq_of_foldChar he (by decide)
    -- The first greater-than sign ends both the tag and the match.
    have hp' : name ++ '>' :: rest = q ++ '>' :: t := by simpa using (List.cons.inj hp).2
    have hq' : '>' ∉ q := not_mem_of_map_foldChar hq hw (by decide)
    exact h (eq_of_append_cons hp' hn hq' ▸ hq)

/-- The first closing tag after a text without tags is the one that follows it. -/
theorem cutAtWord?_append {word : String} {close content : List Char} {w : List Char}
    (rest : List Char) (hword : word.toList = '<' :: w) (hclose : close.map foldChar = word.toList)
    (hc : '<' ∉ content) : cutAtWord? word (content ++ (close ++ rest)) = some (content, rest) := by
  induction content with
  | nil =>
    have hafter := afterWord?_append rest hclose
    obtain ⟨c, close, rfl, -⟩ := List.map_eq_cons_iff.mp (hclose.trans hword)
    rw [List.nil_append, List.cons_append, cutAtWord?, ← List.cons_append, hafter]
  | cons c content ih =>
    rw [List.mem_cons, not_or] at hc
    rw [List.cons_append, cutAtWord?, afterWord?_of_ne _ hword (Ne.symm hc.1), ih hc.2]
    rfl

/-! ### Byte strings -/

/-- The texts that stand between `<data>` and the next `</data>`, in order. -/
def dataTexts : List Char → List (List Char)
  | [] => []
  | c :: rest =>
    match (afterWord? "<data>" (c :: rest)).bind (cutAtWord? "</data>") with
    | some (content, _) => content :: dataTexts rest
    | none => dataTexts rest

theorem dataTexts_cons (c : Char) (s : List Char) : dataTexts (c :: s) =
    match (afterWord? "<data>" (c :: s)).bind (cutAtWord? "</data>") with
    | some (content, _) => content :: dataTexts s
    | none => dataTexts s :=
  rfl

/-- A character that begins no data is passed over. -/
theorem dataTexts_cons_of_none {c : Char} {s : List Char} (h : afterWord? "<data>" (c :: s) = none) :
    dataTexts (c :: s) = dataTexts s := by
  rw [dataTexts_cons, h, Option.bind_none]

/-- And so is text between tags. -/
theorem dataTexts_gap {s : List Char} (rest : List Char) (hs : '<' ∉ s) :
    dataTexts (s ++ rest) = dataTexts rest := by
  induction s with
  | nil => rfl
  | cons c s ih =>
    rw [List.mem_cons, not_or] at hs
    rw [List.cons_append, dataTexts_cons_of_none (afterWord?_of_ne _ rfl (Ne.symm hs.1)), ih hs.2]

/-- And so are other tags. -/
theorem dataTexts_tag {name : List Char} (rest : List Char) (hn : '<' ∉ name) (hn' : '>' ∉ name)
    (h : name.map foldChar ≠ "data".toList) :
    dataTexts ('<' :: (name ++ ['>']) ++ rest) = dataTexts rest := by
  have hnone : afterWord? "<data>" _ = _ :=
    afterWord?_tag (w := "data".toList) rest rfl (by decide) hn'
  rw [if_neg h, List.cons_append] at hnone
  rw [List.cons_append, dataTexts_cons_of_none hnone, dataTexts_gap rest (by simp [hn])]

/-- The content of data is found, and the search goes on behind it. -/
theorem dataTexts_element {content : List Char} (rest : List Char) (hc : '<' ∉ content) :
    dataTexts (element "data" content ++ rest) = content :: dataTexts rest := by
  have hopen : afterWord? "<data>" (element "data" content ++ rest) =
      some (content ++ (closeTag "data" ++ rest)) := by
    rw [element, List.append_assoc, List.append_assoc]
    exact afterWord?_append _ rfl
  have hcut : cutAtWord? "</data>" (content ++ (closeTag "data" ++ rest)) = some (content, rest) :=
    cutAtWord?_append rest rfl rfl hc
  -- Inside the tags no other one begins.
  have hinner : dataTexts ("data>".toList ++ content ++ (closeTag "data" ++ rest)) =
      dataTexts rest := by
    rw [dataTexts_gap _ (by simp [hc])]
    exact dataTexts_tag rest (by decide) (by decide) (by decide)
  have hsplit : element "data" content ++ rest =
      '<' :: ("data>".toList ++ content ++ (closeTag "data" ++ rest)) := by
    simp [element, openTag]
  rw [hsplit] at hopen ⊢
  rw [dataTexts_cons, hopen, Option.bind_some, hcut, hinner]

/-- The texts between data tags are the symbols of the byte strings, with white space among
them. -/
theorem dataTexts_marked {key : List Char → Prop} {s : List Char} {bytes : List (List UInt8)}
    (h : Marked key s bytes) :
    ∃ texts, texts.map (·.filter (!isBlank ·)) = bytes.map Base64.encode ∧
      ∀ rest, dataTexts (s ++ rest) = texts ++ dataTexts rest := by
  induction h with
  | gap hs => exact ⟨[], rfl, fun rest => dataTexts_gap rest hs⟩
  | tag hn =>
    refine ⟨[], rfl, fun rest => dataTexts_tag rest hn.1 hn.2.1 fun h => hn.2.2 ?_⟩
    simp [h]
  | @key content hc _ =>
    refine ⟨[], rfl, fun rest => ?_⟩
    have hopen (t : List Char) : dataTexts (openTag "key" ++ t) = dataTexts t :=
      dataTexts_tag t (by decide) (by decide) (by decide)
    have hclose (t : List Char) : dataTexts (closeTag "key" ++ t) = dataTexts t :=
      dataTexts_tag t (by decide) (by decide) (by decide)
    rw [element, List.append_assoc, List.append_assoc, hopen, dataTexts_gap _ hc, hclose,
      List.nil_append]
  | @data content bytes hc hb =>
    exact ⟨[content], by simp [hb], fun rest => dataTexts_element rest hc⟩
  | append _ _ ihs iht =>
    obtain ⟨texts, hs, hsrest⟩ := ihs
    obtain ⟨texts', ht, htrest⟩ := iht
    refine ⟨texts ++ texts', ?_, fun rest => ?_⟩
    · rw [List.map_append, List.map_append, hs, ht]
    · rw [List.append_assoc, hsrest, htrest, List.append_assoc]

/-! ### Elements under keys -/

/-- A text is the key, in whatever case and with white space around it. -/
def likes (key : String) (content : List Char) : Bool :=
  ((afterWord? key (content.dropWhile isBlank)).map allBlank).getD false

/-- A text that is not the key, in whatever case, and has no white space that could stand around
it. -/
def Unlike (key : String) (content : List Char) : Prop :=
  (∀ c ∈ content, isBlank c = false) ∧ content.map foldChar ≠ key.toList

instance (key : String) : DecidablePred (Unlike key) := fun content =>
  @instDecidableAnd _ _ (List.decidableBAll _ content) inferInstance

/-- A key that differs in its letters is not taken for the one that is sought. -/
theorem Unlike.likes_eq_false {key : String} {content : List Char} (h : Unlike key content) :
    likes key content = false := by
  have hdrop : content.dropWhile isBlank = content := by
    cases content with
    | nil => rfl
    | cons c content => exact List.dropWhile_cons_of_neg (by simp [h.1 c List.mem_cons_self])
  rw [likes, hdrop]
  cases hafter : afterWord? key content with
  | none => rfl
  | some rest =>
    obtain ⟨p, rfl, hp⟩ := afterWord?_eq_some.mp hafter
    cases rest with
    | nil => exact absurd (by rwa [List.append_nil]) h.2
    | cons c rest => simp [allBlank, h.1 c (by simp)]

/-- A word without a tag in it is not found beyond the next tag. -/
theorem afterWord?_append_tag {word : String} (s t : List Char) (hword : '<' ∉ word.toList) :
    afterWord? word (s ++ '<' :: t) = (afterWord? word s).map (· ++ '<' :: t) := by
  cases h : afterWord? word s with
  | some rest =>
    obtain ⟨p, rfl, hp⟩ := afterWord?_eq_some.mp h
    exact afterWord?_eq_some.mpr ⟨p, by simp, hp⟩
  | none =>
    rw [Option.map_none, Option.eq_none_iff_forall_ne_some]
    intro rest hrest
    obtain ⟨p, hp, hmap⟩ := afterWord?_eq_some.mp hrest
    have hlt : '<' ∉ p := not_mem_of_map_foldChar hmap hword (by decide)
    rcases List.append_eq_append_iff.mp hp with ⟨q, rfl, hq⟩ | ⟨q, rfl, -⟩
    · cases q with
      | nil => exact absurd (afterWord?_append [] hmap) (by simp [h])
      | cons c q =>
        obtain rfl := (List.cons.inj hq).1
        exact hlt (List.mem_append_right s List.mem_cons_self)
    · exact absurd (afterWord?_append q hmap) (by simp [h])

theorem dropWhile_append_tag (s t : List Char) :
    (s ++ '<' :: t).dropWhile isBlank = s.dropWhile isBlank ++ '<' :: t := by
  have htag : ('<' :: t).dropWhile isBlank = '<' :: t := List.dropWhile_cons_of_neg (by decide)
  rw [List.dropWhile_append, htag]
  split
  · next h => rw [List.isEmpty_iff.mp h, List.nil_append]
  · rfl

theorem allBlank_eq (s : List Char) : allBlank s = (s.dropWhile isBlank).isEmpty := by
  induction s with
  | nil => rfl
  | cons c s ih =>
    by_cases hc : isBlank c
    · rw [List.dropWhile_cons_of_pos hc, ← ih, allBlank, List.all_cons, hc]
      rfl
    · rw [List.dropWhile_cons_of_neg hc, allBlank, List.all_cons, Bool.eq_false_iff.mpr hc]
      rfl

/-- Where a key stands, the search goes on with what follows it if it is like the one that is looked
for. -/
theorem afterOpening?_key {key tag : String} {content : List Char} (rest : List Char)
    (hkey : '<' ∉ key.toList) (hc : '<' ∉ content) :
    afterOpening? key tag (element "key" content ++ rest) =
      if likes key content then afterWord? s!"<{tag}>" (rest.dropWhile isBlank) else none := by
  have hopen : afterWord? "<key>" (element "key" content ++ rest) =
      some (content ++ '<' :: ("/key>".toList ++ rest)) := by
    rw [element, List.append_assoc, List.append_assoc]
    exact afterWord?_append _ rfl
  rw [afterOpening?, hopen, Option.bind_eq_bind, Option.bind_some, dropWhile_append_tag,
    afterWord?_append_tag _ _ hkey, likes]
  cases hleft : afterWord? key (content.dropWhile isBlank) with
  | none => rfl
  | some left =>
    rw [Option.map_some, Option.bind_some, dropWhile_append_tag, Option.map_some, Option.getD_some]
    rw [allBlank_eq]
    cases hdrop : left.dropWhile isBlank with
    | nil => exact congrArg (Option.bind · _) (afterWord?_append (p := "</key>".toList) rest rfl)
    -- Something else than white space is left before the closing tag.
    | cons c more =>
      obtain ⟨p, hp, -⟩ := afterWord?_eq_some.mp hleft
      have hsuffix : left <:+ content.dropWhile isBlank := ⟨p, hp.symm⟩
      have hmem : c ∈ content := List.dropWhile_subset _ (hsuffix.subset
        (List.dropWhile_subset isBlank (hdrop ▸ List.mem_cons_self)))
      have hnone : afterWord? "</key>" (c :: more ++ '<' :: ("/key>".toList ++ rest)) = none :=
        afterWord?_of_ne _ rfl fun he => hc (he ▸ hmem)
      rw [hnone]
      rfl

/-- The search for an element passes over the text, whatever follows it. -/
def Skipped (key tag : String) (s : List Char) : Prop :=
  ∀ rest, Element.find? key tag (s ++ rest) =
    (Element.find? key tag rest).map fun e => { e with before := s ++ e.before }

theorem here?_eq_none {key tag : String} {s : List Char} (h : afterOpening? key tag s = none) :
    Element.here? key tag s = none := by
  rw [Element.here?, h]
  rfl

/-- A key is not found where another tag stands. -/
theorem here?_tag {key tag : String} {name : List Char} (rest : List Char) (hn : '>' ∉ name)
    (h : name.map foldChar ≠ "key".toList) :
    Element.here? key tag ('<' :: (name ++ ['>']) ++ rest) = none := by
  have hnone : afterWord? "<key>" _ = _ :=
    afterWord?_tag (w := "key".toList) rest rfl (by decide) hn
  rw [if_neg h] at hnone
  refine here?_eq_none ?_
  rw [afterOpening?, hnone]
  rfl

/-- A key is not found where another one stands. -/
theorem here?_key {key tag : String} {content : List Char} (rest : List Char)
    (hkey : '<' ∉ key.toList) (hc : '<' ∉ content) (h : likes key content = false) :
    Element.here? key tag (element "key" content ++ rest) = none := by
  refine here?_eq_none ?_
  rw [afterOpening?_key rest hkey hc, h]
  rfl

/-- An element is found at the front or further on. -/
theorem find?_cons {key tag : String} (c : Char) (s : List Char) :
    Element.find? key tag (c :: s) =
      match Element.here? key tag (c :: s) with
      | some e => some e
      | none => (Element.find? key tag s).map fun e => { e with before := c :: e.before } :=
  rfl

theorem find?_cons_of_none {key tag : String} {c : Char} {s : List Char}
    (h : Element.here? key tag (c :: s) = none) :
    Element.find? key tag (c :: s) =
      (Element.find? key tag s).map fun e => { e with before := c :: e.before } := by
  rw [find?_cons, h]

/-- Elements begin with tags. -/
theorem here?_of_ne {key tag : String} {c : Char} (s : List Char) (hc : c ≠ '<') :
    Element.here? key tag (c :: s) = none := by
  refine here?_eq_none ?_
  rw [afterOpening?, afterWord?_of_ne s rfl hc]
  rfl

namespace Skipped

variable {key tag : String} {s t : List Char}

/-- Texts in which nothing is found can be put after each other. -/
theorem append (hs : Skipped key tag s) (ht : Skipped key tag t) : Skipped key tag (s ++ t) := by
  intro rest
  rw [List.append_assoc, hs, ht, Option.map_map]
  congr 1
  funext e
  simp

/-- Nothing is found between tags. -/
theorem gap (hs : '<' ∉ s) : Skipped key tag s := by
  intro rest
  induction s with
  | nil => exact (Option.map_id' (x := Element.find? key tag rest)).symm
  | cons c s ih =>
    rw [List.mem_cons, not_or] at hs
    rw [List.cons_append, find?_cons_of_none (here?_of_ne _ (Ne.symm hs.1)), ih hs.2,
      Option.map_map]
    rfl

theorem cons {c : Char} (h : ∀ rest, Element.here? key tag (c :: s ++ rest) = none)
    (hs : Skipped key tag s) : Skipped key tag (c :: s) := by
  intro rest
  have hhere := h rest
  rw [List.cons_append] at hhere
  rw [List.cons_append, find?_cons_of_none hhere, hs rest, Option.map_map]
  rfl

/-- Nor in tags of other names. -/
theorem otherTag {name : List Char} (hn : '<' ∉ name) (hn' : '>' ∉ name)
    (h : name.map foldChar ≠ "key".toList) : Skipped key tag ('<' :: (name ++ ['>'])) :=
  cons (fun rest => here?_tag rest hn' h) (gap (by simp [hn]))

theorem markup {name : List Char} (hn : TagName name) : Skipped key tag ('<' :: (name ++ ['>'])) :=
  otherTag hn.1 hn.2.1 fun h => hn.2.2 (by simp [h])

theorem feed (d : Nat) : Skipped key tag ('\n' :: indent d) :=
  gap (Reader.not_mem_feed_indent d)

/-- Nor under other keys. -/
theorem otherKey {content : List Char} (hkey : '<' ∉ key.toList) (hc : '<' ∉ content)
    (h : likes key content = false) : Skipped key tag (element "key" content) := by
  have hinner : Skipped key tag ("key>".toList ++ content ++ closeTag "key") :=
    (gap (by simp [hc])).append (otherTag (by decide) (by decide) (by decide))
  have hsplit : element "key" content = '<' :: ("key>".toList ++ content ++ closeTag "key") := by
    simp [element, openTag]
  rw [hsplit]
  exact cons (fun rest => hsplit ▸ here?_key rest hkey hc h) hinner

end Skipped

/-- A search passes over a text in which no key is the one that is looked for. -/
theorem skipped_marked {key tag : String} (hkey : '<' ∉ key.toList) {s : List Char}
    {bytes : List (List UInt8)} (h : Marked (Unlike key) s bytes) : Skipped key tag s := by
  induction h with
  | gap hs => exact .gap hs
  | tag hn => exact .markup hn
  | key hc hk => exact .otherKey hkey hc hk.likes_eq_false
  | data hc _ =>
    have hopen : Skipped key tag (openTag "data") := .otherTag (by decide) (by decide) (by decide)
    exact (hopen.append (.gap hc)).append (.markup (show TagName "/data".toList by decide))
  | append _ _ ihs iht => exact ihs.append iht

/-- The element under a key, from its opening to its closing tag. -/
theorem here?_element {key tag : String} {opening content : List Char} (rest : List Char)
    (hopen : ∀ t, afterOpening? key tag (opening ++ t) = some t)
    (htag : (closeTag tag).map foldChar = closeTag tag) (hc : '<' ∉ content) :
    Element.here? key tag (opening ++ (content ++ (closeTag tag ++ rest))) =
      some ⟨[], opening, content, closeTag tag, rest⟩ := by
  have hword : (s!"</{tag}>").toList = closeTag tag := by simp [closeTag, toString]
  have hcut : cutAtWord? s!"</{tag}>" (content ++ (closeTag tag ++ rest)) = some (content, rest) :=
    cutAtWord?_append rest hword (htag.trans hword.symm) hc
  rw [Element.here?, hopen, Option.bind_eq_bind, Option.bind_some, hcut]
  simp

/-- The first element under a key, in its surroundings. -/
theorem find?_element {key tag : String} {before opening content : List Char} (rest : List Char)
    (hbefore : Skipped key tag before) (hopen : ∀ t, afterOpening? key tag (opening ++ t) = some t)
    (htag : (closeTag tag).map foldChar = closeTag tag) (hc : '<' ∉ content) :
    Element.find? key tag (before ++ (opening ++ (content ++ (closeTag tag ++ rest)))) =
      some ⟨before, opening, content, closeTag tag, rest⟩ := by
  have hhere := here?_element rest hopen htag hc
  rw [hbefore]
  cases opening with
  | nil => exact absurd (hopen []) (by simp [afterOpening?, afterWord?, isWordText])
  | cons c opening =>
    rw [List.cons_append] at hhere ⊢
    rw [find?_cons, hhere, Option.map_some, List.append_nil]

end MacroScribe.StyledText
