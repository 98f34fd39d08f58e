import MacroScribe.Proofs.Condition.Checks
import MacroScribe.Proofs.Condition.Normal
import MacroScribe.Proofs.Condition.Order

/-!
# MacroScribe.Proofs.Condition.Reordering

The order in which the fields of a condition are listed does not matter, nor does that of the
mappings in it (`toPlist_reordered`). A value inside a condition is written as its reorderings are,
since the entries of a mapping are sorted (`leaf_reordered`). The normal forms of two conditions
that are alike have alike values under the same keys; in the written order they correspond one by
one, and so do their entries.

Two things are written as texts, with the fields of a mapping in the given order: the items of a
list and the values that a screen area shows. Mappings are excluded from both.
-/

namespace MacroScribe.Condition

open Outcome Json
open Fields (Related)

/-! ### Values -/

/-- What is written for a field of a mapping: nothing if it is null. -/
def leafEntry (f : String × Argument) : Outcome (List Entry) :=
  if f.2.isNull then .ok [] else do return [(f.1, ← leaf f.2)]

theorem leafEntries_cons_eq_ok {f : String × Argument} {rest : List (String × Argument)}
    {es : List Entry} : leafEntries (f :: rest) = .ok es ↔
      ∃ here others, leafEntry f = .ok here ∧ leafEntries rest = .ok others ∧
        here ++ others = es := by
  obtain ⟨key, value⟩ := f
  have hcons : leafEntries ((key, value) :: rest) = (do
      let here ← leafEntry (key, value)
      return here ++ (← leafEntries rest)) := by
    rw [leafEntries, leafEntry]
    split
    · rfl
    · exact (bind_assoc (leaf value) _ _).symm
  rw [hcons]
  exact map₂_eq_ok

theorem leafEntry_keys (f : String × Argument) :
    Ensures (leafEntry f) fun es => (es.map (·.1)).Sublist [f.1] := by
  unfold leafEntry
  split
  · exact ensures_ok (List.nil_sublist _)
  · exact ensures_bind fun v _ => ensures_pure (List.Sublist.refl _)

/-- The entries of a mapping have some of its keys, in the same order. -/
theorem leafEntries_keys (fields : List (String × Argument)) :
    Ensures (leafEntries fields) fun es => (Fields.keys es).Sublist (Fields.keys fields) := by
  induction fields with
  | nil => exact ensures_ok List.Sublist.slnil
  | cons f rest ih =>
    intro es hes
    obtain ⟨here, others, hhere, hothers, rfl⟩ := leafEntries_cons_eq_ok.mp hes
    rw [Fields.keys, List.map_append]
    exact (leafEntry_keys f here hhere).append (ih others hothers)

/-- Fields in another order have the same entries in another order. -/
theorem leafEntries_perm {as bs : List (String × Argument)} (h : as.Perm bs) {es : List Entry}
    (hes : leafEntries as = .ok es) : ∃ es', leafEntries bs = .ok es' ∧ es.Perm es' := by
  induction h generalizing es with
  | nil => exact ⟨es, hes, .refl es⟩
  | cons f _ ih =>
    obtain ⟨here, others, hhere, hothers, rfl⟩ := leafEntries_cons_eq_ok.mp hes
    obtain ⟨others', hothers', hperm⟩ := ih hothers
    exact ⟨here ++ others', leafEntries_cons_eq_ok.mpr ⟨_, _, hhere, hothers', rfl⟩,
      hperm.append_left here⟩
  | swap f g rest =>
    obtain ⟨first, _, hfirst, hrest, rfl⟩ := leafEntries_cons_eq_ok.mp hes
    obtain ⟨second, others, hsecond, hothers, rfl⟩ := leafEntries_cons_eq_ok.mp hrest
    refine ⟨second ++ (first ++ others), ?_, List.perm_append_comm_assoc _ _ _⟩
    have hrest' := leafEntries_cons_eq_ok.mpr ⟨_, _, hfirst, hothers, rfl⟩
    exact leafEntries_cons_eq_ok.mpr ⟨_, _, hsecond, hrest', rfl⟩
  | trans _ _ ih ih' =>
    obtain ⟨es', hes', hperm⟩ := ih hes
    obtain ⟨es'', hes'', hperm'⟩ := ih' hes'
    exact ⟨es'', hes'', hperm.trans hperm'⟩

/-- One field is replaced by another that has the same entry. -/
theorem leafEntries_replace {f g : String × Argument} (pre post : List (String × Argument))
    (h : ∀ here, leafEntry f = .ok here → leafEntry g = .ok here) {es : List Entry}
    (hes : leafEntries (pre ++ f :: post) = .ok es) : leafEntries (pre ++ g :: post) = .ok es := by
  induction pre generalizing es with
  | nil =>
    obtain ⟨here, others, hhere, hothers, rfl⟩ := leafEntries_cons_eq_ok.mp hes
    exact leafEntries_cons_eq_ok.mpr ⟨here, others, h here hhere, hothers, rfl⟩
  | cons e pre ih =>
    obtain ⟨here, others, hhere, hothers, rfl⟩ := leafEntries_cons_eq_ok.mp hes
    exact leafEntries_cons_eq_ok.mpr ⟨here, others, hhere, ih hothers, rfl⟩

theorem leaf_obj_eq_ok {fields : List (String × Argument)} {p : Plist} :
    leaf (.obj fields) = .ok p ↔
      ∃ es, leafEntries fields = .ok es ∧ .dict (sortByKey (·.1) es) = p := by
  rw [leaf, bind_eq_ok]
  refine exists_congr fun es => and_congr_right fun _ => ?_
  exact ⟨Except.ok.inj, congrArg Except.ok⟩

/-- Entries of a mapping in another order, where each key is there once. -/
theorem related_entries {fields : Given} (hfields : fields.keys.Nodup) {es es' : List Entry}
    (hes : leafEntries fields = .ok es) (h : es.Perm es') : Related Eq es es' :=
  .of_perm h ((leafEntries_keys fields es hes).nodup hfields)

/-- A value is written as its reorderings are. -/
theorem leaf_reordered {v w : Argument} (h : Reordered v w) (hv : v.Orderly) {p : Plist}
    (hp : leaf v = .ok p) : leaf w = .ok p := by
  -- By induction on the reordering, which reaches every depth by its rule for fields.
  induction h generalizing p with
  | refl => exact hp
  | trans h _ ih ih' => exact ih' (h.orderly hv) (ih hv hp)
  | order h =>
    obtain ⟨es, hes, rfl⟩ := leaf_obj_eq_ok.mp hp
    obtain ⟨es', hes', hperm⟩ := leafEntries_perm h hes
    refine leaf_obj_eq_ok.mpr ⟨es', hes', ?_⟩
    rw [eq_of_related (sortByKey_related (related_entries hv.nodup hes hperm))]
  | @field pre post k v w h ih =>
    obtain ⟨es, hes, rfl⟩ := leaf_obj_eq_ok.mp hp
    have hvalue : v.Orderly := hv.value (k, v) (by simp)
    refine leaf_obj_eq_ok.mpr ⟨es, leafEntries_replace pre post (fun here hhere => ?_) hes, rfl⟩
    unfold leafEntry at hhere ⊢
    rw [Alike.isNull ⟨hvalue, h⟩]
    split at hhere
    · rwa [if_pos ‹_›]
    · obtain ⟨q, hq, hhere⟩ := bind_eq_ok.mp hhere
      rw [if_neg ‹_›, ih hvalue hq]
      exact hhere
  | item pre post h _ =>
    -- Items are written as texts, but there is nothing to reorder in them.
    rw [(Reordered.item pre post h).eq_of_holdsNoMapping hv.items]
    exact hp

/-- The entries of a mapping are those of its reorderings, in another order. -/
theorem leafEntries_reordered {as bs : Given} (h : Alike (.obj as) (.obj bs)) {es : List Entry}
    (hes : leafEntries as = .ok es) : ∃ es', leafEntries bs = .ok es' ∧ Related Eq es es' := by
  have hleaf := leaf_reordered h.reordered h.orderly (leaf_obj_eq_ok.mpr ⟨es, hes, rfl⟩)
  obtain ⟨es', hes', hsorted⟩ := leaf_obj_eq_ok.mp hleaf
  refine ⟨es', hes', related_entries h.orderly.nodup hes ?_⟩
  calc
    es.Perm (sortByKey (·.1) es) := (List.mergeSort_perm es _).symm
    _ |>.Perm (sortByKey (·.1) es') := .of_eq (Plist.dict.inj hsorted).symm
    _ |>.Perm es' := List.mergeSort_perm es' _

/-! ### Screen areas -/

/-- The keys of the values that an area of this type shows. -/
def shownKeys (type : String) : List String :=
  if type = "Area" then ["left", "top", "width", "height"]
  else if ScreenArea.indexedTypes.contains type then ["index"]
  else if ScreenArea.namedTypes.contains type then ["name"]
  else []

/-- If the value is a screen area, none of the values that the area shows is a mapping. -/
def ShowsNoMapping (v : Argument) : Prop :=
  ∀ fields : Given, v = .obj fields → ∀ type, fields.get? "type" = some (.str type) →
    ∀ key ∈ shownKeys type, ∀ inner, fields.value key ≠ .obj inner

/-- An area is made of the values that it shows. -/
theorem ofType_congr {type : String} {as bs : Given}
    (h : ∀ key ∈ shownKeys type, bs.value key = as.value key) :
    ScreenArea.ofType type bs = ScreenArea.ofType type as := by
  unfold shownKeys at h
  unfold ScreenArea.ofType
  split
  · rw [if_pos ‹_›] at h
    have hsides : ["left", "top", "width", "height"].map bs.value =
        ["left", "top", "width", "height"].map as.value := List.map_congr_left h
    obtain ⟨hleft, htop, hwidth, hheight, -⟩ : _ ∧ _ ∧ _ ∧ _ ∧ True := by simpa using hsides
    simp only [hsides, hleft, htop, hwidth, hheight]
  · rw [if_neg ‹_›] at h
    split
    · rw [if_pos ‹_›] at h
      rw [h _ List.mem_cons_self]
    · rw [if_neg ‹_›] at h
      split
      · rw [if_pos ‹_›] at h
        rw [h _ List.mem_cons_self]
      · rfl

theorem knownRecordFields_eq_ok {owner : String} {names : List String} {fields : Given} {u : Unit} :
    knownRecordFields owner names fields = .ok u ↔ ∀ k ∈ fields.keys, k ∈ names := by
  have hunknown : fields.unknown? names = none ↔ ∀ k ∈ fields.keys, k ∈ names := by
    simp [Fields.unknown?]
  rw [← hunknown]
  unfold knownRecordFields
  cases fields.unknown? names with
  | none => simp
  | some name =>
    simp only [reduceCtorEq, iff_false]
    split <;> rintro ⟨⟩

theorem areaOfFields_reordered {as bs : Given} (h : Related Alike as bs)
    (hshown : ShowsNoMapping (.obj as)) {area : ScreenArea}
    (harea : ScreenArea.ofFields as = .ok area) : ScreenArea.ofFields bs = .ok area := by
  obtain ⟨u, hknown, harea⟩ := bind_eq_ok.mp harea
  rw [knownRecordFields_eq_ok] at hknown
  refine bind_eq_ok.mpr
    ⟨u, knownRecordFields_eq_ok.mpr fun k hk => hknown k ((h.mem_keys k).mpr hk), ?_⟩
  have hof {type : String} (htype : as.get? "type" = some (.str type)) :
      ScreenArea.ofType type bs = ScreenArea.ofType type as :=
    ofType_congr fun key hkey =>
      (Alike.value h key).eq_of_ne_obj (hshown as rfl type htype key hkey)
  have htype := h.get? "type"
  generalize hx : as.get? "type" = x, bs.get? "type" = y at htype harea ⊢
  cases htype with
  | none => exact harea
  | @some v w hvalue =>
    dsimp only [Option.getD_some] at harea ⊢
    rw [hvalue.str?]
    split at harea
    · next type hword =>
      obtain ⟨hstr, -⟩ := Option.filter_eq_some_iff.mp hword
      have hv : v = .str type := by
        cases v <;> simp_all [Json.str?]
      rw [← harea]
      exact hof (hv ▸ hx)
    · cases harea

theorem areaLeaf_reordered {type key : String} {v w : Argument} (h : Alike v w)
    (hshown : ShowsNoMapping v) {p : Plist} (hp : areaLeaf type key v = .ok p) :
    areaLeaf type key w = .ok p := by
  obtain rfl | ⟨as, bs, rfl, rfl⟩ := h.eq_or_obj
  · exact hp
  · unfold areaLeaf at hp ⊢
    split at hp
    · next area harea =>
      obtain ⟨area, hfields, rfl⟩ := map_eq_ok.mp harea
      have hfields' := areaOfFields_reordered h.fields hshown hfields
      have harea' : Argument.area (.obj bs) = .ok (some area) := map_eq_ok.mpr ⟨_, hfields', rfl⟩
      rw [harea']
      exact hp
    · cases hp

/-! ### Conditions -/

/-- A field of a condition has the same entry when its value is reordered. -/
theorem entry_reordered {type key : String} {v w : Argument} (h : Alike v w)
    (hshown : key ∈ areaKeys → type ∈ screenTypes → ShowsNoMapping v) {es : List Entry}
    (hes : entry type key v = .ok es) : entry type key w = .ok es := by
  obtain rfl | ⟨as, bs, rfl, rfl⟩ := h.eq_or_obj
  · exact hes
  · have hnull (fields : Given) : ¬(Json.obj fields : Argument).isNull := Bool.false_ne_true
    unfold entry at hes ⊢
    rw [if_neg (hnull as)] at hes
    rw [if_neg (hnull bs)]
    split at hes
    · next harea =>
      rw [if_pos harea]
      simp only [Bool.and_eq_true, List.contains_iff_mem] at harea
      obtain ⟨p, hp, hes⟩ := bind_eq_ok.mp hes
      have hp' := areaLeaf_reordered h (hshown harea.1 harea.2) hp
      exact bind_eq_ok.mpr ⟨p, hp', hes⟩
    · next harea =>
      rw [if_neg harea]
      split at hes
      · next hpressed => rwa [if_pos hpressed]
      · next hpressed =>
        rw [if_neg hpressed]
        split at hes
        · next heq =>
          obtain rfl := Json.obj.inj heq
          obtain ⟨entries, hentries, hes⟩ := bind_eq_ok.mp hes
          obtain ⟨entries', hentries', hrel⟩ := leafEntries_reordered h hentries
          refine bind_eq_ok.mpr ⟨entries', hentries', ?_⟩
          rw [← eq_of_related (applicationOrder_related hrel)]
          exact hes
        · next hother =>
          obtain ⟨p, hp, hes⟩ := bind_eq_ok.mp hes
          split
          · exact absurd rfl (hother as rfl)
          · exact bind_eq_ok.mpr ⟨p, leaf_reordered h.reordered h.orderly hp, hes⟩

theorem entries_reordered {type : String} {xs ys : Given}
    (h : List.Forall₂ (fun f g => f.1 = g.1 ∧ Alike f.2 g.2) xs ys)
    (hshown : ∀ f ∈ xs, f.1 ∈ areaKeys → type ∈ screenTypes → ShowsNoMapping f.2)
    {entries : List (List Entry)} (hentries : xs.mapM (fun f => entry type f.1 f.2) = .ok entries) :
    ys.mapM (fun f => entry type f.1 f.2) = .ok entries := by
  induction h generalizing entries with
  | nil => exact hentries
  | @cons f g xs ys hfg _ ih =>
    obtain ⟨hkey, halike⟩ := hfg
    obtain ⟨hf, hxs⟩ := List.forall_mem_cons.mp hshown
    rw [List.mapM_cons] at hentries ⊢
    obtain ⟨here, rest, hhere, hrest, rfl⟩ := map₂_eq_ok.mp hentries
    exact map₂_eq_ok.mpr ⟨here, rest, hkey ▸ entry_reordered halike hf hhere, ih hxs hrest, rfl⟩

theorem typeOf_reordered {c c' : Given} (h : Related Alike c c') {type : String}
    (htype : typeOf c = .ok type) : typeOf c' = .ok type := by
  have hvalue := value_of_typeOf htype
  have hvalue' : c'.value "ConditionType" = c.value "ConditionType" :=
    (Alike.value h _).eq_of_isScalar (by rw [hvalue]; rfl)
  rw [← htype]
  simp only [typeOf, hvalue']

/-- The screen areas of a condition that are written show no mapping. -/
def AreasShowNoMapping (v : Argument) : Prop :=
  ∀ (c : Given) type fields, v = .obj c → typeOf c = .ok type → normal type c = .ok fields →
    type ∈ screenTypes → ∀ key ∈ areaKeys, ShowsNoMapping (fields.value key)

/-- An accepted condition has the same value when its fields are listed in another order, at any
depth, if no list in it holds a mapping and no screen area shows one. -/
theorem toPlist_reordered {v w : Argument} {p : Plist} (hv : v.Orderly)
    (hareas : AreasShowNoMapping v) (h : Reordered v w) (hp : toPlist v = .ok p) :
    toPlist w = .ok p := by
  obtain rfl | ⟨c, c', rfl, rfl⟩ := Alike.eq_or_obj ⟨hv, h⟩
  · exact hp
  · have hc : Related Alike c c' := Alike.fields ⟨hv, h⟩
    obtain ⟨type, htype, hp⟩ := bind_eq_ok.mp hp
    obtain ⟨fields, hfields, hp⟩ := bind_eq_ok.mp hp
    obtain ⟨entries, hentries, hp⟩ := bind_eq_ok.mp hp
    obtain ⟨fields', hfields', hrel⟩ := normal_follows hc hfields
    refine bind_eq_ok.mpr ⟨type, typeOf_reordered hc htype, bind_eq_ok.mpr ⟨fields', hfields', ?_⟩⟩
    refine bind_eq_ok.mpr ⟨entries, ?_, hp⟩
    refine entries_reordered (conditionOrder_related hrel) (fun f hf hkey hscreen => ?_) hentries
    have hget := Fields.get?_of_mem hrel.nodup ((mem_conditionOrder hrel.nodup).mp hf)
    have hshown := hareas c type fields rfl htype hfields hscreen f.1 hkey
    rwa [Fields.value, hget] at hshown

/-- A search for an image in an area, with some options. -/
def imageSearch (options area : Given) : Given :=
  [("ConditionType", .str "ScreenImage"), ("DisplayMatches", .bool true), ("Fuzz", .int 15),
   ("Options", .obj options), ("ScreenArea", .obj area)]

/-- A square at the top of the screen. -/
def squareAt (left : Argument) : Given :=
  [("type", .str "Area"), ("left", left), ("top", .int 0), ("width", .int 9), ("height", .int 9)]

theorem orderly_imageSearch {options area : Given} (hoptions : Orderly (.obj options))
    (harea : Orderly (.obj area)) : Orderly (.obj (imageSearch options area)) := by
  refine .obj (by simp [imageSearch, Fields.keys]) ?_
  simp only [imageSearch, List.forall_mem_cons]
  exact ⟨.scalar rfl, .scalar rfl, .scalar rfl, hoptions, harea, List.forall_mem_nil _⟩

theorem orderly_squareAt {left : Argument} (h : left.Orderly) : Orderly (.obj (squareAt left)) := by
  refine .obj (by simp [squareAt, Fields.keys]) ?_
  simp only [squareAt, List.forall_mem_cons]
  exact ⟨.scalar rfl, h, .scalar rfl, .scalar rfl, .scalar rfl, List.forall_mem_nil _⟩

theorem conditionOrder_imageSearch (options area : Given) :
    conditionOrder (·.1) (imageSearch options area) = imageSearch options area := by
  have hsorted : (imageSearch options area).keys.Pairwise fun a b => inOrder a b := by
    have hkeys : (imageSearch options area).keys =
        ["ConditionType", "DisplayMatches", "Fuzz", "Options", "ScreenArea"] := rfl
    rw [hkeys]
    decide +kernel
  have hrest : others (·.1) trailingFlags (imageSearch options area) = imageSearch options area :=
    rfl
  have hflags : pick (·.1) trailingFlags (imageSearch options area) = [] := rfl
  rw [conditionOrder, hrest, hflags, sortByKey_of_pairwise hsorted, List.append_nil]

theorem normal_imageSearch (options : Given) {area : Given}
    (htype : lacksArea (.obj area) = false) :
    normal "ScreenImage" (imageSearch options area) = .ok (imageSearch options area) := by
  have hgiven : lacksArea ((imageSearch options area).value "ScreenArea") = false := htype
  change normalScreenImage (imageSearch options area) = _
  simp only [normalScreenImage, hgiven]
  rfl

theorem toPlist_imageSearch {options area : Given} {o : Plist} {square : ScreenArea}
    (hoptions : leaf (.obj options) = .ok o) (htype : lacksArea (.obj area) = false)
    (harea : ScreenArea.ofFields area = .ok square) :
    toPlist (.obj (imageSearch options area)) = .ok (.dict
      [("ConditionType", .compactText "ScreenImage"), ("DisplayMatches", .bool true),
       ("Fuzz", .integer 15), ("Options", o), ("ScreenArea", square.toPlist)]) := by
  have hoptions' : entry "ScreenImage" "Options" (.obj options) = .ok [("Options", o)] :=
    bind_eq_ok.mpr ⟨o, hoptions, rfl⟩
  have harea' : entry "ScreenImage" "ScreenArea" (.obj area) =
      .ok [("ScreenArea", square.toPlist)] := by
    refine bind_eq_ok.mpr ⟨square.toPlist, ?_, rfl⟩
    have hvalue : Argument.area (.obj area) = .ok (some square) := map_eq_ok.mpr ⟨_, harea, rfl⟩
    rw [areaLeaf, hvalue]
    rfl
  refine bind_eq_ok.mpr
    ⟨"ScreenImage", rfl, bind_eq_ok.mpr ⟨_, normal_imageSearch options htype, ?_⟩⟩
  rw [conditionOrder_imageSearch]
  refine bind_eq_ok.mpr ⟨[[("ConditionType", .compactText "ScreenImage")],
    [("DisplayMatches", .bool true)], [("Fuzz", .integer 15)], [("Options", o)],
    [("ScreenArea", square.toPlist)]], mapM_eq_ok.mpr ?_, rfl⟩
  exact .cons rfl (.cons rfl (.cons rfl (.cons hoptions' (.cons harea' .nil))))

/-- Two options, of which one is in capitals. -/
def twoOptions : Given :=
  [("a", .list [.int 1, .str "x"]), ("B", .bool false)]

theorem orderly_twoOptions : Orderly (.obj twoOptions : Argument) := by
  refine .obj (by simp [twoOptions, Fields.keys]) ?_
  simp only [twoOptions, List.forall_mem_cons]
  refine ⟨.list ?_, .scalar rfl, List.forall_mem_nil _⟩
  simp only [List.forall_mem_cons]
  exact ⟨.scalar rfl, .scalar rfl, List.forall_mem_nil _⟩

theorem leaf_twoOptions : leaf (.obj twoOptions) = .ok (.dict
    [("a", .array [.compactText "1", .compactText "x"]), ("B", .bool false)]) := by
  refine leaf_obj_eq_ok.mpr ⟨_, rfl, ?_⟩
  rw [sortByKey_of_pairwise (by decide +kernel)]
  rfl

theorem areasShowNoMapping_imageSearch (options : Given) (n : Int) :
    AreasShowNoMapping (.obj (imageSearch options (squareAt (.int n)))) := by
  rintro _ type fields ⟨⟩ htype hfields -
  obtain rfl : "ScreenImage" = type := Except.ok.inj htype
  obtain rfl := Except.ok.inj ((normal_imageSearch options rfl).symm.trans hfields)
  intro key hkey area harea type htype
  simp only [areaKeys, List.mem_cons, List.not_mem_nil, or_false] at hkey
  obtain rfl | rfl := hkey
  · obtain rfl : squareAt (.int n) = area := Json.obj.inj harea
    obtain rfl : "Area" = type := Json.str.inj (Option.some.inj htype)
    simp [shownKeys, squareAt, Fields.value, Fields.get?_cons]
  · cases harea

theorem reordered_imageSearch {options options' area area' : Given}
    (h : Reordered (.obj options : Argument) (.obj options'))
    (h' : Reordered (.obj area : Argument) (.obj area')) :
    Reordered (.obj (imageSearch options area)) (.obj (imageSearch options' area')) := by
  have hoptions : Reordered (.obj (imageSearch options area)) (.obj (imageSearch options' area)) :=
    .field ((imageSearch [] []).take 3) [_] "Options" h
  exact hoptions.trans (.field ((imageSearch options' []).take 4) [] "ScreenArea" h')

/-- What is written for a search with two options in a square. -/
def searchValue (left : String) : Plist :=
  .dict [("ConditionType", .compactText "ScreenImage"), ("DisplayMatches", .bool true),
    ("Fuzz", .integer 15),
    ("Options", .dict [("a", .array [.compactText "1", .compactText "x"]), ("B", .bool false)]),
    ("ScreenArea", (ScreenArea.rectangle left "0" "9" "9").toPlist)]

/-- Everything listed from the end to the beginning. -/
theorem toPlist_reordered_imageSearch :
    toPlist (.obj (imageSearch twoOptions (squareAt (.int 5)))) = .ok (searchValue "5") ∧
      toPlist (.obj (imageSearch twoOptions.reverse (squareAt (.int 5)).reverse).reverse) =
        .ok (searchValue "5") := by
  have hgiven : toPlist (.obj (imageSearch twoOptions (squareAt (.int 5)))) =
      .ok (searchValue "5") :=
    toPlist_imageSearch leaf_twoOptions rfl rfl
  have hreverse (fields : Given) : Reordered (.obj fields : Argument) (.obj fields.reverse) :=
    .order (List.reverse_perm fields).symm
  have horder := (reordered_imageSearch (hreverse twoOptions) (hreverse (squareAt (.int 5)))).trans
    (hreverse _)
  have horderly : Orderly (.obj (imageSearch twoOptions (squareAt (.int 5)))) :=
    orderly_imageSearch orderly_twoOptions (orderly_squareAt (.scalar rfl))
  exact ⟨hgiven,
    toPlist_reordered horderly (areasShowNoMapping_imageSearch _ 5) horder hgiven⟩

/-- A mapping, which is no place for an area. -/
def noPlace : Given :=
  [("a", .int 1), ("b", .int 2)]

/-- The premise on screen areas is needed: a mapping that an area shows is written as a text, with
its fields in the order in which they are given. -/
theorem toPlist_noPlace :
    (Json.obj (imageSearch twoOptions (squareAt (.obj noPlace)))).Orderly ∧
    Reordered (.obj (imageSearch twoOptions (squareAt (.obj noPlace))))
      (.obj (imageSearch twoOptions (squareAt (.obj noPlace.reverse)))) ∧
    toPlist (.obj (imageSearch twoOptions (squareAt (.obj noPlace)))) =
      .ok (searchValue "\x7b'a': 1, 'b': 2\x7d") ∧
    toPlist (.obj (imageSearch twoOptions (squareAt (.obj noPlace.reverse)))) =
      .ok (searchValue "\x7b'b': 2, 'a': 1\x7d") ∧
    searchValue "\x7b'a': 1, 'b': 2\x7d" ≠ searchValue "\x7b'b': 2, 'a': 1\x7d" := by
  have hplace : Orderly (.obj noPlace : Argument) := by
    refine .obj (by simp [noPlace, Fields.keys]) ?_
    simp only [noPlace, List.forall_mem_cons]
    exact ⟨.scalar rfl, .scalar rfl, List.forall_mem_nil _⟩
  have hsquare : Reordered (.obj (squareAt (.obj noPlace)))
      (.obj (squareAt (.obj noPlace.reverse))) :=
    .field [_] [_, _, _] "left" (.order (List.reverse_perm noPlace).symm)
  refine ⟨orderly_imageSearch orderly_twoOptions (orderly_squareAt hplace),
    reordered_imageSearch (.refl _) hsquare, toPlist_imageSearch leaf_twoOptions rfl rfl,
    toPlist_imageSearch leaf_twoOptions rfl rfl, ?_⟩
  simp [searchValue, ScreenArea.toPlist, ScreenArea.entries, Plist.text]

end MacroScribe.Condition
