import MacroScribe.Document.Node

/-!
# MacroScribe.Proofs.Document.Names

The names of actions. A node of a document and `Builder.make` both look a name up among the builders
without regard to case and to underscores; `Builder.make` disregards hyphens as well. No builder has
a hyphen in its name, so that documents know no name with a hyphen, and this is the one difference
between the two (`takenAlike_iff`).
-/

namespace MacroScribe

/-! ### Hyphens -/

namespace Text

theorem hyphen_lt_of_partner? {code p : Nat} (h : partner? lowerRuns code = some p) : 45 < p := by
  obtain ⟨r, hr, rfl⟩ := Option.map_eq_some_iff.mp h
  have habove : ∀ r ∈ lowerRuns, (45 : Int) < r.first + r.shift := by decide +kernel
  have hfirst := habove r (List.mem_of_find?_eq_some hr)
  have hholds := List.find?_some hr
  simp only [CaseRun.holds, Bool.and_eq_true, decide_eq_true_eq] at hholds
  omega

theorem ofNat_ne_hyphen {p : Nat} (h : 45 < p) : Char.ofNat p ≠ '-' := by
  intro heq
  by_cases hvalid : p.isValidChar
  · rw [Char.ofNat, dif_pos hvalid] at heq
    have hcode : p = 45 := congrArg Char.toNat heq
    omega
  · rw [Char.ofNat, dif_neg hvalid] at heq
    exact absurd heq (by decide)

theorem mem_hyphen_lowerChar {c : Char} : '-' ∈ lowerChar c ↔ c = '-' := by
  unfold lowerChar
  by_cases hdot : c = 'İ'
  · subst hdot
    decide
  · rw [if_neg hdot, List.mem_singleton]
    cases hpartner : partner? lowerRuns c.toNat with
    | none => exact eq_comm
    | some p =>
      have hlower := ofNat_ne_hyphen (hyphen_lt_of_partner? hpartner)
      refine iff_of_false (Ne.symm hlower) fun heq => ?_
      rw [heq, show partner? lowerRuns '-'.toNat = none by decide +kernel] at hpartner
      cases hpartner

theorem mem_hyphen_lowerFrom {s : List Char} (before : List Char) :
    '-' ∈ lowerFrom before s ↔ '-' ∈ s := by
  induction s generalizing before with
  | nil => exact Iff.rfl
  | cons c rest ih =>
    rw [lowerFrom, List.mem_append, List.mem_cons, ih]
    refine or_congr_left ?_
    by_cases hsigma : c = 'Σ'
    · subst hsigma
      rw [if_pos rfl]
      split <;> decide
    · rw [if_neg hsigma, mem_hyphen_lowerChar, eq_comm]

end Text

namespace Builder

theorem mem_hyphen_plainName {separators : List Char} {spelling : String} :
    '-' ∈ plainName separators spelling ↔ '-' ∈ spelling.toList ∧ '-' ∉ separators := by
  simp [plainName, Text.lower, Text.mem_hyphen_lowerFrom]

theorem hyphen_not_mem_plainName {b : Builder} (h : b ∈ all) : '-' ∉ plainName [] b.name := by
  have hnames : ∀ b ∈ all, '-' ∉ b.name.toList := by decide
  exact fun hmem => hnames b h (mem_hyphen_plainName.mp hmem).1

/-- A hyphen that does not separate words belongs to no name. -/
theorem find?_eq_none_of_hyphen {name : String} (h : '-' ∈ name.toList) :
    find? ['_'] name = none := by
  have hkept : '-' ∈ plainName ['_'] name := mem_hyphen_plainName.mpr ⟨h, by decide⟩
  refine List.find?_eq_none.mpr fun b hb heq => hyphen_not_mem_plainName hb ?_
  rwa [eq_of_beq heq]

/-- Without hyphens it makes no difference whether they separate words. -/
theorem find?_of_no_hyphen {name : String} (h : '-' ∉ name.toList) :
    find? ['_', '-'] name = find? ['_'] name := by
  have hplain : plainName ['_', '-'] name = plainName ['_'] name := by
    refine congrArg Text.lower (List.filter_congr fun c hc => ?_)
    have hne : c ≠ '-' := fun heq => h (heq ▸ hc)
    simp [hne]
  rw [find?, find?, hplain]

end Builder

/-! ### Two resolvers -/

/-- Nodes at the path and `Builder.make` take the name for the same builder, or neither knows it. -/
inductive TakenAlike (path name : String) : Prop where
  | known {b : Builder} (hnode : Node.builderOf path (.str name) = .ok b)
      (hmake : Builder.ofName (.str name) = .ok b) : TakenAlike path name
  | unknown (hnode : Node.builderOf path (.str name) = .error (.document (.unknownKind path name)))
      (hmake : Builder.ofName (.str name) = .error (.option (.unknownAction name Builder.names))) :
      TakenAlike path name

theorem Node.builderOf_str {name : String} (hname : name ≠ "") (path : String) :
    builderOf path (.str name) = match Builder.find? ['_'] name with
      | some b => .ok b
      | none => .error (.document (.unknownKind path name)) := by
  have hgiven : (Json.str? (.str name : Data)).filter (· != "") = some name := by
    simp [Json.str?, hname]
  rw [builderOf, hgiven]
  rfl

theorem Builder.ofName_str (name : String) :
    ofName (.str name) = match find? ['_', '-'] name with
      | some b => .ok b
      | none => .error (.option (.unknownAction name names)) := rfl

theorem TakenAlike.of_find?_eq {path name : String} (hname : name ≠ "")
    (h : Builder.find? ['_', '-'] name = Builder.find? ['_'] name) : TakenAlike path name := by
  have hnode := Node.builderOf_str hname path
  have hmake := Builder.ofName_str name
  rw [h] at hmake
  cases hfind : Builder.find? ['_'] name with
  | some b =>
    rw [hfind] at hnode hmake
    exact .known hnode hmake
  | none =>
    rw [hfind] at hnode hmake
    exact .unknown hnode hmake

/-- Documents and `Builder.make` agree about a name exactly if it is not one with a hyphen that
`Builder.make` knows. Every node with such a name is refused as one of unknown kind, while
`Builder.make` gives the parameters to the builder of that name. -/
theorem takenAlike_iff {name : String} (hname : name ≠ "") (path : String) :
    (TakenAlike path name ↔
      ¬('-' ∈ name.toList ∧ ∃ b, Builder.ofName (.str name) = .ok b)) ∧
    ∀ b, '-' ∈ name.toList → Builder.ofName (.str name) = .ok b →
      (∀ fields, Fields.value fields "kind" = .str name →
        Node.build path (.obj fields) = .error (.document (.unknownKind path name))) ∧
      ∀ given, given.has "kind" = false → Builder.make (.str name) given = b.apply given := by
  have hrefused (h : '-' ∈ name.toList) :
      Node.builderOf path (.str name) = .error (.document (.unknownKind path name)) := by
    rw [Node.builderOf_str hname, Builder.find?_eq_none_of_hyphen h]
  refine ⟨⟨?_, fun h => ?_⟩, fun b hhyphen hb => ⟨fun fields hkind => ?_, fun given hgiven => ?_⟩⟩
  · rintro halike ⟨hhyphen, b, hb⟩
    cases halike with
    | known hnode hmake => cases (hrefused hhyphen).symm.trans hnode
    | unknown hnode hmake => cases hb.symm.trans hmake
  · by_cases hhyphen : '-' ∈ name.toList
    · have hmake := Builder.ofName_str name
      cases hfind : Builder.find? ['_', '-'] name with
      | some b =>
        rw [hfind] at hmake
        exact absurd ⟨hhyphen, b, hmake⟩ h
      | none =>
        rw [hfind] at hmake
        exact .unknown (hrefused hhyphen) hmake
    · exact .of_find?_eq hname (Builder.find?_of_no_hyphen hhyphen)
  · rw [Node.build, hkind, hrefused hhyphen]
    rfl
  · rw [Builder.make, hgiven, if_neg (by simp), hb]
    rfl

theorem takenAlike_spellings :
    TakenAlike "actions[0]" "SET_variable" ∧
      Node.build "actions[0]" (.obj [("kind", .str "click-at-found-image")]) =
        .error (.document (.unknownKind "actions[0]" "click-at-found-image")) :=
  ⟨(takenAlike_iff (by decide) _).1.mpr fun h => absurd h.1 (by decide),
    ((takenAlike_iff (by decide) _).2 Builder.clickAtFoundImage (by decide) rfl).1 _ rfl⟩

/-- The name `set-variable` sets a variable, but not in a document. -/
theorem set_variable_takenApart :
    Builder.ofName (.str "set-variable") = .ok Builder.setVariable ∧
      Node.builderOf "actions[0]" (.str "set-variable") =
        .error (.document (.unknownKind "actions[0]" "set-variable")) ∧
      ¬TakenAlike "actions[0]" "set-variable" := by
  have hmade : Builder.ofName (.str "set-variable") = .ok Builder.setVariable := rfl
  have hrefused : Node.builderOf "actions[0]" (.str "set-variable") =
      .error (.document (.unknownKind "actions[0]" "set-variable")) := rfl
  refine ⟨hmade, hrefused, fun halike => ?_⟩
  cases halike with
  | known hnode _ => cases hrefused.symm.trans hnode
  | unknown _ hmake => cases hmade.symm.trans hmake

end MacroScribe
