import MacroScribe.Proofs.Builder.Branches

/-!
# MacroScribe.Proofs.Document.Locality

Loading is local to nodes. What becomes of a node depends on nothing but the node and its path: when
building fails, it is one node that fails, and it fails in the same way when it is built alone; when
building succeeds, so does each of the nodes in the branches, and the actions that they describe are
the actions in the result, branch by branch (`build_is_local`).

The node that fails is found from the outside inwards: either one of the nodes inside fails, and the
search goes on there, or all of them are built and the node is at fault itself (`load_eq_error`).
-/

namespace MacroScribe.Node

open Outcome

/-- A node that is visited in the course of building another one: the node itself, or one inside it
when all nodes that are visited earlier can be built. -/
inductive Reached : Site → Site → Prop
  | self (s : Site) : Reached s s
  | child {s c t : Site} {before after : List Site} (hvisited : s.visited = before ++ c :: after)
      (hbefore : ∀ e ∈ before, e.Loads) (h : Reached c t) : Reached s t

/-! ### Texts that begin with a path -/

/-- The text begins with the path. -/
def Begins (path text : String) : Prop :=
  path.toList <+: text.toList

theorem Begins.refl (path : String) : Begins path path :=
  List.prefix_refl _

/-- Paths continue each other. -/
theorem Begins.trans {path text text' : String} (h : Begins path text) (h' : Begins text text') :
    Begins path text' :=
  List.IsPrefix.trans h h'

theorem Begins.append {path text : String} (h : Begins path text) (more : String) :
    Begins path (text ++ more) := by
  rw [Begins, String.toList_append]
  exact List.IsPrefix.trans h (List.prefix_append _ _)

/-- The path of an item continues that of its list. -/
theorem begins_itemPath (path : String) (index : Nat) : Begins path (itemPath path index) :=
  (((Begins.refl path).append _).append _).append _

/-- The fault says that a value is unacceptable, with a message that begins with the path. -/
structure Located (path : String) (f : Fault) : Prop where
  isValue : f.kind.isValue
  begins : Begins path f.message

/-- What is located at a path is located at every path before it. -/
theorem Located.of_begins {path path' : String} {f : Fault} (h : Begins path path')
    (hf : Located path' f) : Located path f :=
  ⟨hf.isValue, h.trans hf.begins⟩

theorem located_notMapping (path type : String) :
    Located path (.document (.nodeNotMapping path type)) :=
  ⟨rfl, ((Begins.refl path).append _).append _⟩

theorem located_notList (path type : String) : Located path (.document (.notList path type)) :=
  ⟨rfl, ((Begins.refl path).append _).append _⟩

theorem located_caseNotMapping (path : String) : Located path (.document (.caseNotMapping path)) :=
  ⟨rfl, (Begins.refl path).append _⟩

/-- An unknown kind is reported at the path of the node. -/
theorem located_builderOf {path : String} {kind : Data} {f : Fault}
    (h : builderOf path kind = .error f) : Located path f := by
  unfold builderOf at h
  split at h
  · obtain rfl := Except.error.inj h
    exact ⟨rfl, (Begins.refl path).append _⟩
  · split at h
    · cases h
    · obtain rfl := Except.error.inj h
      exact ⟨rfl, (((Begins.refl path).append _).append _).append _⟩

/-- And so are branches that are no lists. -/
theorem located_branchAt {path : String} {v : Data} {f : Fault} (h : branchAt path v = .error f) :
    Located path f := by
  cases v with
  | null | list nodes => cases h
  | embed x => exact x.elim
  | _ =>
    obtain rfl := Except.error.inj h
    exact located_notList path _

/-- And so are cases, each at its own path. -/
theorem located_caseBranches {path : String} {index : Nat} {cases : List Data} {f : Fault}
    (h : .error f ∈ caseBranches path index cases) : Located path f := by
  induction cases generalizing index with
  | nil => exact absurd h List.not_mem_nil
  | cons case rest ih =>
    have hpath := begins_itemPath path index
    cases case with
    | obj fields =>
      rcases List.mem_cons.mp h with h | h
      · exact (located_branchAt h.symm).of_begins (hpath.append _)
      · exact ih h
    | embed x => exact x.elim
    | _ =>
      rcases List.mem_cons.mp h with h | h
      · obtain rfl := Except.error.inj h
        exact (located_caseNotMapping _).of_begins hpath
      · exact ih h

/-- And so is whatever else hangs below a node. -/
theorem located_fieldBranches {path kind : String} {fields : List (String × Data)} {f : Fault}
    (h : .error f ∈ fieldBranches path kind fields) : Located path f := by
  unfold fieldBranches at h
  split at h
  · unfold casesAt at h
    split at h
    · exact (located_caseBranches h).of_begins ((Begins.refl path).append _)
    · exact absurd h List.not_mem_nil
  · obtain ⟨br, -, hbr⟩ := List.mem_map.mp h
    exact (located_branchAt hbr).of_begins (((Begins.refl path).append _).append _)

theorem located_atNode (path : String) (cause : Fault) : Located path (.atNode path cause) :=
  ⟨rfl, ((Begins.refl path).append _).append _⟩

/-! ### The node at fault -/

/-- The node is at fault itself: it does not have the right shape, or its builder refuses it. -/
inductive Own (s : Site) : Fault → Prop
  | shape {f : Fault} (h : Located s.path f) : Own s f
  | builder {fields : List (String × Data)} {b : Builder} {given : Fields Argument} {cause : Fault}
      (hnode : s.node = .obj fields)
      (hb : builderOf s.path (Fields.value fields "kind") = .ok b)
      (hgiven : gather ((branches b.name).map (·.1))
        (Fields.ofList (buildParams s.path b.name fields)) = .ok given)
      (happly : b.apply given = .error cause) : Own s (locate s.path cause)

/-- A failure that says that a value is unacceptable names the node at fault. -/
theorem Own.located {s : Site} {f : Fault} (h : Own s f) (hvalue : f.kind.isValue) :
    Located s.path f := by
  cases h with
  | shape h => exact h
  | @builder _ _ _ cause =>
    unfold locate at hvalue ⊢
    split
    · exact located_atNode s.path cause
    · next hcause =>
      rw [if_neg hcause] at hvalue
      exact absurd hvalue hcause

/-- Branches fail with a node inside, after all nodes before it were built; or else all nodes up to
a branch that is none are built. -/
theorem nodesOf_eq_error {bs : List Branch} {f : Fault} (h : bs.mapM Branch.load = .error f) :
    (∃ before c after, nodesOf bs = before ++ c :: after ∧ (∀ e ∈ before, e.Loads) ∧
      c.load = .error f) ∨
    (∀ c ∈ nodesOf bs, c.Loads) ∧ .error f ∈ bs := by
  induction bs with
  | nil => cases h
  | cons b rest ih =>
    rw [List.mapM_cons] at h
    rcases bind_eq_error.mp h with hb | ⟨list, hlist, htail⟩
    · rcases bind_eq_error.mp hb with rfl | ⟨nodes, rfl, hnodes⟩
      · exact .inr ⟨List.forall_mem_nil _, List.mem_cons_self⟩
      · obtain ⟨before, c, after, rfl, hbefore, hc⟩ := mapM_eq_error.mp hnodes
        refine .inl ⟨before, c, after ++ nodesOf rest, ?_, hbefore, hc⟩
        rw [nodesOf, List.append_assoc, List.cons_append]
    · obtain ⟨nodes, rfl, hnodes⟩ := bind_eq_ok.mp hlist
      have hloads := exists_of_mapM_eq_ok hnodes
      rcases bind_eq_error.mp htail with hrest | ⟨lists, -, hnone⟩
      · rcases ih hrest with ⟨before, c, after, heq, hbefore, hc⟩ | ⟨hall, hmem⟩
        · refine .inl ⟨nodes ++ before, c, after, ?_, fun e he => ?_, hc⟩
          · rw [nodesOf, heq, List.append_assoc]
          · exact (List.mem_append.mp he).elim (hloads e) (hbefore e)
        · refine .inr ⟨fun c hc => ?_, List.mem_cons_of_mem _ hmem⟩
          exact (List.mem_append.mp hc).elim (hloads c) (hall c)
      · cases hnone

/-- All nodes in branches that are built can be built. -/
theorem loads_of_mem_nodesOf {bs : List Branch} {lists : List (List Action)}
    (h : bs.mapM Branch.load = .ok lists) : ∀ c ∈ nodesOf bs, c.Loads := by
  induction bs generalizing lists with
  | nil => exact List.forall_mem_nil _
  | cons b rest ih =>
    rw [List.mapM_cons] at h
    obtain ⟨list, others, hlist, hothers, -⟩ := map₂_eq_ok.mp h
    obtain ⟨nodes, rfl, hnodes⟩ := bind_eq_ok.mp hlist
    intro c hc
    exact (List.mem_append.mp hc).elim (exists_of_mapM_eq_ok hnodes c) (ih hothers c)

/-- The branches of a node of which the builder is known. -/
theorem branches_of_builder {s : Site} {fields : List (String × Data)} {b : Builder}
    (hnode : s.node = .obj fields)
    (hb : builderOf s.path (Fields.value fields "kind") = .ok b) :
    s.branches = fieldBranches s.path b.name fields := by
  rw [Site.branches, hnode]
  simp only [hb]

/-- The branches of a node are built when its parameters are gathered. -/
theorem mapM_branches_eq_ok {path kind : String} {fields : List (String × Data)}
    {given : Fields Argument}
    (h : gather ((branches kind).map (·.1)) (Fields.ofList (buildParams path kind fields)) =
      .ok given) :
    ∃ lists, (fieldBranches path kind fields).mapM Branch.load = .ok lists := by
  by_cases hswitch : kind = "SwitchCase"
  · subst hswitch
    obtain ⟨lists, hlists, -⟩ := caseBranches_eq_ok h
    exact ⟨lists, hlists⟩
  · obtain ⟨lists, hlists, -⟩ := fieldBranches_eq_ok hswitch h
    exact ⟨lists, hlists⟩

/-- A node fails with a node inside, after all nodes before it were built; or else all nodes inside
that are visited are built, and the node is at fault itself. -/
theorem load_eq_error {s : Site} {f : Fault} (h : s.load = .error f) :
    (∃ before c after, s.visited = before ++ c :: after ∧ (∀ e ∈ before, e.Loads) ∧
      c.load = .error f) ∨
    (∀ c ∈ s.visited, c.Loads) ∧ Own s f := by
  obtain ⟨path, v⟩ := s
  cases v with
  | obj fields =>
    rw [Site.load, build] at h
    rcases bind_eq_error.mp h with hb | ⟨b, hb, h⟩
    · have hnone : Site.branches ⟨path, .obj fields⟩ = [] := by
        rw [Site.branches]
        simp only [hb]
      rw [Site.visited, hnone]
      exact .inr ⟨List.forall_mem_nil _, .shape (located_builderOf hb)⟩
    · rw [Site.visited, branches_of_builder (s := ⟨path, .obj fields⟩) rfl hb]
      rcases bind_eq_error.mp h with hgather | ⟨given, hgiven, h⟩
      · refine (nodesOf_eq_error (fieldBranches_eq_error hgather)).imp_right fun hflaw => ?_
        exact ⟨hflaw.1, .shape (located_fieldBranches hflaw.2)⟩
      · obtain ⟨lists, hlists⟩ := mapM_branches_eq_ok hgiven
        obtain ⟨cause, happly, rfl⟩ := mapError_eq_error.mp h
        exact .inr ⟨loads_of_mem_nodesOf hlists, .builder rfl hb hgiven happly⟩
  | embed x => exact x.elim
  | _ =>
    obtain rfl := Except.error.inj h
    exact .inr ⟨List.forall_mem_nil _, .shape (located_notMapping path _)⟩

/-! ### Nodes inside

A node inside is smaller than the value in which it is found, and its path begins with the path of
that value. -/

/-- The node is inside a value of this size at this path. -/
structure Inside (path : String) (size : Nat) (c : Site) : Prop where
  begins : Begins path c.path
  smaller : sizeOf c.node < size

/-- What is inside a part of a value is inside the value. -/
theorem Inside.widen {path path' : String} {size size' : Nat} {c : Site} (h : Inside path' size' c)
    (hpath : Begins path path') (hsize : size' ≤ size) : Inside path size c :=
  ⟨hpath.trans h.begins, Nat.lt_of_lt_of_le h.smaller hsize⟩

theorem sizeOf_lt_of_mem_fields {fields : List (String × Data)} {k : String} {v : Data}
    (h : (k, v) ∈ fields) : sizeOf v < sizeOf fields := by
  have hpair := List.sizeOf_lt_of_mem h
  rw [Prod.mk.sizeOf_spec] at hpair
  omega

theorem sizeOf_lt_of_given? {fields : List (String × Data)} {param : String} {v : Data}
    (h : given? fields param = some v) : sizeOf v < sizeOf fields := by
  have hmem := List.mem_reverse.mp (Fields.mem_of_get? h)
  obtain ⟨f, hf, heq⟩ := List.mem_map.mp hmem
  obtain rfl : f.2 = v := congrArg Prod.snd heq
  exact sizeOf_lt_of_mem_fields (List.mem_filter.mp hf).1

/-- The items of a list are inside it. -/
theorem inside_of_mem_sites {path : String} {index : Nat} {nodes : List Data} {c : Site}
    (h : c ∈ sites path index nodes) : Inside path (sizeOf nodes) c := by
  induction nodes generalizing index with
  | nil => exact absurd h List.not_mem_nil
  | cons node rest ih =>
    have hsize := List.cons.sizeOf_spec node rest
    rcases List.mem_cons.mp h with rfl | h
    · have hsmaller : sizeOf node < sizeOf (node :: rest) := by omega
      exact ⟨begins_itemPath path index, hsmaller⟩
    · exact (ih h).widen (Begins.refl path) (by omega)

/-- The nodes of a branch are inside it. -/
theorem inside_of_branchAt {path : String} {v : Data} {nodes : List Site}
    (h : branchAt path v = .ok nodes) : ∀ c ∈ nodes, Inside path (sizeOf v) c := by
  cases v with
  | null =>
    obtain rfl := Except.ok.inj h
    exact List.forall_mem_nil _
  | list items =>
    obtain rfl := Except.ok.inj h
    have hsize := Json.list.sizeOf_spec items
    intro c hc
    exact (inside_of_mem_sites hc).widen (Begins.refl path) (by omega)
  | embed x => exact x.elim
  | _ => cases h

/-- What is found under a key of a mapping is inside the mapping. -/
theorem inside_of_branchAt_value {path key : String} {fields : List (String × Data)}
    {nodes : List Site} (h : branchAt path (Fields.value fields key) = .ok nodes) :
    ∀ c ∈ nodes, Inside path (sizeOf fields) c := by
  rw [Fields.value] at h
  cases hvalue : Fields.get? fields key with
  | none =>
    rw [hvalue] at h
    obtain rfl := Except.ok.inj h
    exact List.forall_mem_nil _
  | some v =>
    rw [hvalue] at h
    have hsize := sizeOf_lt_of_mem_fields (Fields.mem_of_get? hvalue)
    intro c hc
    exact (inside_of_branchAt h c hc).widen (Begins.refl path) (Nat.le_of_lt hsize)

/-- The nodes of a case are inside the cases. -/
theorem inside_of_caseBranches {path : String} {index : Nat} {cases : List Data}
    {nodes : List Site} (h : .ok nodes ∈ caseBranches path index cases) :
    ∀ c ∈ nodes, Inside path (sizeOf cases) c := by
  induction cases generalizing index with
  | nil => exact absurd h List.not_mem_nil
  | cons case rest ih =>
    have hsize := List.cons.sizeOf_spec case rest
    intro c hc
    cases case with
    | obj fields =>
      rcases List.mem_cons.mp h with h | h
      · have hfields := Json.obj.sizeOf_spec fields
        have hpath := (begins_itemPath path index).append ".actions"
        exact (inside_of_branchAt_value h.symm c hc).widen hpath (by omega)
      · exact (ih h c hc).widen (Begins.refl path) (by omega)
    | embed x => exact x.elim
    | _ =>
      rcases List.mem_cons.mp h with h | h
      · cases h
      · exact (ih h c hc).widen (Begins.refl path) (by omega)

theorem inside_of_casesAt {path : String} {v : Data} {nodes : List Site}
    (h : .ok nodes ∈ casesAt path v) : ∀ c ∈ nodes, Inside path (sizeOf v) c := by
  intro c hc
  cases v with
  | list cases =>
    have hsize := Json.list.sizeOf_spec cases
    have hpath := (Begins.refl path).append ".cases"
    exact (inside_of_caseBranches h c hc).widen hpath (by omega)
  | _ => exact absurd h List.not_mem_nil

/-- So all nodes below a node are inside it, and smaller. -/
theorem inside_of_fieldBranches {path kind : String} {fields : List (String × Data)}
    {nodes : List Site} (h : .ok nodes ∈ fieldBranches path kind fields) :
    ∀ c ∈ nodes, Inside path (sizeOf fields) c := by
  intro c hc
  unfold fieldBranches at h
  split at h
  · cases hgiven : given? fields "cases" with
    | none =>
      rw [hgiven] at h
      exact absurd h List.not_mem_nil
    | some v =>
      rw [hgiven, Option.getD_some] at h
      have hsize := sizeOf_lt_of_given? hgiven
      exact (inside_of_casesAt h c hc).widen (Begins.refl path) (Nat.le_of_lt hsize)
  · obtain ⟨br, -, hbr⟩ := List.mem_map.mp h
    cases hgiven : given? fields br.1 with
    | none =>
      rw [hgiven] at hbr
      obtain rfl := Except.ok.inj hbr
      exact absurd hc List.not_mem_nil
    | some v =>
      rw [hgiven] at hbr
      have hsize := sizeOf_lt_of_given? hgiven
      have hpath := ((Begins.refl path).append ".").append br.2
      exact (inside_of_branchAt hbr c hc).widen hpath (Nat.le_of_lt hsize)

/-- Every node below is on one of the branches. -/
theorem exists_branch_of_mem_nodesOf {bs : List Branch} {c : Site} (h : c ∈ nodesOf bs) :
    ∃ nodes, .ok nodes ∈ bs ∧ c ∈ nodes := by
  induction bs with
  | nil => exact absurd h List.not_mem_nil
  | cons b rest ih =>
    cases b with
    | error f => exact absurd h List.not_mem_nil
    | ok nodes =>
      rcases List.mem_append.mp h with h | h
      · exact ⟨nodes, List.mem_cons_self, h⟩
      · obtain ⟨nodes', hmem, hc⟩ := ih h
        exact ⟨nodes', List.mem_cons_of_mem _ hmem, hc⟩

/-- A node that is visited is inside the one around it. -/
theorem inside_of_mem_visited {s c : Site} (h : c ∈ s.visited) :
    Inside s.path (sizeOf s.node) c := by
  obtain ⟨nodes, hnodes, hc⟩ := exists_branch_of_mem_nodesOf h
  unfold Site.branches at hnodes
  split at hnodes
  · next fields hnode =>
    split at hnodes
    · have hsize := Json.obj.sizeOf_spec fields
      rw [hnode]
      exact (inside_of_fieldBranches hnodes c hc).widen (Begins.refl s.path) (by omega)
    · exact absurd hnodes List.not_mem_nil
  · exact absurd hnodes List.not_mem_nil

/-! ### Locality -/

/-- A failure is that of one node that is at fault itself. -/
theorem exists_reached (s : Site) {f : Fault} (h : s.load = .error f) :
    ∃ t, Reached s t ∧ t.load = .error f ∧ (∀ c ∈ t.visited, c.Loads) ∧ Own t f := by
  rcases load_eq_error h with ⟨before, c, after, hvisited, hbefore, hc⟩ | ⟨hloads, hown⟩
  · have hmem : c ∈ s.visited := by
      rw [hvisited]
      exact List.mem_append_right before List.mem_cons_self
    have hlt := (inside_of_mem_visited hmem).smaller
    obtain ⟨t, hreached, ht⟩ := exists_reached c hc
    exact ⟨t, .child hvisited hbefore hreached, ht⟩
  · exact ⟨s, .self s, h, hloads, hown⟩
termination_by sizeOf s.node

/-- An action that is built has in its branches the actions of the nodes in the branches. -/
theorem mapM_branches_of_load {s : Site} {a : Action} (h : s.load = .ok a) :
    s.branches.mapM Branch.load = .ok a.branches := by
  obtain ⟨path, v⟩ := s
  cases v with
  | obj fields =>
    rw [Site.load, build] at h
    obtain ⟨b, hb, h⟩ := bind_eq_ok.mp h
    obtain ⟨given, hgiven, h⟩ := bind_eq_ok.mp h
    have happly := mapError_eq_ok.mp h
    rw [branches_of_builder (s := ⟨path, .obj fields⟩) rfl hb]
    rcases Builder.composite_or_makesSteps b (builderOf_mem _ _ b hb) with
      rfl | rfl | rfl | rfl | ⟨hsteps, hswitch, hnone⟩
    · obtain ⟨lists, hlists, hvalues⟩ := fieldBranches_eq_ok (by decide) hgiven
      obtain ⟨list, rest, hlist, hrest, rfl⟩ := List.forall₂_cons_left_iff.mp hvalues
      obtain rfl := List.forall₂_nil_left_iff.mp hrest
      rw [hlists, Builder.group_branches happly hlist]
    · obtain ⟨lists, hlists, hvalues⟩ := fieldBranches_eq_ok (by decide) hgiven
      obtain ⟨thenList, others, hthen, hothers, rfl⟩ := List.forall₂_cons_left_iff.mp hvalues
      obtain ⟨elseList, rest, helse, hrest, rfl⟩ := List.forall₂_cons_left_iff.mp hothers
      obtain rfl := List.forall₂_nil_left_iff.mp hrest
      rw [hlists, Builder.ifThenElse_branches happly hthen helse]
    · obtain ⟨lists, hlists, hvalues⟩ := fieldBranches_eq_ok (by decide) hgiven
      obtain ⟨list, rest, hlist, hrest, rfl⟩ := List.forall₂_cons_left_iff.mp hvalues
      obtain rfl := List.forall₂_nil_left_iff.mp hrest
      rw [hlists, Builder.whileLoop_branches happly hlist]
    · obtain ⟨lists, hlists, hcases⟩ := caseBranches_eq_ok hgiven
      rcases hcases with ⟨cases, hlength, hcases⟩ | ⟨v, hv, hcases⟩
      · rw [Builder.switch_branches happly hlength hcases, ← hlists]
        rfl
      · exact absurd happly (Builder.switch_needs_list hv hcases a)
    · obtain ⟨lists, hlists, hvalues⟩ := fieldBranches_eq_ok hswitch hgiven
      rw [hnone, List.forall₂_nil_left_iff] at hvalues
      obtain ⟨args, -, hbuild⟩ := bind_eq_ok.mp happly
      obtain ⟨step, rfl⟩ := hsteps args a hbuild
      rw [hlists, hvalues, Action.branches]
  | embed x => exact x.elim
  | _ => cases h

/-- Loading is local to nodes. If building fails there is one node that fails, in the same way when
it is built alone: all nodes inside it that are visited can be built, and so can all nodes that were
visited before it; if the failure says that some value is unacceptable, its message begins with the
path of that node. If building succeeds the nodes in each branch can be built alone, and the actions
that they describe are those in the branch of the action, in the same order. -/
theorem build_is_local (s : Site) :
    (∀ f, build s.path s.node = .error f →
      ∃ t, Reached s t ∧ build t.path t.node = .error f ∧
        (∀ c ∈ t.visited, ∃ a, build c.path c.node = .ok a) ∧
        (f.kind.isValue → t.path.toList <+: f.message.toList)) ∧
    (∀ a, build s.path s.node = .ok a →
      List.Forall₂ (fun branch actions => ∃ nodes, branch = .ok nodes ∧
        List.Forall₂ (fun c a => build c.path c.node = .ok a) nodes actions)
        s.branches a.branches) := by
  refine ⟨fun f h => ?_, fun a h => ?_⟩
  · obtain ⟨t, hreached, hload, hvisited, hown⟩ := exists_reached s h
    exact ⟨t, hreached, hload, hvisited, fun hvalue => (hown.located hvalue).begins⟩
  · refine (mapM_eq_ok.mp (mapM_branches_of_load h)).imp fun branch actions hbranch => ?_
    obtain ⟨nodes, rfl, hnodes⟩ := bind_eq_ok.mp hbranch
    exact ⟨nodes, rfl, mapM_eq_ok.mp hnodes⟩

/-- A group of a pause and a node of no known kind. -/
def strayGroup : Data :=
  .obj [("kind", .str "Group"), ("name", .str "g"),
    ("actions", .list [.obj [("kind", .str "Pause")], .obj [("kind", .str "Nope")]])]

theorem build_strayGroup :
    build "actions[0]" strayGroup =
      .error (.document (.unknownKind "actions[0].actions[1]" "Nope")) := by
  rfl

/-- The node inside the group fails by itself. -/
theorem build_is_local_strayGroup :
    ∃ t, Reached ⟨"actions[0]", strayGroup⟩ t ∧
      build t.path t.node = .error (.document (.unknownKind "actions[0].actions[1]" "Nope")) ∧
      t.path.toList <+: "actions[0].actions[1]: unknown action kind 'Nope'".toList := by
  obtain ⟨t, hreached, hload, -, hbegins⟩ :=
    (build_is_local ⟨"actions[0]", strayGroup⟩).1 _ build_strayGroup
  exact ⟨t, hreached, hload, hbegins rfl⟩

end MacroScribe.Node
