import MacroScribe.Proofs.Document.Node

/-!
# MacroScribe.Proofs.Document.Visit

How nodes are visited. A node has *branches*, the places where lists of nodes are expected, and the
nodes in them are built in order before the node itself.

The branches are defined on the data alone. That `Node.build` visits them is shown function by
function: `buildItems`, `buildList`, `buildCaseItems` and `gather` fail as building the nodes of the
branches one after the other does (`fieldBranches_eq_error`), and when they succeed they hand on
what was built for each branch (`fieldBranches_eq_ok`, `caseBranches_eq_ok`).
-/

namespace MacroScribe

open Outcome

namespace Node

/-! ### Nodes at their paths -/

/-- A node at its path. -/
structure Site where
  path : String
  node : Data

/-- The action of the node alone. -/
def Site.load (s : Site) : Outcome Action :=
  build s.path s.node

/-- The node can be built. -/
def Site.Loads (s : Site) : Prop :=
  ∃ a, s.load = .ok a

/-- What is found where a list of nodes is expected: the nodes, or what is wrong with it. -/
abbrev Branch := Outcome (List Site)

/-- The actions of the nodes in a branch. -/
def Branch.load (b : Branch) : Outcome (List Action) := do
  (← b).mapM Site.load

/-- The nodes of a list, numbered from `index`. -/
def sites (path : String) (index : Nat) : List Data → List Site
  | [] => []
  | node :: rest => ⟨itemPath path index, node⟩ :: sites path (index + 1) rest

/-- The nodes that are found at a path; null is the empty list. -/
def branchAt (path : String) : Data → Branch
  | .null => .ok []
  | .list nodes => .ok (sites path 0 nodes)
  | v => invalid (.notList path v.typeName)

/-- The nodes of each case, numbered from `index`. -/
def caseBranches (path : String) (index : Nat) : List Data → List Branch
  | [] => []
  | .obj fields :: rest =>
    branchAt s!"{itemPath path index}.actions" (Fields.value fields "actions") ::
      caseBranches path (index + 1) rest
  | _ :: rest =>
    invalid (.caseNotMapping (itemPath path index)) :: caseBranches path (index + 1) rest

/-- The values that a node gives for parameters. -/
def givenValues (fields : List (String × Data)) : List (String × Data) :=
  (fields.filter (·.1 != "kind")).map fun f => (parameter f.1, f.2)

/-- The value that a node gives for a parameter: the last one under any of its names. -/
def given? (fields : List (String × Data)) (param : String) : Option Data :=
  Fields.get? (givenValues fields).reverse param

/-- The branches of the cases of a switch. Anything but a list has none. -/
def casesAt (path : String) : Data → List Branch
  | .list cases => caseBranches s!"{path}.cases" 0 cases
  | _ => []

/-- The branches of a node that has fields, in the order in which they are visited. -/
def fieldBranches (path kind : String) (fields : List (String × Data)) : List Branch :=
  if kind = "SwitchCase" then casesAt path ((given? fields "cases").getD .null)
  else
    (branches kind).map fun br => branchAt s!"{path}.{br.2}" ((given? fields br.1).getD .null)

/-- The branches of a node. A node of no known kind has none. -/
def Site.branches (s : Site) : List Branch :=
  match s.node with
  | .obj fields =>
    match builderOf s.path (Fields.value fields "kind") with
    | .ok b => fieldBranches s.path b.name fields
    | .error _ => []
  | _ => []

/-- The nodes up to the first branch that is no list of nodes. -/
def nodesOf : List Branch → List Site
  | .ok nodes :: rest => nodes ++ nodesOf rest
  | _ => []

/-- The nodes inside a node, in the order in which they are visited. -/
def Site.visited (s : Site) : List Site :=
  nodesOf s.branches

/-! ### Lists and cases -/

theorem buildItems_eq (path : String) (index : Nat) (nodes : List Data) :
    buildItems path index nodes = (sites path index nodes).mapM Site.load := by
  induction nodes generalizing index with
  | nil => rfl
  | cons node rest ih =>
    rw [buildItems, sites, List.mapM_cons, ih]
    rfl

theorem buildList_eq (path : String) (v : Data) : buildList path v = (branchAt path v).load := by
  cases v with
  | list nodes => exact buildItems_eq path 0 nodes
  | embed x => exact x.elim
  | _ => rfl

theorem buildCaseActions_eq (path : String) (fields : List (String × Data)) :
    buildCaseActions path fields = (branchAt path (Fields.value fields "actions")).load := by
  induction fields with
  | nil => rfl
  | cons f rest ih =>
    obtain ⟨key, value⟩ := f
    rw [buildCaseActions, Fields.value, Fields.get?_cons]
    by_cases hkey : key = "actions"
    · rw [if_pos hkey, if_pos hkey, buildList_eq, Option.getD_some]
    · rw [if_neg hkey, if_neg hkey, ih, Fields.value]

/-- A case with its actions. -/
def caseWith (case : Data) (actions : List Action) : Argument :=
  match case with
  | .obj fields =>
    .obj (Fields.put "actions" (ofActions actions) (fields.map fun f => (f.1, f.2.lift)))
  | v => v.lift

theorem length_caseBranches (path : String) (index : Nat) (cases : List Data) :
    (caseBranches path index cases).length = cases.length := by
  induction cases generalizing index with
  | nil => rfl
  | cons case rest ih => cases case <;> simp [caseBranches, ih]

/-- The cases are the given ones, each with the actions of its branch. -/
theorem buildCaseItems_eq (path : String) (index : Nat) (cases : List Data) :
    buildCaseItems path index cases =
      List.zipWith caseWith cases <$> (caseBranches path index cases).mapM Branch.load := by
  induction cases generalizing index with
  | nil => rfl
  | cons case rest ih =>
    cases case with
    | obj fields =>
      rw [buildCaseItems, caseBranches, List.mapM_cons, buildCaseActions_eq, ih]
      cases (branchAt s!"{itemPath path index}.actions" (Fields.value fields "actions")).load with
      | error f => rfl
      | ok actions =>
        cases (caseBranches path (index + 1) rest).mapM Branch.load with
        | error f => rfl
        | ok lists => rfl
    | embed x => exact x.elim
    | _ => rfl

/-! ### Parameters -/

/-- What becomes of a value that a node gives for a parameter. -/
def argumentOf (path kind param : String) (value : Data) : Outcome Argument :=
  match Fields.get? (branches kind) param with
  | some label => ofActions <$> (branchAt s!"{path}.{label}" value).load
  | none =>
    if kind = "SwitchCase" ∧ param = "cases" then buildCases path value else .ok value.lift

theorem buildParams_eq (path kind : String) (fields : List (String × Data)) :
    buildParams path kind fields =
      (givenValues fields).map fun f => (f.1, argumentOf path kind f.1 f.2) := by
  induction fields with
  | nil => rfl
  | cons f rest ih =>
    obtain ⟨key, value⟩ := f
    by_cases hkey : key = "kind"
    · simp only [buildParams, ih, givenValues, hkey]
      rfl
    · have hgiven : givenValues ((key, value) :: rest) =
          (parameter key, value) :: givenValues rest := by
        rw [givenValues, List.filter_cons_of_pos (by simpa using hkey), List.map_cons, givenValues]
      rw [hgiven, List.map_cons, ← ih]
      simp only [buildParams, if_neg hkey, argumentOf, buildList_eq]
      cases Fields.get? (branches kind) (parameter key) with
      | some label => rfl
      | none => by_cases hcases : kind = "SwitchCase" ∧ parameter key = "cases" <;> simp [hcases]

/-- The parameters of a node are the values that are given last for them. -/
theorem get?_params (path kind : String) (fields : List (String × Data)) (param : String) :
    (Fields.ofList (buildParams path kind fields)).get? param =
      (given? fields param).map (argumentOf path kind param) := by
  rw [Fields.get?_ofList, buildParams_eq, ← List.map_reverse, Fields.get?_map, given?]

/-- Of two keys for one parameter the later one counts. -/
example : given? [("else", .int 1), ("else_", .int 2)] "else_" = some (.int 2) := rfl

/-! ### Gathering -/

/-- The parameter could not be made. -/
def Fails (params : Fields (Outcome Argument)) (param : String) : Prop :=
  ∃ f, params.get? param = some (.error f)

theorem get?_of_collected {params : Fields (Outcome Argument)} {given : Fields Argument}
    (h : params.mapM (fun (key, value) => do return (key, ← value)) = Except.ok (ε := Fault) given)
    (param : String) : params.get? param = (given.get? param).map .ok := by
  have hpairs := mapM_eq_ok.mp h
  induction hpairs with
  | nil => rfl
  | @cons f g params given hf hrest ih =>
    obtain ⟨key, value⟩ := f
    obtain ⟨v, rfl, rfl⟩ := map_eq_ok.mp hf
    rw [Fields.get?_cons, Fields.get?_cons, ih (mapM_eq_ok.mpr hrest)]
    by_cases hkey : key = param
    · rw [if_pos hkey, if_pos hkey, Option.map_some]
    · rw [if_neg hkey, if_neg hkey]

/-- The failure of a parameter, if it could not be made. -/
def check (params : Fields (Outcome Argument)) (param : String) : Outcome Unit :=
  match params.get? param with
  | some (.error f) => .error f
  | _ => .ok ()

theorem check_eq_error {params : Fields (Outcome Argument)} {param : String} {f : Fault} :
    check params param = .error f ↔ params.get? param = some (.error f) := by
  unfold check
  split
  · next heq => rw [heq, Option.some_inj, Except.error.injEq, Except.error.injEq]
  · next hne =>
    constructor
    · rintro ⟨⟩
    · exact fun h => absurd h (hne f)

theorem not_fails_of_check {params : Fields (Outcome Argument)} {param : String}
    (h : check params param = .ok ()) : ¬Fails params param := by
  rintro ⟨f, hf⟩
  rw [check_eq_error.mpr hf] at h
  cases h

theorem forM_check {params : Fields (Outcome Argument)} {first : List String}
    (h : first.forM (check params) = .ok ()) : ∀ param ∈ first, ¬Fails params param := by
  induction first with
  | nil => exact List.forall_mem_nil _
  | cons param rest ih =>
    obtain ⟨_, hparam, hrest⟩ := bind_eq_ok.mp h
    exact List.forall_mem_cons.mpr ⟨not_fails_of_check hparam, ih hrest⟩

theorem forM_check_eq_error {params : Fields (Outcome Argument)} {first : List String} {f : Fault}
    (h : first.forM (check params) = .error f) :
    ∃ pre param post, first = pre ++ param :: post ∧ (∀ p ∈ pre, ¬Fails params p) ∧
      params.get? param = some (.error f) := by
  induction first with
  | nil => cases h
  | cons param rest ih =>
    rcases bind_eq_error.mp h with hparam | ⟨_, hparam, hrest⟩
    · exact ⟨[], param, rest, rfl, List.forall_mem_nil _, check_eq_error.mp hparam⟩
    · obtain ⟨pre, p, post, rfl, hpre, hp⟩ := ih hrest
      exact ⟨param :: pre, p, post, rfl,
        List.forall_mem_cons.mpr ⟨not_fails_of_check hparam, hpre⟩, hp⟩

/-- Parameters that are gathered could all be made. -/
theorem gather_eq_ok {first : List String} {params : Fields (Outcome Argument)}
    {given : Fields Argument} (h : gather first params = .ok given) (param : String) :
    params.get? param = (given.get? param).map .ok := by
  obtain ⟨_, -, h⟩ := bind_eq_ok.mp h
  exact get?_of_collected h param

/-- Gathering fails with the first of the parameters named first that could not be made, or else
with another parameter. -/
theorem gather_eq_error {first : List String} {params : Fields (Outcome Argument)} {f : Fault}
    (hnodup : params.keys.Nodup) (h : gather first params = .error f) :
    (∃ pre param post, first = pre ++ param :: post ∧ (∀ p ∈ pre, ¬Fails params p) ∧
      params.get? param = some (.error f)) ∨
    ((∀ p ∈ first, ¬Fails params p) ∧ ∃ param, params.get? param = some (.error f)) := by
  rcases bind_eq_error.mp h with h | ⟨_, hfirst, h⟩
  · exact .inl (forM_check_eq_error h)
  · obtain ⟨pre, ⟨param, value⟩, post, rfl, -, hvalue⟩ := mapM_eq_error.mp h
    obtain rfl : value = .error f := map_eq_error.mp hvalue
    exact .inr ⟨forM_check hfirst, param,
      Fields.get?_of_mem hnodup (List.mem_append_right pre List.mem_cons_self)⟩

/-! ### Branches -/

theorem nodup_branches (kind : String) : (Fields.keys (branches kind)).Nodup := by
  unfold branches
  split
  · decide
  · split <;> decide

theorem branches_switch : branches "SwitchCase" = [] := by
  decide

theorem argumentOf_branch {path kind param label : String} (value : Data)
    (h : Fields.get? (branches kind) param = some label) :
    argumentOf path kind param value = ofActions <$> (branchAt s!"{path}.{label}" value).load := by
  rw [argumentOf, h]

/-- A parameter that holds no actions is plain data. -/
theorem argumentOf_plain {path kind param : String} (value : Data)
    (h : Fields.get? (branches kind) param = none)
    (hcases : ¬(kind = "SwitchCase" ∧ param = "cases")) :
    argumentOf path kind param value = .ok value.lift := by
  rw [argumentOf, h]
  exact if_neg hcases

theorem argumentOf_cases (path : String) (value : Data) :
    argumentOf path "SwitchCase" "cases" value = buildCases path value := by
  rw [argumentOf, branches_switch, Fields.get?_nil]
  exact if_pos ⟨rfl, rfl⟩

theorem get?_of_mem_branches {kind : String} {br : String × String} (h : br ∈ branches kind) :
    Fields.get? (branches kind) br.1 = some br.2 :=
  Fields.get?_of_mem (nodup_branches kind) h

section Gather

variable {path kind : String} {fields : List (String × Data)}

/-- A branch whose parameter did not fail is built, and what is given for the parameter is what was
built. A parameter that is not given is an empty branch. -/
theorem load_of_not_fails {br : String × String} (hbr : br ∈ branches kind)
    (h : ¬Fails (Fields.ofList (buildParams path kind fields)) br.1) :
    ∃ list, (branchAt s!"{path}.{br.2}" ((given? fields br.1).getD .null)).load = .ok list ∧
      ((Fields.ofList (buildParams path kind fields)).get? br.1 = none ∧ list = [] ∨
        (Fields.ofList (buildParams path kind fields)).get? br.1 =
          some (.ok (ofActions list))) := by
  have hget := get?_params path kind fields br.1
  cases hvalue : given? fields br.1 with
  | none =>
    rw [hvalue, Option.map_none] at hget
    exact ⟨[], rfl, .inl ⟨hget, rfl⟩⟩
  | some value =>
    rw [hvalue, Option.map_some, argumentOf_branch value (get?_of_mem_branches hbr)] at hget
    rw [Option.getD_some]
    cases hload : (branchAt s!"{path}.{br.2}" value).load with
    | error f =>
      rw [hload] at hget
      exact absurd ⟨f, hget⟩ h
    | ok list =>
      rw [hload] at hget
      exact ⟨list, rfl, .inr hget⟩

/-- Gathering the parameters of a node fails as building its branches one after the other does. -/
theorem fieldBranches_eq_error {f : Fault}
    (h : gather ((branches kind).map (·.1)) (Fields.ofList (buildParams path kind fields)) =
      .error f) :
    (fieldBranches path kind fields).mapM Branch.load = .error f := by
  by_cases hswitch : kind = "SwitchCase"
  · subst hswitch
    rw [fieldBranches, if_pos rfl]
    rcases gather_eq_error (Fields.nodup_keys_ofList _) h with
      ⟨pre, param, post, hfirst, -, -⟩ | ⟨-, param, hparam⟩
    · rw [branches_switch, List.map_nil] at hfirst
      exact absurd hfirst.symm (by simp)
    · rw [get?_params, Option.map_eq_some_iff] at hparam
      obtain ⟨value, hvalue, hfault⟩ := hparam
      -- The cases are the only parameter of a switch that can fail.
      by_cases hcases : param = "cases"
      · subst hcases
        rw [argumentOf_cases] at hfault
        rw [hvalue]
        cases value with
        | list cases =>
          rw [buildCases, map_eq_error, buildCaseItems_eq, map_eq_error] at hfault
          exact hfault
        | embed x => exact x.elim
        | _ => cases hfault
      · have hplain : Fields.get? (branches "SwitchCase") param = none := by
          rw [branches_switch, Fields.get?_nil]
        rw [argumentOf_plain value hplain fun hboth => hcases hboth.2] at hfault
        cases hfault
  · rw [fieldBranches, if_neg hswitch, List.mapM_map]
    rcases gather_eq_error (Fields.nodup_keys_ofList _) h with
      ⟨pre, param, post, hfirst, hpre, hparam⟩ | ⟨hfirst, param, hparam⟩
    · obtain ⟨before, rest, hsplit, rfl, hrest⟩ := List.map_eq_append_iff.mp hfirst
      obtain ⟨br, after, rfl, rfl, -⟩ := List.map_eq_cons_iff.mp hrest
      have hbr : br ∈ branches kind := hsplit ▸ List.mem_append_right before List.mem_cons_self
      refine mapM_eq_error.mpr ⟨before, br, after, hsplit, fun b hb => ?_, ?_⟩
      · have hmem : b ∈ branches kind := hsplit ▸ List.mem_append_left _ hb
        obtain ⟨list, hlist, -⟩ := load_of_not_fails hmem (hpre b.1 (List.mem_map_of_mem hb))
        exact ⟨list, hlist⟩
      · rw [get?_params, Option.map_eq_some_iff] at hparam
        obtain ⟨value, hvalue, hfault⟩ := hparam
        rw [argumentOf_branch value (get?_of_mem_branches hbr), map_eq_error] at hfault
        rw [Function.comp_apply, hvalue]
        exact hfault
    -- No other parameter can fail.
    · have hget := hparam
      rw [get?_params, Option.map_eq_some_iff] at hget
      obtain ⟨value, -, hfault⟩ := hget
      cases hlabel : Fields.get? (branches kind) param with
      | some label =>
        have hmem := List.mem_map_of_mem (f := (·.1)) (Fields.mem_of_get? hlabel)
        exact absurd ⟨f, hparam⟩ (hfirst param hmem)
      | none =>
        rw [argumentOf_plain value hlabel fun hboth => hswitch hboth.1] at hfault
        cases hfault

/-- When the parameters of a node are gathered its branches are built, and what is given for each of
its parameters that hold actions is what was built. -/
theorem fieldBranches_eq_ok {given : Fields Argument} (hswitch : kind ≠ "SwitchCase")
    (h : gather ((branches kind).map (·.1)) (Fields.ofList (buildParams path kind fields)) =
      .ok given) :
    ∃ lists, (fieldBranches path kind fields).mapM Branch.load = .ok lists ∧
      List.Forall₂ (fun br list => (given.get? br.1).getD (.list []) = ofActions list)
        (branches kind) lists := by
  rw [fieldBranches, if_neg hswitch, List.mapM_map]
  refine exists_mapM_eq_ok fun br hbr => ?_
  have hget := gather_eq_ok h br.1
  have hmade : ¬Fails (Fields.ofList (buildParams path kind fields)) br.1 := by
    rintro ⟨f, hf⟩
    rw [hf] at hget
    cases hgiven : given.get? br.1 <;> simp [hgiven] at hget
  obtain ⟨list, hlist, hvalue⟩ := load_of_not_fails hbr hmade
  refine ⟨list, hlist, ?_⟩
  rcases hvalue with ⟨hnone, rfl⟩ | hsome
  · rw [hnone] at hget
    rw [Option.map_eq_none_iff.mp hget.symm]
    rfl
  · rw [hsome] at hget
    obtain ⟨v, hv, heq⟩ := Option.map_eq_some_iff.mp hget.symm
    rw [hv]
    exact Except.ok.inj heq

theorem buildCases_of_ne_list (path : String) {v : Data} (hv : ∀ items, v ≠ .list items) :
    buildCases path v = .ok v.lift ∧ casesAt path v = [] := by
  cases v with
  | list items => exact absurd rfl (hv items)
  | embed x => exact x.elim
  | _ => exact ⟨rfl, rfl⟩

/-- When the parameters of a switch are gathered the actions of its cases are built, if the cases
are a list. -/
theorem caseBranches_eq_ok {given : Fields Argument}
    (h : gather ((branches "SwitchCase").map (·.1))
      (Fields.ofList (buildParams path "SwitchCase" fields)) = .ok given) :
    ∃ lists, (fieldBranches path "SwitchCase" fields).mapM Branch.load = .ok lists ∧
      ((∃ cases, cases.length = lists.length ∧
          given.get? "cases" = some (.list (List.zipWith caseWith cases lists))) ∨
        ∃ v : Data, (∀ items, v ≠ .list items) ∧ (given.get? "cases").getD .null = v.lift) := by
  have hget := gather_eq_ok h "cases"
  rw [get?_params] at hget
  rw [fieldBranches, if_pos rfl]
  cases hvalue : given? fields "cases" with
  | none =>
    rw [hvalue, Option.map_none] at hget
    have hnone := Option.map_eq_none_iff.mp hget.symm
    exact ⟨[], rfl, .inr ⟨.null, by simp, by rw [hnone]; rfl⟩⟩
  | some value =>
    rw [hvalue, Option.map_some, argumentOf_cases] at hget
    obtain ⟨v, hv, hmade⟩ := Option.map_eq_some_iff.mp hget.symm
    by_cases hlist : ∃ cases, value = .list cases
    · obtain ⟨cases, rfl⟩ := hlist
      obtain ⟨items, hitems, rfl⟩ := map_eq_ok.mp hmade.symm
      rw [buildCaseItems_eq] at hitems
      obtain ⟨lists, hlists, rfl⟩ := map_eq_ok.mp hitems
      refine ⟨lists, hlists, .inl ⟨cases, ?_, hv⟩⟩
      rw [← length_caseBranches s!"{path}.cases" 0 cases, (mapM_eq_ok.mp hlists).length_eq]
    · have hne : ∀ items, value ≠ .list items := fun items heq => hlist ⟨items, heq⟩
      obtain ⟨hplain, hempty⟩ := buildCases_of_ne_list path hne
      rw [hplain] at hmade
      obtain rfl := Except.ok.inj hmade
      rw [Option.getD_some, hempty]
      exact ⟨[], rfl, .inr ⟨value, hne, by rw [hv]; rfl⟩⟩

end Gather

end Node

end MacroScribe
