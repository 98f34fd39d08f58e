import MacroScribe.Proofs.Document.Visit

/-!
# MacroScribe.Proofs.Builder.Branches

What builders make of the actions that they are given. An action that is built has the given actions
in its branches, list by list and in the given order. Only the builders of composite actions make
actions with branches (`composite_or_makesSteps`).
-/

namespace MacroScribe

open Outcome

/-- The actions of a case. -/
def SwitchCase.actions : SwitchCase → List Action
  | .mk _ _ actions => actions

/-- The lists of actions inside an action. -/
def Action.branches : Action → List (List Action)
  | .step _ => []
  | .group _ actions _ => [actions]
  | .switch _ cases => cases.map SwitchCase.actions
  | .ifThenElse _ thenActions elseActions _ => [thenActions, elseActions]
  | .whileLoop _ actions _ _ => [actions]

namespace Builder

theorem bind_eq_args {b : Builder} {given : Fields Argument} {args : Arguments}
    (h : b.bind given = .ok args) :
    args = b.parameters.map fun p =>
      (p.name, ((given.get? p.name).or p.standard).getD .null) := by
  simp only [bind] at h
  split at h
  · cases h
  · split at h
    · cases h
    · exact (Except.ok.inj h).symm

/-- Actions that are given for a parameter are taken as they are. -/
theorem children_ofActions (name : String) (actions : List Action) :
    children name (Node.ofActions actions) = .ok actions := by
  have hitems : (Node.ofActions actions).itemsOrNone =
      .ok (actions.map fun a => .embed (.action a)) := by
    cases actions <;> rfl
  rw [children, hitems]
  refine mapM_eq_ok.mpr ?_
  rw [List.forall₂_map_left_iff]
  exact List.forall₂_same.mpr fun a _ => rfl

theorem nodup_parameters : ∀ b ∈ all, (b.parameters.map (·.name)).Nodup := by
  decide

/-- A parameter has the value that was given for it, or else its default. -/
theorem value_of_bind {b : Builder} (hb : b ∈ all) {p : Parameter} (hp : p ∈ b.parameters)
    {given : Fields Argument} {args : Arguments} (h : b.bind given = .ok args) :
    args.value p.name = ((given.get? p.name).or p.standard).getD .null := by
  obtain rfl := bind_eq_args h
  have hkeys : Fields.keys (b.parameters.map fun p =>
      (p.name, ((given.get? p.name).or p.standard).getD .null)) = b.parameters.map (·.name) := by
    rw [Fields.keys, List.map_map]
    rfl
  have hnodup := nodup_parameters b hb
  rw [← hkeys] at hnodup
  rw [Fields.value, Fields.get?_of_mem hnodup (List.mem_map_of_mem hp), Option.getD_some]

/-- A parameter for actions has those that were given, or none. -/
theorem value_of_branch {b : Builder} (hb : b ∈ all) {param : String}
    (hp : Parameter.withDefault param (.list []) ∈ b.parameters) {given : Fields Argument}
    {args : Arguments} (h : b.bind given = .ok args) {actions : List Action}
    (hactions : (given.get? param).getD (.list []) = Node.ofActions actions) :
    args.value param = Node.ofActions actions := by
  rw [← hactions]
  refine (value_of_bind hb hp h).trans ?_
  change ((given.get? param).or (some (.list []))).getD .null = _
  cases given.get? param <;> rfl

theorem group_branches {given : Fields Argument} {a : Action} {list : List Action}
    (h : group.apply given = .ok a)
    (hlist : (given.get? "actions").getD (.list []) = Node.ofActions list) :
    a.branches = [list] := by
  obtain ⟨args, hargs, h⟩ := bind_eq_ok.mp h
  obtain ⟨actions, hactions, h⟩ := bind_eq_ok.mp h
  rw [value_of_branch (by simp [all]) (by simp [group]) hargs hlist, children_ofActions] at hactions
  obtain rfl := Except.ok.inj hactions
  obtain rfl := Except.ok.inj h
  rfl

theorem whileLoop_branches {given : Fields Argument} {a : Action} {list : List Action}
    (h : whileLoop.apply given = .ok a)
    (hlist : (given.get? "actions").getD (.list []) = Node.ofActions list) :
    a.branches = [list] := by
  obtain ⟨args, hargs, h⟩ := bind_eq_ok.mp h
  obtain ⟨conditions, -, h⟩ := bind_eq_ok.mp h
  obtain ⟨actions, hactions, h⟩ := bind_eq_ok.mp h
  rw [value_of_branch (by simp [all]) (by simp [whileLoop]) hargs hlist,
    children_ofActions] at hactions
  obtain rfl := Except.ok.inj hactions
  obtain rfl := Except.ok.inj h
  rfl

theorem ifThenElse_branches {given : Fields Argument} {a : Action}
    {thenList elseList : List Action} (h : ifThenElse.apply given = .ok a)
    (hthen : (given.get? "then").getD (.list []) = Node.ofActions thenList)
    (helse : (given.get? "else_").getD (.list []) = Node.ofActions elseList) :
    a.branches = [thenList, elseList] := by
  obtain ⟨args, hargs, h⟩ := bind_eq_ok.mp h
  obtain ⟨conditions, -, h⟩ := bind_eq_ok.mp h
  obtain ⟨thenActions, hthenActions, h⟩ := bind_eq_ok.mp h
  obtain ⟨elseActions, helseActions, h⟩ := bind_eq_ok.mp h
  rw [value_of_branch (by simp [all]) (by simp [ifThenElse]) hargs hthen,
    children_ofActions] at hthenActions
  rw [value_of_branch (by simp [all]) (by simp [ifThenElse]) hargs helse,
    children_ofActions] at helseActions
  obtain rfl := Except.ok.inj hthenActions
  obtain rfl := Except.ok.inj helseActions
  obtain rfl := Except.ok.inj h
  rfl

theorem switchCase_actions {operator value actions : Argument} {list : List Action} {c : SwitchCase}
    (hactions : actions = Node.ofActions list) (h : switchCase operator value actions = .ok c) :
    c.actions = list := by
  obtain ⟨op, -, h⟩ := bind_eq_ok.mp h
  obtain ⟨made, hmade, h⟩ := bind_eq_ok.mp h
  rw [hactions, children_ofActions] at hmade
  obtain rfl := Except.ok.inj hmade
  obtain rfl := Except.ok.inj h
  rfl

/-- A case has the actions that were built for it. -/
theorem caseOf_actions {i : Nat} {case : Data} {list : List Action} {c : SwitchCase}
    (h : caseOf i (Node.caseWith case list) = .ok c) : c.actions = list := by
  cases case with
  | obj fields =>
    have h := mapError_eq_ok.mp h
    obtain ⟨_, -, h⟩ := bind_eq_ok.mp h
    split at h
    · cases h
    · refine switchCase_actions ?_ h
      rw [Fields.value, Fields.get?_put, if_pos rfl, Option.getD_some]
  | embed x => exact x.elim
  | _ => cases h

theorem cases_actions {cases : List Data} {lists : List (List Action)} {made : List SwitchCase}
    {i : Nat} (hlength : cases.length = lists.length)
    (h : ((List.zipWith Node.caseWith cases lists).zipIdx i).mapM
      (fun (item, i) => caseOf i item) = .ok made) :
    made.map SwitchCase.actions = lists := by
  induction cases generalizing lists made i with
  | nil =>
    obtain rfl : lists = [] := List.eq_nil_of_length_eq_zero hlength.symm
    obtain rfl := Except.ok.inj h
    rfl
  | cons case rest ih =>
    cases lists with
    | nil => cases hlength
    | cons list others =>
      rw [List.zipWith_cons_cons, List.zipIdx_cons, List.mapM_cons] at h
      obtain ⟨c, cs, hc, hcs, rfl⟩ := map₂_eq_ok.mp h
      rw [List.map_cons, caseOf_actions hc, ih (Nat.succ.inj hlength) hcs]

theorem itemsOrNone_list (items : List Argument) :
    (Json.list items : Argument).itemsOrNone = .ok items := by
  cases items <;> rfl

/-- What a switch with these cases is. -/
theorem switch_eq_ok {args : Arguments} {a : Action} (h : switch.build args = .ok a) :
    ∃ source items cases, (args.value "cases").itemsOrNone = .ok items ∧
      items.zipIdx.mapM (fun (item, i) => caseOf i item) = .ok cases ∧ cases ≠ [] ∧
      a = .switch source cases := by
  obtain ⟨source, -, h⟩ := bind_eq_ok.mp h
  obtain ⟨mode, -, h⟩ := bind_eq_ok.mp h
  obtain ⟨items, hitems, h⟩ := bind_eq_ok.mp h
  obtain ⟨cases, hcases, h⟩ := bind_eq_ok.mp h
  split at h
  · cases h
  · next hne =>
    obtain ⟨clipboard, -, h⟩ := bind_eq_ok.mp h
    obtain rfl := Except.ok.inj h
    refine ⟨_, items, cases, hitems, hcases, ?_, rfl⟩
    rintro rfl
    exact hne rfl

theorem switch_branches {given : Fields Argument} {a : Action} {cases : List Data}
    {lists : List (List Action)} (h : switch.apply given = .ok a)
    (hlength : cases.length = lists.length)
    (hcases : given.get? "cases" = some (.list (List.zipWith Node.caseWith cases lists))) :
    a.branches = lists := by
  obtain ⟨args, hargs, h⟩ := bind_eq_ok.mp h
  obtain ⟨source, items, made, hitems, hmade, -, rfl⟩ := switch_eq_ok h
  have hvalue := value_of_bind (b := switch) (by simp [all]) (p := .required "cases")
    (by simp [switch]) hargs
  rw [Parameter.required, hcases, Option.some_or, Option.getD_some] at hvalue
  rw [hvalue, itemsOrNone_list] at hitems
  obtain rfl := Except.ok.inj hitems
  exact cases_actions hlength hmade

/-- The items of plain data that is no list are texts. -/
theorem eq_str_of_mem_items {v : Data} (hv : ∀ items, v ≠ .list items) {items : List Argument}
    (h : (v.lift : Argument).itemsOrNone = .ok items) : ∀ item ∈ items, ∃ s, item = .str s := by
  unfold Json.itemsOrNone at h
  split at h
  · cases v with
    | str s =>
      obtain rfl := Except.ok.inj h
      intro item hitem
      obtain ⟨c, -, rfl⟩ := List.mem_map.mp hitem
      exact ⟨_, rfl⟩
    | obj fields =>
      obtain rfl := Except.ok.inj h
      intro item hitem
      obtain ⟨f, -, rfl⟩ := List.mem_map.mp hitem
      exact ⟨_, rfl⟩
    | list items => exact absurd rfl (hv items)
    | embed x => exact x.elim
    | _ => cases h
  · obtain rfl := Except.ok.inj h
    exact List.forall_mem_nil _

/-- There is no switch whose cases are given as anything but a list. -/
theorem switch_needs_list {given : Fields Argument} {v : Data} (hv : ∀ items, v ≠ .list items)
    (hcases : ((given.get? "cases").getD .null) = v.lift) (a : Action) :
    switch.apply given ≠ .ok a := by
  intro h
  obtain ⟨args, hargs, h⟩ := bind_eq_ok.mp h
  obtain ⟨source, items, made, hitems, hmade, hne, -⟩ := switch_eq_ok h
  have hvalue := value_of_bind (b := switch) (by simp [all]) (p := .required "cases")
    (by simp [switch]) hargs
  rw [Parameter.required, Option.or_none, hcases] at hvalue
  rw [hvalue] at hitems
  have hall := eq_str_of_mem_items hv hitems
  cases items with
  | nil => exact hne (Except.ok.inj hmade).symm
  | cons item rest =>
    obtain ⟨s, rfl⟩ := hall item List.mem_cons_self
    rw [List.zipIdx_cons, List.mapM_cons] at hmade
    obtain ⟨c, -, hc, -, -⟩ := map₂_eq_ok.mp hmade
    cases hc

/-- The builder makes steps only. -/
def MakesSteps (b : Builder) : Prop :=
  ∀ args : Arguments, Ensures (b.build args) fun a => ∃ s, a = .step s

/-- A builder is one of those of composite actions, or makes steps. -/
theorem composite_or_makesSteps :
    ∀ b ∈ all, b = group ∨ b = ifThenElse ∨ b = whileLoop ∨ b = switch ∨
      b.MakesSteps ∧ b.name ≠ "SwitchCase" ∧ Node.branches b.name = [] := by
  rw [all]
  repeat' first
    | exact List.forall_mem_nil _
    | refine List.forall_mem_cons.mpr ⟨?_, ?_⟩
  all_goals
    first
    | with_reducible first
      | exact .inl rfl
      | exact .inr (.inl rfl)
      | exact .inr (.inr (.inl rfl))
      | exact .inr (.inr (.inr (.inl rfl)))
    -- Whatever the others check before, what they make is a step.
    | refine .inr (.inr (.inr (.inr ⟨fun args => ?_, by decide, by decide⟩)))
      simp only [activate, breakFromLoop, continueLoop, retryThisLoop, cancelling, cancel,
        clearTypedStringBuffer, showStatusMenu, system, clickAtFoundImage, moveAndClick, clicking,
        comment, copy, cut, paste, editing, displayBriefly, displayWindow, insertText, insertion,
        fileOperation, notification, openFile, openUrl, pause, playSound, pressButton, quit,
        returnText, scrollWheelEvent, selectMenuItem, setClipboard, setVariable, calculate,
        showSpecificApp, typeKeystroke, useVariable]
      with_reducible
        repeat' first
          | exact ensures_invalid _
          | exact ensures_misused _
          | apply ensures_pure
          | apply ensures_ok
          | (apply ensures_bind; intro _ _)
          | split
      all_goals exact ⟨_, rfl⟩

end Builder

end MacroScribe
