import MacroScribe.Proofs.Builder.Checks
import MacroScribe.Proofs.Document.Locality

/-!
# MacroScribe.Proofs.Document.Failure

How building a node may fail. That some value is unacceptable is said with the path of the node at
fault in front, and this path begins with that of the node that is built. Any other failure passes
through as it is. It comes from a builder that misuses its arguments, so that building a node is
sure to refuse whatever it does not accept exactly if the builders of all nodes that are reached get
arguments that meet their demands (`build_refuses_iff`).
-/

namespace MacroScribe.Node

open Outcome

/-- The builder of the node is called with these arguments, once the nodes inside are built. -/
def Site.Calls (s : Site) (b : Builder) (args : Arguments) : Prop :=
  ∃ fields given, s.node = .obj fields ∧
    builderOf s.path (Fields.value fields "kind") = .ok b ∧
    gather ((Node.branches b.name).map (·.1))
      (Fields.ofList (buildParams s.path b.name fields)) = .ok given ∧
    b.bind given = .ok args

/-- The path of a node that is reached begins with that of the node that is built. -/
theorem begins_of_reached {s t : Site} (h : Reached s t) : Begins s.path t.path := by
  induction h with
  | self s => exact Begins.refl s.path
  | @child s c t before after hvisited hbefore hreached ih =>
    have hmem : c ∈ s.visited := by simp [hvisited]
    exact (inside_of_mem_visited hmem).begins.trans ih

/-! ### Failures from inside -/

theorem load_of_forall_loads {nodes : List Site} (h : ∀ e ∈ nodes, e.Loads) :
    ∃ actions, Branch.load (.ok nodes) = .ok actions := by
  obtain ⟨actions, hactions, -⟩ := exists_mapM_eq_ok (f := Site.load) (R := fun _ _ => True)
    fun e he => (h e he).imp fun a ha => ⟨ha, trivial⟩
  exact ⟨actions, hactions⟩

/-- If a node in branches fails and all those before it can be built, so do the branches. -/
theorem mapM_branches_of_visited {bs : List Branch} {before after : List Site} {c : Site}
    {f : Fault} (hvisited : nodesOf bs = before ++ c :: after) (hbefore : ∀ e ∈ before, e.Loads)
    (hc : c.load = .error f) : bs.mapM Branch.load = .error f := by
  induction bs generalizing before with
  | nil => simp [nodesOf] at hvisited
  | cons b rest ih =>
    cases b with
    | error g => simp [nodesOf] at hvisited
    | ok nodes =>
      rw [List.mapM_cons, bind_eq_error]
      have hlater : ∀ pre, before = nodes ++ pre → nodesOf rest = pre ++ c :: after →
          ∃ actions, Branch.load (.ok nodes) = .ok actions ∧
            (rest.mapM Branch.load >>= fun lists => pure (actions :: lists)) = .error f := by
        rintro pre rfl hrest
        obtain ⟨hnodes, hpre⟩ := List.forall_mem_append.mp hbefore
        obtain ⟨actions, hactions⟩ := load_of_forall_loads hnodes
        exact ⟨actions, hactions, bind_eq_error.mpr (.inl (ih hrest hpre))⟩
      rw [nodesOf] at hvisited
      rcases List.append_eq_append_iff.mp hvisited with ⟨pre, hpre, hrest⟩ | ⟨more, hnodes, hmore⟩
      · exact .inr (hlater pre hpre hrest)
      · cases more with
        | nil => exact .inr (hlater [] (by simpa using hnodes.symm) hmore.symm)
        | cons c' more =>
          obtain ⟨rfl, -⟩ := List.cons.inj hmore
          exact .inl (mapM_eq_error.mpr ⟨before, c, more, hnodes, hbefore, hc⟩)

/-- A node fails with a node inside it if all nodes that are visited earlier can be built. -/
theorem load_of_child {s c : Site} {before after : List Site} {f : Fault}
    (hvisited : s.visited = before ++ c :: after) (hbefore : ∀ e ∈ before, e.Loads)
    (hc : c.load = .error f) : s.load = .error f := by
  have hbranches := mapM_branches_of_visited hvisited hbefore hc
  cases hload : s.load with
  | ok a =>
    rw [mapM_branches_of_load hload] at hbranches
    cases hbranches
  | error g =>
    rcases load_eq_error hload with ⟨before', c', after', hvisited', hbefore', hc'⟩ | ⟨hall, -⟩
    · rw [mapM_branches_of_visited hvisited' hbefore' hc'] at hbranches
      exact congrArg Except.error (Except.error.inj hbranches)
    · obtain ⟨a, ha⟩ := hall c (by simp [hvisited])
      rw [hc] at ha
      cases ha

theorem load_of_reached {s t : Site} {f : Fault} (h : Reached s t) (ht : t.load = .error f) :
    s.load = .error f := by
  induction h with
  | self s => exact ht
  | child hvisited hbefore _ ih => exact load_of_child hvisited hbefore (ih ht)

/-! ### Failures that refuse a value -/

theorem locate_eq_self {path : String} {cause : Fault} (h : ¬cause.kind.isValue) :
    locate path cause = cause :=
  if_neg h

theorem checked_bind_args (b : Builder) (given : Fields Argument) : Checked (b.bind given) := by
  unfold Builder.bind
  simp only
  split
  · exact checked_error.mpr rfl
  · split
    · exact checked_error.mpr rfl
    · exact checked_ok _

/-- A node at fault itself that is called with fitting arguments refuses a value. -/
theorem Own.located_of_fit {t : Site} {f : Fault} (hown : Own t f)
    (hfit : ∀ b args, t.Calls b args → Builder.Fit b args) : Located t.path f := by
  cases hown with
  | shape h => exact h
  | @builder fields b given cause hnode hb hgiven happly =>
    have hvalue : cause.kind.isValue := by
      rcases bind_eq_error.mp happly with hbind | ⟨args, hargs, hbuild⟩
      · exact checked_bind_args b given cause hbind
      · have hcalls : t.Calls b args := ⟨fields, given, hnode, hb, hgiven, hargs⟩
        have hmem := builderOf_mem _ _ b hb
        exact (Builder.checked_build b hmem args).mpr (hfit b args hcalls) cause hbuild
    rw [locate, if_pos hvalue]
    exact located_atNode t.path cause

/-- A builder that misuses the arguments with which it is called makes its node fail in the same
way. -/
theorem load_of_calls {t : Site} {b : Builder} {args : Arguments} {cause : Fault}
    (hcalls : t.Calls b args) (hbuild : b.build args = .error cause)
    (hmisuse : ¬cause.kind.isValue) : t.load = .error cause := by
  obtain ⟨path, node⟩ := t
  obtain ⟨fields, given, rfl, hb, hgiven, hargs⟩ := hcalls
  have happly : b.apply given = .error cause := bind_eq_error.mpr (.inr ⟨args, hargs, hbuild⟩)
  rw [Site.load, build]
  refine bind_eq_error.mpr (.inr ⟨b, hb, ?_⟩)
  refine bind_eq_error.mpr (.inr ⟨given, hgiven, ?_⟩)
  exact mapError_eq_error.mpr ⟨cause, happly, locate_eq_self hmisuse⟩

/-- Building a node either gives an action or says that some value is unacceptable, with a message
that begins with the path, exactly if all builders that are called, for the node and for those
inside that are reached, get arguments that meet their demands. -/
theorem build_refuses_iff (path : String) (v : Data) :
    (∀ f, build path v = .error f → f.kind.isValue ∧ path.toList <+: f.message.toList) ↔
      ∀ t, Reached ⟨path, v⟩ t → ∀ b args, t.Calls b args → Builder.Fit b args := by
  constructor
  · intro hrefuses t hreached b args hcalls
    obtain ⟨fields, given, -, hb, -, -⟩ := id hcalls
    refine (Builder.checked_build b (builderOf_mem _ _ b hb) args).mp fun cause hbuild => ?_
    by_contra hmisuse
    have hload := load_of_reached hreached (load_of_calls hcalls hbuild hmisuse)
    exact hmisuse (hrefuses cause hload).1
  · intro hfit f hf
    obtain ⟨t, hreached, -, -, hown⟩ := exists_reached ⟨path, v⟩ hf
    have hlocated := hown.located_of_fit (hfit t hreached)
    exact ⟨hlocated.isValue, (begins_of_reached hreached).trans hlocated.begins⟩

/-- A group with a node of no known kind is refused, so that no builder that is called on the way
misuses what it gets. -/
theorem build_refuses_strayGroup :
    ∀ t, Reached ⟨"actions[0]", strayGroup⟩ t → ∀ b args, t.Calls b args → Builder.Fit b args := by
  refine (build_refuses_iff "actions[0]" strayGroup).mp fun f hf => ?_
  rw [build_strayGroup] at hf
  obtain rfl := Except.error.inj hf
  exact ⟨rfl, by decide⟩

/-- The upper case of a sharp s is two letters, and there is no key for them. That is found out by
looking it up. -/
theorem build_sharpS :
    build "actions[0]" (.obj [("kind", .str "TypeKeystroke"), ("keystroke", .str "ß")]) =
        .error (.misuse (.missingKey "KeySS")) ∧
      (Fault.misuse (.missingKey "KeySS")).kind = .key ∧
      ¬"actions[0]".toList <+: (Fault.misuse (.missingKey "KeySS")).message.toList := by
  refine ⟨by rfl, rfl, ?_⟩
  decide

end MacroScribe.Node
