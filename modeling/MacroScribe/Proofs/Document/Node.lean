import MacroScribe.Document.Node
import MacroScribe.Proofs.Action.Textual
import MacroScribe.Proofs.Builder.Made
import MacroScribe.Proofs.Json.Fields

/-!
# MacroScribe.Proofs.Document.Node

What nodes describe. An action that is built from a node is one that builders accept, with all
actions inside (`build_accepted`), so that whatever holds of accepted actions holds of those in
documents. That it was built does not mean that it can be rendered; `build_renders_iff` says when it
can.
-/

namespace MacroScribe

open Outcome

/-! ### Parts inside data -/

namespace Json

mutual

theorem embedded_map {ω ω' : Type} (f : ω → ω') :
    ∀ v : Json ω, (v.map f).embedded = v.embedded.map f
  | null | bool _ | int _ | float _ | str _ | embed _ => rfl
  | list items => embeddedItems_map f items
  | obj fields => embeddedFields_map f fields

theorem embeddedItems_map {ω ω' : Type} (f : ω → ω') :
    ∀ items : List (Json ω), embeddedItems (mapItems f items) = (embeddedItems items).map f
  | [] => rfl
  | v :: rest => by
    rw [mapItems, embeddedItems, embedded_map f v, embeddedItems_map f rest, embeddedItems,
      List.map_append]

theorem embeddedFields_map {ω ω' : Type} (f : ω → ω') :
    ∀ fields : List (String × Json ω),
      embeddedFields (mapFields f fields) = (embeddedFields fields).map f
  | [] => rfl
  | (_, v) :: rest => by
    rw [mapFields, embeddedFields, embedded_map f v, embeddedFields_map f rest, embeddedFields,
      List.map_append]

end

/-- There are no objects in plain data. -/
theorem not_mem_embedded_lift {ω : Type} (v : Data) (x : ω) : x ∉ (v.lift : Json ω).embedded := by
  rw [lift, embedded_map]
  intro h
  obtain ⟨y, -, -⟩ := List.mem_map.mp h
  exact y.elim

end Json

theorem eachPart_lift {P : Part → Prop} (v : Data) : EachPart P v.lift :=
  fun p hp => absurd hp (Json.not_mem_embedded_lift v p)

namespace Node

theorem made_ofActions {actions : List Action} (h : ∀ a ∈ actions, a.Accepted) :
    EachPart Made (ofActions actions) := by
  intro p hp
  obtain ⟨v, hv, hp⟩ := Json.mem_embeddedItems.mp hp
  obtain ⟨a, ha, rfl⟩ := List.mem_map.mp hv
  obtain rfl := List.mem_singleton.mp hp
  exact h a ha

theorem builderOf_mem (path : String) (kind : Data) :
    Ensures (builderOf path kind) (· ∈ Builder.all) := by
  unfold builderOf
  split
  · exact ensures_error _
  · split
    · next b hb => exact ensures_ok (List.mem_of_find?_eq_some hb)
    · exact ensures_error _

theorem gather_made {first : List String} {params : Fields (Outcome Argument)}
    (h : ∀ f ∈ params, Ensures f.2 (EachPart Made)) :
    Ensures (gather first params) fun given => ∀ f ∈ given, EachPart Made f.2 := by
  refine ensures_bind fun _ _ => ensures_mapM fun f hf => ?_
  exact ensures_bind fun v hv => ensures_pure (h f hf v hv)

mutual

/-- An action that is built from a node is accepted by builders, with those inside. -/
theorem build_accepted : ∀ (path : String) (v : Data), Ensures (build path v) Action.Accepted
  | path, .obj fields => by
    rw [build]
    refine ensures_bind fun b hb => ensures_bind fun given hgiven => ensures_mapError fun _ ha => ?_
    have hparams := gather_made (fun f hf => buildParams_made path b.name fields f
      (Fields.mem_ofList hf)) given hgiven
    exact Made.action (builderOf_mem _ _ b hb) (eachPart_fields.mpr hparams) ha
  | _, .null | _, .bool _ | _, .int _ | _, .float _ | _, .str _ | _, .list _ => ensures_error _
  | _, .embed x => x.elim

theorem buildParams_made :
    ∀ (path kind : String) (fields : List (String × Data)),
      ∀ f ∈ buildParams path kind fields, Ensures f.2 (EachPart Made)
  | _, _, [] => fun f hf => absurd hf List.not_mem_nil
  | path, kind, (key, value) :: rest => by
    have hrest := buildParams_made path kind rest
    simp only [buildParams]
    split
    -- The name of the builder is no parameter.
    · exact hrest
    · split
      -- The nodes of a parameter that holds actions are built.
      · next label _ =>
        refine List.forall_mem_cons.mpr ⟨ensures_map fun actions hactions => ?_, hrest⟩
        exact made_ofActions (buildList_accepted _ value actions hactions)
      -- Any other parameter is plain data, unless it holds the cases of a switch.
      · split
        · exact List.forall_mem_cons.mpr ⟨buildCases_made path value, hrest⟩
        · exact List.forall_mem_cons.mpr ⟨ensures_ok (eachPart_lift value), hrest⟩

theorem buildList_accepted :
    ∀ (path : String) (v : Data), Ensures (buildList path v) fun as => ∀ a ∈ as, a.Accepted
  | _, .null => ensures_ok (List.forall_mem_nil _)
  | path, .list nodes => buildItems_accepted path 0 nodes
  | _, .bool _ | _, .int _ | _, .float _ | _, .str _ | _, .obj _ => ensures_error _
  | _, .embed x => x.elim

theorem buildItems_accepted :
    ∀ (path : String) (index : Nat) (nodes : List Data),
      Ensures (buildItems path index nodes) fun as => ∀ a ∈ as, a.Accepted
  | _, _, [] => ensures_ok (List.forall_mem_nil _)
  | path, index, node :: rest => by
    rw [buildItems]
    refine ensures_bind fun first hfirst => ensures_bind fun others hothers => ensures_pure ?_
    exact List.forall_mem_cons.mpr ⟨build_accepted _ node first hfirst,
      buildItems_accepted path (index + 1) rest others hothers⟩

theorem buildCases_made :
    ∀ (path : String) (v : Data), Ensures (buildCases path v) (EachPart Made)
  | path, .list cases => by
    rw [buildCases]
    refine ensures_map fun made hmade p hp => ?_
    obtain ⟨v, hv, hp⟩ := Json.mem_embeddedItems.mp hp
    exact buildCaseItems_made _ 0 cases made hmade v hv p hp
  | _, .null | _, .bool _ | _, .int _ | _, .float _ | _, .str _ | _, .obj _ =>
    ensures_ok (eachPart_lift _)
  | _, .embed x => x.elim

theorem buildCaseItems_made :
    ∀ (path : String) (index : Nat) (cases : List Data),
      Ensures (buildCaseItems path index cases) fun vs => ∀ v ∈ vs, EachPart Made v
  | _, _, [] => ensures_ok (List.forall_mem_nil _)
  | path, index, .obj fields :: rest => by
    rw [buildCaseItems]
    refine ensures_bind fun actions hactions => ensures_bind fun others hothers => ensures_pure ?_
    refine List.forall_mem_cons.mpr ⟨eachPart_fields.mpr fun f hf => ?_,
      buildCaseItems_made path (index + 1) rest others hothers⟩
    -- A case is plain data but for its actions.
    rcases Fields.mem_put hf with rfl | hf
    · exact made_ofActions (buildCaseActions_accepted _ fields actions hactions)
    · obtain ⟨e, -, rfl⟩ := List.mem_map.mp hf
      exact eachPart_lift e.2
  | _, _, .null :: _ | _, _, .bool _ :: _ | _, _, .int _ :: _ | _, _, .float _ :: _
  | _, _, .str _ :: _ | _, _, .list _ :: _ => ensures_error _
  | _, _, .embed x :: _ => x.elim

theorem buildCaseActions_accepted :
    ∀ (path : String) (fields : List (String × Data)),
      Ensures (buildCaseActions path fields) fun as => ∀ a ∈ as, a.Accepted
  | _, [] => ensures_ok (List.forall_mem_nil _)
  | path, (key, value) :: rest => by
    rw [buildCaseActions]
    split
    · exact buildList_accepted path value
    · exact buildCaseActions_accepted path rest

end

/-! ### Rendering -/

/-- Not every action that is built from a node can be rendered, for some options are not checked to
be texts. It renders exactly if all its options that are written as texts are texts, in the action
and in those inside, and whether it does so does not depend on the first identifier. -/
theorem build_renders_iff {path : String} {v : Data} {a : Action} (h : build path v = .ok a)
    (n : Int) : (∃ text m, a.render.run n = (.ok text, m)) ↔ a.Textual := by
  rw [← Action.render_yields n (build_accepted path v a h).sound]
  simp only [Rendering.Yields, and_true]

/-- A comment with a title, as the builder makes it when nothing else is given. -/
def titled (title : Slot) : Action :=
  .step (.comment title (.text (String.ofList (Rtf.ofText []))))

/-- A comment whose title is a text is built and rendered. -/
theorem build_textTitle :
    build "actions[0]" (.obj [("kind", .str "Comment"), ("title", .str "a")]) =
        .ok (titled (.text "a")) ∧
      ∃ text m, (titled (.text "a")).render.run 3 = (.ok text, m) := by
  have hbuild : build "actions[0]" (.obj [("kind", .str "Comment"), ("title", .str "a")]) =
      .ok (titled (.text "a")) := rfl
  have htextual : (titled (.text "a")).Textual := by
    simp [titled, Action.Textual, Action.Every, Step.Textual, Step.slots]
  exact ⟨hbuild, (build_renders_iff hbuild 3).mpr htextual⟩

/-- A comment whose title is a number is built, and cannot be rendered. -/
theorem build_numberTitle :
    build "actions[0]" (.obj [("kind", .str "Comment"), ("title", .int 5)]) =
        .ok (titled (.broken .notText)) ∧
      ∀ n, ¬∃ text m, (titled (.broken .notText)).render.run n = (.ok text, m) := by
  refine ⟨rfl, fun n => ?_⟩
  rintro ⟨text, m, h⟩
  have hfailed : (titled (.broken .notText)).render.run n =
      (.error (.misuse .notText), n + 1) := rfl
  rw [hfailed] at h
  cases h

end Node

end MacroScribe
