import Mathlib.Data.List.Forall2
import MacroScribe.Proofs.Json.Fields

/-!
# MacroScribe.Proofs.Json.Reordering

Data that differ in the order of fields only. `Json.Reordered` lists the fields of mappings in
another order, at whatever depth. Where each mapping has each of its keys once and no list holds a
mapping (`Json.Orderly`), all but the mappings stays as it is (`Json.Alike.eq_or_obj`), and a
mapping has reordered values under the same keys (`Json.Alike.fields`).

Fields are compared by what is found under each key (`Fields.Related`). This is kept when values are
put under keys or taken away on both sides.
-/

namespace MacroScribe

namespace Fields

variable {α β : Type}

/-! ### Related fields -/

/-- Fields with related values under the same keys, each key once. -/
structure Related (R : α → β → Prop) (as : Fields α) (bs : Fields β) : Prop where
  nodup : as.keys.Nodup
  nodup' : bs.keys.Nodup
  get? : ∀ k, Option.Rel R (as.get? k) (bs.get? k)

theorem rel_refl {R : α → α → Prop} (hR : ∀ v, R v v) (x : Option α) : Option.Rel R x x := by
  cases x with
  | none => exact .none
  | some v => exact .some (hR v)

namespace Related

variable {R : α → β → Prop} {as : Fields α} {bs : Fields β}

/-- Fields in another order are related if each key stands once. -/
theorem of_perm {as bs : Fields α} (h : as.Perm bs) (has : as.keys.Nodup) :
    Related Eq as bs := by
  refine ⟨has, (h.map _).nodup_iff.mp has, fun k => ?_⟩
  rw [get?_eq_of_perm h has]
  exact rel_refl (fun _ => rfl) _

/-- Related fields have the same keys. -/
theorem mem_keys (h : Related R as bs) (k : String) : k ∈ as.keys ↔ k ∈ bs.keys := by
  have hisSome {x : Option α} {y : Option β} (h : Option.Rel R x y) : x.isSome = y.isSome := by
    cases h <;> rfl
  rw [← isSome_get?, ← isSome_get?, hisSome (h.get? k)]

theorem has_eq (h : Related R as bs) (k : String) : as.has k = bs.has k := by
  rw [Bool.eq_iff_iff, has_iff, has_iff, h.mem_keys]

/-- And these are the same keys as often. -/
theorem perm_keys (h : Related R as bs) : as.keys.Perm bs.keys :=
  (List.perm_ext_iff_of_nodup h.nodup h.nodup').mpr h.mem_keys

/-- Related values are put under a key. -/
theorem put (h : Related R as bs) (key : String) {v : α} {w : β} (hvalue : R v w) :
    Related R (as.put key v) (bs.put key w) := by
  refine ⟨nodup_keys_put h.nodup, nodup_keys_put h.nodup', fun k => ?_⟩
  rw [get?_put, get?_put]
  split
  · exact .some hvalue
  · exact h.get? k

/-- A filter on keys keeps the same fields. -/
theorem filter (h : Related R as bs) (keep : String → Bool) :
    Related R (as.filter fun f => keep f.1) (bs.filter fun f => keep f.1) := by
  refine ⟨nodup_keys_filter h.nodup _, nodup_keys_filter h.nodup' _, fun k => ?_⟩
  rw [get?_filter, get?_filter]
  split
  · exact h.get? k
  · exact .none

theorem erase (h : Related R as bs) (key : String) : Related R (as.erase key) (bs.erase key) :=
  h.filter (· != key)

theorem eraseAll (h : Related R as bs) (keys : List String) :
    Related R (as.eraseAll keys) (bs.eraseAll keys) :=
  h.filter (!keys.contains ·)

/-- Defaults are put in on both sides or on neither. -/
theorem putNew (h : Related R as bs) (key : String) {v : α} {w : β} (hvalue : R v w) :
    Related R (as.putNew key v) (bs.putNew key w) := by
  unfold Fields.putNew
  rw [h.has_eq]
  split
  · exact h
  · exact h.put key hvalue

theorem ite {p q : Prop} [Decidable p] [Decidable q] (hpq : p ↔ q) {as' : Fields α} {bs' : Fields β}
    (h : Related R as bs) (h' : Related R as' bs') :
    Related R (if p then as else as') (if q then bs else bs') := by
  by_cases hp : p
  · rwa [if_pos hp, if_pos (hpq.mp hp)]
  · rwa [if_neg hp, if_neg (mt hpq.mpr hp)]

/-- Related values under one key. -/
theorem of_mem (h : Related R as bs) {f : String × α} {g : String × β} (hf : f ∈ as) (hg : g ∈ bs)
    (hkey : f.1 = g.1) : R f.2 g.2 := by
  have hrel := h.get? f.1
  rw [get?_of_mem h.nodup hf, hkey, get?_of_mem h.nodup' hg] at hrel
  cases hrel with
  | some hvalue => exact hvalue

/-- Fields among related ones are related one by one if they have the same keys in the same
order. -/
theorem forall₂ (h : Related R as bs) {xs : Fields α} {ys : Fields β} (hkeys : xs.keys = ys.keys)
    (hxs : ∀ f ∈ xs, f ∈ as) (hys : ∀ g ∈ ys, g ∈ bs) :
    List.Forall₂ (fun f g => f.1 = g.1 ∧ R f.2 g.2) xs ys := by
  induction xs generalizing ys with
  | nil =>
    obtain rfl : ys = [] := List.map_eq_nil_iff.mp hkeys.symm
    exact .nil
  | cons f xs ih =>
    match ys with
    | [] => cases hkeys
    | g :: ys =>
      obtain ⟨hkey, hrest⟩ := List.cons.inj hkeys
      have hvalue := h.of_mem (hxs f List.mem_cons_self) (hys g List.mem_cons_self) hkey
      refine .cons ⟨hkey, hvalue⟩ (ih hrest ?_ ?_)
      · exact fun e he => hxs e (List.mem_cons_of_mem _ he)
      · exact fun e he => hys e (List.mem_cons_of_mem _ he)

end Related
end Fields

variable {ω : Type}

namespace Json

/-- Data with the fields of mappings in another order, at any depth. -/
inductive Reordered : Json ω → Json ω → Prop where
  | refl (v : Json ω) : Reordered v v
  | trans {u v w : Json ω} (h : Reordered u v) (h' : Reordered v w) : Reordered u w
  | order {as bs : Fields (Json ω)} (h : as.Perm bs) : Reordered (.obj as) (.obj bs)
  | field (pre post : Fields (Json ω)) (k : String) {v w : Json ω} (h : Reordered v w) :
      Reordered (.obj (pre ++ (k, v) :: post)) (.obj (pre ++ (k, w) :: post))
  | item (pre post : List (Json ω)) {v w : Json ω} (h : Reordered v w) :
      Reordered (.list (pre ++ v :: post)) (.list (pre ++ w :: post))

/-- The data are no mapping, nor lists that hold one. -/
inductive HoldsNoMapping : Json ω → Prop where
  | scalar {v : Json ω} (h : v.isScalar) : HoldsNoMapping v
  | list {items : List (Json ω)} (h : ∀ v ∈ items, HoldsNoMapping v) : HoldsNoMapping (.list items)

/-- In the data each mapping has each of its keys once, and no list holds a mapping. -/
inductive Orderly : Json ω → Prop where
  | scalar {v : Json ω} (h : v.isScalar) : Orderly v
  | list {items : List (Json ω)} (h : ∀ v ∈ items, HoldsNoMapping v) : Orderly (.list items)
  | obj {fields : Fields (Json ω)} (hkeys : fields.keys.Nodup) (h : ∀ f ∈ fields, Orderly f.2) :
      Orderly (.obj fields)

/-- Lists of data without mappings hold no mapping. -/
theorem HoldsNoMapping.item {items : List (Json ω)} (h : HoldsNoMapping (.list items)) :
    ∀ v ∈ items, HoldsNoMapping v := by
  cases h with
  | scalar h => cases h
  | list h => exact h

theorem HoldsNoMapping.ne_obj {v : Json ω} (h : HoldsNoMapping v) (fields : Fields (Json ω)) :
    v ≠ .obj fields := by
  rintro rfl
  cases h with
  | scalar h => cases h

/-- Orderly lists hold no mappings at all. -/
theorem Orderly.items {items : List (Json ω)} (h : Orderly (.list items)) :
    HoldsNoMapping (.list items) := by
  cases h with
  | scalar h => cases h
  | list h => exact .list h

theorem Orderly.nodup {fields : Fields (Json ω)} (h : Orderly (.obj fields)) :
    fields.keys.Nodup := by
  cases h with
  | scalar h => cases h
  | obj hkeys => exact hkeys

/-- Values of orderly mappings are orderly. -/
theorem Orderly.value {fields : Fields (Json ω)} (h : Orderly (.obj fields)) :
    ∀ f ∈ fields, Orderly f.2 := by
  cases h with
  | scalar h => cases h
  | obj _ h => exact h

/-! ### What a reordering keeps -/

/-- Where there is no mapping, there is nothing to reorder. -/
theorem Reordered.eq_of_holdsNoMapping {v w : Json ω} (h : Reordered v w) (hv : HoldsNoMapping v) :
    w = v := by
  induction h with
  | refl => rfl
  | trans _ _ ih ih' =>
    obtain rfl := ih hv
    exact ih' hv
  | order => exact absurd rfl (hv.ne_obj _)
  | field => exact absurd rfl (hv.ne_obj _)
  | item pre post _ ih => rw [ih (hv.item _ (by simp))]

theorem keys_replace (pre post : Fields (Json ω)) (k : String) (v w : Json ω) :
    Fields.keys (pre ++ (k, v) :: post) = Fields.keys (pre ++ (k, w) :: post) := by
  simp [Fields.keys]

/-- Orderly data stay so. -/
theorem Reordered.orderly {v w : Json ω} (h : Reordered v w) (hv : v.Orderly) : w.Orderly := by
  induction h with
  | refl => exact hv
  | trans _ _ ih ih' => exact ih' (ih hv)
  | order h =>
    exact .obj ((h.map _).nodup_iff.mp hv.nodup) fun f hf => hv.value f (h.mem_iff.mpr hf)
  | @field pre post k v w _ ih =>
    refine .obj (keys_replace pre post k v w ▸ hv.nodup) fun f hf => ?_
    have hvalue := ih (hv.value (k, v) (by simp))
    rcases List.mem_append.mp hf with hmem | hmem
    · exact hv.value f (List.mem_append_left _ hmem)
    · rcases List.mem_cons.mp hmem with rfl | hmem
      · exact hvalue
      · exact hv.value f (List.mem_append_right _ (List.mem_cons_of_mem _ hmem))
  | item pre post h _ =>
    rw [(Reordered.item pre post h).eq_of_holdsNoMapping hv.items]
    exact hv

/-- Two reorderings are one, also where a value may be absent. -/
theorem Reordered.rel_trans {x y z : Option (Json ω)} (h : Option.Rel Reordered x y)
    (h' : Option.Rel Reordered y z) : Option.Rel Reordered x z := by
  cases h with
  | none => exact h'
  | some h =>
    cases h' with
    | some h' => exact .some (h.trans h')

/-- A mapping stays a mapping, with reordered values under its keys. -/
theorem Reordered.get?_obj {as : Fields (Json ω)} {w : Json ω} (h : Reordered (.obj as) w)
    (has : Orderly (.obj as)) :
    ∃ bs : Fields (Json ω), w = .obj bs ∧ ∀ k, Option.Rel Reordered (as.get? k) (bs.get? k) := by
  -- The induction is on the reordering; between two of them there is a mapping again.
  generalize hv : Json.obj as = v at h
  induction h generalizing as with
  | refl =>
    exact ⟨as, hv.symm, fun k => Fields.rel_refl .refl _⟩
  | trans h _ ih ih' =>
    obtain ⟨bs, rfl, hbs⟩ := ih has hv
    obtain ⟨cs, rfl, hcs⟩ := ih' (h.orderly (hv ▸ has)) rfl
    exact ⟨cs, rfl, fun k => rel_trans (hbs k) (hcs k)⟩
  | order h =>
    obtain rfl := Json.obj.inj hv
    refine ⟨_, rfl, fun k => ?_⟩
    rw [Fields.get?_eq_of_perm h has.nodup]
    exact Fields.rel_refl .refl _
  | @field pre post k' v w h =>
    obtain rfl := Json.obj.inj hv
    refine ⟨_, rfl, fun k => ?_⟩
    rw [Fields.get?_append, Fields.get?_append, Fields.get?_cons, Fields.get?_cons]
    cases Fields.get? pre k with
    | some u => exact Fields.rel_refl .refl _
    | none =>
      rw [Option.none_or, Option.none_or]
      split
      · exact .some h
      · exact Fields.rel_refl .refl _
  | item => cases hv

/-! ### Alike data -/

/-- Orderly data and a reordering of them. -/
structure Alike (v w : Json ω) : Prop where
  orderly : v.Orderly
  reordered : v.Reordered w

namespace Alike

variable {v w : Json ω}

theorem refl (h : v.Orderly) : Alike v v :=
  ⟨h, .refl v⟩

/-- Data without parts is only like itself. -/
theorem scalar (h : v.isScalar) : Alike v v :=
  refl (.scalar h)

/-- Data that is reordered stays alike. -/
theorem rel {x y : Option (Json ω)} (hx : ∀ v, x = some v → v.Orderly)
    (h : Option.Rel Reordered x y) : Option.Rel Alike x y := by
  cases h with
  | none => exact .none
  | some h => exact .some ⟨hx _ rfl, h⟩

theorem fields {as bs : Fields (Json ω)} (h : Alike (.obj as) (.obj bs)) :
    Fields.Related Alike as bs := by
  obtain ⟨_, heq, hget⟩ := h.reordered.get?_obj h.orderly
  obtain rfl := Json.obj.inj heq
  refine ⟨h.orderly.nodup, (h.reordered.orderly h.orderly).nodup, fun k => rel ?_ (hget k)⟩
  exact fun v hv => h.orderly.value _ (Fields.mem_of_get? hv)

/-- What is no mapping is the same in a reordering. -/
theorem eq_or_obj (h : Alike v w) : w = v ∨ ∃ as bs, v = .obj as ∧ w = .obj bs := by
  cases h.orderly with
  | scalar hv => exact .inl (h.reordered.eq_of_holdsNoMapping (.scalar hv))
  | list hv => exact .inl (h.reordered.eq_of_holdsNoMapping (.list hv))
  | @obj as =>
    obtain ⟨bs, rfl, -⟩ := h.reordered.get?_obj h.orderly
    exact .inr ⟨as, bs, rfl, rfl⟩

/-- Only mappings can be alike without being equal. -/
theorem eq_of_ne_obj (h : Alike v w) (hv : ∀ as, v ≠ .obj as) : w = v := by
  obtain rfl | ⟨as, bs, rfl, rfl⟩ := h.eq_or_obj
  · rfl
  · exact absurd rfl (hv as)

theorem isNull (h : Alike v w) : w.isNull = v.isNull := by
  obtain rfl | ⟨as, bs, rfl, rfl⟩ := h.eq_or_obj <;> rfl

theorem str? (h : Alike v w) : w.str? = v.str? := by
  obtain rfl | ⟨as, bs, rfl, rfl⟩ := h.eq_or_obj <;> rfl

theorem eq_of_isScalar (h : Alike v w) (hv : v.isScalar) : w = v := by
  refine h.eq_of_ne_obj ?_
  rintro as rfl
  cases hv

/-- Alike mappings have alike values, absent ones being null. -/
theorem value {as bs : Fields (Json ω)} (h : Fields.Related Alike as bs) (k : String) :
    Alike (as.value k) (bs.value k) := by
  have hgetD {x y : Option (Json ω)} (h : Option.Rel Alike x y) :
      Alike (x.getD .null) (y.getD .null) := by
    cases h with
    | none => exact .scalar rfl
    | some h => exact h
  exact hgetD (h.get? k)

/-- Alike data is empty on both sides or on neither. -/
theorem truthy (h : Alike v w) : w.truthy = v.truthy := by
  obtain rfl | ⟨as, bs, rfl, rfl⟩ := h.eq_or_obj
  · rfl
  · have hlength : as.length = bs.length := by
      simpa [Fields.keys] using h.fields.perm_keys.length_eq
    rw [Json.truthy, Json.truthy, Bool.eq_iff_iff]
    simp [← List.length_eq_zero_iff, hlength]

end Alike
end Json
end MacroScribe
