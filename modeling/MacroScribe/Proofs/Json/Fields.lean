import MacroScribe.Json.View

/-!
# MacroScribe.Proofs.Json.Fields

Fields by their keys. Putting a value under a key changes what is found under that key and nothing
else; in the fields of a list each key has the value that it has last (`get?_ofList`), and is there
once.
-/

namespace MacroScribe.Fields

variable {α : Type}

/-- Setting a key adds at most its own field. -/
theorem mem_put {key : String} {value : α} {fields : Fields α} {f : String × α}
    (h : f ∈ fields.put key value) : f = (key, value) ∨ f ∈ fields := by
  induction fields with
  | nil => exact Or.inl (List.mem_singleton.mp h)
  | cons e rest ih =>
    obtain ⟨k, v⟩ := e
    rw [put] at h
    split at h
    · rcases List.mem_cons.mp h with rfl | h
      · exact Or.inl rfl
      · exact Or.inr (List.mem_cons_of_mem _ h)
    · rcases List.mem_cons.mp h with rfl | h
      · exact Or.inr List.mem_cons_self
      · exact (ih h).imp_right (List.mem_cons_of_mem _)

theorem mem_foldl_put {pairs fields : List (String × α)} {f : String × α}
    (h : f ∈ pairs.foldl (fun fields e => put e.1 e.2 fields) fields) : f ∈ fields ∨ f ∈ pairs := by
  induction pairs generalizing fields with
  | nil => exact Or.inl h
  | cons e rest ih =>
    rcases ih h with h | h
    · rcases mem_put h with rfl | h
      · exact Or.inr List.mem_cons_self
      · exact Or.inl h
    · exact Or.inr (List.mem_cons_of_mem _ h)

/-- Reading a list of pairs as fields invents none. -/
theorem mem_ofList {pairs : List (String × α)} {f : String × α} (h : f ∈ ofList pairs) :
    f ∈ pairs :=
  (mem_foldl_put h).resolve_left List.not_mem_nil

/-! ### Values -/

@[simp] theorem get?_nil (k : String) : get? ([] : Fields α) k = none := rfl

/-- The first field under a key counts. -/
theorem get?_cons (k' k : String) (v : α) (rest : Fields α) :
    get? ((k', v) :: rest) k = if k' = k then some v else get? rest k := by
  by_cases h : k' = k
  · rw [if_pos h, get?, List.find?_cons_of_pos (by simpa using h), Option.map_some]
  · rw [if_neg h, get?, List.find?_cons_of_neg (by simpa using h), get?]

/-- A value is found under the key that it was put under, and any other key has what it had. -/
theorem get?_put (key k : String) (value : α) (fields : Fields α) :
    (put key value fields).get? k = if key = k then some value else fields.get? k := by
  induction fields with
  | nil => exact get?_cons key k value []
  | cons f rest ih =>
    obtain ⟨k', v⟩ := f
    by_cases hk : k' = key
    · subst hk
      rw [put, if_pos rfl, get?_cons, get?_cons]
      by_cases hkey : k' = k
      · rw [if_pos hkey, if_pos hkey]
      · rw [if_neg hkey, if_neg hkey, if_neg hkey]
    · rw [put, if_neg hk, get?_cons, ih, get?_cons]
      by_cases hkey : key = k
      · rw [if_pos hkey, if_pos hkey, if_neg fun h => hk (h.trans hkey.symm)]
      · rw [if_neg hkey, if_neg hkey]

/-- Setting a key leaves the values of all others. -/
theorem get?_put_of_ne {key k : String} (h : key ≠ k) (value : α) (fields : Fields α) :
    (put key value fields).get? k = fields.get? k := by
  rw [get?_put, if_neg h]

/-- Where fields are chosen by their keys, each key that is chosen has what it had. -/
theorem put_put (key : String) (value value' : α) (fields : Fields α) :
    (fields.put key value).put key value' = fields.put key value' := by
  induction fields with
  | nil => simp [put]
  | cons f rest ih =>
    by_cases h : f.1 = key
    · simp [put, h]
    · simp [put, h, ih]

/-- A filter on keys keeps or drops a value with its key. -/
theorem get?_filter (keep : String → Bool) (fields : Fields α) (k : String) :
    get? (fields.filter fun f => keep f.1) k = if keep k then fields.get? k else none := by
  induction fields with
  | nil => exact (ite_self none).symm
  | cons f rest ih =>
    obtain ⟨k', v⟩ := f
    rw [List.filter_cons, get?_cons]
    by_cases hk : k' = k
    · subst hk
      cases hkeep : keep k' with
      | true => rw [if_pos rfl, if_pos rfl, if_pos rfl, get?_cons, if_pos rfl]
      | false => rw [if_neg Bool.false_ne_true, ih, hkeep]; rfl
    · rw [if_neg hk]
      split
      · rw [get?_cons, if_neg hk, ih]
      · exact ih

/-- Taking a key away leaves the values of the others. -/
theorem get?_erase_of_ne {key k : String} (h : key ≠ k) (fields : Fields α) :
    (erase key fields).get? k = fields.get? k :=
  (get?_filter (· != key) fields k).trans (if_pos (by simpa using h.symm))

/-- Several keys are taken away, and the others have what they had. -/
theorem get?_eraseAll (names : List String) (fields : Fields α) (k : String) :
    (eraseAll names fields).get? k = if k ∈ names then none else fields.get? k := by
  rw [eraseAll, get?_filter (!names.contains ·)]
  by_cases h : k ∈ names <;> simp [h]

theorem get?_append (as bs : Fields α) (k : String) :
    get? (as ++ bs) k = (get? as k).or (get? bs k) := by
  rw [get?, List.find?_append, get?, get?]
  cases as.find? (·.1 == k) <;> rfl

/-- Of several values for one key, the last one is kept. -/
theorem get?_foldl_put (pairs fields : Fields α) (k : String) :
    (pairs.foldl (fun fields f => put f.1 f.2 fields) fields).get? k =
      (get? pairs.reverse k).or (fields.get? k) := by
  induction pairs generalizing fields with
  | nil => rfl
  | cons f rest ih =>
    rw [List.foldl_cons, ih, List.reverse_cons, get?_append, Option.or_assoc]
    refine congrArg ((get? rest.reverse k).or ·) ?_
    rw [get?_put, get?_cons, get?_nil]
    by_cases h : f.1 = k
    · rw [if_pos h, if_pos h, Option.some_or]
    · rw [if_neg h, if_neg h, Option.none_or]

/-- Of the values that a list has for a key, the last one counts. -/
theorem get?_ofList (pairs : Fields α) (k : String) :
    (ofList pairs).get? k = get? pairs.reverse k := by
  rw [ofList, get?_foldl_put, get?_nil, Option.or_none]

theorem mem_of_get? {fields : Fields α} {k : String} {v : α} (h : fields.get? k = some v) :
    (k, v) ∈ fields := by
  obtain ⟨f, hf, rfl⟩ := Option.map_eq_some_iff.mp h
  have hkey := List.find?_some hf
  obtain rfl : f.1 = k := by simpa using hkey
  exact List.mem_of_find?_eq_some hf

/-- Values that are changed each in its place. -/
theorem get?_map {β : Type} (g : String → α → β) (fields : Fields α) (k : String) :
    get? (fields.map fun f => (f.1, g f.1 f.2)) k = (fields.get? k).map (g k) := by
  induction fields with
  | nil => rfl
  | cons f rest ih =>
    rw [List.map_cons, get?_cons, ih, get?_cons]
    by_cases h : f.1 = k
    · rw [if_pos h, if_pos h, h, Option.map_some]
    · rw [if_neg h, if_neg h]

/-! ### Keys -/

theorem has_iff {fields : Fields α} {k : String} : fields.has k ↔ k ∈ fields.keys := by
  simp [has, keys]

theorem isSome_get? {fields : Fields α} {k : String} :
    (fields.get? k).isSome ↔ k ∈ fields.keys := by
  simp [get?, keys]

theorem mem_keys_put {key k : String} {value : α} {fields : Fields α} :
    k ∈ (put key value fields).keys ↔ k = key ∨ k ∈ fields.keys := by
  induction fields with
  | nil => simp [put, keys]
  | cons f rest ih =>
    obtain ⟨k', v⟩ := f
    by_cases hk : k' = key
    · subst hk
      simp [put, keys]
    · have hrest : k ∈ (put key value rest).map (·.1) ↔ k = key ∨ k ∈ rest.map (·.1) := ih
      rw [put, if_neg hk]
      simp only [keys, List.map_cons, List.mem_cons, hrest]
      exact or_left_comm

/-- Each way to change fields keeps their keys distinct. -/
theorem nodup_keys_put {key : String} {value : α} {fields : Fields α} (h : fields.keys.Nodup) :
    (put key value fields).keys.Nodup := by
  induction fields with
  | nil => exact List.nodup_cons.mpr ⟨List.not_mem_nil, List.nodup_nil⟩
  | cons f rest ih =>
    obtain ⟨k', v⟩ := f
    obtain ⟨hnew, hrest⟩ := List.nodup_cons.mp h
    by_cases hk : k' = key
    · subst hk
      rw [put, if_pos rfl]
      exact List.nodup_cons.mpr ⟨hnew, hrest⟩
    · rw [put, if_neg hk]
      refine List.nodup_cons.mpr ⟨fun hmem => ?_, ih hrest⟩
      rcases mem_keys_put.mp hmem with heq | hmem
      · exact hk heq
      · exact hnew hmem

theorem nodup_keys_filter {fields : Fields α} (h : fields.keys.Nodup) (p : String × α → Bool) :
    Fields.keys (fields.filter p) |>.Nodup :=
  h.sublist (List.filter_sublist.map _)

theorem nodup_keys_putNew {key : String} {value : α} {fields : Fields α} (h : fields.keys.Nodup) :
    (putNew key value fields).keys.Nodup := by
  unfold putNew
  split
  · exact h
  · exact nodup_keys_put h

theorem nodup_keys_erase {key : String} {fields : Fields α} (h : fields.keys.Nodup) :
    (erase key fields).keys.Nodup :=
  nodup_keys_filter h _

theorem nodup_keys_eraseAll {names : List String} {fields : Fields α} (h : fields.keys.Nodup) :
    (eraseAll names fields).keys.Nodup :=
  nodup_keys_filter h _

/-- Fields that are read have distinct keys, whatever list they come from. -/
theorem nodup_keys_ofList (pairs : Fields α) : (ofList pairs).keys.Nodup := by
  have hfold : ∀ fields : Fields α, fields.keys.Nodup →
      (pairs.foldl (fun fields f => put f.1 f.2 fields) fields).keys.Nodup := by
    induction pairs with
    | nil => exact fun fields h => h
    | cons f rest ih => exact fun fields h => ih _ (nodup_keys_put h)
  exact hfold [] List.nodup_nil

theorem get?_eq_none {fields : Fields α} {k : String} : fields.get? k = none ↔ k ∉ fields.keys := by
  rw [← isSome_get?, Option.not_isSome_iff_eq_none]

/-- Where each key is there once, every value is the one that is found under its key. -/
theorem get?_of_mem {fields : Fields α} (hnodup : fields.keys.Nodup) {f : String × α}
    (hf : f ∈ fields) : fields.get? f.1 = some f.2 := by
  induction fields with
  | nil => exact absurd hf List.not_mem_nil
  | cons e rest ih =>
    obtain ⟨k, v⟩ := e
    obtain ⟨hnew, hrest⟩ := List.nodup_cons.mp hnodup
    rw [get?_cons]
    rcases List.mem_cons.mp hf with rfl | hmem
    · exact if_pos rfl
    · have hne : k ≠ f.1 := by
        rintro rfl
        exact hnew (List.mem_map.mpr ⟨f, hmem, rfl⟩)
      rw [if_neg hne]
      exact ih hrest hmem

/-- Where each key is there once, what is found under a key does not depend on the order. -/
theorem get?_eq_of_perm {as bs : Fields α} (h : as.Perm bs) (has : as.keys.Nodup) (k : String) :
    as.get? k = bs.get? k := by
  have hbs : bs.keys.Nodup := (h.map _).nodup_iff.mp has
  ext v
  constructor
  · exact fun hv => get?_of_mem hbs (h.mem_iff.mp (mem_of_get? hv))
  · exact fun hv => get?_of_mem has (h.mem_iff.mpr (mem_of_get? hv))

/-- Where each key is there once, fields may be chosen by their values as well. -/
theorem get?_filter_of_nodup {fields : Fields α} (h : fields.keys.Nodup) (p : String × α → Bool)
    (k : String) : get? (fields.filter p) k = (fields.get? k).filter fun v => p (k, v) := by
  have hnodup : (Fields.keys (fields.filter p)).Nodup := nodup_keys_filter h p
  ext v
  rw [Option.filter_eq_some_iff]
  constructor
  · intro hv
    obtain ⟨hmem, hp⟩ := List.mem_filter.mp (mem_of_get? hv)
    exact ⟨get?_of_mem h hmem, hp⟩
  · rintro ⟨hv, hp⟩
    exact get?_of_mem hnodup (List.mem_filter.mpr ⟨mem_of_get? hv, hp⟩)

/-! ### Changes that change nothing -/

/-- Setting a key to the value that it has changes nothing. -/
theorem put_of_get? {key : String} {value : α} {fields : Fields α}
    (h : fields.get? key = some value) : put key value fields = fields := by
  induction fields with
  | nil => cases h
  | cons f rest ih =>
    obtain ⟨k, v⟩ := f
    rw [get?_cons] at h
    by_cases hk : k = key
    · subst hk
      rw [if_pos rfl] at h
      rw [put, if_pos rfl, Option.some.inj h]
    · rw [if_neg hk] at h
      rw [put, if_neg hk, ih h]

/-- Nor does dropping keys that are not there. -/
theorem eraseAll_of_get? {names : List String} {fields : Fields α}
    (h : ∀ k ∈ names, fields.get? k = none) : eraseAll names fields = fields := by
  refine List.filter_eq_self.mpr fun f hf => ?_
  have hkey : f.1 ∉ names := fun hmem =>
    get?_eq_none.mp (h f.1 hmem) (List.mem_map.mpr ⟨f, hf, rfl⟩)
  simpa using hkey

theorem erase_eq_eraseAll (key : String) (fields : Fields α) :
    erase key fields = eraseAll [key] fields :=
  List.filter_congr fun f _ => by simp [bne, Bool.beq_eq_decide_eq]

theorem erase_of_get? {key : String} {fields : Fields α} (h : fields.get? key = none) :
    erase key fields = fields := by
  rw [erase_eq_eraseAll]
  exact eraseAll_of_get? (List.forall_mem_singleton.mpr h)

/-- Keys that are taken away after others. -/
theorem eraseAll_eraseAll (names names' : List String) (fields : Fields α) :
    eraseAll names' (eraseAll names fields) = eraseAll (names ++ names') fields := by
  simp only [eraseAll, List.filter_filter]
  exact List.filter_congr fun f _ => by simp [Bool.and_comm]

/-- Nor does a default for a key that is there. -/
theorem putNew_of_mem {key : String} (value : α) {fields : Fields α} (h : key ∈ fields.keys) :
    putNew key value fields = fields :=
  if_pos (has_iff.mpr h)

/-- A value is put under a key where nothing else is found. -/
theorem get?_putNew (key k : String) (value : α) (fields : Fields α) :
    (putNew key value fields).get? k = (fields.get? k).or (get? [(key, value)] k) := by
  rw [get?_cons, get?_nil]
  by_cases hmem : key ∈ fields.keys
  · rw [putNew_of_mem value hmem]
    split
    · next hk =>
      obtain ⟨v, hv⟩ := Option.isSome_iff_exists.mp (isSome_get?.mpr hmem)
      rw [← hk, hv, Option.some_or]
    · rw [Option.or_none]
  · rw [putNew, if_neg (mt has_iff.mp hmem), get?_put]
    split
    · next hk => rw [← hk, get?_eq_none.mpr hmem, Option.none_or]
    · rw [Option.or_none]

/-- Values that are put under their keys as far as these have none. -/
def putAllNew (defaults fields : Fields α) : Fields α :=
  defaults.foldl (fun fields f => putNew f.1 f.2 fields) fields

/-- A default counts where there is no value. -/
theorem get?_putAllNew (defaults fields : Fields α) (k : String) :
    (putAllNew defaults fields).get? k = (fields.get? k).or (defaults.get? k) := by
  rw [putAllNew]
  induction defaults generalizing fields with
  | nil => exact (Option.or_none).symm
  | cons f rest ih =>
    have hcons : get? (f :: rest) k = (get? [f] k).or (get? rest k) := get?_append [f] rest k
    rw [List.foldl_cons, ih, get?_putNew, Option.or_assoc, hcons]

/-- Defaults change nothing if all their keys are there. -/
theorem putAllNew_of_mem {defaults fields : Fields α} (h : ∀ k ∈ defaults.keys, k ∈ fields.keys) :
    putAllNew defaults fields = fields := by
  rw [putAllNew]
  induction defaults with
  | nil => rfl
  | cons f rest ih =>
    obtain ⟨hf, hrest⟩ := List.forall_mem_cons.mp h
    rw [List.foldl_cons, putNew_of_mem f.2 hf, ih hrest]

/-- Defaults add their own keys only. -/
theorem mem_keys_putAllNew {defaults fields : Fields α} {k : String} :
    k ∈ (putAllNew defaults fields).keys ↔ k ∈ fields.keys ∨ k ∈ defaults.keys := by
  simp only [← isSome_get?, get?_putAllNew, Option.isSome_or, Bool.or_eq_true]

theorem nodup_keys_putAllNew {defaults fields : Fields α} (h : fields.keys.Nodup) :
    (putAllNew defaults fields).keys.Nodup := by
  rw [putAllNew]
  induction defaults generalizing fields with
  | nil => exact h
  | cons f rest ih => exact ih (nodup_keys_putNew h)

/-! ### Values that may be null -/

section Value

variable {ω : Type} (key k : String) (v : Json ω) (fields : Fields (Json ω))

theorem value_put : (put key v fields).value k = if key = k then v else fields.value k := by
  rw [value, get?_put]
  split <;> rfl

/-- Dropped keys read as null. -/
theorem value_eraseAll (names : List String) :
    (eraseAll names fields).value k = if k ∈ names then .null else fields.value k := by
  rw [value, get?_eraseAll]
  split <;> rfl

theorem value_erase : (erase key fields).value k = if k = key then .null else fields.value k := by
  simp only [erase_eq_eraseAll, value_eraseAll, List.mem_singleton]

/-- The fields hold the same values, where it does not matter whether a key is missing or null. -/
def SameValues (as bs : Fields (Json ω)) : Prop :=
  ∀ k, bs.value k = as.value k

namespace SameValues

variable {as bs as' bs' : Fields (Json ω)}

theorem put (h : SameValues as bs) (key : String) (v : Json ω) :
    SameValues (as.put key v) (bs.put key v) := by
  intro k
  rw [value_put, value_put, h k]

theorem eraseAll (h : SameValues as bs) (names : List String) :
    SameValues (as.eraseAll names) (bs.eraseAll names) := by
  intro k
  rw [value_eraseAll, value_eraseAll, h k]

theorem erase (h : SameValues as bs) (key : String) :
    SameValues (as.erase key) (bs.erase key) := by
  rw [erase_eq_eraseAll, erase_eq_eraseAll]
  exact h.eraseAll [key]

theorem ite {p q : Prop} [Decidable p] [Decidable q] (hpq : p ↔ q) (h : SameValues as bs)
    (h' : SameValues as' bs') : SameValues (if p then as else as') (if q then bs else bs') := by
  by_cases hp : p
  · rwa [if_pos hp, if_pos (hpq.mp hp)]
  · rwa [if_neg hp, if_neg (mt hpq.mpr hp)]

end SameValues

end Value

/-! ### Changes that concern some keys only -/

/-- The fields are the same but for what is found under some keys. -/
def SameBut (keys : List String) (as bs : Fields α) : Prop :=
  ∀ k ∉ keys, bs.get? k = as.get? k

namespace SameBut

variable {keys names : List String} {as bs cs : Fields α} {key : String}

theorem refl (keys : List String) (fields : Fields α) : SameBut keys fields fields :=
  fun _ _ => rfl

theorem trans (h : SameBut keys as bs) (h' : SameBut keys bs cs) : SameBut keys as cs :=
  fun k hk => (h' k hk).trans (h k hk)

theorem mono {keys' : List String} (h : SameBut keys as bs) (hkeys : keys ⊆ keys') :
    SameBut keys' as bs :=
  fun k hk => h k fun hmem => hk (hkeys hmem)

theorem ne_of_not_mem {k : String} (hkey : key ∈ keys) (hk : k ∉ keys) : key ≠ k := by
  rintro rfl
  exact hk hkey

theorem put (hkey : key ∈ keys) (value : α) (fields : Fields α) :
    SameBut keys fields (fields.put key value) :=
  fun _ hk => get?_put_of_ne (ne_of_not_mem hkey hk) value fields

theorem putAllNew {defaults : Fields α} (hkeys : defaults.keys ⊆ keys) (fields : Fields α) :
    SameBut keys fields (Fields.putAllNew defaults fields) := by
  intro k hk
  have hnone : defaults.get? k = none := get?_eq_none.mpr fun hmem => hk (hkeys hmem)
  rw [get?_putAllNew, hnone, Option.or_none]

theorem eraseAll (hnames : names ⊆ keys) (fields : Fields α) :
    SameBut keys fields (fields.eraseAll names) :=
  fun k hk => by rw [get?_eraseAll, if_neg fun hmem => hk (hnames hmem)]

theorem erase (hkey : key ∈ keys) (fields : Fields α) : SameBut keys fields (fields.erase key) := by
  rw [erase_eq_eraseAll]
  exact eraseAll (List.forall_mem_singleton.mpr hkey) fields

theorem ite {p : Prop} [Decidable p] (h : SameBut keys as bs) (h' : SameBut keys as cs) :
    SameBut keys as (if p then bs else cs) := by
  split
  · exact h
  · exact h'

theorem value_eq {ω : Type} {as bs : Fields (Json ω)} (h : SameBut keys as bs) {k : String}
    (hk : k ∉ keys) : bs.value k = as.value k := by
  rw [value, h k hk, value]

end SameBut

end MacroScribe.Fields
