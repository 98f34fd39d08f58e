import Mathlib.Data.List.Forall2
import MacroScribe.Fault

/-!
# MacroScribe.Proofs.Outcome

Computations that may fail, taken apart: one that is made of two steps succeeds exactly when both
do. `Ensures` says of a computation that its result, if there is one, satisfies something, and is
shown step by step.
-/

namespace MacroScribe.Outcome

variable {ε α β γ : Type}

/-- Two steps succeed if each of them does. -/
theorem bind_eq_ok {x : Except ε α} {f : α → Except ε β} {b : β} :
    (x >>= f) = .ok b ↔ ∃ a, x = .ok a ∧ f a = .ok b := by
  cases x with
  | error e =>
    constructor
    · intro h
      exact absurd h (by rintro ⟨⟩)
    · rintro ⟨a, ⟨⟩, -⟩
  | ok a =>
    constructor
    · exact fun h => ⟨a, rfl, h⟩
    · rintro ⟨_, ⟨⟩, h⟩
      exact h

/-- Two independent steps succeed if both do. -/
theorem map₂_eq_ok {x : Except ε α} {y : Except ε β} {f : α → β → γ} {c : γ} :
    (do let a ← x; let b ← y; return f a b) = .ok c ↔ ∃ a b, x = .ok a ∧ y = .ok b ∧ f a b = c := by
  rw [bind_eq_ok]
  refine exists_congr fun a => ?_
  rw [bind_eq_ok, exists_and_left]
  refine and_congr_right fun _ => exists_congr fun b => and_congr_right fun _ => ?_
  exact ⟨Except.ok.inj, congrArg Except.ok⟩

theorem map_eq_ok {x : Except ε α} {f : α → β} {b : β} :
    x.map f = .ok b ↔ ∃ a, x = .ok a ∧ f a = b := by
  cases x <;> simp [Except.map]

/-- Telling a failure differently makes no success of it. -/
theorem mapError_eq_ok {ε' : Type} {x : Except ε α} {f : ε → ε'} {a : α} :
    x.mapError f = .ok a ↔ x = .ok a := by
  cases x <;> simp [Except.mapError]

/-- A computation in two steps fails in the first one, or in the second one with the result of the
first. -/
theorem bind_eq_error {x : Except ε α} {f : α → Except ε β} {e : ε} :
    (x >>= f) = .error e ↔ x = .error e ∨ ∃ a, x = .ok a ∧ f a = .error e := by
  cases x with
  | error e' =>
    constructor
    · intro h
      obtain rfl := Except.error.inj h
      exact .inl rfl
    · rintro (h | ⟨a, ⟨⟩, -⟩)
      exact congrArg Except.error (Except.error.inj h)
  | ok a =>
    constructor
    · exact fun h => .inr ⟨a, rfl, h⟩
    · rintro (h | ⟨a', ha, h⟩)
      · exact absurd h (by rintro ⟨⟩)
      · obtain rfl := Except.ok.inj ha
        exact h

theorem map_eq_error {x : Except ε α} {f : α → β} {e : ε} :
    f <$> x = .error e ↔ x = .error e := by
  cases x <;> simp [Functor.map, Except.map]

/-- Every failure that is told differently was one. -/
theorem mapError_eq_error {ε' : Type} {x : Except ε α} {f : ε → ε'} {e' : ε'} :
    x.mapError f = .error e' ↔ ∃ e, x = .error e ∧ f e = e' := by
  cases x <;> simp [Except.mapError]

theorem isOk_eq_false_iff {x : Except ε α} : x.isOk = false ↔ ∃ e, x = .error e := by
  cases x with
  | error e => exact iff_of_true rfl ⟨e, rfl⟩
  | ok a => exact iff_of_false (by simp [Except.isOk, Except.toBool]) (by simp)

/-- A list of computations succeeds if each of them does. -/
theorem mapM_eq_ok {f : α → Except ε β} {as : List α} {bs : List β} :
    as.mapM f = .ok bs ↔ List.Forall₂ (fun a b => f a = .ok b) as bs := by
  induction as generalizing bs with
  | nil =>
    rw [List.mapM_nil, List.forall₂_nil_left_iff]
    exact ⟨fun h => (Except.ok.inj h).symm, fun h => congrArg Except.ok h.symm⟩
  | cons a as ih =>
    rw [List.mapM_cons, List.forall₂_cons_left_iff]
    constructor
    · intro h
      obtain ⟨b, bs, hb, hbs, rfl⟩ := map₂_eq_ok.mp h
      exact ⟨b, bs, hb, ih.mp hbs, rfl⟩
    · rintro ⟨b, bs, hb, hbs, rfl⟩
      exact map₂_eq_ok.mpr ⟨b, bs, hb, ih.mpr hbs, rfl⟩

/-- Each computation of a list that succeeds does. -/
theorem exists_of_mapM_eq_ok {f : α → Except ε β} {as : List α} {bs : List β}
    (h : as.mapM f = .ok bs) : ∀ a ∈ as, ∃ b, f a = .ok b := by
  have hall := mapM_eq_ok.mp h
  induction hall with
  | nil => exact List.forall_mem_nil _
  | @cons a b as bs hab hrest ih =>
    exact List.forall_mem_cons.mpr ⟨⟨b, hab⟩, ih (mapM_eq_ok.mpr hrest)⟩

/-- Computations that succeed one by one succeed as a list. -/
theorem exists_mapM_eq_ok {f : α → Except ε β} {R : α → β → Prop} {as : List α}
    (h : ∀ a ∈ as, ∃ b, f a = .ok b ∧ R a b) : ∃ bs, as.mapM f = .ok bs ∧ List.Forall₂ R as bs := by
  induction as with
  | nil => exact ⟨[], rfl, .nil⟩
  | cons a as ih =>
    obtain ⟨⟨b, hb, hr⟩, hrest⟩ := List.forall_mem_cons.mp h
    obtain ⟨bs, hbs, hrs⟩ := ih hrest
    refine ⟨b :: bs, ?_, .cons hr hrs⟩
    rw [List.mapM_cons]
    exact map₂_eq_ok.mpr ⟨b, bs, hb, hbs, rfl⟩

/-- A list of computations fails with the first of them that fails. -/
theorem mapM_eq_error {f : α → Except ε β} {as : List α} {e : ε} :
    as.mapM f = .error e ↔
      ∃ pre a post, as = pre ++ a :: post ∧ (∀ x ∈ pre, ∃ b, f x = .ok b) ∧ f a = .error e := by
  induction as with
  | nil => simp [pure, Except.pure]
  | cons a as ih =>
    rw [List.mapM_cons, bind_eq_error]
    constructor
    · rintro (ha | ⟨b, hb, h⟩)
      · exact ⟨[], a, as, rfl, List.forall_mem_nil _, ha⟩
      · rcases bind_eq_error.mp h with has | ⟨bs, -, ⟨⟩⟩
        obtain ⟨pre, x, post, rfl, hpre, hx⟩ := ih.mp has
        exact ⟨a :: pre, x, post, rfl, List.forall_mem_cons.mpr ⟨⟨b, hb⟩, hpre⟩, hx⟩
    · rintro ⟨_ | ⟨y, pre⟩, x, post, heq, hpre, hx⟩
      · obtain ⟨rfl, rfl⟩ := List.cons.inj heq
        exact .inl hx
      · obtain ⟨rfl, rfl⟩ := List.cons.inj heq
        obtain ⟨⟨b, hb⟩, hpre⟩ := List.forall_mem_cons.mp hpre
        exact .inr ⟨b, hb, bind_eq_error.mpr (.inl (ih.mpr ⟨pre, x, post, rfl, hpre, hx⟩))⟩

/-- If the computation succeeds, its result satisfies `P`. -/
def Ensures (x : Except ε α) (P : α → Prop) : Prop :=
  ∀ a, x = .ok a → P a

theorem ensures_ok {P : α → Prop} {a : α} (h : P a) : Ensures (.ok a : Except ε α) P := by
  rintro _ ⟨⟩
  exact h

theorem ensures_error {P : α → Prop} (e : ε) : Ensures (.error e : Except ε α) P := by
  rintro _ ⟨⟩

theorem ensures_pure {P : α → Prop} {a : α} (h : P a) : Ensures (pure a : Except ε α) P :=
  ensures_ok h

theorem ensures_misused {P : α → Prop} (m : Misuse) : Ensures (misused m : Outcome α) P :=
  ensures_error _

/-- What is known about the result of the first step may be used in the second. -/
theorem ensures_bind {x : Except ε α} {f : α → Except ε β} {P : β → Prop}
    (h : ∀ a, x = .ok a → Ensures (f a) P) : Ensures (x >>= f) P := by
  intro b hb
  obtain ⟨a, ha, hb⟩ := bind_eq_ok.mp hb
  exact h a ha b hb

/-- What is ensured of a result, through a function. -/
theorem ensures_map {x : Except ε α} {f : α → β} {P : β → Prop} (h : Ensures x fun a => P (f a)) :
    Ensures (f <$> x) P := by
  intro b hb
  obtain ⟨a, ha, rfl⟩ := map_eq_ok.mp hb
  exact h a ha

/-- What is ensured of results does not depend on how failures are told. -/
theorem ensures_mapError {ε' : Type} {x : Except ε α} {f : ε → ε'} {P : α → Prop}
    (h : Ensures x P) : Ensures (x.mapError f) P :=
  fun a ha => h a (mapError_eq_ok.mp ha)

/-- What each step ensures holds of all results. -/
theorem ensures_mapM {f : α → Except ε β} {P : β → Prop} {as : List α}
    (h : ∀ a ∈ as, Ensures (f a) P) : Ensures (as.mapM f) fun bs => ∀ b ∈ bs, P b := by
  induction as with
  | nil => exact ensures_ok fun b hb => absurd hb List.not_mem_nil
  | cons a as ih =>
    rw [List.mapM_cons]
    refine ensures_bind fun b hb => ensures_bind fun bs hbs => ensures_ok fun c hc => ?_
    rcases List.mem_cons.mp hc with rfl | hc
    · exact h a (by simp) c hb
    · exact ih (fun a ha => h a (by simp [ha])) bs hbs c hc

/-! ### Failures that refuse a value -/

/-- The computation succeeds. -/
def Passes (x : Except ε α) : Prop :=
  ∃ a, x = .ok a

/-- If the computation fails, the failure says that some value is unacceptable. -/
def Checked (x : Outcome α) : Prop :=
  ∀ f, x = .error f → f.kind.isValue

theorem checked_ok (a : α) : Checked (.ok a) := by
  rintro f ⟨⟩

theorem checked_pure (a : α) : Checked (pure a) :=
  checked_ok a

/-- A failure is a refusal if it is one of a value. -/
theorem checked_error {f : Fault} : Checked (.error f : Outcome α) ↔ f.kind.isValue := by
  constructor
  · exact fun h => h f rfl
  · rintro h _ ⟨⟩
    exact h

@[simp] theorem checked_misused {m : Misuse} :
    Checked (misused m : Outcome α) ↔ m.kind.isValue :=
  checked_error

/-- Both steps refuse values only, the second one for whatever the first one yields. -/
theorem checked_bind {x : Outcome α} {g : α → Outcome β} :
    Checked (x >>= g) ↔ Checked x ∧ ∀ a, x = .ok a → Checked (g a) := by
  constructor
  · intro h
    refine ⟨fun f hf => h f (bind_eq_error.mpr (.inl hf)), fun a ha f hf => ?_⟩
    exact h f (bind_eq_error.mpr (.inr ⟨a, ha, hf⟩))
  · rintro ⟨hx, hg⟩ f hf
    rcases bind_eq_error.mp hf with hf | ⟨a, ha, hf⟩
    · exact hx f hf
    · exact hg a ha f hf

/-- Of two steps, where the second has the same condition whatever the first results in. -/
theorem checked_then {x : Outcome α} {g : α → Outcome β} {Q : Prop}
    (hg : ∀ a, x = .ok a → (Checked (g a) ↔ Q)) :
    Checked (x >>= g) ↔ Checked x ∧ (Passes x → Q) := by
  rw [checked_bind]
  refine and_congr_right fun _ => ⟨?_, ?_⟩
  · rintro h ⟨a, ha⟩
    exact (hg a ha).mp (h a ha)
  · intro h a ha
    exact (hg a ha).mpr (h ⟨a, ha⟩)

/-- Of two steps, where the first one refuses nothing. -/
theorem checked_and {x : Outcome α} {g : α → Outcome β} {P Q : Prop} (hx : Checked x ↔ P)
    (hpasses : P → Passes x) (hg : ∀ a, x = .ok a → (Checked (g a) ↔ Q)) :
    Checked (x >>= g) ↔ P ∧ Q := by
  rw [checked_then hg, hx]
  refine and_congr_right fun hP => ?_
  exact forall_prop_of_true (hpasses hP)

/-- Of two steps, where what is asked for matters only if another computation succeeds that has the
same first step. -/
theorem checked_bind_of_passes {x : Outcome α} {g : α → Outcome β} {g' : α → Outcome γ} {Q : Prop}
    (hx : Checked x) (h : ∀ a, x = .ok a → (Checked (g a) ↔ (Passes (g' a) → Q))) :
    Checked (x >>= g) ↔ (Passes (x >>= g') → Q) := by
  cases x with
  | error f =>
    refine iff_of_true (checked_error.mpr (hx f rfl)) ?_
    rintro ⟨_, ⟨⟩⟩
  | ok a => exact h a rfl

theorem checked_map {x : Outcome α} {g : α → β} : Checked (g <$> x) ↔ Checked x := by
  constructor
  · exact fun h f hf => h f (map_eq_error.mpr hf)
  · exact fun h f hf => h f (map_eq_error.mp hf)

/-- Whatever is wrong, it is reported in a form that refuses a value. -/
theorem checked_mapError {x : Outcome α} {wrap : Fault → Fault}
    (h : ∀ f, (wrap f).kind.isValue) : Checked (x.mapError wrap) := by
  intro f hf
  obtain ⟨cause, -, rfl⟩ := mapError_eq_error.mp hf
  exact h cause

/-- If the computation fails, the failure is of this kind. -/
def FailsAs (kind : Kind) (x : Outcome α) : Prop :=
  ∀ f, x = .error f → f.kind = kind

variable {kind : Kind}

theorem failsAs_ok (a : α) : FailsAs kind (.ok a) := by
  rintro f ⟨⟩

theorem failsAs_error {f : Fault} : FailsAs kind (.error f : Outcome α) ↔ f.kind = kind := by
  constructor
  · exact fun h => h f rfl
  · rintro h _ ⟨⟩
    exact h

@[simp] theorem failsAs_misused {m : Misuse} :
    FailsAs kind (misused m : Outcome α) ↔ m.kind = kind :=
  failsAs_error

/-- A second step that does not fail does not matter. -/
theorem failsAs_map {x : Outcome α} {g : α → β} :
    FailsAs kind (do return g (← x)) ↔ FailsAs kind x := by
  cases x with
  | ok a => exact iff_of_true (failsAs_ok _) (failsAs_ok a)
  | error f => exact failsAs_error.trans failsAs_error.symm

/-- Each item of the list satisfies `P` that the computations reach: those before it succeed. -/
def EachReached (f : α → Except ε β) (P : α → Prop) (as : List α) : Prop :=
  ∀ pre a post, as = pre ++ a :: post → (∀ x ∈ pre, Passes (f x)) → P a

theorem EachReached.congr {f : α → Except ε β} {P Q : α → Prop} (h : ∀ a, P a ↔ Q a) (as : List α) :
    EachReached f P as ↔ EachReached f Q as := by
  constructor
  · intro hP pre a post has hpre
    exact (h a).mp (hP pre a post has hpre)
  · intro hQ pre a post has hpre
    exact (h a).mpr (hQ pre a post has hpre)

/-- What holds of all items holds of those that are reached. -/
theorem eachReached_of_forall {f : α → Except ε β} {P : α → Prop} (h : ∀ a, P a) (as : List α) :
    EachReached f P as :=
  fun _ a _ _ _ => h a

/-- A list is refused item by item: later items matter only if all earlier ones are accepted. -/
theorem checked_mapM {f : α → Outcome β} {as : List α} :
    Checked (as.mapM f) ↔ EachReached f (fun a => Checked (f a)) as := by
  constructor
  · intro h pre a post has hpre e he
    exact h e (mapM_eq_error.mpr ⟨pre, a, post, has, hpre, he⟩)
  · intro h e he
    obtain ⟨pre, a, post, has, hpre, he⟩ := mapM_eq_error.mp he
    exact h pre a post has hpre e he

/-! ### Computations over a state -/

section State

variable {σ : Type} {x : ExceptT ε (StateM σ) α} {f : α → ExceptT ε (StateM σ) β}

/-- The second step begins in the state that the first one left. -/
theorem run_bind_of_ok {s t : σ} {a : α} (h : x.run s = (.ok a, t)) :
    (x >>= f).run s = (f a).run t := by
  change ExceptT.bindCont f (x.run s).1 (x.run s).2 = _
  rw [h]
  rfl

/-- The second step is not reached if the first one fails. -/
theorem run_bind_of_error {s t : σ} {e : ε} (h : x.run s = (.error e, t)) :
    (x >>= f).run s = (.error e, t) := by
  change ExceptT.bindCont f (x.run s).1 (x.run s).2 = _
  rw [h]
  rfl

/-- Two steps that succeed meet in a state between. -/
theorem run_bind_eq_ok {s u : σ} {b : β} :
    (x >>= f).run s = (.ok b, u) ↔ ∃ a t, x.run s = (.ok a, t) ∧ (f a).run t = (.ok b, u) := by
  rcases hx : x.run s with ⟨e | a, t⟩
  · rw [run_bind_of_error hx]
    constructor
    · rintro ⟨⟩
    · rintro ⟨a, t, ⟨⟩, -⟩
  · rw [run_bind_of_ok hx]
    constructor
    · exact fun h => ⟨a, t, rfl, h⟩
    · rintro ⟨a, t, ⟨⟩, h⟩
      exact h

/-- A run that succeeds has a result and a state. -/
theorem exists_run_eq_ok {s : σ} (h : (x.run s).1.isOk) : ∃ a t, x.run s = (.ok a, t) := by
  rcases hx : x.run s with ⟨e | a, t⟩
  · rw [hx] at h
    cases h
  · exact ⟨a, t, rfl⟩

/-- What can be computed of a run that succeeds. -/
theorem exists_run_of_mem {s : σ} {P : α → σ → Prop}
    (h : ∃ a ∈ (x.run s).1.toOption, P a (x.run s).2) : ∃ a t, x.run s = (.ok a, t) ∧ P a t := by
  rcases hx : x.run s with ⟨e | a, t⟩
  · rw [hx] at h
    obtain ⟨_, hmem, -⟩ := h
    cases hmem
  · rw [hx] at h
    obtain ⟨_, hmem, ha⟩ := h
    obtain rfl := Option.some.inj hmem
    exact ⟨_, t, rfl, ha⟩

end State

end MacroScribe.Outcome
