import MacroScribe.Action.Render
import MacroScribe.Proofs.Plist.Shape

/-!
# MacroScribe.Proofs.Action.Rendering

Renderings taken apart. A rendering succeeds exactly when all its steps do, and each step begins
with the identifier that the one before it left. `Yields` says that a rendering succeeds and what
holds of its result, whatever identifiers it leaves.
-/

namespace MacroScribe.Rendering

open Plist

variable {α β : Type}

/-- A rendering in two steps succeeds if both do. -/
theorem run_bind_eq_ok {x : Rendering α} {f : α → Rendering β} {n m : Int} {b : β} :
    (x >>= f).run n = (.ok b, m) ↔ ∃ a k, x.run n = (.ok a, k) ∧ (f a).run k = (.ok b, m) :=
  Outcome.run_bind_eq_ok

theorem run_pure_eq_ok {a b : α} {n m : Int} :
    (pure a : Rendering α).run n = (.ok b, m) ↔ a = b ∧ n = m := by
  constructor
  · rintro ⟨⟩
    exact ⟨rfl, rfl⟩
  · rintro ⟨rfl, rfl⟩
    rfl

theorem run_nextUid_bind (f : Int → Rendering α) (n : Int) :
    (nextUid >>= f).run n = (f n).run (n + 1) := rfl

theorem run_write_eq_ok {entries : List Entry} {n m : Int} {text : String} :
    (write entries).run n = (.ok text, m) ↔
      Plist.write 0 (.dict entries) = .ok text ∧ n = m := by
  constructor
  · intro h
    exact ⟨congrArg Prod.fst h, congrArg Prod.snd h⟩
  · rintro ⟨h, rfl⟩
    exact congrArg (·, n) h

/-! ### Whether a rendering succeeds -/

/-- The rendering succeeds if the next identifier is `n`, and its result satisfies `P`. -/
def Yields (x : Rendering α) (n : Int) (P : α → Prop) : Prop :=
  ∃ a m, x.run n = (.ok a, m) ∧ P a

theorem yields_pure {a : α} {n : Int} {P : α → Prop} : Yields (pure a) n P ↔ P a := by
  constructor
  · rintro ⟨b, m, h, hb⟩
    obtain ⟨rfl, -⟩ := run_pure_eq_ok.mp h
    exact hb
  · exact fun h => ⟨a, n, rfl, h⟩

/-- Of two steps, the first has to succeed with a result for which the second does. -/
theorem yields_bind {x : Rendering α} {f : α → Rendering β} {n : Int} {P : β → Prop} {Q : α → Prop}
    (h : ∀ a k, (f a).Yields k P ↔ Q a) : (x >>= f).Yields n P ↔ x.Yields n Q := by
  constructor
  · rintro ⟨b, m, hrun, hb⟩
    obtain ⟨a, k, hx, hf⟩ := run_bind_eq_ok.mp hrun
    exact ⟨a, k, hx, (h a k).mp ⟨b, m, hf, hb⟩⟩
  · rintro ⟨a, k, hx, hq⟩
    obtain ⟨b, m, hf, hb⟩ := (h a k).mpr hq
    exact ⟨b, m, run_bind_eq_ok.mpr ⟨a, k, hx, hf⟩, hb⟩

theorem yields_nextUid_bind {f : Int → Rendering α} {n : Int} {P : α → Prop} :
    (nextUid >>= f).Yields n P ↔ (f n).Yields (n + 1) P :=
  Iff.rfl

/-- What does not depend on the result may be asked for beside it. -/
theorem yields_and {x : Rendering α} {n : Int} {p : Prop} {P : α → Prop} :
    (x.Yields n fun a => p ∧ P a) ↔ p ∧ x.Yields n P := by
  constructor
  · exact fun ⟨a, m, h, hp, ha⟩ => ⟨hp, a, m, h, ha⟩
  · exact fun ⟨hp, a, m, h, ha⟩ => ⟨a, m, h, hp, ha⟩

theorem yields_const {x : Rendering α} {n : Int} {p : Prop} :
    (x.Yields n fun _ => p) ↔ p ∧ x.Yields n fun _ => True := by
  rw [← yields_and]
  simp only [and_true]

/-- A dictionary is written if its leaves have a written form. -/
theorem yields_write {entries : List Entry} {n : Int} :
    ((write entries).Yields n fun _ => True) ↔ (dict entries).Writable := by
  rw [← lines_eq_ok_iff (d := 0)]
  constructor
  · rintro ⟨text, m, h, -⟩
    obtain ⟨ls, hls, -⟩ := Outcome.bind_eq_ok.mp (run_write_eq_ok.mp h).1
    exact ⟨ls, hls⟩
  · rintro ⟨ls, hls⟩
    exact ⟨_, n, run_write_eq_ok.mpr ⟨Outcome.bind_eq_ok.mpr ⟨ls, hls, rfl⟩, rfl⟩, trivial⟩

end MacroScribe.Rendering
