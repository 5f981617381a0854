import Mathlib.Data.Nat.Notation
import Mathlib.Tactic.Lemma
import Cutscene.Scene.Basic

set_option relaxedAutoImplicit false
set_option autoImplicit false

/-!
# Where a scene completes

The steps of a scene complete at their end and nowhere before, so whether a step completes the
scene can be read off its index.

## Main results

* `Cutscene.Scene.isComplete_iff` — a step completes its scene exactly if it is the last one.
* `Cutscene.Scene.succ_lt_length` — a step that does not complete its scene has one behind it.
-/

namespace Cutscene

/-- An item of a list with one item added is in the list, or is the one added. -/
lemma getElem?_concat_cases {α : Type} {l : List α} {a b : α} {i : ℕ}
    (h : (l ++ [a])[i]? = some b) : (i < l.length ∧ b ∈ l) ∨ (i = l.length ∧ b = a) := by
  rcases Nat.lt_or_ge i l.length with hi | hi
  · rw [List.getElem?_append_left hi] at h
    exact Or.inl ⟨hi, List.mem_of_getElem? h⟩
  · rw [List.getElem?_append_right hi, List.getElem?_singleton] at h
    split at h
    next h0 =>
      cases h
      exact Or.inr ⟨by omega, rfl⟩
    next => cases h

namespace Scene

variable {scene : Scene} {c : ℕ} {step : Step}

/-- A scene has a step. -/
lemma length_pos (scene : Scene) : 0 < scene.steps.length := by
  obtain ⟨body, last, hsteps, -, -⟩ := scene.closed
  simp [hsteps]

/-- A step completes its scene exactly if it is the last one.

**Proof sketch.** The steps are `body ++ [last]`, no step of `body` completes, and `last` does: the
step at `c` is in `body` if `c` lies below its length, and `last` otherwise. -/
theorem isComplete_iff (h : scene.steps[c]? = some step) :
    step.isComplete = true ↔ c + 1 = scene.steps.length := by
  obtain ⟨body, last, hsteps, hlast, hbody⟩ := scene.closed
  rw [hsteps] at h
  rw [hsteps, List.length_append, List.length_singleton]
  rcases getElem?_concat_cases h with ⟨hc, hmem⟩ | ⟨rfl, rfl⟩
  · simp only [hbody step hmem, Bool.false_eq_true, false_iff]
    omega
  · simp [hlast]

/-- A step that does not complete its scene has one behind it. -/
theorem succ_lt_length (h : scene.steps[c]? = some step) (hstep : step.isComplete = false) :
    c + 1 < scene.steps.length := by
  have hc : c < scene.steps.length := (List.getElem?_eq_some_iff.1 h).1
  have hne : c + 1 ≠ scene.steps.length := fun hend => by
    simp [(isComplete_iff h).2 hend] at hstep
  omega

end Scene

end Cutscene
