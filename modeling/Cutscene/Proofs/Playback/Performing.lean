import Cutscene.Proofs.Playback.Execution
import Cutscene.Proofs.Scene.Closed

set_option relaxedAutoImplicit false
set_option autoImplicit false

/-!
# Performing a scene

Performing goes on from step to step for as long as steps leave nothing to wait for and advance by
themselves. Whatever is to be said about a chain of such steps follows by one induction.

## Main definitions

* `Cutscene.Stage.StandsAt` — the cursor of a stage is within a scene, at a step.

## Main results

* `Cutscene.Stage.perform_induction` — induction on performing.
-/

namespace Cutscene

namespace Stage

/-- The cursor stands at a step of a scene. -/
structure StandsAt (s : Stage) (scene : Scene) (c : ℕ) (step : Step) : Prop where
  /-- The scene is played, and the cursor is there. -/
  session : s.state.session = some ⟨scene, c⟩
  /-- The scene has a step at the cursor. -/
  current : scene.steps[c]? = some step

/-- The step at the cursor is the current one. -/
lemma StandsAt.step?_eq {s : Stage} {scene : Scene} {c : ℕ} {step : Step}
    (hs : StandsAt s scene c step) : s.state.step? = some step := by
  simp [State.step?, hs.session, Session.step?, hs.current]

/-- A stage stands at one place only. -/
lemma StandsAt.eq_of_standsAt {s : Stage} {scene : Scene} {c c' : ℕ} {step step' : Step}
    (hs : StandsAt s scene c step) (hs' : StandsAt s scene c' step') : c = c' ∧ step = step' := by
  cases hs.session.symm.trans hs'.session
  exact ⟨rfl, Option.some.inj (hs.current.symm.trans hs'.current)⟩

/-- The cursor stays at a step that is executed, unless the step completes the scene. -/
lemma StandsAt.executed {s s₁ : Stage} {scene : Scene} {c : ℕ} {step : Step}
    {effect : Option Effect} (hs : StandsAt s scene c step) (h : Execution s step s₁ effect)
    (hcomplete : step.isComplete = false) : StandsAt s₁ scene c step :=
  ⟨(h.session_eq hcomplete).trans hs.session, hs.current⟩

/-! ## Induction on performing -/

/-- A step that leaves nothing to wait for does not complete its scene. -/
lemma Execution.isComplete_eq_false {s s₁ : Stage} {step : Step}
    (h : Execution s step s₁ none) : step.isComplete = false := by
  cases hcomplete : step.isComplete with
  | false => rfl
  | true =>
    obtain ⟨-, heffect⟩ := h.of_isComplete hcomplete
    cases heffect

/-- **Induction on performing.** To show something of what performing a scene from a cursor on
gives, show it where performing ends, at a pause that is refused, at an effect that is waited for,
at a step that is waited at, and find a condition that is passed on from step to step. The end of
the scene is never run over, and needs no case.

**Proof sketch.** Induction on the number of steps from the cursor on. A step that completes the
scene has an effect, so a step that is passed does not complete it, and by `Scene.succ_lt_length`
there is one behind it to go on with. -/
theorem perform_induction {scene : Scene} {P : ℕ → Stage → Prop} {Q : Stage × Outcome → Prop}
    (refuse : ∀ {c s step millis}, StandsAt s scene c step → P c s → step.action = .pause millis →
      s.settings.scaledPause? millis = none → Q (s, .error .pauseTooLong))
    (wait : ∀ {c s step s₁ effect}, StandsAt s scene c step → P c s →
      Execution s step s₁ (some effect) →
      Q (s₁.awaiting step (some effect), .ok (some ⟨⟨s₁.state.generation + 1⟩, effect⟩)))
    (stop : ∀ {c s step s₁}, StandsAt s scene c step → P c s → Execution s step s₁ none →
      step.autoAdvance = false → Q (s₁, .ok none))
    (pass : ∀ {c s step s₁}, StandsAt s scene c step → P c s → Execution s step s₁ none →
      step.autoAdvance = true → P (c + 1) s₁.leave)
    {c : ℕ} {s : Stage} (hsession : s.state.session = some ⟨scene, c⟩)
    (hc : c < scene.steps.length) (hP : P c s) : Q (s.perform (scene.steps.drop c)) := by
  induction hn : scene.steps.length - c generalizing s c with
  | zero => omega
  | succ n ih =>
    obtain ⟨step, hstep⟩ : ∃ step, scene.steps[c]? = some step := ⟨_, List.getElem?_eq_getElem hc⟩
    have hs : StandsAt s scene c step := ⟨hsession, hstep⟩
    have hdrop : scene.steps.drop c = step :: scene.steps.drop (c + 1) := by
      rw [List.drop_eq_getElem_cons hc, (List.getElem?_eq_some_iff.1 hstep).2]
    rw [hdrop]
    cases hexec : s.execute step with
    | error e =>
      obtain ⟨rfl, millis, hpause, hlong⟩ := execute_error_iff.1 hexec
      rw [perform_of_error hexec]
      exact refuse hs hP hpause hlong
    | ok executed =>
      obtain ⟨s₁, effect⟩ := executed
      have hex : Execution s step s₁ effect := execution_of_execute hexec
      cases effect with
      | some effect =>
        rw [perform_of_effect hexec]
        exact wait hs hP hex
      | none =>
        have hcomplete : step.isComplete = false := hex.isComplete_eq_false
        have hs₁ : s₁.state.session = some ⟨scene, c⟩ := (hs.executed hex hcomplete).session
        have hactive : s₁.state.isActive = true := State.isActive_of_session hs₁
        cases hauto : step.autoAdvance with
        | false =>
          rw [perform_of_stop hexec (by simp [hauto])]
          exact stop hs hP hex hauto
        | true =>
          rw [perform_of_pass hexec (by simp [hauto, hactive])]
          have hlt : c + 1 < scene.steps.length := Scene.succ_lt_length hstep hcomplete
          exact ih (session_leave hs₁) hlt (pass hs hP hex hauto) (by omega)

end Stage

end Cutscene
