import Cutscene.Proofs.Playback.Performing

set_option relaxedAutoImplicit false
set_option autoImplicit false

/-!
# Where performing comes to rest

What a step leaves to wait for can be read off the step and the settings, so it is known in advance
where a scene that is performed from some place comes to rest: at the first step that has an effect
or does not advance by itself, unless a pause before it is refused.

## Main definitions

* `Cutscene.Step.effect?` — what a step leaves to wait for.
* `Cutscene.Step.PauseFits` — a step that is not refused.
* `Cutscene.Step.Passes` — a step that is left as soon as it has been performed.
* `Cutscene.Scene.Leads` — the steps between two places of a scene are left at once.
* `Cutscene.Stage.Landing` — a stage that has performed a scene from some place, and what came of
  it.

## Main results

* `Cutscene.Stage.landing_perform` — performing a scene from some place comes to such a landing.
* `Cutscene.Stage.landing_trigger`, `Cutscene.Stage.landing_proceed` — so does putting a scene on,
  and leaving a step.
-/

namespace Cutscene

/-! ## Steps -/

namespace Step

/-- What a step leaves to wait for. -/
def effect? (settings : Settings) (step : Step) : Option Effect :=
  match step.action with
  | .say line => if line.length = 0 then none else some (.typing line.length)
  | .pause millis => (settings.scaledPause? millis).map .pause
  | .assign _ => none
  | .reset => some (.settle settings.settleDelay)
  | .complete => some (.settle settings.settleDelay)

/-- The pause of a step is in range once it has been scaled, if the step is a pause. -/
def PauseFits (settings : Settings) (step : Step) : Prop :=
  ∀ millis, step.action = .pause millis → (settings.scaledPause? millis).isSome = true

/-- A step that is left as soon as it has been performed. -/
structure Passes (settings : Settings) (step : Step) : Prop where
  /-- It leaves nothing to wait for. -/
  atOnce : step.effect? settings = none
  /-- It is not refused. -/
  fits : step.PauseFits settings
  /-- It advances by itself. -/
  auto : step.autoAdvance = true

/-- The step that completes a scene leaves a rest to wait for. -/
lemma effect?_of_isComplete {settings : Settings} {step : Step} (h : step.isComplete = true) :
    step.effect? settings = some (.settle settings.settleDelay) := by
  unfold effect?
  cases haction : step.action <;> simp [isComplete, kind, Action.kind, haction] at h ⊢

/-- A step that is passed does not complete its scene. -/
lemma Passes.isComplete_eq_false {settings : Settings} {step : Step} (h : step.Passes settings) :
    step.isComplete = false := by
  cases hcomplete : step.isComplete with
  | false => rfl
  | true =>
    have heffect := h.atOnce
    rw [effect?_of_isComplete hcomplete] at heffect
    cases heffect

end Step

namespace Stage

variable {s s₁ : Stage} {step : Step} {effect : Option Effect}

/-- A step that is executed leaves to wait for what it should. -/
lemma Execution.effect_eq (h : Execution s step s₁ effect) : effect = step.effect? s.settings := by
  cases h with
  | silent line _ _ ha hl => simp [Step.effect?, ha, hl]
  | line line _ _ ha hl => simp [Step.effect?, ha, hl]
  | pause millis length ha hp => simp [Step.effect?, ha, hp]
  | assign values ha => simp [Step.effect?, ha]
  | reset ha => simp [Step.effect?, ha]
  | complete ha => simp [Step.effect?, ha]

/-- A step that is executed has not been refused. -/
lemma Execution.pauseFits (h : Execution s step s₁ effect) : step.PauseFits s.settings := by
  intro millis hpause
  cases h with
  | pause millis' length ha hp =>
    cases ha.symm.trans hpause
    rw [hp]
    rfl
  | silent _ _ _ ha | line _ _ _ ha | assign _ ha | reset ha | complete ha =>
    cases ha.symm.trans hpause

end Stage

/-! ## Places of a scene -/

/-- The steps of a scene between two places are left at once. -/
structure Scene.Leads (settings : Settings) (scene : Scene) (c k : ℕ) (step : Step) : Prop where
  /-- The second place is not before the first. -/
  le : c ≤ k
  /-- There is a step at the second place. -/
  current : scene.steps[k]? = some step
  /-- All steps from the first place on, up to it, are left at once. -/
  passed : ∀ i passing, c ≤ i → i < k → scene.steps[i]? = some passing → passing.Passes settings

/-- The pauses of a scene are in range, up to a place. -/
def Scene.FitsBelow (settings : Settings) (scene : Scene) (n : ℕ) : Prop :=
  ∀ i step, i < n → scene.steps[i]? = some step → step.PauseFits settings

section Places

variable {settings : Settings} {scene : Scene} {c k : ℕ} {step : Step}

/-- Up to the start of a scene there are no pauses. -/
lemma Scene.fitsBelow_zero (scene : Scene) (settings : Settings) : scene.FitsBelow settings 0 :=
  fun i _ hi => absurd hi (Nat.not_lt_zero i)

/-- If the pauses are in range up to the first place, they are up to the second. -/
lemma Scene.Leads.fitsBelow (h : scene.Leads settings c k step)
    (hfits : scene.FitsBelow settings c) : scene.FitsBelow settings k := by
  intro i passing hi hstep
  rcases Nat.lt_or_ge i c with hic | hic
  · exact hfits i passing hic hstep
  · exact (h.passed i passing hic hi hstep).fits

/-- One more pause that is in range. -/
lemma Scene.FitsBelow.succ (h : scene.FitsBelow settings k) (hstep : scene.steps[k]? = some step)
    (hfits : step.PauseFits settings) : scene.FitsBelow settings (k + 1) := by
  intro i step' hi hstep'
  rcases Nat.lt_succ_iff_lt_or_eq.1 hi with hi | rfl
  · exact h i step' hi hstep'
  · cases hstep.symm.trans hstep'
    exact hfits

end Places

/-! ## Landings -/

namespace Stage

/-- What comes of performing a step that is not passed. -/
inductive Landed (settings : Settings) (scene : Scene) (k : ℕ) (step : Step) :
    Stage × Outcome → Prop
  /-- The step is refused. -/
  | refused {s : Stage} (hs : StandsAt s scene k step) (hlong : ¬step.PauseFits settings) :
    Landed settings scene k step (s, .error .pauseTooLong)
  /-- The effect of the step is waited for. -/
  | busy {s : Stage} {effect : Effect} {ticket : Ticket} (hs : StandsAt s scene k step)
    (hcomplete : step.isComplete = false) (hfits : step.PauseFits settings)
    (heffect : step.effect? settings = some effect)
    (hrunning : s.state.running = some ⟨ticket, step.autoAdvance, effect.isTyping⟩) :
    Landed settings scene k step (s, .ok (some ⟨ticket, effect⟩))
  /-- The player is waited for. -/
  | waiting {s : Stage} (hs : StandsAt s scene k step) (hcomplete : step.isComplete = false)
    (hfits : step.PauseFits settings) (heffect : step.effect? settings = none)
    (hmanual : step.autoAdvance = false) (hrunning : s.state.running = none) :
    Landed settings scene k step (s, .ok none)
  /-- The scene is over, and the rest after it is waited for. -/
  | ended {s : Stage} {ticket : Ticket} (hsession : s.state.session = none)
    (hcomplete : step.isComplete = true) (hfits : step.PauseFits settings)
    (hrunning : s.state.running = some ⟨ticket, step.autoAdvance, false⟩) :
    Landed settings scene k step (s, .ok (some ⟨ticket, .settle settings.settleDelay⟩))

/-- What comes of performing a scene from some place: the steps that are left at once are left, and
the first that is not is performed. -/
def Landing (settings : Settings) (scene : Scene) (c : ℕ) (result : Stage × Outcome) : Prop :=
  ∃ k step, scene.Leads settings c k step ∧ Landed settings scene k step result

variable {s : Stage} {scene : Scene} {c : ℕ}

/-- **Performing a scene from some place comes to a landing.**

**Proof sketch.** Induction on performing. What is passed on from step to step is that all steps so
far have been left at once, and that no effect is running. -/
theorem landing_perform (hsession : s.state.session = some ⟨scene, c⟩)
    (hc : c < scene.steps.length) (hrunning : s.state.running = none) :
    Landing s.settings scene c (s.perform (scene.steps.drop c)) := by
  refine perform_induction (Q := fun result => Landing s.settings scene c result)
    (P := fun k s' => s'.settings = s.settings ∧ s'.state.running = none ∧ c ≤ k ∧
      ∀ i passing, c ≤ i → i < k → scene.steps[i]? = some passing → passing.Passes s.settings)
    ?_ ?_ ?_ ?_ hsession hc ⟨rfl, hrunning, Nat.le_refl c, ?_⟩
  · rintro k s' step millis hs ⟨hsettings, -, hle, hpassed⟩ hpause hlong
    refine ⟨k, step, ⟨hle, hs.current, hpassed⟩, .refused hs fun hfits => ?_⟩
    have hsome := hfits millis hpause
    rw [← hsettings, hlong] at hsome
    cases hsome
  · rintro k s' step s₁ effect hs ⟨hsettings, -, hle, hpassed⟩ hex
    have heffect := hex.effect_eq
    have hfits := hex.pauseFits
    rw [hsettings] at heffect hfits
    refine ⟨k, step, ⟨hle, hs.current, hpassed⟩, ?_⟩
    cases hcomplete : step.isComplete with
    | true =>
      obtain ⟨rfl, -⟩ := hex.of_isComplete hcomplete
      rw [Step.effect?_of_isComplete hcomplete] at heffect
      cases heffect
      exact .ended rfl hcomplete hfits rfl
    | false =>
      exact .busy ⟨(hs.executed hex hcomplete).session, hs.current⟩ hcomplete hfits heffect.symm rfl
  · rintro k s' step s₁ hs ⟨hsettings, hrunning', hle, hpassed⟩ hex hmanual
    have heffect := hex.effect_eq
    have hfits := hex.pauseFits
    rw [hsettings] at heffect hfits
    have hcomplete : step.isComplete = false := hex.isComplete_eq_false
    exact ⟨k, step, ⟨hle, hs.current, hpassed⟩, .waiting (hs.executed hex hcomplete) hcomplete hfits
      heffect.symm hmanual (hex.running_eq.trans hrunning')⟩
  · rintro k s' step s₁ hs ⟨hsettings, -, hle, hpassed⟩ hex hauto
    have heffect := hex.effect_eq
    have hfits := hex.pauseFits
    rw [hsettings] at heffect hfits
    have hsettings₁ : s₁.leave.settings = s.settings := by
      rw [settings_leave, hex.settings_eq, hsettings]
    have hnone : s₁.leave.state.running = none := by simp [leave, State.leaveStep_eq]
    refine ⟨hsettings₁, hnone, by omega, fun i passing hci hi hstep => ?_⟩
    rcases Nat.lt_succ_iff_lt_or_eq.1 hi with hi | rfl
    · exact hpassed i passing hci hi hstep
    · cases hs.current.symm.trans hstep
      exact ⟨heffect.symm, hfits, hauto⟩
  · intro i passing hci hic
    omega

/-- Leaving a step comes to a landing behind it. -/
lemma landing_proceed {step : Step} (hs : StandsAt s scene c step)
    (hcomplete : step.isComplete = false) : Landing s.settings scene (c + 1) s.proceed := by
  have hrunning : s.leave.state.running = none := by simp [leave, State.leaveStep_eq]
  rw [proceed_of_session hs.session]
  exact landing_perform (s := s.leave) (session_leave hs.session)
    (Scene.succ_lt_length hs.current hcomplete) hrunning

/-- A scene that is put on between scenes comes to a landing from its start. -/
lemma landing_trigger {name : String} (hsession : s.state.session = none)
    (hname : s.repertoire.get? name = some scene) :
    Landing s.settings scene 0 (s.trigger name) := by
  have hrunning : (s.enter scene).state.running = none := State.running_cancelEffect s.state
  rw [trigger_of_get?_eq_some (State.isActive_of_session_eq_none hsession) hname]
  exact landing_perform (s := s.enter scene) (session_enter s scene) scene.length_pos hrunning

end Stage

end Cutscene
