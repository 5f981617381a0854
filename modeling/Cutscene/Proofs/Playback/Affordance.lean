import Cutscene.Proofs.Playback.Evolution
import Cutscene.Proofs.Playback.Inputs
import Cutscene.Proofs.Playback.Progress

set_option relaxedAutoImplicit false
set_option autoImplicit false

/-!
# What the player is shown and what the player can do

Whether the mark for going on does anything is told from the newest bubble, whether a confirmation
does anything is told from the current step, and a proceed asks for neither. On a reachable stage
the three agree: the mark invites the player exactly at a line that has been typed, and there a
confirmation does what a proceed does.

## Main definitions

* `Cutscene.Stage.matched` — the discipline of effects: what types a line runs at a line.
* `Cutscene.State.AtLine` — the current step is a line.
* `Cutscene.Stage.Affords` — how the mark, confirmations and bubbles agree.

## Main results

* `Cutscene.Stage.typing_of_running` — at a line, an effect that runs types it.
* `Cutscene.Stage.isWaiting_iff_of_atLine` — the player is waited for at a line exactly while
  nothing is typed.
* `Cutscene.Stage.affords` — all of this on a reachable stage.

## Design

No assumption is made on pauses: a pause that is refused leaves the stage at a step that is not a
line, with no effect running, and what is said here is true there as well.
-/

namespace Cutscene

/-- The current step is a line. -/
def State.AtLine (s : State) : Prop := ∃ step, s.step? = some step ∧ step.isSay = true

namespace Stage

variable {r : Repertoire} {settings : Settings} {s s₁ : Stage} {scene : Scene} {c : ℕ}
  {step : Step} {effect : Option Effect}

/-! ## Effects and their steps -/

/-- An effect that runs at a step types a line exactly if the step is one. -/
def Matched (scene : Scene) (c : ℕ) (s : Stage) : Prop :=
  ∀ step running, scene.steps[c]? = some step → s.state.running = some running →
    running.typing = step.isSay

/-- Without an effect there is none that could be of another kind. -/
lemma Matched.of_running_eq_none (h : s.state.running = none) : Matched scene c s := by
  intro step running _ hrunning
  rw [h] at hrunning
  cases hrunning

/-- What a step leaves to wait for types a line exactly if the step is one. -/
lemma Execution.isTyping_eq {effect : Effect} (h : Execution s step s₁ (some effect)) :
    effect.isTyping = step.isSay := by
  cases h with
  | line _ _ _ haction | pause _ _ haction | reset haction | complete haction =>
    simp [Effect.isTyping, Step.isSay, Step.kind, Action.kind, haction]

/-- The effect that a step starts is of its kind. -/
lemma Execution.matched (h : Execution s step s₁ effect) (hs : StandsAt s scene c step)
    (hnone : s.state.running = none) : Matched scene c (s₁.awaiting step effect) := by
  cases effect with
  | none => exact .of_running_eq_none (h.running_eq.trans hnone)
  | some effect =>
    intro step' running hstep' hrunning
    cases hs.current.symm.trans hstep'
    cases hrunning
    exact h.isTyping_eq

/-- **The discipline of effects**: what types a line runs at a line, and what does not elsewhere. -/
def matched : Discipline where
  Before _ _ s := s.state.running = none
  At := Matched
  Over _ := True
  perform hs hbefore hex _ := hex.matched hs hbefore
  complete _ _ _ _ := trivial
  refuse _ hbefore _ := .of_running_eq_none hbefore
  leave _ _ := running_leave _
  rewind _ _ := running_enter _ _
  reveal _ hat step running hstep hrunning := by
    rw [reveal_fst] at hrunning
    exact hat step running hstep hrunning
  finish := by
    intro scene c s step ticket _ hat
    cases hcurrent : s.state.isCurrent ticket with
    | true =>
      rw [finish_of_isCurrent hcurrent]
      exact .of_running_eq_none (State.running_cancelEffect s.state)
    | false => rwa [finish_of_not_isCurrent hcurrent]
  reveal_over _ _ := trivial
  finish_over _ _ := trivial

/-- **Every reachable stage keeps to the discipline of effects.** -/
theorem holds_matched (h : Reachable r settings s) : matched.Holds s :=
  Discipline.holds_of_reachable h (fun _ => trivial) fun _ _ => running_enter _ _

/-! ## Lines and what is typed -/

/-- A reachable stage at a step stands there, with what the disciplines say. -/
lemma exists_standsAt (h : Reachable r settings s) (hstep : s.state.step? = some step) :
    ∃ scene c, StandsAt s scene c step ∧ ScreenAt scene c s ∧ Matched scene c s := by
  obtain ⟨⟨scene, c⟩, hsession, hcurrent⟩ := Option.bind_eq_some_iff.1 hstep
  obtain ⟨-, -, -, -, hscreen⟩ := (holds_screen h).during hsession
  obtain ⟨-, -, -, -, hmatched⟩ := (holds_matched h).during hsession
  exact ⟨scene, c, ⟨hsession, hcurrent⟩, hscreen, hmatched⟩

/-- At a line, an effect that runs types it. -/
lemma typing_of_running (h : Reachable r settings s) {running : Running}
    (hrunning : s.state.running = some running) (hline : s.state.AtLine) :
    s.state.typing = true := by
  obtain ⟨step, hstep, hsay⟩ := hline
  obtain ⟨scene, c, hs, hscreen, hmatched⟩ := exists_standsAt h hstep
  rw [hscreen.typing, hrunning, Option.any_some, hmatched step running hs.current hrunning, hsay]

/-- At a line, the player is waited for exactly while nothing is typed. -/
lemma isWaiting_iff_of_atLine (h : Reachable r settings s) (hline : s.state.AtLine) :
    s.state.isWaiting = true ↔ s.state.typing = false := by
  obtain ⟨step, hstep, hsay⟩ := hline
  obtain ⟨scene, c, hs, hscreen, -⟩ := exists_standsAt h hstep
  refine ⟨hscreen.typing_eq_false, fun htyping => ?_⟩
  cases hrunning : s.state.running with
  | none => simp [State.isWaiting, hs.session, hrunning]
  | some running =>
    rw [typing_of_running h hrunning ⟨step, hstep, hsay⟩] at htyping
    cases htyping

/-- The mark does something exactly at a line that is not being typed, whatever the version of the
snapshot. -/
lemma canProceed_iff (h : Reachable r settings s) (version : ℕ) :
    (Snapshot.ofState s.state version).canProceed = true ↔
      s.state.AtLine ∧ s.state.typing = false := by
  cases hsession : s.state.session with
  | none =>
    have hidle : s.state.isActive = false := State.isActive_of_session_eq_none hsession
    simp [Snapshot.canProceed, Snapshot.ofState, hidle, State.AtLine, State.step?, hsession]
  | some session =>
    obtain ⟨scene, c⟩ := session
    obtain ⟨-, step, hs, -, hscreen⟩ := (holds_screen h).during hsession
    have hversion : (Snapshot.ofState s.state version).canProceed =
        (Snapshot.ofState s.state 0).canProceed := rfl
    rw [hversion, hscreen.canProceed_eq hs]
    simp [State.AtLine, hs.step?_eq]

/-- A step that cannot be left any time cannot be left while its effect runs. -/
lemma mayLeave_eq_false (h : Reachable r settings s) {running : Running}
    (hrunning : s.state.running = some running) (hstep : s.state.step? = some step)
    (hskip : step.skippable = false) : s.state.mayLeave step = false := by
  rw [State.mayLeave, hskip, Bool.false_or]
  cases hsay : step.isSay with
  | false => rfl
  | true => rw [typing_of_running h hrunning ⟨step, hstep, hsay⟩]; rfl

/-! ## Agreement -/

/-- What the player is shown and what the player can do agree. -/
structure Affords (s : Stage) : Prop where
  /-- The mark does something exactly while a scene is played, at a line, with nothing typed. -/
  typed_iff : ∀ version, (Snapshot.ofState s.state version).canProceed = true ↔
    s.state.isActive = true ∧ s.state.AtLine ∧ s.state.typing = false
  /-- It does something exactly where the player is waited for at a line. -/
  waiting_iff : ∀ version, (Snapshot.ofState s.state version).canProceed = true ↔
    s.state.isWaiting = true ∧ s.state.AtLine
  /-- Where it does, a confirmation does as a proceed does. -/
  confirm_eq : ∀ version, (Snapshot.ofState s.state version).canProceed = true →
    s.confirm = s.proceed
  /-- A confirmation does as a proceed does, or nothing. -/
  confirm_cases : s.confirm = s.proceed ∨ s.confirm = (s, .ok none)
  /-- It does nothing while an effect runs, unless the current step can be left any time. -/
  uninterrupted : s.state.running.isSome = true → s.state.step?.any Step.skippable = false →
    s.confirm = (s, .ok none)
  /-- A bubble is drawn as complete exactly if it shows its whole line. -/
  complete : ∀ version, List.Forall₂ (fun b view => view.isComplete = true ↔ b.isRevealed = true)
    s.state.bubbles (Snapshot.ofState s.state version).bubbles

/-- **What the player is shown and what the player can do agree** on every reachable stage.

**Proof sketch.** The mark does something exactly at a line that is not being typed
(`canProceed_iff`). There no effect runs, since it would type the line (`typing_of_running`), so
the player is waited for, and a confirmation may leave the line. -/
theorem affords (h : Reachable r settings s) : s.Affords := by
  have hactive : s.state.AtLine → s.state.isActive = true := by
    rintro ⟨step, hstep, -⟩
    obtain ⟨scene, c, hs, -⟩ := exists_standsAt h hstep
    exact State.isActive_of_session hs.session
  refine ⟨fun version => ?_, fun version => ?_, fun version hcan => ?_, ?_, ?_, ?_⟩
  · rw [canProceed_iff h]
    exact ⟨fun hline => ⟨hactive hline.1, hline⟩, fun hline => hline.2⟩
  · rw [canProceed_iff h, and_comm (a := s.state.isWaiting = true), and_congr_right_iff]
    exact fun hline => (isWaiting_iff_of_atLine h hline).symm
  · obtain ⟨⟨step, hstep, hsay⟩, htyping⟩ := (canProceed_iff h version).1 hcan
    rw [Stage.confirm_eq, hstep, Option.any_some, State.mayLeave, hsay, htyping]
    simp
  · rw [Stage.confirm_eq]
    split
    · exact Or.inl rfl
    · exact Or.inr rfl
  · intro hrunning hskip
    obtain ⟨running, hrunning⟩ := Option.isSome_iff_exists.1 hrunning
    rw [Stage.confirm_eq]
    cases hstep : s.state.step? with
    | none => rfl
    | some step =>
      rw [hstep, Option.any_some] at hskip
      rw [Option.any_some, mayLeave_eq_false h hrunning hstep hskip, if_neg Bool.false_ne_true]
  · intro version
    rw [Snapshot.ofState, List.forall₂_map_right_iff, List.forall₂_same]
    exact fun b hb => BubbleView.isComplete_iff (sound_of_reachable h b hb) _

/-- At the line of the rehearsal, while it is typed and when it has been. -/
theorem affords_rehearsing :
    Reachable (Repertoire.empty.add rehearsal) .standard
        (rehearsing.run [.trigger "rehearsal", .resolve ⟨1⟩, .reveal ⟨2⟩, .resolve ⟨2⟩]) ∧
      (rehearsing.run [.trigger "rehearsal", .resolve ⟨1⟩, .reveal ⟨2⟩]).confirm.2 = .ok none ∧
      (Snapshot.ofState (rehearsing.run
        [.trigger "rehearsal", .resolve ⟨1⟩, .reveal ⟨2⟩]).state 0).canProceed = false ∧
      (Snapshot.ofState (rehearsing.run
        [.trigger "rehearsal", .resolve ⟨1⟩, .reveal ⟨2⟩, .resolve ⟨2⟩]).state 0).canProceed =
          true ∧
      (rehearsing.run
        [.trigger "rehearsal", .resolve ⟨1⟩, .reveal ⟨2⟩, .resolve ⟨2⟩]).Affords :=
  ⟨reachable_rehearsing _, by decide +kernel, by decide +kernel, by decide +kernel,
    affords (reachable_rehearsing _)⟩

end Stage

end Cutscene
