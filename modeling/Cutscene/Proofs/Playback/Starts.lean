import Cutscene.Proofs.Playback.Failure
import Cutscene.Proofs.Playback.Landing
import Cutscene.Proofs.Playback.Tickets

set_option relaxedAutoImplicit false
set_option autoImplicit false

/-!
# Where operations start from

Six operations lead to one and the same loop: they put the stage somewhere in a scene, and perform
from there. Or they do not, and then all they can do is to take away a running effect that has
ended. This file says which is which, so that what holds of the loop holds of the operations.

## Main definitions

* `Cutscene.Stage.opening` — a stage on which nothing has been played.
* `Cutscene.Stage.goesWell` — runs in which no pause is refused.
* `Cutscene.Stage.start?` — the stage that an operation performs from, if it performs.
* `Cutscene.Stage.Starts` — the operations that perform, and the place that each performs from.
* `Cutscene.Stage.Rests` — what the others do.

## Main results

* `Cutscene.Stage.apply_of_start?` — what an operation does from where it starts.
* `Cutscene.Stage.Starts.landing` — an operation that performs comes to a landing.
* `Cutscene.Stage.starts_or_rests` — an operation performs or rests.

## Design

A pause that is refused ends a run for good: there is no stage behind it. What is to be said of the
stages between two operations is therefore said of runs that go well, which are those that have got
as far as that.
-/

namespace Cutscene

/-- Whether a pause has been refused. -/
def Outcome.isRefused : Outcome → Bool
  | .error .pauseTooLong => true
  | _ => false

/-- Whether a pause has been refused is told from the error. -/
lemma Outcome.isRefused_eq_false_iff {outcome : Outcome} :
    outcome.isRefused = false ↔ outcome ≠ .error .pauseTooLong := by
  unfold isRefused
  split <;> simp_all

namespace Stage

/-! ## Runs -/

/-- A stage on which nothing has been played. -/
def opening (r : Repertoire) (settings : Settings) (ids : Random.Source) : Stage :=
  ⟨r, settings, ids, .idle⟩

/-- Whether no pause is refused along a run. -/
def goesWell (s : Stage) : List Operation → Bool
  | [] => true
  | op :: ops => !(s.apply op).2.isRefused && (s.apply op).1.goesWell ops

variable {r : Repertoire} {settings : Settings} {s s₀ : Stage} {op : Operation} {scene : Scene}
  {c : ℕ}

/-- An opening stage is reachable. -/
lemma reachable_opening (r : Repertoire) (settings : Settings) (ids : Random.Source) :
    Reachable r settings (opening r settings ids) := .opening ids

/-- A run goes well if its first operation does and so do the others after it. -/
lemma goesWell_cons {ops : List Operation} :
    s.goesWell (op :: ops) = true ↔
      (s.apply op).2 ≠ .error .pauseTooLong ∧ (s.apply op).1.goesWell ops = true := by
  simp [goesWell, Outcome.isRefused_eq_false_iff]

/-! ## Where operations start -/

/-- The stage behind the current step, if a scene is played. -/
def left? (s : Stage) : Option Stage := if s.state.isActive then some s.leave else none

/-- The stage that an operation performs from, if it performs. -/
def start? (s : Stage) : Operation → Option Stage
  | .trigger name => if s.state.isActive then none else (s.repertoire.get? name).map s.enter
  | .proceed => s.left?
  | .confirm => if s.state.step?.any s.state.mayLeave then s.left? else none
  | .restart =>
    s.state.session.bind fun session => (s.repertoire.get? session.scene.name).map s.rewind
  | .reveal _ => none
  | .resolve ticket =>
    if s.state.running.any fun e => e.ticket == ticket && e.autoAdvance then (s.finish ticket).left?
    else none

/-- Behind a step it is performed from the next one. -/
lemma proceed_of_left? (h : s.left? = some s₀) : s.proceed = s₀.performFromCursor := by
  unfold left? at h
  split at h
  next hactive =>
    cases h
    rw [proceed, if_pos hactive]
    rfl
  next => cases h

/-- **An operation performs from where it starts.** -/
theorem apply_of_start? (h : s.start? op = some s₀) : s.apply op = s₀.performFromCursor := by
  cases op with
  | trigger name =>
    simp only [start?] at h
    split at h
    next => cases h
    next hactive =>
      obtain ⟨scene, hname, rfl⟩ := Option.map_eq_some_iff.1 h
      rw [apply, trigger_of_get?_eq_some (by simpa using hactive) hname,
        performFromCursor_eq (session_enter s scene), List.drop_zero]
  | proceed => exact proceed_of_left? h
  | confirm =>
    simp only [start?] at h
    split at h
    next hmay =>
      rw [apply, confirm_eq, if_pos hmay]
      exact proceed_of_left? h
    next => cases h
  | restart =>
    obtain ⟨session, hsession, hstart⟩ := Option.bind_eq_some_iff.1 h
    obtain ⟨scene, hname, rfl⟩ := Option.map_eq_some_iff.1 hstart
    rw [performFromCursor_eq (session_rewind s scene), List.drop_zero]
    simp only [apply, restart, hsession]
    exact trigger_of_get?_eq_some (s := { s with state := s.state.clearPlayback }) rfl hname
  | reveal ticket => cases h
  | resolve ticket =>
    simp only [start?] at h
    split at h
    next hgo =>
      rw [apply, resolve_eq, if_pos hgo]
      exact proceed_of_left? h
    next => cases h

/-! ## Operations that perform -/

/-- The operations that perform a scene, with the place that each performs it from, and the stage
that has been put there. -/
inductive Starts (s : Stage) : Operation → Scene → ℕ → Stage → Prop
  /-- A scene is put on. -/
  | trigger {name : String} {scene : Scene} (hidle : s.state.session = none)
    (hname : s.repertoire.get? name = some scene) : Starts s (.trigger name) scene 0 (s.enter scene)
  /-- A scene is put on again. -/
  | restart {scene : Scene} {c : ℕ} {step : Step} (hs : StandsAt s scene c step)
    (hscene : s.repertoire.get? scene.name = some scene) :
    Starts s .restart scene 0 (s.rewind scene)
  /-- The current step is left. -/
  | proceed {scene : Scene} {c : ℕ} {step : Step} (hs : StandsAt s scene c step)
    (hcomplete : step.isComplete = false) : Starts s .proceed scene (c + 1) s.leave
  /-- The current step is left, since it may be. -/
  | confirm {scene : Scene} {c : ℕ} {step : Step} (hs : StandsAt s scene c step)
    (hcomplete : step.isComplete = false) (hmay : s.state.mayLeave step = true) :
    Starts s .confirm scene (c + 1) s.leave
  /-- The current step is left with the end of its effect. -/
  | resolve {scene : Scene} {c : ℕ} {step : Step} {effect : Running} (hs : StandsAt s scene c step)
    (hcomplete : step.isComplete = false) (hrunning : s.state.running = some effect)
    (hgo : effect.autoAdvance = true) :
    Starts s (.resolve effect.ticket) scene (c + 1) (s.finish effect.ticket).leave

namespace Starts

/-- That is where the operation starts. -/
lemma start?_eq (h : Starts s op scene c s₀) : s.start? op = some s₀ := by
  cases h with
  | trigger hidle hname => simp [start?, State.isActive_of_session_eq_none hidle, hname]
  | restart hs hscene => simp [start?, hs.session, hscene]
  | proceed hs => simp [start?, left?, State.isActive_of_session hs.session]
  | confirm hs _ hmay =>
    simp [start?, left?, State.isActive_of_session hs.session, hs.step?_eq, hmay]
  | @resolve _ _ _ effect hs _ hrunning hgo =>
    have hsession := (session_finish s effect.ticket).trans hs.session
    simp [start?, left?, State.isActive_of_session hsession, hrunning, hgo]

/-- The stage that is performed from stands where it should. -/
lemma session_eq (h : Starts s op scene c s₀) : s₀.state.session = some ⟨scene, c⟩ := by
  cases h with
  | trigger => exact session_enter s scene
  | restart => exact session_rewind s scene
  | proceed hs | confirm hs => exact session_leave hs.session
  | resolve hs => exact session_leave ((session_finish s _).trans hs.session)

/-- There is a step at that place. -/
lemma lt_length (h : Starts s op scene c s₀) : c < scene.steps.length := by
  cases h with
  | trigger | restart => exact scene.length_pos
  | proceed hs hcomplete | confirm hs hcomplete | resolve hs hcomplete =>
    exact Scene.succ_lt_length hs.current hcomplete

/-- No effect is running there. -/
lemma running_eq (h : Starts s op scene c s₀) : s₀.state.running = none := by
  cases h with
  | trigger | restart => exact running_enter _ scene
  | proceed | confirm | resolve => exact running_leave _

/-- The settings are the same there. -/
lemma settings_eq (h : Starts s op scene c s₀) : s₀.settings = s.settings := by
  cases h with
  | resolve => rw [settings_leave, settings_finish]
  | _ => rfl

/-- The effect that has been running is taken away. -/
lemma drops_eq (h : Starts s op scene c s₀) : s.drops op = true := by
  cases h with
  | @trigger name _ hidle hname =>
    have hcontains : s.repertoire.contains name = true := by
      rw [← Bool.not_eq_false, Repertoire.contains_eq_false_iff, hname]
      exact Option.some_ne_none _
    simp [drops, State.isActive_of_session_eq_none hidle, hcontains]
  | restart hs | proceed hs => exact State.isActive_of_session hs.session
  | confirm hs _ hmay => simp [drops, hs.step?_eq, hmay]
  | resolve _ _ hrunning => simp [drops, State.isCurrent, hrunning]

/-- The operation performs the scene from that place. -/
lemma apply_eq (h : Starts s op scene c s₀) : s.apply op = s₀.perform (scene.steps.drop c) := by
  rw [apply_of_start? h.start?_eq, performFromCursor_eq h.session_eq]

/-- **An operation that performs comes to a landing.** -/
theorem landing (h : Starts s op scene c s₀) : Landing s.settings scene c (s.apply op) := by
  rw [h.apply_eq, ← h.settings_eq]
  exact landing_perform h.session_eq h.lt_length h.running_eq

end Starts

/-! ## Operations that do not -/

/-- What operations come to that perform nothing. -/
inductive Rests (s : Stage) : Operation → Stage × Outcome → Prop
  /-- The scene stays where it is, and so does the running effect. -/
  | stays {op : Operation} {result : Stage × Outcome}
    (hsession : result.1.state.session = s.state.session)
    (hrunning : result.1.state.running = s.state.running) (hpending : result.2.pending? = none)
    (hok : result.2 ≠ .error .pauseTooLong) : Rests s op result
  /-- The running effect ends, and does not ask to go on or cannot. -/
  | ends {effect : Running} (hrunning : s.state.running = some effect)
    (hstop : s.state.session = none ∨ effect.autoAdvance = false) :
    Rests s (.resolve effect.ticket) (s.finish effect.ticket, .ok none)

/-- What does nothing stays. -/
lemma Rests.refl (s : Stage) (op : Operation) : Rests s op (s, .ok none) :=
  .stays rfl rfl rfl (by simp)

/-- The end of an effect is late, or goes on with the scene, or ends nothing but the effect. -/
lemma starts_or_rests_resolve (h : within.Holds s) (ticket : Ticket) :
    (∃ scene c s₀, Starts s (.resolve ticket) scene c s₀) ∨
      (s.start? (.resolve ticket) = none ∧ Rests s (.resolve ticket) (s.resolve ticket)) := by
  cases hcurrent : s.state.isCurrent ticket with
  | false =>
    right
    rw [resolve_of_not_isCurrent hcurrent]
    refine ⟨?_, .refl s _⟩
    cases hrunning : s.state.running with
    | none => simp [start?, hrunning]
    | some effect =>
      have hother : (effect.ticket == ticket) = false := by
        simpa [State.isCurrent, hrunning] using hcurrent
      simp [start?, hrunning, hother]
  | true =>
    obtain ⟨effect, hrunning, rfl⟩ : ∃ effect, s.state.running = some effect ∧
        effect.ticket = ticket := by
      simpa [State.isCurrent, Option.any_eq_true] using hcurrent
    cases hsession : s.state.session with
    | none =>
      have hidle : (s.finish effect.ticket).state.isActive = false :=
        State.isActive_of_session_eq_none (by rw [session_finish, hsession])
      right
      rw [resolve_eq, proceed_of_not_isActive hidle, ite_self]
      exact ⟨by simp [start?, left?, hidle], .ends hrunning (Or.inl hsession)⟩
    | some session =>
      obtain ⟨scene, c⟩ := session
      obtain ⟨-, step, hs, hcomplete, -⟩ := h.during hsession
      cases hgo : effect.autoAdvance with
      | true => exact Or.inl ⟨scene, c + 1, _, .resolve hs hcomplete hrunning hgo⟩
      | false =>
        right
        rw [resolve_eq, hrunning]
        simp only [Option.any_some, hgo, Bool.and_false, Bool.false_eq_true, if_false]
        exact ⟨by simp [start?, hrunning, hgo], .ends hrunning (Or.inr hgo)⟩

/-- **An operation performs or rests.**

**Proof sketch.** The cursor is at a step that does not complete the scene, so that leaving it leads
to another, and the scene that is played is found under its own name. -/
theorem starts_or_rests (h : within.Holds s) (op : Operation) :
    (∃ scene c s₀, Starts s op scene c s₀) ∨
      (s.start? op = none ∧ Rests s op (s.apply op)) := by
  cases op with
  | trigger name =>
    cases hsession : s.state.session with
    | some session =>
      have hactive := State.isActive_of_session hsession
      right
      rw [apply, trigger_of_isActive hactive]
      exact ⟨by simp [start?, hactive], .refl s _⟩
    | none =>
      have hidle := State.isActive_of_session_eq_none hsession
      cases hname : s.repertoire.get? name with
      | some scene => exact Or.inl ⟨scene, 0, _, .trigger hsession hname⟩
      | none =>
        right
        rw [apply, trigger_of_get?_eq_none hidle hname]
        exact ⟨by simp [start?, hname], .stays rfl rfl rfl (by simp)⟩
  | proceed =>
    cases hsession : s.state.session with
    | none =>
      have hidle := State.isActive_of_session_eq_none hsession
      right
      rw [apply, proceed_of_not_isActive hidle]
      exact ⟨by simp [start?, left?, hidle], .refl s _⟩
    | some session =>
      obtain ⟨scene, c⟩ := session
      obtain ⟨-, step, hs, hcomplete, -⟩ := h.during hsession
      exact Or.inl ⟨scene, c + 1, _, .proceed hs hcomplete⟩
  | confirm =>
    cases hmay : s.state.step?.any s.state.mayLeave with
    | false =>
      right
      rw [apply, confirm_eq, hmay, if_neg Bool.false_ne_true]
      exact ⟨by simp [start?, hmay], .refl s _⟩
    | true =>
      obtain ⟨step, hstep, hmay⟩ := Option.any_eq_true _ _ |>.1 hmay
      obtain ⟨session, hsession, -⟩ := Option.bind_eq_some_iff.1 hstep
      obtain ⟨scene, c⟩ := session
      obtain ⟨-, step', hs, hcomplete, -⟩ := h.during hsession
      obtain rfl : step' = step := Option.some.inj (hs.step?_eq.symm.trans hstep)
      exact Or.inl ⟨scene, c + 1, _, .confirm hs hcomplete hmay⟩
  | restart =>
    cases hsession : s.state.session with
    | none =>
      right
      rw [apply, restart_of_session_eq_none hsession]
      exact ⟨by simp [start?, hsession], .refl s _⟩
    | some session =>
      obtain ⟨scene, c⟩ := session
      obtain ⟨hscene, step, hs, -, -⟩ := h.during hsession
      exact Or.inl ⟨scene, 0, _, .restart hs hscene⟩
  | reveal ticket =>
    exact Or.inr ⟨rfl,
      .stays (session_reveal s ticket) (by rw [apply, reveal_fst]) rfl (by simp [apply])⟩
  | resolve ticket => exact starts_or_rests_resolve h ticket

end Stage

end Cutscene
