import Mathlib.Data.Nat.Notation
import Mathlib.Tactic.Lemma
import Cutscene.Playback.Stage

set_option relaxedAutoImplicit false
set_option autoImplicit false

/-!
# What a step does

Executing a step is one of six things, by the kind of the step and, for a line, by whether there is
anything to type. This file says which, once, so that nothing later has to look into
`Cutscene.Stage.execute`, and cuts the recursion of `Cutscene.Stage.perform` into rounds.

## Main definitions

* `Cutscene.Stage.Execution` — the six ways in which a step is executed.
* `Cutscene.Stage.awaiting` — a stage that has executed a step and waits for its effect.
* `Cutscene.Stage.leave`, `Cutscene.Stage.enter`, `Cutscene.Stage.rewind` — the ways to the next
  step that is performed.
* `Cutscene.Stage.finish` — a stage whose running effect has reported its end.

## Main results

* `Cutscene.Stage.execution_of_execute` — a step that is executed is executed in one of six ways.
* `Cutscene.Stage.execute_error_iff` — the only steps that are refused are pauses out of range.
* `Cutscene.Stage.perform_of_error`, `Cutscene.Stage.perform_of_effect`,
  `Cutscene.Stage.perform_of_stop`, `Cutscene.Stage.perform_of_pass` — a round of performing.
-/

namespace Cutscene

namespace State

/-- With a session, a scene is played. -/
lemma isActive_of_session {s : State} {session : Session} (h : s.session = some session) :
    s.isActive = true := by rw [isActive, h, Option.isSome_some]

/-- Without a session, none is. -/
lemma isActive_of_session_eq_none {s : State} (h : s.session = none) : s.isActive = false := by
  rw [isActive, h, Option.isSome_none]

/-! ## The running effect -/

/-- The end of an effect is taken exactly from the effect that runs under the ticket. -/
lemma finishEffect?_eq_some_iff {s state : State} {ticket : Ticket} {effect : Running} :
    s.finishEffect? ticket = some (effect, state) ↔
      s.running = some effect ∧ effect.ticket = ticket ∧ { s with running := none } = state := by
  unfold finishEffect?
  cases s.running with
  | none => simp
  | some running => grind

/-- No end is taken under a ticket that is not current. -/
lemma finishEffect?_eq_none_iff {s : State} {ticket : Ticket} :
    s.finishEffect? ticket = none ↔ s.isCurrent ticket = false := by
  unfold finishEffect? isCurrent
  cases s.running <;> simp

/-- Dropping the running effect touches nothing but it and the line that it types. -/
lemma cancelEffect_fixed (s : State) :
    s.cancelEffect.session = s.session ∧ s.cancelEffect.values = s.values ∧
      s.cancelEffect.generation = s.generation := by
  unfold cancelEffect
  split
  · exact ⟨rfl, rfl, rfl⟩
  · split <;> exact ⟨rfl, rfl, rfl⟩

@[simp] lemma session_cancelEffect (s : State) : s.cancelEffect.session = s.session :=
  (cancelEffect_fixed s).1

@[simp] lemma values_cancelEffect (s : State) : s.cancelEffect.values = s.values :=
  (cancelEffect_fixed s).2.1

@[simp] lemma generation_cancelEffect (s : State) : s.cancelEffect.generation = s.generation :=
  (cancelEffect_fixed s).2.2

@[simp] lemma running_cancelEffect (s : State) : s.cancelEffect.running = none := by
  unfold cancelEffect
  split
  next h => exact h
  next => split <;> rfl

/-- If a line is typed exactly while an effect types it, dropping the running effect shows the line
whole. -/
lemma cancelEffect_of_typing_eq {s : State} (h : s.typing = s.running.any Running.typing) :
    s.cancelEffect =
      { s with
        running := none
        typing := false
        bubbles := if s.typing then modifyLast Bubble.revealAll s.bubbles else s.bubbles } := by
  obtain ⟨session, bubbles, values, typing, generation, running⟩ := s
  simp only at h
  subst h
  cases running with
  | none => simp [cancelEffect]
  | some effect => cases htyping : effect.typing <;> simp [cancelEffect, completeTyping, htyping]

/-- A step is left by dropping its effect, hiding the mark of its line, and moving the cursor. -/
lemma leaveStep_eq (s : State) :
    s.leaveStep =
      { s.cancelEffect with
        bubbles :=
          if s.step?.any Step.isSay then modifyLast Bubble.hideProceed s.cancelEffect.bubbles
          else s.cancelEffect.bubbles
        session :=
          s.session.map fun session => { session with cursor := session.cursor + 1 } } := by
  unfold leaveStep advance
  by_cases h : s.step?.any Step.isSay <;> simp [h]

end State

namespace Stage

/-! ## Executing a step -/

/-- The six ways in which a step is executed: the stage afterwards and what is left to wait for. -/
inductive Execution (s : Stage) (step : Step) : Stage → Option Effect → Prop
  /-- A line without text gets its bubble and is not typed. -/
  | silent (line : Line) (id : String) (ids : Random.Source) (h : step.action = .say line)
    (hl : line.length = 0) :
    Execution s step
      { s with ids, state := { s.state with bubbles := s.state.bubbles ++ [.start id line] } } none
  /-- A line gets its bubble and is typed. -/
  | line (line : Line) (id : String) (ids : Random.Source) (h : step.action = .say line)
    (hl : line.length ≠ 0) :
    Execution s step
      { s with
        ids
        state := { s.state with bubbles := s.state.bubbles ++ [.start id line], typing := true } }
      (some (.typing line.length))
  /-- A pause changes nothing and is waited out. -/
  | pause (millis : UInt64) (length : Duration) (h : step.action = .pause millis)
    (hp : s.settings.scaledPause? millis = some length) : Execution s step s (some (.pause length))
  /-- An assignment writes its variables over the others. -/
  | assign (values : Variables) (h : step.action = .assign values) :
    Execution s step
      { s with state := { s.state with values := s.state.values.overlay values } } none
  /-- A reset takes the bubbles away and rests. -/
  | reset (h : step.action = .reset) :
    Execution s step { s with state := s.state.clearBubbles }
      (some (.settle s.settings.settleDelay))
  /-- The end of the scene takes the bubbles away and rests. -/
  | complete (h : step.action = .complete) :
    Execution s step { s with state := s.state.endSession.clearBubbles }
      (some (.settle s.settings.settleDelay))

/-- A step that is executed is executed in one of the six ways. -/
theorem execution_of_execute {s s₁ : Stage} {step : Step} {effect : Option Effect}
    (h : s.execute step = .ok (s₁, effect)) : Execution s step s₁ effect := by
  unfold execute at h
  cases ha : step.action with
  | say line =>
    simp only [ha] at h
    split at h
    next hl =>
      cases h
      exact .silent line _ _ ha hl
    next hl =>
      cases h
      exact .line line _ _ ha hl
  | pause millis =>
    simp only [ha] at h
    cases hp : s.settings.scaledPause? millis with
    | none => simp [hp] at h
    | some length =>
      simp only [hp] at h
      cases h
      exact .pause millis length ha hp
  | assign values =>
    simp only [ha] at h
    cases h
    exact .assign values ha
  | reset =>
    simp only [ha] at h
    cases h
    exact .reset ha
  | complete =>
    simp only [ha] at h
    cases h
    exact .complete ha

/-- A step is refused exactly if it is a pause that is out of range once it has been scaled. -/
theorem execute_error_iff {s : Stage} {step : Step} {e : PlayError} :
    s.execute step = .error e ↔
      e = .pauseTooLong ∧
        ∃ millis, step.action = .pause millis ∧ s.settings.scaledPause? millis = none := by
  unfold execute
  cases ha : step.action with
  | say line =>
    by_cases hl : (Bubble.start (Random.identifier s.ids).1 line).length = 0 <;> simp [hl]
  | pause millis =>
    cases hp : s.settings.scaledPause? millis with
    | none => simp [hp, eq_comm]
    | some length => simp [hp]
  | assign values => simp
  | reset => simp
  | complete => simp

namespace Execution

variable {s s₁ : Stage} {step : Step} {effect : Option Effect}

/-- The scenes stay. -/
lemma repertoire_eq (h : Execution s step s₁ effect) : s₁.repertoire = s.repertoire := by
  cases h <;> rfl

/-- The settings stay. -/
lemma settings_eq (h : Execution s step s₁ effect) : s₁.settings = s.settings := by
  cases h <;> rfl

/-- No ticket is drawn before the effect is started. -/
lemma generation_eq (h : Execution s step s₁ effect) :
    s₁.state.generation = s.state.generation := by cases h <;> rfl

/-- The running effect stays what it is before another is started. -/
lemma running_eq (h : Execution s step s₁ effect) : s₁.state.running = s.state.running := by
  cases h <;> rfl

/-- The scene goes on after every step but the one that completes it. -/
lemma session_eq (h : Execution s step s₁ effect) (hstep : step.isComplete = false) :
    s₁.state.session = s.state.session := by
  cases h with
  | complete ha => simp [Step.isComplete, Step.kind, Action.kind, ha] at hstep
  | _ => rfl

/-- The step that completes its scene ends it and leaves a rest to wait for. -/
lemma of_isComplete (h : Execution s step s₁ effect) (hstep : step.isComplete = true) :
    s₁ = { s with state := s.state.endSession.clearBubbles } ∧
      effect = some (.settle s.settings.settleDelay) := by
  cases h with
  | complete => exact ⟨rfl, rfl⟩
  | silent _ _ _ ha | line _ _ _ ha | pause _ _ ha | assign _ ha | reset ha =>
    simp [Step.isComplete, Step.kind, Action.kind, ha] at hstep

end Execution

/-! ## Between two steps -/

/-- Starts the effect that a step has left to wait for, if it has left one. -/
def awaiting (s : Stage) (step : Step) : Option Effect → Stage
  | none => s
  | some effect => { s with state := (s.state.startEffect step.autoAdvance effect.isTyping).1 }

/-- Leaves the current step for the next one. -/
def leave (s : Stage) : Stage := { s with state := s.state.leaveStep }

/-- Puts a scene on, at its first step. -/
def enter (s : Stage) (scene : Scene) : Stage :=
  { s with state := s.state.cancelEffect.startSession scene }

/-- Takes everything away that the scene has put on screen and puts it on again. -/
def rewind (s : Stage) (scene : Scene) : Stage :=
  Stage.enter { s with state := s.state.clearPlayback } scene

/-- Takes away the running effect that a ticket belongs to. A line that was typed is shown whole. -/
def finish (s : Stage) (ticket : Ticket) : Stage :=
  match s.state.finishEffect? ticket with
  | none => s
  | some (effect, state) =>
    { s with state := if effect.typing then state.completeTyping else state }

@[simp] lemma awaiting_none (s : Stage) (step : Step) : s.awaiting step none = s := rfl

@[simp] lemma repertoire_awaiting (s : Stage) (step : Step) (effect : Option Effect) :
    (s.awaiting step effect).repertoire = s.repertoire := by cases effect <;> rfl

@[simp] lemma settings_awaiting (s : Stage) (step : Step) (effect : Option Effect) :
    (s.awaiting step effect).settings = s.settings := by cases effect <;> rfl

@[simp] lemma session_awaiting (s : Stage) (step : Step) (effect : Option Effect) :
    (s.awaiting step effect).state.session = s.state.session := by cases effect <;> rfl

@[simp] lemma repertoire_leave (s : Stage) : s.leave.repertoire = s.repertoire := rfl

@[simp] lemma settings_leave (s : Stage) : s.leave.settings = s.settings := rfl

@[simp] lemma repertoire_enter (s : Stage) (scene : Scene) :
    (s.enter scene).repertoire = s.repertoire := rfl

@[simp] lemma settings_enter (s : Stage) (scene : Scene) :
    (s.enter scene).settings = s.settings := rfl

@[simp] lemma session_enter (s : Stage) (scene : Scene) :
    (s.enter scene).state.session = some ⟨scene, 0⟩ := rfl

@[simp] lemma repertoire_rewind (s : Stage) (scene : Scene) :
    (s.rewind scene).repertoire = s.repertoire := rfl

@[simp] lemma settings_rewind (s : Stage) (scene : Scene) :
    (s.rewind scene).settings = s.settings := rfl

@[simp] lemma session_rewind (s : Stage) (scene : Scene) :
    (s.rewind scene).state.session = some ⟨scene, 0⟩ := rfl

@[simp] lemma repertoire_finish (s : Stage) (ticket : Ticket) :
    (s.finish ticket).repertoire = s.repertoire := by unfold finish; split <;> rfl

@[simp] lemma settings_finish (s : Stage) (ticket : Ticket) :
    (s.finish ticket).settings = s.settings := by unfold finish; split <;> rfl

/-- Leaving a step moves the cursor to the next one. -/
lemma session_leave {s : Stage} {scene : Scene} {c : ℕ}
    (h : s.state.session = some ⟨scene, c⟩) : s.leave.state.session = some ⟨scene, c + 1⟩ := by
  simp [leave, State.leaveStep_eq, h]

/-- The scene goes on at the same step when an effect ends. -/
@[simp] lemma session_finish (s : Stage) (ticket : Ticket) :
    (s.finish ticket).state.session = s.state.session := by
  unfold finish
  split
  · rfl
  next effect state h =>
    obtain ⟨-, -, rfl⟩ := State.finishEffect?_eq_some_iff.1 h
    split <;> rfl

/-- A report under any other ticket than that of the running effect ends nothing. -/
lemma finish_of_not_isCurrent {s : Stage} {ticket : Ticket}
    (h : s.state.isCurrent ticket = false) : s.finish ticket = s := by
  simp [finish, State.finishEffect?_eq_none_iff.2 h]

/-- The end of the running effect takes it away as dropping it does. -/
lemma finish_of_isCurrent {s : Stage} {ticket : Ticket} (h : s.state.isCurrent ticket = true) :
    s.finish ticket = { s with state := s.state.cancelEffect } := by
  unfold State.isCurrent at h
  unfold finish State.finishEffect? State.cancelEffect
  cases hr : s.state.running with
  | none => simp [hr] at h
  | some effect =>
    have ht : effect.ticket = ticket := by simpa [hr] using h
    simp [ht]

/-- The report of a character shows one more of the newest bubble, or nothing. -/
lemma reveal_fst (s : Stage) (ticket : Ticket) :
    (s.reveal ticket).1 =
      { s with
        state := { s.state with
          bubbles := if s.state.isCurrent ticket && s.state.typing
            then modifyLast (fun bubble => bubble.revealNext.2) s.state.bubbles
            else s.state.bubbles } } := by
  unfold reveal
  by_cases h : (s.state.isCurrent ticket && s.state.typing) = true
  · rw [if_pos h, if_pos h]
    rcases List.eq_nil_or_concat s.state.bubbles with hnil | ⟨past, bubble, hpast⟩
    · simp only [hnil, List.getLast?_nil, modifyLast]
      rw [← hnil]
    · simp [hpast]
  · rw [if_neg h, if_neg h]

@[simp] lemma repertoire_reveal (s : Stage) (ticket : Ticket) :
    (s.reveal ticket).1.repertoire = s.repertoire := by rw [reveal_fst]

@[simp] lemma settings_reveal (s : Stage) (ticket : Ticket) :
    (s.reveal ticket).1.settings = s.settings := by rw [reveal_fst]

@[simp] lemma session_reveal (s : Stage) (ticket : Ticket) :
    (s.reveal ticket).1.state.session = s.state.session := by rw [reveal_fst]

/-! ## Rounds of performing -/

section Rounds

variable {s s₁ : Stage} {step : Step} {rest : List Step}

/-- A step that is refused ends the round with the error. -/
lemma perform_of_error {e : PlayError} (h : s.execute step = .error e) :
    s.perform (step :: rest) = (s, .error e) := by simp [perform, h]

/-- A step with an effect is waited for. -/
lemma perform_of_effect {effect : Effect} (h : s.execute step = .ok (s₁, some effect)) :
    s.perform (step :: rest) =
      (s₁.awaiting step (some effect), .ok (some ⟨⟨s₁.state.generation + 1⟩, effect⟩)) := by
  simp [perform, h, awaiting, State.startEffect]

/-- A step without an effect is waited at, unless it advances by itself. -/
lemma perform_of_stop (h : s.execute step = .ok (s₁, none))
    (hgo : (step.autoAdvance && s₁.state.isActive) = false) :
    s.perform (step :: rest) = (s₁, .ok none) := by simp [perform, h, hgo]

/-- A step without an effect that advances by itself is left for the next one. -/
lemma perform_of_pass (h : s.execute step = .ok (s₁, none))
    (hgo : (step.autoAdvance && s₁.state.isActive) = true) :
    s.perform (step :: rest) = s₁.leave.perform rest := by simp [perform, h, hgo, leave]

/-- Performing from the cursor performs the steps of the scene from there on. -/
lemma performFromCursor_eq {scene : Scene} {c : ℕ} (h : s.state.session = some ⟨scene, c⟩) :
    s.performFromCursor = s.perform (scene.steps.drop c) := by simp [performFromCursor, h]

end Rounds

/-! ## Operations in these words -/

/-- While a scene is played, a trigger does nothing. -/
lemma trigger_of_isActive {s : Stage} (h : s.state.isActive = true) (name : String) :
    s.trigger name = (s, .ok none) := by simp [trigger, h]

/-- Between scenes, a trigger of an unknown scene fails and does nothing. -/
lemma trigger_of_get?_eq_none {s : Stage} {name : String} (h : s.state.isActive = false)
    (hname : s.repertoire.get? name = none) :
    s.trigger name = (s, .error (.sceneNotFound name)) := by
  simp [trigger, h, Repertoire.find, hname, PlayError.ofSceneError]

/-- Between scenes, a trigger puts a scene on and performs it from its first step. -/
lemma trigger_of_get?_eq_some {s : Stage} {name : String} {scene : Scene}
    (h : s.state.isActive = false) (hname : s.repertoire.get? name = some scene) :
    s.trigger name = (s.enter scene).perform scene.steps := by
  simp [trigger, h, Repertoire.find, hname, enter, performFromCursor, State.startSession]

/-- Between scenes, proceeding does nothing. -/
lemma proceed_of_not_isActive {s : Stage} (h : s.state.isActive = false) :
    s.proceed = (s, .ok none) := by simp [proceed, h]

/-- Proceeding leaves the current step and performs from the next one. -/
lemma proceed_of_session {s : Stage} {scene : Scene} {c : ℕ}
    (h : s.state.session = some ⟨scene, c⟩) :
    s.proceed = s.leave.perform (scene.steps.drop (c + 1)) := by
  rw [proceed, if_pos (State.isActive_of_session h)]
  exact performFromCursor_eq (session_leave h)

/-- A confirmation does as proceeding does, or nothing. -/
lemma confirm_eq (s : Stage) :
    s.confirm = if s.state.step?.any s.state.mayLeave then s.proceed else (s, .ok none) := by
  unfold confirm
  split
  next step h => simp [h]
  next h => simp [h]

/-- Between scenes, starting over does nothing. -/
lemma restart_of_session_eq_none {s : Stage} (h : s.state.session = none) :
    s.restart = (s, .ok none) := by simp [restart, h]

/-- Starting over puts the scene on again and performs it from its first step. -/
lemma restart_of_session {s : Stage} {scene : Scene} {c : ℕ}
    (h : s.state.session = some ⟨scene, c⟩)
    (hscene : s.repertoire.get? scene.name = some scene) :
    s.restart = (s.rewind scene).perform scene.steps := by
  simp only [restart, h]
  exact trigger_of_get?_eq_some rfl hscene

/-- The end of an effect takes it away, and leaves its step if the step asks for it. -/
lemma resolve_eq (s : Stage) (ticket : Ticket) :
    s.resolve ticket =
      if s.state.running.any fun e => e.ticket == ticket && e.autoAdvance
      then (s.finish ticket).proceed else (s.finish ticket, .ok none) := by
  unfold resolve finish State.finishEffect?
  cases hr : s.state.running with
  | none => simp
  | some effect =>
    by_cases ht : effect.ticket = ticket
    · simp [ht]
    · simp [ht]

end Stage

end Cutscene
