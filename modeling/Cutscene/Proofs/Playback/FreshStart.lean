import Cutscene.Proofs.Playback.Screen
import Cutscene.Proofs.Playback.Starts
import Cutscene.Proofs.Playback.Values

set_option relaxedAutoImplicit false
set_option autoImplicit false

/-!
# Scenes start afresh

A scene is put on after others, in the middle of a rest or of itself. None of that shows: it runs as
it would where nothing has been played before, over the same variables. What differs are the
identifiers of bubbles, which are drawn from where the stream has got to, and the numbers of
tickets, which are drawn from a counter that is never set back.

## Main definitions

* `Cutscene.State.outline` — a state without identifiers and numbers.
* `Cutscene.Stage.Alike` — stages that differ in nothing else.
* `Cutscene.Stage.SameOutcome` — what comes of two operations differs in nothing else.
* `Cutscene.Stage.freshOver` — a stage on which nothing has been played, over given variables.
* `Cutscene.Stage.StartsAfresh` — an operation starts a scene as on such a stage.

## Main results

* `Cutscene.Stage.Alike.perform` — what performing does shows no identifiers and no numbers.
* `Cutscene.Stage.number_le_of_mem_issued` — tickets that were handed out have been drawn.
* `Cutscene.Stage.starts_afresh` — a trigger and a restart start scenes afresh after every run.

## Design

Two runs are compared by what is left of their states once identifiers and numbers are struck out,
so that nothing has to be said of how the identifiers of the one correspond to those of the other.
The steps that are compared draw identifiers and numbers, but none looks at them.
-/

namespace Cutscene

/-! ## Outlines -/

/-- A bubble without its identifier. -/
def Bubble.outline (b : Bubble) : Bubble := { b with id := "" }

/-- The record of an effect without its number. -/
def Running.outline (effect : Running) : Running := { effect with ticket := ⟨0⟩ }

namespace State

/-- A state without the identifiers of bubbles and without the numbers of tickets. -/
def outline (s : State) : State :=
  { s with
    bubbles := s.bubbles.map Bubble.outline
    generation := 0
    running := s.running.map Running.outline }

@[simp] lemma session_outline (s : State) : s.outline.session = s.session := rfl

@[simp] lemma step?_outline (s : State) : s.outline.step? = s.step? := rfl

/-- What is done to the last bubble without a look at its identifier can be done in outline. -/
lemma map_outline_modifyLast {f : Bubble → Bubble} (hf : ∀ b, (f b).outline = f b.outline)
    (bubbles : List Bubble) :
    (modifyLast f bubbles).map Bubble.outline = modifyLast f (bubbles.map Bubble.outline) := by
  rcases List.eq_nil_or_concat bubbles with rfl | ⟨past, newest, rfl⟩
  · rfl
  · simp [hf]

@[simp] lemma map_outline_revealAll (bubbles : List Bubble) :
    (modifyLast Bubble.revealAll bubbles).map Bubble.outline =
      modifyLast Bubble.revealAll (bubbles.map Bubble.outline) :=
  map_outline_modifyLast (f := Bubble.revealAll) (fun _ => rfl) bubbles

@[simp] lemma map_outline_hideProceed (bubbles : List Bubble) :
    (modifyLast Bubble.hideProceed bubbles).map Bubble.outline =
      modifyLast Bubble.hideProceed (bubbles.map Bubble.outline) :=
  map_outline_modifyLast (f := Bubble.hideProceed) (fun _ => rfl) bubbles

/-- Dropping the running effect can be done in outline. -/
lemma outline_cancelEffect (s : State) : s.cancelEffect.outline = s.outline.cancelEffect := by
  unfold cancelEffect
  cases hrunning : s.running with
  | none => simp [outline, hrunning]
  | some effect =>
    cases htyping : effect.typing <;>
      simp [outline, hrunning, Running.outline, htyping, completeTyping]

/-- Leaving a step can be done in outline. -/
lemma outline_leaveStep (s : State) : s.leaveStep.outline = s.outline.leaveStep := by
  rw [leaveStep_eq, leaveStep_eq, ← outline_cancelEffect, step?_outline, session_outline]
  split <;> simp [outline]

/-- Taking everything away can be done in outline. -/
lemma outline_clearPlayback (s : State) : s.clearPlayback.outline = s.outline.clearPlayback := by
  rw [clearPlayback, clearPlayback, ← outline_cancelEffect]
  rfl

end State

namespace Stage

variable {r : Repertoire} {settings : Settings} {s s' : Stage} {op : Operation} {scene : Scene}
  {c : ℕ} {step : Step} {effect : Option Effect}

/-! ## Stages that are alike -/

/-- Stages that differ in the identifiers of bubbles and the numbers of tickets at most. -/
structure Alike (s s' : Stage) : Prop where
  /-- Scenes are played in the same way. -/
  settings : s'.settings = s.settings
  /-- The states are the same in outline. -/
  outline : s'.state.outline = s.state.outline

/-- What comes of two operations differs in identifiers and numbers at most: the states are the same
in outline, and so are the effects that are handed out, or the errors. -/
structure SameOutcome (result result' : Stage × Outcome) : Prop where
  /-- The states. -/
  state : result'.1.state.outline = result.1.state.outline
  /-- The effects, or the errors. -/
  outcome : result'.2.map (Option.map Pending.effect) = result.2.map (Option.map Pending.effect)

/-- Stages that are alike play the same scene, and are at the same place in it. -/
lemma Alike.session_eq (h : Alike s s') : s'.state.session = s.state.session := by
  rw [← State.session_outline s'.state, h.outline, State.session_outline]

/-- A line draws an identifier for its bubble. -/
lemma execute_of_say {line : Line} (h : step.action = .say line) (s : Stage) :
    ∃ id ids, s.execute step =
      .ok ({ s with
          ids
          state := { s.state with
            bubbles := s.state.bubbles ++ [.start id line]
            typing := s.state.typing || !decide (line.length = 0) } },
        if line.length = 0 then none else some (.typing line.length)) := by
  refine ⟨(Random.identifier s.ids).1, (Random.identifier s.ids).2, ?_⟩
  simp only [Stage.execute, h, Bubble.start]
  by_cases hlength : line.length = 0 <;> simp [hlength]

/-- **Executing a step** keeps stages alike, and leaves the same to wait for.

**Proof sketch.** By the kind of the step. A line draws an identifier, and its bubble is the same
without it; all else is done to what is the same in both. -/
lemma Alike.execute (h : Alike s s') (step : Step) :
    (∃ e, s.execute step = .error e ∧ s'.execute step = .error e) ∨
      ∃ s₁ s₁' effect, s.execute step = .ok (s₁, effect) ∧ s'.execute step = .ok (s₁', effect) ∧
        Alike s₁ s₁' := by
  obtain ⟨hsettings, houtline⟩ := h
  simp only [State.outline, State.mk.injEq] at houtline
  obtain ⟨hsession, hbubbles, hvalues, htyping, -, hrunning⟩ := houtline
  cases haction : step.action with
  | say line =>
    obtain ⟨id, ids, hexec⟩ := execute_of_say haction s
    obtain ⟨id', ids', hexec'⟩ := execute_of_say haction s'
    refine Or.inr ⟨_, _, _, hexec, hexec', hsettings, ?_⟩
    simp [State.outline, Bubble.outline, Bubble.start, *]
  | pause millis =>
    simp only [Stage.execute, haction, hsettings]
    cases hpause : s.settings.scaledPause? millis with
    | none => exact Or.inl ⟨.pauseTooLong, rfl, rfl⟩
    | some length =>
      exact Or.inr ⟨s, s', _, rfl, rfl, hsettings, by simp [State.outline, *]⟩
  | assign values =>
    simp only [Stage.execute, haction]
    exact Or.inr ⟨_, _, _, rfl, rfl, hsettings, by simp [State.outline, *]⟩
  | reset =>
    simp only [Stage.execute, haction, hsettings]
    exact Or.inr ⟨_, _, _, rfl, rfl, rfl, by simp [State.outline, State.clearBubbles, *]⟩
  | complete =>
    simp only [Stage.execute, haction, hsettings]
    exact Or.inr ⟨_, _, _, rfl, rfl, rfl,
      by simp [State.outline, State.clearBubbles, State.endSession, *]⟩

/-- Leaving a step keeps stages alike. -/
lemma Alike.leave (h : Alike s s') : Alike s.leave s'.leave := by
  refine ⟨h.settings, ?_⟩
  rw [Stage.leave, Stage.leave, State.outline_leaveStep, State.outline_leaveStep, h.outline]

/-- Waiting for an effect keeps stages alike. -/
lemma Alike.awaiting (h : Alike s s') (step : Step) (effect : Option Effect) :
    Alike (s.awaiting step effect) (s'.awaiting step effect) := by
  obtain ⟨hsettings, houtline⟩ := h
  cases effect with
  | none => exact ⟨hsettings, houtline⟩
  | some effect =>
    simp only [State.outline, State.mk.injEq] at houtline
    obtain ⟨hsession, hbubbles, hvalues, htyping, -, -⟩ := houtline
    exact ⟨hsettings,
      by simp [Stage.awaiting, State.startEffect, State.outline, Running.outline, *]⟩

/-- **What performing does** shows no identifiers and no numbers.

**Proof sketch.** Induction on the steps, by the rounds of performing. -/
theorem Alike.perform (h : Alike s s') (steps : List Step) :
    SameOutcome (s.perform steps) (s'.perform steps) := by
  induction steps generalizing s s' with
  | nil =>
    simp only [Stage.perform, overrun, h.session_eq]
    split
    · refine ⟨?_, rfl⟩
      rw [State.outline_clearPlayback, State.outline_clearPlayback, h.outline]
    · exact ⟨h.outline, rfl⟩
  | cons step rest ih =>
    rcases h.execute step with ⟨e, hexec, hexec'⟩ | ⟨s₁, s₁', effect, hexec, hexec', hnext⟩
    · rw [perform_of_error hexec, perform_of_error hexec']
      exact ⟨h.outline, rfl⟩
    · cases effect with
      | some effect =>
        rw [perform_of_effect hexec, perform_of_effect hexec']
        exact ⟨(hnext.awaiting step (some effect)).outline, rfl⟩
      | none =>
        have hactive : s₁'.state.isActive = s₁.state.isActive := by
          rw [State.isActive, State.isActive, hnext.session_eq]
        cases hgo : step.autoAdvance && s₁.state.isActive with
        | false =>
          rw [perform_of_stop hexec hgo, perform_of_stop hexec' (by rwa [hactive])]
          exact ⟨hnext.outline, rfl⟩
        | true =>
          rw [perform_of_pass hexec hgo, perform_of_pass hexec' (by rwa [hactive])]
          exact ih hnext.leave

/-! ## Tickets that were handed out -/

/-- No run takes a number back. -/
lemma generation_le_run (s : Stage) (ops : List Operation) :
    s.state.generation ≤ (s.run ops).state.generation := by
  induction ops generalizing s with
  | nil => exact Nat.le_refl _
  | cons op ops ih => exact Nat.le_trans (generation_le_apply s op) (ih _)

/-- Tickets that were handed out along a run have been drawn. -/
lemma number_le_of_mem_issued {p : Pending} {ops : List Operation} (h : p ∈ s.issued ops) :
    p.ticket.number ≤ (s.run ops).state.generation := by
  induction ops generalizing s with
  | nil => cases h
  | cons op ops ih =>
    rcases List.mem_append.1 h with h | h
    · obtain ⟨hnumber, hgeneration⟩ := (renewal_of_pending (by simpa using h)).number_eq
      rw [hnumber, ← hgeneration]
      exact generation_le_run _ ops
    · exact ih h

/-! ## Scenes start afresh -/

/-- A stage on which nothing has been played, over given variables. -/
def freshOver (r : Repertoire) (settings : Settings) (ids : Random.Source) (values : Variables) :
    Stage := ⟨r, settings, ids, { State.idle with values }⟩

/-- An operation starts a scene as if nothing had been played before but for the variables. -/
structure StartsAfresh (s : Stage) (issued : List Pending) (op : Operation) (scene : Scene) :
    Prop where
  /-- The scene is the one of its name. -/
  registered : s.repertoire.get? scene.name = some scene
  /-- What comes of the operation is what comes of a trigger of the scene where nothing has been
  played, whatever identifiers are drawn there. -/
  same : ∀ ids, SameOutcome
    ((freshOver s.repertoire s.settings ids s.state.values).trigger scene.name) (s.apply op)
  /-- The scene is found. -/
  found : ∀ name, (s.apply op).2 ≠ .error (.sceneNotFound name)
  /-- No ticket that was handed out before is current afterwards. -/
  expired : ∀ p ∈ issued, (s.apply op).1.state.isCurrent p.ticket = false

/-- A scene that is put on shows nothing of what has been on screen before. -/
lemma outline_of_screenBefore (h : ScreenBefore scene 0 s)
    (hsession : s.state.session = some ⟨scene, 0⟩) :
    s.state.outline = ⟨some ⟨scene, 0⟩, [], s.state.values, false, 0, none⟩ := by
  have hbubbles : s.state.bubbles = [] := by simpa [linesOnScreen] using h.lines
  simp [State.outline, hsession, hbubbles, h.typing, h.running]

/-- An operation that performs a scene from its start with an empty screen starts it afresh.

**Proof sketch.** The stage that is performed from is that of the trigger in outline, and performing
keeps that (`Alike.perform`). The effect that was running has been taken away, and its number lies
below that of the next. -/
lemma Starts.startsAfresh {s₀ : Stage} {issued : List Pending} (h : Starts s op scene 0 s₀)
    (hscreen : ScreenBefore scene 0 s₀) (hvalues : s₀.state.values = s.state.values)
    (hscene : s.repertoire.get? scene.name = some scene)
    (hissued : ∀ p ∈ issued, p.ticket.number ≤ s.state.generation) :
    s.StartsAfresh issued op scene := by
  refine ⟨hscene, fun ids => ?_, fun name herror => ?_, fun p hp => ?_⟩
  · let fresh := freshOver s.repertoire s.settings ids s.state.values
    have hfresh : Starts fresh (.trigger scene.name) scene 0 (fresh.enter scene) :=
      .trigger rfl hscene
    have halike : Alike (fresh.enter scene) s₀ := by
      refine ⟨h.settings_eq, ?_⟩
      rw [outline_of_screenBefore hscreen h.session_eq,
        outline_of_screenBefore (screenBefore_enter rfl rfl) hfresh.session_eq, hvalues]
      rfl
    have hsame := halike.perform (scene.steps.drop 0)
    rwa [← h.apply_eq, ← hfresh.apply_eq] at hsame
  · obtain ⟨k, step, -, hlanded⟩ := h.landing
    generalize s.apply op = result at hlanded herror
    cases hlanded <;> cases herror
  · exact ((renewal_apply h.drops_eq).expired (hissued p hp)).stopped

/-- The two operations that start a scene do so afresh. -/
structure EveryStartFresh (s : Stage) (issued : List Pending) : Prop where
  /-- A trigger between scenes. -/
  trigger : ∀ name scene, s.state.session = none → s.repertoire.get? name = some scene →
    scene.name = name ∧ s.StartsAfresh issued (.trigger name) scene
  /-- Starting over. -/
  restart : ∀ scene c, s.state.session = some ⟨scene, c⟩ → s.StartsAfresh issued .restart scene
  /-- Starting over never misses its scene, also where there is none to start over. -/
  known : ∀ name, (s.apply .restart).2 ≠ .error (.sceneNotFound name)

/-- **A trigger and a restart start scenes afresh**, whatever has been done before: neither a rest
that is still running, nor a line that is half typed, nor an effect that would have gone on by
itself leaves a trace.

**Proof sketch.** By the discipline of the screen nothing is on screen where a scene is put on, and
the scene that is started over lies under its own name. -/
theorem starts_afresh (r : Repertoire) (settings : Settings) (ids : Random.Source)
    (ops : List Operation) :
    ((opening r settings ids).run ops).EveryStartFresh ((opening r settings ids).issued ops) := by
  have hreach := (reachable_opening r settings ids).run ops
  have hissued : ∀ p ∈ (opening r settings ids).issued ops,
      p.ticket.number ≤ ((opening r settings ids).run ops).state.generation :=
    fun p hp => number_le_of_mem_issued hp
  generalize (opening r settings ids).run ops = s at hreach hissued ⊢
  have hscreen := holds_screen hreach
  have hrestart : ∀ scene c, s.state.session = some ⟨scene, c⟩ →
      s.StartsAfresh ((opening r settings ids).issued ops) .restart scene := by
    intro scene c hsession
    obtain ⟨hscene, step, hs, -, hat⟩ := hscreen.during hsession
    exact (Starts.restart hs hscene).startsAfresh (screen.rewind hs hat) (values_rewind s scene)
      hscene hissued
  refine ⟨fun name scene hsession hname => ?_, hrestart, fun name => ?_⟩
  · obtain ⟨hbubbles, htyping⟩ := hscreen.between hsession
    obtain rfl := s.repertoire.name_of_get? hname
    exact ⟨rfl, (Starts.trigger hsession hname).startsAfresh
      (screenBefore_enter hbubbles htyping) (values_enter s _) hname hissued⟩
  · cases hsession : s.state.session with
    | none =>
      rw [apply, restart_of_session_eq_none hsession]
      simp
    | some session => exact (hrestart session.scene session.cursor hsession).found name

end Stage

end Cutscene
