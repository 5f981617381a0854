import Cutscene.Proofs.Playback.Performing
import Cutscene.Proofs.Playback.Run
import Cutscene.Proofs.Scene.Repertoire

set_option relaxedAutoImplicit false
set_option autoImplicit false

/-!
# Disciplines of playing

What is true of a stage between two operations is kept by six operations, by chains of steps that
advance by themselves, and by late reports. The induction behind all that is always the same, and
this file makes it once. A *discipline* says what is true when a step is about to be performed, when
it has been performed and not been left, and when no scene is played; its laws are about a single
step, a single report, and a single way of leaving a step.

## Main definitions

* `Cutscene.Stage.Discipline` — the three conditions with their laws.
* `Cutscene.Stage.Discipline.Holds` — a stage that keeps to a discipline. Its cursor is within a
  scene of the repertoire, at a step that does not complete it.

## Main results

* `Cutscene.Stage.Discipline.holds_perform` — performing keeps to a discipline and never runs over
  the end of a scene.
* `Cutscene.Stage.Discipline.holds_apply` — so does every operation that puts no new scene on.
* `Cutscene.Stage.Discipline.holds_trigger` — and a trigger, if scenes are entered as the
  discipline asks for.
* `Cutscene.Stage.Discipline.holds_of_reachable` — every reachable stage keeps to a discipline.
-/

namespace Cutscene

namespace Stage

/-- What is true of a stage while it plays scenes, and why it stays true. -/
structure Discipline where
  /-- The step at the cursor is about to be performed. -/
  Before : Scene → ℕ → Stage → Prop
  /-- The step at the cursor has been performed and has not been left. -/
  At : Scene → ℕ → Stage → Prop
  /-- No scene is played. -/
  Over : Stage → Prop
  /-- A step is performed. -/
  perform : ∀ {scene c s step s₁ effect}, StandsAt s scene c step → Before scene c s →
    Execution s step s₁ effect → step.isComplete = false → At scene c (s₁.awaiting step effect)
  /-- The scene is completed. -/
  complete : ∀ {scene c s step s₁ effect}, StandsAt s scene c step → Before scene c s →
    Execution s step s₁ effect → step.isComplete = true → Over (s₁.awaiting step effect)
  /-- A pause is refused. -/
  refuse : ∀ {scene c s step millis}, StandsAt s scene c step → Before scene c s →
    step.action = .pause millis → At scene c s
  /-- A step is left. -/
  leave : ∀ {scene c s step}, StandsAt s scene c step → At scene c s → Before scene (c + 1) s.leave
  /-- The scene is started over. -/
  rewind : ∀ {scene c s step}, StandsAt s scene c step → At scene c s →
    Before scene 0 (s.rewind scene)
  /-- A character is reported. -/
  reveal : ∀ {scene c s step ticket}, StandsAt s scene c step → At scene c s →
    At scene c (s.reveal ticket).1
  /-- The end of an effect is reported. -/
  finish : ∀ {scene c s step ticket}, StandsAt s scene c step → At scene c s →
    At scene c (s.finish ticket)
  /-- A character is reported between scenes. -/
  reveal_over : ∀ {s ticket}, s.state.session = none → Over s → Over (s.reveal ticket).1
  /-- The end of an effect is reported between scenes. -/
  finish_over : ∀ {s ticket}, s.state.session = none → Over s → Over (s.finish ticket)

namespace Discipline

/-- A stage keeps to a discipline. If a scene is played, it is a scene of the repertoire, found
under its own name, and the cursor stands at one of its steps that does not complete it. -/
structure Holds (d : Discipline) (s : Stage) : Prop where
  /-- Between scenes. -/
  between : s.state.session = none → d.Over s
  /-- During a scene. -/
  during : ∀ {scene c}, s.state.session = some ⟨scene, c⟩ →
    s.repertoire.get? scene.name = some scene ∧
      ∃ step, StandsAt s scene c step ∧ step.isComplete = false ∧ d.At scene c s

variable {d : Discipline} {s : Stage} {scene : Scene} {c : ℕ}

/-- A stage that has performed a step and has not left it keeps to the discipline. -/
lemma Holds.of_at {step : Step} (hscene : s.repertoire.get? scene.name = some scene)
    (hs : StandsAt s scene c step) (hstep : step.isComplete = false) (h : d.At scene c s) :
    d.Holds s where
  between hnone := by simp [hs.session] at hnone
  during := by
    intro scene' c' hsession
    cases hs.session.symm.trans hsession
    exact ⟨hscene, step, hs, hstep, h⟩

/-- A stage that plays no scene keeps to the discipline if it is as it should be between scenes. -/
lemma Holds.of_over (hs : s.state.session = none) (h : d.Over s) : d.Holds s where
  between _ := h
  during := by
    intro scene c hsession
    simp [hs] at hsession

/-- **Performing keeps to the discipline**: from a step that is about to be performed, the stage
comes to rest at a step of the scene, or completes it. -/
theorem holds_perform (hscene : s.repertoire.get? scene.name = some scene)
    (hsession : s.state.session = some ⟨scene, c⟩) (hc : c < scene.steps.length)
    (hbefore : d.Before scene c s) : d.Holds (s.perform (scene.steps.drop c)).1 := by
  refine perform_induction (Q := fun result => d.Holds result.1)
    (P := fun c s => s.repertoire.get? scene.name = some scene ∧ d.Before scene c s)
    ?_ ?_ ?_ ?_ hsession hc ⟨hscene, hbefore⟩
  · rintro c s step millis hs ⟨hscene, hbefore⟩ hpause -
    have hcomplete : step.isComplete = false := by
      simp [Step.isComplete, Step.kind, Action.kind, hpause]
    exact .of_at hscene hs hcomplete (d.refuse hs hbefore hpause)
  · rintro c s step s₁ effect hs ⟨hscene, hbefore⟩ hex
    cases hcomplete : step.isComplete with
    | true =>
      obtain ⟨rfl, -⟩ := hex.of_isComplete hcomplete
      exact .of_over rfl (d.complete hs hbefore hex hcomplete)
    | false =>
      have hscene₁ : s₁.repertoire.get? scene.name = some scene := by rwa [hex.repertoire_eq]
      exact .of_at hscene₁ ⟨(hs.executed hex hcomplete).session, hs.current⟩ hcomplete
        (d.perform hs hbefore hex hcomplete)
  · rintro c s step s₁ hs ⟨hscene, hbefore⟩ hex -
    have hcomplete : step.isComplete = false := hex.isComplete_eq_false
    have hscene₁ : s₁.repertoire.get? scene.name = some scene := by rwa [hex.repertoire_eq]
    exact .of_at hscene₁ (hs.executed hex hcomplete) hcomplete (d.perform hs hbefore hex hcomplete)
  · rintro c s step s₁ hs ⟨hscene, hbefore⟩ hex -
    have hcomplete : step.isComplete = false := hex.isComplete_eq_false
    have hscene₁ : s₁.repertoire.get? scene.name = some scene := by rwa [hex.repertoire_eq]
    exact ⟨hscene₁, d.leave (hs.executed hex hcomplete) (d.perform hs hbefore hex hcomplete)⟩

/-- A scene that is put on is performed by the discipline if it is entered by it. -/
lemma holds_enter (hscene : s.repertoire.get? scene.name = some scene)
    (hsession : s.state.session = some ⟨scene, 0⟩) (hbefore : d.Before scene 0 s) :
    d.Holds (s.perform scene.steps).1 := by
  have h := holds_perform hscene hsession scene.length_pos hbefore
  rwa [List.drop_zero] at h

/-- Proceeding keeps to the discipline. -/
lemma holds_proceed (h : d.Holds s) : d.Holds s.proceed.1 := by
  cases hsession : s.state.session with
  | none =>
    rw [proceed_of_not_isActive (State.isActive_of_session_eq_none hsession)]
    exact h
  | some session =>
    obtain ⟨scene, c⟩ := session
    obtain ⟨hscene, step, hs, hstep, hat⟩ := h.during hsession
    rw [proceed_of_session hsession]
    exact holds_perform hscene (session_leave hsession) (Scene.succ_lt_length hs.current hstep)
      (d.leave hs hat)

/-- Starting over keeps to the discipline. -/
lemma holds_restart (h : d.Holds s) : d.Holds s.restart.1 := by
  cases hsession : s.state.session with
  | none =>
    rw [restart_of_session_eq_none hsession]
    exact h
  | some session =>
    obtain ⟨scene, c⟩ := session
    obtain ⟨hscene, step, hs, -, hat⟩ := h.during hsession
    rw [restart_of_session hsession hscene]
    exact holds_enter hscene (session_rewind s scene) (d.rewind hs hat)

/-- The report of a character keeps to the discipline. -/
lemma holds_reveal (h : d.Holds s) (ticket : Ticket) : d.Holds (s.reveal ticket).1 := by
  cases hsession : s.state.session with
  | none =>
    exact .of_over (by rw [session_reveal, hsession]) (d.reveal_over hsession (h.between hsession))
  | some session =>
    obtain ⟨scene, c⟩ := session
    obtain ⟨hscene, step, hs, hstep, hat⟩ := h.during hsession
    have hsession' : (s.reveal ticket).1.state.session = some ⟨scene, c⟩ := by
      rw [session_reveal, hsession]
    exact .of_at (by rwa [repertoire_reveal]) ⟨hsession', hs.current⟩ hstep (d.reveal hs hat)

/-- Taking away an effect that has ended keeps to the discipline. -/
lemma holds_finish (h : d.Holds s) (ticket : Ticket) : d.Holds (s.finish ticket) := by
  cases hsession : s.state.session with
  | none =>
    exact .of_over (by rw [session_finish, hsession]) (d.finish_over hsession (h.between hsession))
  | some session =>
    obtain ⟨scene, c⟩ := session
    obtain ⟨hscene, step, hs, hstep, hat⟩ := h.during hsession
    have hsession' : (s.finish ticket).state.session = some ⟨scene, c⟩ := by
      rw [session_finish, hsession]
    exact .of_at (by rwa [repertoire_finish]) ⟨hsession', hs.current⟩ hstep (d.finish hs hat)

/-- The report of the end of an effect keeps to the discipline. -/
lemma holds_resolve (h : d.Holds s) (ticket : Ticket) : d.Holds (s.resolve ticket).1 := by
  rw [resolve_eq]
  split
  · exact holds_proceed (holds_finish h ticket)
  · exact holds_finish h ticket

/-- **Operations keep to the discipline** that put no scene on. -/
theorem holds_apply (h : d.Holds s) (op : Operation) (hop : op.isTrigger = false) :
    d.Holds (s.apply op).1 := by
  cases op with
  | trigger name => simp [Operation.isTrigger] at hop
  | proceed => exact holds_proceed h
  | confirm =>
    simp only [apply, confirm_eq]
    split
    · exact holds_proceed h
    · exact h
  | restart => exact holds_restart h
  | reveal ticket => exact holds_reveal h ticket
  | resolve ticket => exact holds_resolve h ticket

/-- Runs keep to the discipline that put no scene on. -/
theorem holds_run {ops : List Operation} (h : d.Holds s)
    (hops : ∀ op ∈ ops, op.isTrigger = false) : d.Holds (s.run ops) := by
  induction ops generalizing s with
  | nil => exact h
  | cons op ops ih =>
    obtain ⟨hop, hops⟩ := List.forall_mem_cons.1 hops
    exact ih (holds_apply h op hop) hops

/-- A trigger keeps to a discipline that lets every scene of the repertoire be entered. -/
theorem holds_trigger (h : d.Holds s) (name : String)
    (henter : ∀ {scene}, s.state.session = none → s.repertoire.get? name = some scene →
      d.Over s → d.Before scene 0 (s.enter scene)) : d.Holds (s.trigger name).1 := by
  cases hsession : s.state.session with
  | some session =>
    rw [trigger_of_isActive (State.isActive_of_session hsession)]
    exact h
  | none =>
    have hidle : s.state.isActive = false := State.isActive_of_session_eq_none hsession
    cases hname : s.repertoire.get? name with
    | none =>
      rw [trigger_of_get?_eq_none hidle hname]
      exact h
    | some scene =>
      rw [trigger_of_get?_eq_some hidle hname]
      have hscene : s.repertoire.get? scene.name = some scene := by
        rw [s.repertoire.name_of_get? hname, hname]
      exact holds_enter hscene (session_enter s scene) (henter hsession hname (h.between hsession))

/-- **Every reachable stage keeps to a discipline** that holds of the opening stage and lets every
scene be entered. -/
theorem holds_of_reachable {r : Repertoire} {settings : Settings} (h : Reachable r settings s)
    (hopening : ∀ ids, d.Over ⟨r, settings, ids, .idle⟩)
    (henter : ∀ {s scene}, s.state.session = none → d.Over s → d.Before scene 0 (s.enter scene)) :
    d.Holds s := by
  induction h with
  | opening ids => exact .of_over rfl (hopening ids)
  | @step s h op ih =>
    cases hop : op.isTrigger with
    | false => exact holds_apply ih op hop
    | true =>
      cases op with
      | trigger name => exact holds_trigger ih name fun hsession _ hover => henter hsession hover
      | _ => simp [Operation.isTrigger] at hop

end Discipline

end Stage

end Cutscene
