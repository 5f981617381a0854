import Mathlib.Data.Nat.Notation
import Mathlib.Tactic.Lemma
import Cutscene.Proofs.Playback.Run
import Cutscene.Proofs.Scene.Restriction

set_option relaxedAutoImplicit false
set_option autoImplicit false

/-!
# Variables do not influence playback

Scenes write display variables, but nothing that is played depends on them. So variables can be
struck out of a stage, of its state and of its scenes, before something is done to it or afterwards.
Two stages that are the same but for some variables are the same but for them ever after, and
whoever asks something of them is told the same.

## Main definitions

* `Cutscene.State.only`, `Cutscene.Stage.only` — a state and a stage with all variables struck out
  but some.
* `Cutscene.Stage.answer`, `Cutscene.Stage.answers` — what comes of an operation, and of several.
* `Cutscene.Stage.AgreeOn` — two stages that are the same but for variables that are not of
  interest.
* `Cutscene.Stage.Indifferent` — what variables leave alone.

## Main results

* `Cutscene.Stage.perform_only` — what is performed does not depend on variables.
* `Cutscene.Stage.apply_only` — variables can be struck out before an operation or after it.
* `Cutscene.Stage.AgreeOn.run` — stages that agree still agree after a run.
* `Cutscene.Stage.variables_leave_alone` — two runs over different variables are told the same.

## Design

Which variables are of interest is a parameter. With none of interest, two stages agree if they play
the same scenes in the same state, whatever the variables are and whatever is written to them; with
the switches, the display is the same as well. One run is compared with itself after variables have
been struck out, and two runs with one another only in the end.
-/

namespace Cutscene

variable (names : String → Bool)

/-! ## States -/

/-- A session whose scene writes some of its variables. -/
def Session.only (session : Session) : Session :=
  { session with scene := session.scene.only names }

namespace State

/-- A state with some of its variables. -/
def only (s : State) : State :=
  { s with session := s.session.map (Session.only names), values := s.values.only names }

variable (s : State)

@[simp] lemma session_only : (s.only names).session = s.session.map (Session.only names) := rfl

@[simp] lemma isActive_only : (s.only names).isActive = s.isActive := Option.isSome_map

lemma step?_only : (s.only names).step? = s.step?.map (Step.only names) := by
  unfold step? only
  cases s.session with
  | none => rfl
  | some session => simp [Session.step?, Session.only]

lemma mayLeave_only (step : Step) :
    (s.only names).mayLeave (step.only names) = s.mayLeave step := by
  simp [mayLeave, only]

lemma cancelEffect_only : (s.only names).cancelEffect = s.cancelEffect.only names := by
  obtain ⟨session, bubbles, values, typing, generation, running⟩ := s
  cases running with
  | none => rfl
  | some effect =>
    cases htyping : effect.typing <;> simp [cancelEffect, only, htyping, completeTyping]

lemma leaveStep_only : (s.only names).leaveStep = s.leaveStep.only names := by
  have hline : (s.only names).step?.any Step.isSay = s.step?.any Step.isSay := by
    rw [step?_only]
    cases s.step? <;> simp
  have hnext : ∀ session : Option Session,
      (session.map (Session.only names)).map (fun x => { x with cursor := x.cursor + 1 }) =
        (session.map fun x => { x with cursor := x.cursor + 1 }).map (Session.only names) := by
    intro session
    cases session <;> rfl
  rw [leaveStep_eq, leaveStep_eq, hline, cancelEffect_only]
  simp only [only, hnext]

lemma clearPlayback_only : (s.only names).clearPlayback = s.clearPlayback.only names := by
  rw [clearPlayback, clearPlayback, cancelEffect_only]
  rfl

end State

namespace Stage

/-! ## Performing -/

/-- A stage with some of its variables: those of the state, and those that the scenes write. -/
def only (s : Stage) : Stage :=
  { s with repertoire := s.repertoire.only names, state := s.state.only names }

/-- What comes of an operation, with some of the variables. -/
def onlyResult {α : Type} (result : Stage × α) : Stage × α := (result.1.only names, result.2)

variable (s : Stage)

@[simp] lemma state_only : (s.only names).state = s.state.only names := rfl

/-- A change of the state that can be made without variables can be made to a stage without them. -/
lemma only_withState {state state' : State} (h : state'.only names = state) :
    { s.only names with state } = Stage.only names { s with state := state' } := by
  rw [← h]
  rfl

/-- A step does the same without the variables that are struck out, and leaves the same to wait
for. -/
lemma execute_only (step : Step) :
    (s.only names).execute (step.only names) = (s.execute step).map (onlyResult names) := by
  unfold execute Step.only
  cases haction : step.action with
  | say line =>
    by_cases hlength : (Bubble.start (Random.identifier s.ids).1 line).length = 0 <;>
      simp [Action.only, only, onlyResult, State.only, hlength, Except.map]
  | pause millis =>
    cases hpause : s.settings.scaledPause? millis <;>
      simp [Action.only, only, onlyResult, hpause, Except.map]
  | assign values =>
    simp [Action.only, only, onlyResult, State.only, Dictionary.only_overlay, Except.map]
  | reset | complete =>
    simp [Action.only, only, onlyResult, State.only, State.clearBubbles, State.endSession,
      Except.map]

lemma leave_only : (s.only names).leave = s.leave.only names :=
  only_withState names s (State.leaveStep_only names s.state).symm

lemma awaiting_only (step : Step) (effect : Option Effect) :
    (s.only names).awaiting (step.only names) effect = (s.awaiting step effect).only names := by
  cases effect <;> rfl

lemma overrun_only : (s.only names).overrun = onlyResult names s.overrun := by
  unfold overrun
  rw [state_only, State.session_only]
  cases s.state.session with
  | none => rfl
  | some session =>
    simp only [Option.map_some, onlyResult]
    rw [only_withState names s (State.clearPlayback_only names s.state).symm]
    rfl

/-- **What is performed does not depend on variables**: the same steps are passed, the same step is
waited for or refused, and the same effect is handed out.

**Proof sketch.** Induction on the steps, by the rounds of performing. A round looks at the flags of
the step and at what it leaves to wait for, and neither is touched. -/
theorem perform_only (steps : List Step) :
    (s.only names).perform (steps.map (Step.only names)) = onlyResult names (s.perform steps) := by
  induction steps generalizing s with
  | nil => exact overrun_only names s
  | cons step rest ih =>
    have hexec' := execute_only names s step
    rw [List.map_cons]
    cases hexec : s.execute step with
    | error e =>
      rw [hexec] at hexec'
      rw [perform_of_error hexec, perform_of_error hexec', onlyResult]
    | ok executed =>
      obtain ⟨s₁, effect⟩ := executed
      rw [hexec] at hexec'
      cases effect with
      | some effect =>
        rw [perform_of_effect hexec, perform_of_effect hexec', onlyResult, ← awaiting_only]
        rfl
      | none =>
        have hgo' : ((step.only names).autoAdvance && (s₁.only names).state.isActive) =
            (step.autoAdvance && s₁.state.isActive) := by
          rw [Step.autoAdvance_only, state_only, State.isActive_only]
        cases hgo : step.autoAdvance && s₁.state.isActive with
        | false =>
          rw [perform_of_stop hexec hgo, perform_of_stop hexec' (hgo'.trans hgo)]
          rfl
        | true =>
          rw [perform_of_pass hexec hgo, perform_of_pass hexec' (hgo'.trans hgo), ← ih,
            ← leave_only]

lemma performFromCursor_only :
    (s.only names).performFromCursor = onlyResult names s.performFromCursor := by
  unfold performFromCursor
  rw [state_only, State.session_only]
  cases s.state.session with
  | none => rfl
  | some session =>
    simp only [Option.map_some, Session.only, Scene.steps_only, ← List.map_drop, perform_only]

/-! ## Operations -/

lemma trigger_only (name : String) :
    (s.only names).trigger name = onlyResult names (s.trigger name) := by
  cases hactive : s.state.isActive with
  | true =>
    have hactive' : (s.only names).state.isActive = true := by simp [only, hactive]
    rw [trigger_of_isActive hactive, trigger_of_isActive hactive', onlyResult]
  | false =>
    have hactive' : (s.only names).state.isActive = false := by simp [only, hactive]
    have hscene' : (s.only names).repertoire.get? name =
        (s.repertoire.get? name).map (Scene.only names) :=
      Repertoire.get?_only names s.repertoire name
    cases hscene : s.repertoire.get? name with
    | none =>
      rw [hscene] at hscene'
      rw [trigger_of_get?_eq_none hactive hscene, trigger_of_get?_eq_none hactive' hscene',
        onlyResult]
    | some scene =>
      rw [hscene] at hscene'
      have henter : (s.only names).enter (scene.only names) = (s.enter scene).only names := by
        refine only_withState names s ?_
        rw [state_only, State.cancelEffect_only]
        rfl
      rw [trigger_of_get?_eq_some hactive hscene, trigger_of_get?_eq_some hactive' hscene', henter,
        Scene.steps_only, perform_only]

lemma proceed_only : (s.only names).proceed = onlyResult names s.proceed := by
  have hactive : (s.only names).state.isActive = s.state.isActive :=
    State.isActive_only names s.state
  unfold proceed
  rw [hactive]
  split
  · exact (congrArg performFromCursor (leave_only names s)).trans
      (performFromCursor_only names s.leave)
  · rfl

lemma confirm_only : (s.only names).confirm = onlyResult names s.confirm := by
  have hstep : (s.only names).state.step? = s.state.step?.map (Step.only names) :=
    State.step?_only names s.state
  have hleave : ∀ step, (s.only names).state.mayLeave (Step.only names step) =
      s.state.mayLeave step := State.mayLeave_only names s.state
  have hany : (s.only names).state.step?.any (s.only names).state.mayLeave =
      s.state.step?.any s.state.mayLeave := by
    rw [hstep]
    cases s.state.step? with
    | none => rfl
    | some step => exact hleave step
  rw [confirm_eq, confirm_eq, hany, proceed_only]
  split <;> rfl

lemma restart_only : (s.only names).restart = onlyResult names s.restart := by
  unfold restart
  rw [state_only, State.session_only]
  cases s.state.session with
  | none => rfl
  | some session =>
    simp only [Option.map_some]
    rw [only_withState names s (State.clearPlayback_only names s.state).symm]
    exact trigger_only names _ session.scene.name

lemma reveal_only (ticket : Ticket) :
    (s.only names).reveal ticket = onlyResult names (s.reveal ticket) := by
  unfold reveal
  by_cases hcurrent : (s.state.isCurrent ticket && s.state.typing) = true
  · have hcurrent' :
        ((s.only names).state.isCurrent ticket && (s.only names).state.typing) = true := hcurrent
    rw [if_pos hcurrent, if_pos hcurrent']
    cases hbubble : s.state.bubbles.getLast? <;> simp [only, State.only, hbubble, onlyResult]
  · have hcurrent' :
        ¬((s.only names).state.isCurrent ticket && (s.only names).state.typing) = true := hcurrent
    rw [if_neg hcurrent, if_neg hcurrent', onlyResult]

lemma finish_only (ticket : Ticket) :
    (s.only names).finish ticket = (s.finish ticket).only names := by
  have hcurrent' : (s.only names).state.isCurrent ticket = s.state.isCurrent ticket := rfl
  cases hcurrent : s.state.isCurrent ticket with
  | false =>
    rw [finish_of_not_isCurrent hcurrent, finish_of_not_isCurrent (hcurrent'.trans hcurrent)]
  | true =>
    rw [finish_of_isCurrent hcurrent, finish_of_isCurrent (hcurrent'.trans hcurrent)]
    simp [only, State.cancelEffect_only]

lemma resolve_only (ticket : Ticket) :
    (s.only names).resolve ticket = onlyResult names (s.resolve ticket) := by
  have hrunning : (s.only names).state.running = s.state.running := rfl
  rw [resolve_eq, resolve_eq, hrunning, finish_only, proceed_only]
  split <;> rfl

/-- **Variables can be struck out before an operation or after it.** -/
theorem apply_only (op : Operation) :
    (s.only names).apply op = onlyResult names (s.apply op) := by
  cases op with
  | trigger name => exact trigger_only names s name
  | proceed => exact proceed_only names s
  | confirm => exact confirm_only names s
  | restart => exact restart_only names s
  | reveal ticket =>
    simp only [apply, reveal_only]
    rfl
  | resolve ticket => exact resolve_only names s ticket

/-! ## Runs -/

/-- What is told to whoever asks for an operation: what came of it, or whether there was a character
to report. -/
def answer (s : Stage) : Operation → Outcome ⊕ Bool
  | .reveal ticket => .inr (s.reveal ticket).2
  | op => .inl (s.apply op).2

/-- What is told of one operation after the other. -/
def answers (s : Stage) : List Operation → List (Outcome ⊕ Bool)
  | [] => []
  | op :: ops => s.answer op :: (s.apply op).1.answers ops

lemma answer_only (op : Operation) : (s.only names).answer op = s.answer op := by
  cases op with
  | reveal ticket => simp only [answer, reveal_only, onlyResult]
  | trigger | proceed | confirm | restart | resolve => simp only [answer, apply_only, onlyResult]

/-- Variables can be struck out before a run or after it. -/
lemma run_only (ops : List Operation) : (s.only names).run ops = (s.run ops).only names := by
  induction ops generalizing s with
  | nil => rfl
  | cons op ops ih => rw [run_cons, run_cons, apply_only, onlyResult, ih]

/-- A run is told the same without them. -/
lemma answers_only (ops : List Operation) : (s.only names).answers ops = s.answers ops := by
  induction ops generalizing s with
  | nil => rfl
  | cons op ops ih => simp only [answers, answer_only, apply_only, onlyResult, ih]

/-! ## Two stages -/

/-- Two stages are the same but for variables that are not of interest: scenes write the same to
those that are, and these have the same values. -/
structure AgreeOn (s s' : Stage) : Prop where
  /-- The same scenes are found, with steps that differ in what they write at most. -/
  scenes : ∀ name, (s.repertoire.get? name).map (Scene.only names) =
    (s'.repertoire.get? name).map (Scene.only names)
  /-- They are played in the same way. -/
  settings : s.settings = s'.settings
  /-- Identifiers come from the same source. -/
  ids : s.ids = s'.ids
  /-- The same scene is played, with steps that differ in what they write at most. -/
  scene : s.state.session.map (fun x => x.scene.only names) =
    s'.state.session.map (fun x => x.scene.only names)
  /-- It is played at the same step. -/
  cursor : s.state.session.map Session.cursor = s'.state.session.map Session.cursor
  /-- The bubbles are the same, with their identifiers. -/
  bubbles : s.state.bubbles = s'.state.bubbles
  /-- A line is typed in both or in none. -/
  typing : s.state.typing = s'.state.typing
  /-- As many effects have been started. -/
  generation : s.state.generation = s'.state.generation
  /-- The same effect is running. -/
  running : s.state.running = s'.state.running
  /-- The variables of interest have the same values. -/
  values : ∀ name, names name = true → s.state.values.get? name = s'.state.values.get? name

variable {names s} {s' : Stage}

/-- Two stages are the same but for variables if they are the same once these are struck out. -/
lemma agreeOn_iff : AgreeOn names s s' ↔ s.only names = s'.only names := by
  obtain ⟨repertoire, settings, ids, session, bubbles, values, typing, generation, running⟩ := s
  obtain ⟨repertoire', settings', ids', session', bubbles', values', typing', generation',
    running'⟩ := s'
  have hsession : session.map (Session.only names) = session'.map (Session.only names) ↔
      session.map (fun x => x.scene.only names) = session'.map (fun x => x.scene.only names) ∧
        session.map Session.cursor = session'.map Session.cursor := by
    cases session <;> cases session' <;> simp [Session.only]
  simp only [only, State.only, mk.injEq, State.mk.injEq, Repertoire.only_eq_only_iff,
    Dictionary.only_eq_only_iff, hsession]
  constructor
  · rintro ⟨hscenes, hsettings, hids, hscene, hcursor, hbubbles, htyping, hgeneration, hrunning,
      hvalues⟩
    exact ⟨hscenes, hsettings, hids, ⟨hscene, hcursor⟩, hbubbles, hvalues, htyping, hgeneration,
      hrunning⟩
  · rintro ⟨hscenes, hsettings, hids, ⟨hscene, hcursor⟩, hbubbles, hvalues, htyping, hgeneration,
      hrunning⟩
    exact ⟨hscenes, hsettings, hids, hscene, hcursor, hbubbles, htyping, hgeneration, hrunning,
      hvalues⟩

/-- Stages that agree still agree after a run. -/
theorem AgreeOn.run (h : AgreeOn names s s') (ops : List Operation) :
    AgreeOn names (s.run ops) (s'.run ops) := by
  rw [agreeOn_iff, ← run_only, agreeOn_iff.1 h, run_only]

/-- Stages that agree are told the same. -/
theorem AgreeOn.answers_eq (h : AgreeOn names s s') (ops : List Operation) :
    s.answers ops = s'.answers ops := by
  rw [← answers_only names, agreeOn_iff.1 h, answers_only]

/-- No variable is of interest. -/
def noNames : String → Bool := fun _ => false

/-- The variables that renderers know are of interest. -/
def switchNames : String → Bool := fun name => (Switch.ofName? name).isSome

lemma switchNames_name (switch : Switch) : switchNames switch.name = true := by
  cases switch <;> decide

/-- Stages that agree on the switches show the same display. -/
lemma AgreeOn.display_eq (h : AgreeOn switchNames s s') :
    Display.ofVariables s.state.values = Display.ofVariables s'.state.values := by
  have hswitch : ∀ switch : Switch,
      s.state.values.isOn switch.name = s'.state.values.isOn switch.name := by
    intro switch
    rw [Variables.isOn, Variables.isOn, h.values switch.name (switchNames_name switch)]
  simp only [Display.ofVariables, hswitch]

/-- What two runs over different variables have in common. -/
structure Indifferent (s s' : Stage) (ops : List Operation) : Prop where
  /-- Each operation is told the same in both. -/
  answers : s.answers ops = s'.answers ops
  /-- Both stages are the same in the end, but for variables. -/
  agree : AgreeOn noNames (s.run ops) (s'.run ops)
  /-- If the switches were the same, and all that scenes write to them, then they are the same in
  the end, and so is the display. -/
  display : AgreeOn switchNames s s' → AgreeOn switchNames (s.run ops) (s'.run ops) ∧
    Display.ofVariables (s.run ops).state.values = Display.ofVariables (s'.run ops).state.values

/-- **Variables do not influence playback**: of two stages that are the same but for variables and
for what scenes write to them, the one is told what the other is told, whatever is done to both, and
they are the same but for variables in the end.

**Proof sketch.** Agreeing is to be the same once variables have been struck out (`agreeOn_iff`),
and they can be struck out before a run or after it (`run_only`, `answers_only`). -/
theorem variables_leave_alone (h : AgreeOn noNames s s') (ops : List Operation) :
    Indifferent s s' ops where
  answers := h.answers_eq ops
  agree := h.run ops
  display := fun hswitches => ⟨hswitches.run ops, (hswitches.run ops).display_eq⟩

/-! ## A rehearsal that writes something else -/

/-- The scene to try things on, which leaves the monitor off. -/
def darkRehearsal : Scene where
  name := "rehearsal"
  steps := [⟨.pause 500, true, true⟩, ⟨.say ⟨"ENGINEER", "hi", .left⟩, false, false⟩,
    ⟨.assign (.ofList [("isMonitorOn", .flag false), ("mood", .text "gloomy")]), true, false⟩,
    ⟨.reset, true, false⟩, ⟨.complete, true, false⟩]
  closed := by
    refine ⟨[⟨.pause 500, true, true⟩, ⟨.say ⟨"ENGINEER", "hi", .left⟩, false, false⟩,
      ⟨.assign (.ofList [("isMonitorOn", .flag false), ("mood", .text "gloomy")]), true, false⟩,
      ⟨.reset, true, false⟩], ⟨.complete, true, false⟩, rfl, rfl, ?_⟩
    simp [Step.isComplete, Step.kind, Action.kind]

/-- A stage on which only that scene can be played, and nothing has been. -/
def rehearsingDark : Stage := .ofRepertoire (Repertoire.empty.add darkRehearsal) .standard

lemma agreeOn_rehearsingDark : AgreeOn noNames rehearsing rehearsingDark where
  scenes name := by
    change (Dictionary.get? (Dictionary.empty.insert "rehearsal" rehearsal) name).map _ =
      (Dictionary.get? (Dictionary.empty.insert "rehearsal" darkRehearsal) name).map _
    rw [Dictionary.get?_insert, Dictionary.get?_insert]
    split <;> rfl
  settings := rfl
  ids := rfl
  scene := rfl
  cursor := rfl
  bubbles := rfl
  typing := rfl
  generation := rfl
  running := rfl
  values _ hname := nomatch hname

/-- Whether the monitor is switched on or off, the scene is played in the same way to its end. -/
theorem variables_leave_alone_rehearsing :
    Indifferent rehearsing rehearsingDark
      [.trigger "rehearsal", .proceed, .proceed, .resolve ⟨3⟩, .resolve ⟨4⟩] :=
  variables_leave_alone agreeOn_rehearsingDark _

end Stage

end Cutscene
