import Cutscene.Playback.Remote
import Cutscene.Proofs.Playback.Attendance
import Cutscene.Proofs.Playback.Shown

set_option relaxedAutoImplicit false
set_option autoImplicit false

/-!
# Inputs where the player is waited for

A player has a mark to click and a key to confirm. Where the player is waited for, the key leaves
lines and steps that may be cut short, and the mark leaves lines; anywhere else neither does
anything.

## Main definitions

* `Cutscene.Input.opens` — whether an input leaves a step at which the player is waited for.
* `Cutscene.Stage.HasLeft` — a stage has left a place of a scene.
* `Cutscene.Remote.Sent` — what comes of sending a command.
* `Cutscene.Remote.Dispatched` — what comes of an input where the player is waited for.

## Main results

* `Cutscene.Stage.ScreenAt.canProceed_eq` — the mark does something exactly at a line that is not
  being typed.
* `Cutscene.Remote.dispatched_of_isWaiting` — an input where the player is waited for.

## Design

A command that leaves a step may come to a pause that is out of range once it has been scaled. That
ends the engine, and the stage it leaves behind is the one from before the command.
-/

namespace Cutscene

/-- Whether an input leaves a step at which the player is waited for. -/
def Input.opens : Input → Step → Bool
  | .proceed, step => step.isSay
  | .confirm, step => step.isSay || step.skippable
  | .trigger _, _ => false
  | .restart, _ => false
  | .resize _, _ => false

namespace Stage

variable {s : Stage} {scene : Scene} {settings : Settings} {c : ℕ} {step : Step}
  {result : Stage × Outcome}

/-! ## Leaving a step -/

/-- A stage has left a place of a scene: it has come further, or the scene is over. -/
def HasLeft (s : Stage) (scene : Scene) (c : ℕ) : Prop :=
  s.state.session = none ∨ ∃ k, c < k ∧ s.state.session = some ⟨scene, k⟩

/-- A stage that stands at a place has not left it. -/
lemma StandsAt.not_hasLeft (hs : StandsAt s scene c step) : ¬s.HasLeft scene c := by
  rintro (hnone | ⟨k, hck, hsession⟩)
  · simp [hs.session] at hnone
  · cases hs.session.symm.trans hsession
    exact Nat.lt_irrefl c hck

/-- A landing behind a place has left it. -/
lemma Landing.hasLeft (h : Landing settings scene (c + 1) result) : result.1.HasLeft scene c := by
  obtain ⟨k, step, hleads, hlanded⟩ := h
  have hck : c < k := hleads.le
  cases hlanded with
  | refused hs | busy hs | waiting hs => exact Or.inr ⟨k, hck, hs.session⟩
  | ended hsession => exact Or.inl hsession

/-- A landing succeeds, or it is at a pause that is out of range. -/
lemma Landing.outcome (h : Landing settings scene c result) :
    (∃ pending, result.2 = .ok pending) ∨
      result.2 = .error .pauseTooLong ∧ ∃ step ∈ scene.steps, ¬step.PauseFits settings := by
  obtain ⟨k, step, hleads, hlanded⟩ := h
  cases hlanded with
  | refused hs hlong => exact Or.inr ⟨rfl, step, List.mem_of_getElem? hs.current, hlong⟩
  | busy | waiting | ended => exact Or.inl ⟨_, rfl⟩

/-- The mark for going on does something exactly at a line that is not being typed. -/
lemma ScreenAt.canProceed_eq (h : ScreenAt scene c s) (hs : StandsAt s scene c step) :
    (Snapshot.ofState s.state 0).canProceed = (step.isSay && !s.state.typing) := by
  have hactive : s.state.isActive = true := State.isActive_of_session hs.session
  cases h.display step hs.current with
  | line past newest hsay hbubbles _ hmark _ =>
    simp [Snapshot.canProceed, Snapshot.lastBubble?, Snapshot.ofState, hactive, hbubbles, hsay,
      BubbleView.ofBubble, hmark]
  | still hsay _ hsettled =>
    rw [hsay, Bool.false_and, Snapshot.canProceed, Bool.and_eq_false_iff]
    right
    simp only [Snapshot.lastBubble?, Snapshot.ofState, List.getLast?_map, Option.any_map]
    cases hlast : s.state.bubbles.getLast? with
    | none => rfl
    | some b =>
      have hsettled' := hsettled b (List.mem_of_getLast? hlast)
      simp [BubbleView.ofBubble, hsettled'.unmarked]

/-- Where the player is waited for, nothing is typed. -/
lemma ScreenAt.typing_eq_false (h : ScreenAt scene c s) (hwaiting : s.state.isWaiting = true) :
    s.state.typing = false := by
  simp only [State.isWaiting, Bool.and_eq_true, Option.isNone_iff_eq_none] at hwaiting
  rw [h.typing, hwaiting.2, Option.any_none]

/-- Where nothing is typed, a confirmation does as a proceed does where it opens the step. -/
lemma confirm_of_not_typing (hs : StandsAt s scene c step) (htyping : s.state.typing = false) :
    s.confirm = if Input.opens .confirm step then s.proceed else (s, .ok none) := by
  rw [confirm_eq, hs.step?_eq, Option.any_some, State.mayLeave, htyping, Bool.not_false,
    Bool.and_true, Bool.or_comm]
  rfl

end Stage

/-! ## Commands that are sent -/

namespace Performance

variable {p : Performance} {result : Engine × Except PlayError Unit}

/-- A performance stops where its engine has met a fatal error. -/
lemma take_of_eq (h : result.2 = .error .pauseTooLong) :
    p.take result = (p.shutdown, .error .unavailable) := by
  obtain ⟨engine, answer⟩ := result
  obtain rfl : answer = .error .pauseTooLong := h
  rfl

/-- Anywhere else it goes on with the engine, and passes its answer on. -/
lemma take_of_ne (h : result.2 ≠ .error .pauseTooLong) :
    (p.take result).1.engine = result.1 ∧ (p.take result).2 = result.2 := by
  obtain ⟨engine, answer⟩ := result
  rcases answer with err | _
  · cases err <;> first | exact ⟨rfl, rfl⟩ | exact absurd rfl h
  · exact ⟨rfl, rfl⟩

end Performance

namespace Remote

variable {m : Remote} {r : Repertoire} {settings : Settings} {scene : Scene} {c : ℕ} {step : Step}
  {input : Input}

/-- What comes of sending a command that leads to a result on the stage: it is done and answered,
unless it is fatal. Then nothing has become of it, and the answer is that the engine has stopped. -/
inductive Sent (m : Remote) (result : Stage × Outcome) (m' : Remote)
    (answer : Except PlayError Unit) : Prop
  /-- The command is done. -/
  | done (hne : result.2 ≠ .error .pauseTooLong) (hstage : m'.performance.engine.stage = result.1)
    (hanswer : answer = result.2.map fun _ => ())
  /-- The command is fatal. -/
  | fatal (hlong : result.2 = .error .pauseTooLong)
    (hstage : m'.performance.engine.stage = m.performance.engine.stage)
    (hanswer : answer = .error .unavailable)

/-- Commands are sent to an engine that is running. -/
lemma sent_send (hrunning : m.performance.running = true) (command : Command) :
    m.Sent (m.performance.engine.stage.apply command.operation) (m.send command).1
      (m.send command).2 := by
  let move : Engine.Move := .command m.performance.now command
  have hasks : m.performance.engine.asks move = some command.operation := rfl
  have hsend : m.performance.send command = m.performance.take
      (m.performance.engine.handleCommand m.performance.now command) := if_pos hrunning
  simp only [send, hsend]
  by_cases hlong : m.performance.engine.result move = .error .pauseTooLong
  · rw [Performance.take_of_eq hlong]
    refine .fatal ?_ (by simp [Performance.shutdown, Engine.cancelTimer_eq]) rfl
    by_contra hne
    exact (Engine.result_ne_iff hasks).2 hne hlong
  · obtain ⟨hengine, hanswer⟩ := Performance.take_of_ne (p := m.performance) hlong
    refine .done ((Engine.result_ne_iff hasks).1 hlong) ?_ ?_
    · rw [hengine]
      exact Engine.stage_make m.performance.engine move
    · exact hanswer.trans (Engine.result_eq hasks)

/-- A command that does nothing on the stage is answered well. -/
lemma Sent.quiet {m' : Remote} {answer : Except PlayError Unit}
    (h : m.Sent (m.performance.engine.stage, .ok none) m' answer) :
    answer = .ok () ∧ m'.performance.engine.stage = m.performance.engine.stage := by
  cases h with
  | done _ hstage hanswer => exact ⟨hanswer, hstage⟩
  | fatal hlong => cases hlong

/-- A command that leaves a step has left it, or has met a pause that is out of range. -/
lemma Sent.proceed {m' : Remote} {answer : Except PlayError Unit}
    (h : m.Sent m.performance.engine.stage.proceed m' answer)
    (hs : m.performance.engine.stage.StandsAt scene c step) (hcomplete : step.isComplete = false) :
    m'.performance.engine.stage.HasLeft scene c ∧ answer = .ok () ∨
      m'.performance.engine.stage = m.performance.engine.stage ∧ answer = .error .unavailable ∧
        ∃ step ∈ scene.steps, ¬step.PauseFits m.performance.engine.stage.settings := by
  have hlanding := Stage.landing_proceed hs hcomplete
  cases h with
  | done hne hstage hanswer =>
    rcases hlanding.outcome with ⟨pending, hok⟩ | ⟨hlong, -⟩
    · rw [hok] at hanswer
      exact Or.inl ⟨hstage ▸ hlanding.hasLeft, hanswer⟩
    · exact absurd hlong hne
  | fatal hlong hstage hanswer =>
    rcases hlanding.outcome with ⟨pending, hok⟩ | ⟨-, hbad⟩
    · rw [hok] at hlong
      cases hlong
    · exact Or.inr ⟨hstage, hanswer, hbad⟩

/-! ## Inputs where the player is waited for -/

/-- What comes of an input where the player is waited for at a step. -/
structure Dispatched (settings : Settings) (m : Remote) (input : Input) (scene : Scene) (c : ℕ)
    (step : Step) : Prop where
  /-- The step is left exactly if the input opens it, unless the engine is ended by that. -/
  leaves : (m.dispatch input).1.performance.engine.stage.HasLeft scene c ↔
    input.opens step = true ∧ (m.dispatch input).2 = .ok ()
  /-- An input that does not open the step does nothing on the stage. -/
  stays : input.opens step = false → (m.dispatch input).2 = .ok () ∧
    (m.dispatch input).1.performance.engine.stage = m.performance.engine.stage
  /-- An engine is ended only by a pause of the scene that is out of range. -/
  ends : (m.dispatch input).2 ≠ .ok () → (m.dispatch input).2 = .error .unavailable ∧
    ∃ step ∈ scene.steps, ¬step.PauseFits settings

/-- An input that opens the step and is sent as a proceed. -/
lemma Dispatched.of_opens (hopens : input.opens step = true)
    (hs : m.performance.engine.stage.StandsAt scene c step) (hcomplete : step.isComplete = false)
    (h : m.Sent m.performance.engine.stage.proceed (m.dispatch input).1 (m.dispatch input).2) :
    Dispatched m.performance.engine.stage.settings m input scene c step := by
  have hstays : input.opens step ≠ false := by simp [hopens]
  rcases h.proceed hs hcomplete with ⟨hleft, hok⟩ | ⟨hstage, herror, hbad⟩
  · exact ⟨⟨fun _ => ⟨hopens, hok⟩, fun _ => hleft⟩, fun h => absurd h hstays,
      fun hne => absurd hok hne⟩
  · refine ⟨⟨fun hleft => absurd (hstage ▸ hleft) hs.not_hasLeft, fun ⟨_, hok⟩ => ?_⟩,
      fun h => absurd h hstays, fun _ => ⟨herror, hbad⟩⟩
    rw [herror] at hok
    cases hok

/-- An input that does not open the step and does nothing. -/
lemma Dispatched.of_not_opens (hopens : input.opens step = false)
    (hs : m.performance.engine.stage.StandsAt scene c step)
    (h : (m.dispatch input).2 = .ok () ∧
      (m.dispatch input).1.performance.engine.stage = m.performance.engine.stage) :
    Dispatched settings m input scene c step := by
  refine ⟨⟨fun hleft => absurd (h.2 ▸ hleft) hs.not_hasLeft, fun ⟨hyes, _⟩ => ?_⟩, fun _ => h,
    fun hne => absurd h.1 hne⟩
  rw [hopens] at hyes
  cases hyes

/-- Where the player is waited for, the mark sends its command exactly at a line. -/
lemma dispatch_proceed (he : Engine.Reachable r settings m.performance.engine)
    (hs : m.performance.engine.stage.StandsAt scene c step)
    (hwaiting : m.performance.engine.stage.state.isWaiting = true) :
    m.dispatch .proceed = if step.isSay then m.send .proceed else (m, .ok ()) := by
  obtain ⟨-, -, -, -, hat⟩ := (Stage.holds_screen he.stage).during hs.session
  have hmark : m.performance.engine.published.canProceed = step.isSay := by
    rw [(Engine.shown_of_reachable he).depicts.canProceed_eq 0, hat.canProceed_eq hs,
      hat.typing_eq_false hwaiting, Bool.not_false, Bool.and_true]
  cases hsay : step.isSay <;>
    simp [dispatch, Input.command?, snapshot, Performance.snapshot, hmark, hsay]

/-- **An input where the player is waited for** leaves the step if it opens it, and does nothing
otherwise.

**Proof sketch.** The mark sends its command at a line only (`dispatch_proceed`). The key always
sends its command, which does as a proceed does where the step may be left, and nothing
elsewhere (`Stage.confirm_of_not_typing`). -/
theorem dispatched_of_isWaiting (he : Engine.Reachable r settings m.performance.engine)
    (hrunning : m.performance.running = true)
    (hs : m.performance.engine.stage.StandsAt scene c step)
    (hwaiting : m.performance.engine.stage.state.isWaiting = true)
    (hinput : input = .proceed ∨ input = .confirm) : Dispatched settings m input scene c step := by
  obtain ⟨-, step', hs', hcomplete, hat⟩ := (Stage.holds_screen he.stage).during hs.session
  obtain ⟨-, rfl⟩ := hs'.eq_of_standsAt hs
  rw [← he.stage.settings_eq]
  rcases hinput with rfl | rfl
  · have hdispatch := dispatch_proceed he hs hwaiting
    cases hsay : step'.isSay with
    | true =>
      rw [hsay, if_pos rfl] at hdispatch
      refine .of_opens hsay hs hcomplete ?_
      rw [hdispatch]
      exact sent_send hrunning .proceed
    | false =>
      rw [hsay, if_neg Bool.false_ne_true] at hdispatch
      exact .of_not_opens hsay hs (by rw [hdispatch]; exact ⟨rfl, rfl⟩)
  · have hsent := sent_send hrunning .confirm
    have hconfirm := Stage.confirm_of_not_typing hs (hat.typing_eq_false hwaiting)
    simp only [Command.operation, Stage.apply, hconfirm] at hsent
    cases hopens : Input.opens .confirm step' with
    | true =>
      rw [hopens, if_pos rfl] at hsent
      exact .of_opens hopens hs hcomplete hsent
    | false =>
      rw [hopens, if_neg Bool.false_ne_true] at hsent
      exact .of_not_opens hopens hs hsent.quiet

end Remote

end Cutscene
