import Cutscene.Proofs.Playback.Affordance
import Cutscene.Proofs.Playback.Publishing

set_option relaxedAutoImplicit false
set_option autoImplicit false

/-!
# What is published and what is there

What is published is what was there when it was published, and a report may have been handled since.
This file says how far the two can be apart: not at all between messages, and not where the player
is invited to go on, since no report does anything there. It also says what becomes of an engine if
its versions are left aside, which is all that a message that does nothing can change.

## Main definitions

* `Cutscene.Loop.settled` — the engine of a loop once it has published.
* `Cutscene.Loop.Steady` — how far what is published can be apart from what is there.
* `Cutscene.Engine.plain`, `Cutscene.Loop.plain` — an engine and a loop without versions.

## Main results

* `Cutscene.Loop.reachable_settled` — the acts of a loop come to moves of its engine.
* `Cutscene.Loop.Steady.act` — every act keeps a loop steady.
* `Cutscene.Loop.plain_act` — versions have no part in what acts do.
* `Cutscene.Engine.take_trigger_of_isActive` — while a scene is played, a trigger does nothing to an
  engine.
-/

namespace Cutscene

/-! ## Engines -/

namespace Engine

variable {e : Engine}

/-- While a scene is played, a trigger does nothing to an engine. -/
lemma take_trigger_of_isActive (h : e.SlotAgrees) (hactive : e.stage.state.isActive = true)
    (now : ℕ) (name : String) : e.take now (.trigger name) = (e, .ok ()) := by
  simp only [take, runCommand, Stage.trigger_of_isActive hactive, schedule, h.not_stale,
    Bool.false_eq_true, if_false]

/-! ## Versions left aside -/

/-- An engine that bears another version, and has published something else. -/
def bearing (e : Engine) (version : ℕ) (published : Snapshot) : Engine :=
  { e with version, published }

variable (e : Engine) (version now : ℕ) (published : Snapshot) (ticket : Ticket)

lemma slot_bearing : (e.bearing version published).slot = e.slot := rfl

lemma stage_bearing : (e.bearing version published).stage = e.stage := rfl

/-- What is published has no part in stopping a timer. -/
lemma cancelTimer_bearing :
    (e.bearing version published).cancelTimer = e.cancelTimer.bearing version published := by
  rw [cancelTimer_eq, cancelTimer_eq]
  rfl

/-- Nor has it in starting one. -/
lemma startTimer_bearing (pending : Pending) :
    (e.bearing version published).startTimer now pending =
      (e.startTimer now pending).bearing version published := by
  simp only [startTimer, cancelTimer_bearing]
  rfl

/-- Nor has it in making the slot agree with the stage. -/
lemma schedule_bearing (outcome : Outcome) : (e.bearing version published).schedule now outcome =
    ((e.schedule now outcome).1.bearing version published, (e.schedule now outcome).2) := by
  cases hstale : e.slot.any fun ticket => !e.stage.state.isCurrent ticket <;>
    rcases outcome with err | _ | pending <;>
    simp only [schedule, slot_bearing, stage_bearing, hstale, cancelTimer_bearing,
      startTimer_bearing, if_true, if_false, Bool.false_eq_true]

/-- Nor in taking a command. -/
lemma take_bearing (c : Command) : (e.bearing version published).take now c =
    ((e.take now c).1.bearing version published, (e.take now c).2) :=
  schedule_bearing { e with stage := (runCommand e.stage c).1 } version now published _

/-- Nor in receiving a report. -/
lemma receive_bearing (report : Report) : (e.bearing version published).receive now report =
    ((e.receive now report).1.bearing version published, (e.receive now report).2) := by
  cases report with
  | reveal ticket => rfl
  | resolved ticket =>
    exact schedule_bearing { e with stage := (e.stage.resolve ticket).1 } version now published _

/-- Nor in what timers report. -/
lemma tick_bearing :
    (e.bearing version published).tick ticket = (e.tick ticket).bearing version published := by
  cases htimer : e.timers.find? fun t => t.ticket == ticket && !t.finished <;>
    simp only [tick, bearing, htimer]

/-- Nor in what timers give up. -/
lemma quit_bearing :
    (e.bearing version published).quit ticket = (e.quit ticket).bearing version published := rfl

/-- What there is to publish is borne under the next version, unless it compares to what has been
published. -/
lemma publish_eq_bearing : e.publish =
    if e.published == .ofState e.stage.state e.version then e
    else e.bearing (e.version + 1) (.ofState e.stage.state (e.version + 1)) := rfl

/-- Publishing has no part in what timers report. -/
lemma publish_tick : (e.tick ticket).publish = e.publish.tick ticket := by
  have hsame := sameShow_tick e ticket
  rw [publish_eq_bearing, publish_eq_bearing, hsame.published, hsame.stage, hsame.version]
  split
  · rfl
  · exact (tick_bearing e _ _ ticket).symm

/-- Nor in what timers give up. -/
lemma publish_quit : (e.quit ticket).publish = e.publish.quit ticket := by
  have hsame := sameShow_quit e ticket
  rw [publish_eq_bearing, publish_eq_bearing, hsame.published, hsame.stage, hsame.version]
  split
  · rfl
  · exact (quit_bearing e _ _ ticket).symm

/-- An engine without versions. -/
def plain : Engine := e.bearing 0 { e.published with version := 0 }

@[simp] lemma plain_plain : e.plain.plain = e.plain := rfl

/-- Taking a command, without versions. -/
lemma take_plain (c : Command) :
    e.plain.take now c = ((e.take now c).1.plain, (e.take now c).2) := by
  rw [plain, take_bearing, plain, (published_take e now c).2]

/-- Receiving a report, without versions. -/
lemma receive_plain (report : Report) :
    e.plain.receive now report = ((e.receive now report).1.plain, (e.receive now report).2) := by
  rw [plain, receive_bearing, plain, (published_receive e now report).2]

/-- A timer that reports, without versions. -/
lemma tick_plain : e.plain.tick ticket = (e.tick ticket).plain := by
  rw [plain, tick_bearing, plain, (sameShow_tick e ticket).published]

/-- Stopping the timer, without versions. -/
lemma cancelTimer_plain : e.plain.cancelTimer = e.cancelTimer.plain := by
  rw [plain, cancelTimer_bearing, plain, (sameShow_cancelTimer e).published]

variable {e}

/-- What is published is what is published without versions, or the snapshot of what there is. -/
lemma plain_publish (hcounted : e.published.version = e.version) :
    e.publish.plain =
      if e.published.agrees (.ofState e.stage.state 0) then e.plain
      else e.bearing 0 (.ofState e.stage.state 0) := by
  rw [Snapshot.agrees_ofState _ _ 0 e.version]
  split
  next hagrees => rw [publish_of_agrees hcounted hagrees]
  next hagrees =>
    rw [publish_of_not_agrees hcounted (by simpa using hagrees)]
    rfl

/-- Versions left aside, publishing changes nothing where what is published is up to date. -/
lemma Shown.plain_publish (h : e.Shown) (hcounted : e.published.version = e.version) :
    e.publish.plain = e.plain := by
  rw [Engine.plain_publish hcounted]
  split
  · rfl
  next hagrees =>
    have hsame := h.resolve_left hagrees
    rw [plain, hsame]
    rfl

end Engine

/-! ## Loops -/

namespace Loop

variable {l l' : Loop} {a : Act} {r : Repertoire} {settings : Settings}

/-- The engine of a loop once it has published what has become of the message it is at. -/
def settled (l : Loop) : Engine :=
  match l.phase with
  | .handled _ => l.engine.publish
  | _ => l.engine

lemma settled_of_handled {answer : Option (Except PlayError Unit)} (h : l.phase = .handled answer) :
    l.settled = l.engine.publish := by rw [settled, h]

lemma settled_of_idle (h : l.phase = .idle) : l.settled = l.engine := by rw [settled, h]

lemma settled_of_published {answer : Except PlayError Unit} (h : l.phase = .published answer) :
    l.settled = l.engine := by rw [settled, h]

/-- A loop behind a message that was not fatal has published what has become of it. -/
lemma settled_behind {handled : Engine × Except PlayError Unit} {asked : Bool}
    (h : (behind handled asked).phase ≠ .ended) :
    (behind handled asked).settled = handled.1.publish := by
  simp only [behind] at h ⊢
  split at h
  next => exact absurd rfl h
  next hok => simp only [settled, hok, if_false]

/-- Timers report whether something has been published or not. -/
lemma settled_tick (l : Loop) (ticket : Ticket) :
    (l.act (.tick ticket)).settled = l.settled.tick ticket := by
  cases hphase : l.phase with
  | handled answer => simp only [settled, act, hphase, Engine.publish_tick]
  | idle | published | ended => simp only [settled, act, hphase]

/-- So do timers that give up. -/
lemma settled_quit (l : Loop) (ticket : Ticket) :
    (l.act (.quit ticket)).settled = l.settled.quit ticket := by
  cases hphase : l.phase with
  | handled answer => simp only [settled, act, hphase, Engine.publish_quit]
  | idle | published | ended => simp only [settled, act, hphase]

/-- Once a loop has ended it does not go on. -/
lemma ended_act (h : l.phase = .ended) (a : Act) : (l.act a).phase = .ended :=
  (still_of_ended h a).phase.trans h

/-- **The acts of a loop come to moves of its engine**, as long as it has not ended. -/
theorem reachable_settled (h : Engine.Reachable r settings l.settled)
    (hgoing : (l.act a).phase ≠ .ended) : Engine.Reachable r settings (l.act a).settled := by
  cases a with
  | command now c =>
    simp only [act] at hgoing ⊢
    split at hgoing
    next hidle =>
      rw [settled_of_idle hidle] at h
      rw [settled_behind hgoing]
      exact h.make (.command now c)
    next => exact h
  | report now =>
    simp only [act] at hgoing ⊢
    split at hgoing
    next report queue hidle hqueue =>
      rw [settled_of_idle hidle] at h
      have hdeliver : (({ l.engine with queue } : Engine).receive now report).1.publish =
          l.engine.make (.deliver now) := by
        rw [Engine.make, Engine.deliver, hqueue]
        exact (congrArg Prod.fst (Engine.handleReport_eq _ now report)).symm
      rw [settled_behind hgoing, hdeliver]
      exact h.make (.deliver now)
    next => exact h
  | publish =>
    simp only [act] at hgoing ⊢
    split at hgoing
    next hphase => rwa [settled_of_handled hphase] at h
    next hphase => rwa [settled_of_handled hphase] at h
    next => exact h
  | answer =>
    simp only [act] at hgoing ⊢
    split at hgoing
    next answer hphase => rwa [settled_of_published hphase] at h
    next => exact h
  | tick ticket =>
    rw [settled_tick]
    exact h.make (.tick ticket)
  | quit ticket =>
    rw [settled_quit]
    exact h.make (.quit ticket)
  | stop =>
    simp only [act] at hgoing ⊢
    split at hgoing
    next => exact absurd rfl hgoing
    next => exact h

/-! ## What has been published and what is there -/

/-- On a stage where the mark does something, a report does nothing. -/
lemma apply_report_of_canProceed {s : Stage} (h : Stage.Reachable r settings s)
    (hcan : (Snapshot.ofState s.state 0).canProceed = true) (report : Report) :
    (s.apply report.operation).1 = s := by
  have hwaiting := (((Stage.affords h).waiting_iff 0).1 hcan).1
  simp only [State.isWaiting, Bool.and_eq_true, Option.isNone_iff_eq_none] at hwaiting
  have hlate : ∀ ticket, s.state.isCurrent ticket = false := by
    intro ticket
    rw [State.isCurrent, hwaiting.2, Option.any_none]
  cases report with
  | reveal ticket =>
    simp only [Report.operation, Stage.apply, Stage.reveal_of_not_isCurrent (hlate _)]
  | resolved ticket =>
    simp only [Report.operation, Stage.apply, Stage.resolve_of_not_isCurrent (hlate _)]

/-- How far what is published can be apart from what is there. -/
structure Steady (l : Loop) : Prop where
  /-- Between messages, and before an answer, it is what is there. -/
  rest : l.phase = .idle ∨ (∃ answer, l.phase = .published answer) →
    l.engine.published.Depicts l.engine.stage.state
  /-- Behind a report it still is, if it invites the player to go on. -/
  reported : l.phase = .handled none → l.engine.published.canProceed = true →
    l.engine.published.Depicts l.engine.stage.state

namespace Steady

/-- A loop that shows the same stays steady. -/
lemma of_same (h : l.Steady) (hphase : l'.phase = l.phase) (hsame : l.engine.SameShow l'.engine) :
    l'.Steady := by
  refine ⟨fun hrest => ?_, fun hreported hcan => ?_⟩
  · rw [hsame.published, hsame.stage]
    exact h.rest (by rwa [← hphase])
  · rw [hsame.published, hsame.stage]
    exact h.reported (by rwa [← hphase]) (by rwa [← hsame.published])

/-- A loop that has published is steady. -/
lemma of_shown (h : l.engine.Shown) : l.Steady := ⟨fun _ => h.depicts, fun _ _ => h.depicts⟩

/-- A loop in which a command has been taken, or that has ended, has nothing to keep. -/
lemma of_phase (h : l.phase = .ended ∨ ∃ answer, l.phase = .handled (some answer)) : l.Steady := by
  rcases h with h | ⟨answer, h⟩ <;> exact ⟨by simp [h], by simp [h]⟩

end Steady

/-- A report does nothing to a loop that invites the player to go on. -/
lemma steady_report {report : Report} {queue : List Report} (h : l.Steady)
    (hstage : Stage.Reachable r settings l.engine.stage) (hidle : l.phase = .idle) (now : ℕ) :
    (behind (({ l.engine with queue } : Engine).receive now report) false).Steady := by
  obtain ⟨-, hpublished⟩ := Engine.published_receive { l.engine with queue } now report
  have hdepicts := h.rest (Or.inl hidle)
  refine ⟨fun hrest => ?_, fun _ hcan => ?_⟩
  · simp only [behind] at hrest
    split at hrest <;> simp at hrest
  · have hstill : (({ l.engine with queue } : Engine).receive now report).1.stage =
        l.engine.stage := by
      rw [Engine.stage_receive]
      refine apply_report_of_canProceed hstage ?_ report
      rw [← hdepicts.canProceed_eq]
      simpa only [behind, hpublished] using hcan
    simpa only [behind, hpublished, hstill] using hdepicts

/-- **Every act keeps a loop steady.** -/
theorem Steady.act (h : l.Steady) (hstage : Stage.Reachable r settings l.engine.stage) (a : Act) :
    (l.act a).Steady := by
  cases a with
  | command now c =>
    simp only [Loop.act]
    split
    · refine .of_phase ?_
      simp only [behind]
      split
      · exact Or.inl rfl
      · exact Or.inr ⟨_, rfl⟩
    · exact h
  | report now =>
    simp only [Loop.act]
    split
    next hidle _ => exact steady_report h hstage hidle now
    next => exact h
  | publish =>
    simp only [Loop.act]
    split
    · exact .of_shown (Engine.shown_publish _)
    · exact .of_shown (Engine.shown_publish _)
    · exact h
  | answer =>
    simp only [Loop.act]
    split
    next answer hphase =>
      exact ⟨fun _ => h.rest (Or.inr ⟨answer, hphase⟩), fun hreported => by cases hreported⟩
    next => exact h
  | tick ticket => exact h.of_same rfl (Engine.sameShow_tick _ _)
  | quit ticket => exact h.of_same rfl (Engine.sameShow_quit _ _)
  | stop =>
    simp only [Loop.act]
    split
    · exact .of_phase (Or.inl rfl)
    · exact h

/-! ## Versions in loops -/

/-- A loop without versions. -/
def plain (l : Loop) : Loop := ⟨l.engine.plain, l.phase⟩

/-- A loop behind a message, without versions. -/
lemma plain_behind (handled : Engine × Except PlayError Unit) (asked : Bool) :
    (behind handled asked).plain = behind (handled.1.plain, handled.2) asked := rfl

/-- Without a report there is none to handle. -/
lemma act_report_of_nil (hqueue : l.engine.queue = []) (now : ℕ) : l.act (.report now) = l := by
  simp only [act, hqueue]
  cases l.phase <;> rfl

/-- The oldest report is received where the loop waits for a message. -/
lemma act_report_of_cons {report : Report} {queue : List Report} (hidle : l.phase = .idle)
    (hqueue : l.engine.queue = report :: queue) (now : ℕ) :
    l.act (.report now) = behind (({ l.engine with queue } : Engine).receive now report) false := by
  simp only [act, hidle, hqueue]

/-- **Versions have no part in what acts do.**

**Proof sketch.** All acts but publishing do the same to engines that differ in versions only. What
is published is compared with what there is under the version that it bears, so the comparison does
not depend on it. -/
theorem plain_act (h : l.Counted) (a : Act) : (l.act a).plain = (l.plain.act a).plain := by
  obtain ⟨e, phase⟩ := l
  cases a with
  | command now c =>
    cases phase with
    | idle =>
      show (behind (e.take now c) true).plain = (behind (e.plain.take now c) true).plain
      rw [Engine.take_plain, plain_behind]
      rfl
    | handled | published | ended => rfl
  | report now =>
    cases phase with
    | idle =>
      cases hqueue : e.queue with
      | nil =>
        rw [act_report_of_nil hqueue, plain, act_report_of_nil hqueue]
        rfl
      | cons report queue =>
        rw [act_report_of_cons rfl hqueue, plain, act_report_of_cons rfl hqueue]
        show (behind (({ e with queue } : Engine).receive now report) false).plain =
          (behind (({ e with queue } : Engine).plain.receive now report) false).plain
        rw [Engine.receive_plain, plain_behind]
        rfl
    | handled | published | ended => rfl
  | publish =>
    have hpublish : e.publish.plain = e.plain.publish.plain := by
      rw [Engine.plain_publish h, Engine.plain_publish rfl]
      rfl
    cases phase with
    | handled answer => cases answer <;> simp only [act, plain, hpublish]
    | idle | published | ended => rfl
  | answer => cases phase <;> rfl
  | tick ticket => simp only [act, plain, Engine.tick_plain, Engine.plain_plain]
  | quit ticket => rfl
  | stop =>
    cases phase with
    | idle => simp only [act, plain, Engine.cancelTimer_plain, Engine.plain_plain]
    | handled | published | ended => rfl

/-- Loops that differ in versions only still do after every act. -/
lemma plain_act_congr (h : l.Counted) (h' : l'.Counted) (hsame : l.plain = l'.plain) (a : Act) :
    (l.act a).plain = (l'.act a).plain := by
  rw [plain_act h, plain_act h', hsame]

end Loop

end Cutscene
