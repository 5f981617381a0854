import Cutscene.Playback.Engine
import Cutscene.Proofs.Playback.Tickets

set_option relaxedAutoImplicit false
set_option autoImplicit false

/-!
# Moves of the engine

Commands come whenever users send them, timers report whenever they are due, and the engine handles
the reports one at a time in between. This file makes a value of each single thing that can happen,
so that a list of them is one way of interleaving them all, and says what each does to the slot and
to the timers.

## Main definitions

* `Cutscene.Engine.Move` — a single thing that can happen; `Cutscene.Engine.make` lets it happen.
* `Cutscene.Engine.run` — one move after the other.
* `Cutscene.Engine.Reachable` — the engines that come about over a repertoire.
* `Cutscene.Engine.handle` — a message handled, whatever it asks of the stage.
* `Cutscene.Engine.renew` — the timer in the slot stopped, and another one started or none.
* `Cutscene.Engine.Handled` — what a message leaves of slot, timers and queue.

## Main results

* `Cutscene.Snapshot.beq_iff` — what it is for two snapshots to compare.
* `Cutscene.Engine.handleCommand_fst`, `Cutscene.Engine.deliver_fst` — commands and reports are
  handled alike, by what they ask of the stage.
* `Cutscene.Engine.handled_handle` — a message renews the timer exactly if it takes the running
  effect away.
* `Cutscene.Engine.Reachable.stage` — the stage of a reachable engine is reachable.

## Design

A timer makes one report at a time, also where the last character and the end of an effect are due
together: something else may happen between the two. Telling a timer to stop does not make it stop
at once. It may go on to report as if nothing had happened, or give up at any time; so whatever
holds of all moves holds also where a timer that is being stopped gets ahead of whoever stops it.
-/

namespace Cutscene

/-! ## Messages and what they ask of the stage -/

/-- What a command asks of the stage. -/
def Command.operation : Command → Operation
  | .trigger name => .trigger name
  | .proceed => .proceed
  | .confirm => .confirm
  | .restart => .restart

/-- What a report asks of the stage. -/
def Report.operation : Report → Operation
  | .reveal ticket => .reveal ticket
  | .resolved ticket => .resolve ticket

/-- The ticket that a report is made under. -/
def Report.ticket : Report → Ticket
  | .reveal ticket => ticket
  | .resolved ticket => ticket

/-- The next single report of a timer. -/
def Timer.tick (t : Timer) : Timer × Report :=
  match t.reveals with
  | 0 => ({ t with finished := true }, .resolved t.ticket)
  | 1 => ({ t with reveals := 0 }, .reveal t.ticket)
  | count + 2 => ({ t with reveals := count + 1, due := t.due + t.interval }, .reveal t.ticket)

/-- A report that is made leaves the timer under its ticket, told to stop or not as before. -/
@[simp] lemma Timer.tick_fixed (t : Timer) :
    t.tick.1.ticket = t.ticket ∧ t.tick.1.cancelled = t.cancelled ∧
      t.tick.2.ticket = t.ticket := by
  unfold tick
  split <;> exact ⟨rfl, rfl, rfl⟩

/-- A timer with characters left reports one of them. -/
lemma Timer.tick_of_pos {t : Timer} (h : t.reveals ≠ 0) :
    t.tick.1.reveals + 1 = t.reveals ∧ t.tick.1.finished = t.finished ∧
      t.tick.2 = .reveal t.ticket := by
  unfold tick
  split
  next h0 => exact absurd h0 h
  next h1 => exact ⟨h1.symm, rfl, rfl⟩
  next h2 => exact ⟨h2.symm, rfl, rfl⟩

/-- A timer without characters left reports that its effect is over, and is done. -/
lemma Timer.tick_of_zero {t : Timer} (h : t.reveals = 0) :
    t.tick = ({ t with finished := true }, .resolved t.ticket) := by
  unfold tick
  rw [h]

/-! ## Snapshots -/

/-- Two snapshots compare if their variables do and all else is the same. -/
lemma Snapshot.beq_iff {a b : Snapshot} : (a == b) = true ↔
    a.bubbles = b.bubbles ∧ a.typing = b.typing ∧ a.active = b.active ∧ a.waiting = b.waiting ∧
      a.scene = b.scene ∧ a.stepIndex = b.stepIndex ∧ a.kind = b.kind ∧
      (a.values == b.values) = true ∧ a.version = b.version := by
  obtain ⟨bubbles, typing, active, waiting, scene, stepIndex, kind, values, version⟩ := a
  obtain ⟨bubbles', typing', active', waiting', scene', stepIndex', kind', values', version'⟩ := b
  change (bubbles == bubbles' && (typing == typing' && (active == active' &&
    (waiting == waiting' && (scene == scene' && (stepIndex == stepIndex' && (kind == kind' &&
      (values == values' && version == version')))))))) = true ↔ _
  simp only [Bool.and_eq_true, beq_iff_eq]

namespace Engine

/-! ## Moves -/

/-- A single thing that can happen to an engine. -/
inductive Move where
  /-- A command is handled. -/
  | command (now : ℕ) (c : Command)
  /-- The oldest report is handled. -/
  | deliver (now : ℕ)
  /-- The timer of a ticket makes its next report. -/
  | tick (ticket : Ticket)
  /-- The timer of a ticket, if it has been told to stop, gives up. -/
  | quit (ticket : Ticket)

/-- The timer of a ticket makes its next report, unless it has made its last. -/
def tick (e : Engine) (ticket : Ticket) : Engine :=
  match e.timers.find? fun t => t.ticket == ticket && !t.finished with
  | none => e
  | some timer =>
    { e with
      timers := e.timers.map fun t => if t.ticket = ticket then timer.tick.1 else t
      queue := e.queue ++ [timer.tick.2] }

/-- The timer of a ticket gives up, if it has been told to stop. -/
def quit (e : Engine) (ticket : Ticket) : Engine :=
  { e with
    timers := e.timers.map fun t =>
      if t.ticket = ticket ∧ t.cancelled = true then { t with finished := true } else t }

/-- Lets something happen. -/
def make (e : Engine) : Move → Engine
  | .command now c => (e.handleCommand now c).1
  | .deliver now => (e.deliver now).1
  | .tick ticket => e.tick ticket
  | .quit ticket => e.quit ticket

/-- Makes one move after the other. -/
def run (e : Engine) (moves : List Move) : Engine := moves.foldl make e

@[simp] lemma run_nil (e : Engine) : e.run [] = e := rfl

@[simp] lemma run_cons (e : Engine) (m : Move) (moves : List Move) :
    e.run (m :: moves) = (e.make m).run moves := rfl

@[simp] lemma run_append (e : Engine) (moves more : List Move) :
    e.run (moves ++ more) = (e.run moves).run more := by simp [run]

/-- An engine whose stage has nothing on it. -/
def opening (r : Repertoire) (settings : Settings) (ids : Random.Source) : Engine :=
  .ofStage ⟨r, settings, ids, .idle⟩

/-- The engines that come about when the scenes of a repertoire are played. -/
inductive Reachable (r : Repertoire) (settings : Settings) : Engine → Prop
  /-- Nothing is played and nothing has been. -/
  | opening (ids : Random.Source) : Reachable r settings (.opening r settings ids)
  /-- One more move. -/
  | make {e : Engine} (h : Reachable r settings e) (m : Move) : Reachable r settings (e.make m)

variable {r : Repertoire} {settings : Settings} {e : Engine}

/-- Runs stay among the reachable engines. -/
lemma Reachable.run (h : Reachable r settings e) (moves : List Move) :
    Reachable r settings (e.run moves) := by
  induction moves generalizing e with
  | nil => exact h
  | cons m moves ih => exact ih (h.make m)

/-! ## Messages -/

/-- Handles a message that asks something of the stage, and publishes what has become of it. -/
def handle (e : Engine) (now : ℕ) (op : Operation) : Engine :=
  (({ e with stage := (e.stage.apply op).1 } : Engine).schedule now (e.stage.apply op).2).1.publish

/-- Publishing shows what there is and changes nothing of it. -/
lemma publish_fixed (e : Engine) :
    e.publish.stage = e.stage ∧ e.publish.slot = e.slot ∧ e.publish.timers = e.timers ∧
      e.publish.queue = e.queue := by
  unfold publish
  simp only
  split <;> exact ⟨rfl, rfl, rfl, rfl⟩

/-- The slot holds the ticket of the running effect, and nothing while there is none. -/
def SlotAgrees (e : Engine) : Prop := e.slot = e.stage.state.running.map Running.ticket

/-- Commands are handled by what they ask of the stage. -/
lemma handleCommand_fst (e : Engine) (now : ℕ) (c : Command) :
    (e.handleCommand now c).1 = e.handle now c.operation := by
  cases c <;> rfl

/-- What is in the slot is not stale if it is the ticket of the running effect. -/
lemma SlotAgrees.not_stale (h : e.SlotAgrees) :
    (e.slot.any fun ticket => !e.stage.state.isCurrent ticket) = false := by
  rw [h]
  cases hr : e.stage.state.running <;> simp [State.isCurrent, hr]

/-- Reports are handled by what they ask of the stage, too. A report of a character is handled
without a look at the slot, which would find nothing to do. -/
lemma deliver_fst {report : Report} {queue : List Report} (h : e.SlotAgrees)
    (hqueue : e.queue = report :: queue) (now : ℕ) :
    (e.deliver now).1 = ({ e with queue } : Engine).handle now report.operation := by
  cases report with
  | resolved ticket => simp only [deliver, hqueue]; rfl
  | reveal ticket =>
    have hstale : (e.slot.any fun t => !(e.stage.reveal ticket).1.state.isCurrent t) = false := by
      rw [← h.not_stale]
      simp [Stage.reveal_fst, State.isCurrent]
    simp only [deliver, hqueue]
    simp [handleReport, runReport, handle, Report.operation, Stage.apply, schedule, hstale]

/-- Without reports there is nothing to deliver. -/
lemma deliver_of_nil (hqueue : e.queue = []) (now : ℕ) : (e.deliver now).1 = e := by
  simp only [deliver, hqueue]

/-! ## What a message does to the timers -/

/-- Stops the timer in the slot and starts one for an effect, if there is one. -/
def renew (e : Engine) (now : ℕ) : Option Pending → Engine
  | none => e.cancelTimer
  | some pending => e.startTimer now pending

/-- A timer told to stop if its ticket is in the slot. -/
def halted (e : Engine) (t : Timer) : Timer :=
  if e.slot = some t.ticket then { t with cancelled := true } else t

@[simp] lemma halted_fixed (e : Engine) (t : Timer) :
    (e.halted t).ticket = t.ticket ∧ (e.halted t).reveals = t.reveals ∧
      (e.halted t).finished = t.finished := by
  unfold halted
  split <;> exact ⟨rfl, rfl, rfl⟩

/-- Stopping the timer in the slot empties the slot. -/
lemma cancelTimer_eq (e : Engine) :
    e.cancelTimer = { e with slot := none, timers := e.timers.map e.halted } := by
  obtain ⟨stage, slot, timers, queue, version, published⟩ := e
  cases slot with
  | none =>
    have hid : (⟨stage, none, timers, queue, version, published⟩ : Engine).halted = id := by
      funext t
      simp [halted]
    rw [hid, List.map_id]
    rfl
  | some ticket => simp [cancelTimer, halted, eq_comm]

/-- A renewal stops the timer in the slot, and puts the timer of the effect in front of all. -/
lemma renew_eq (e : Engine) (now : ℕ) (pending : Option Pending) :
    e.renew now pending =
      { e with
        slot := pending.map Pending.ticket
        timers := pending.toList.map (Timer.start now e.stage.settings.typeInterval) ++
          e.timers.map e.halted } := by
  cases pending <;> simp [renew, startTimer, cancelTimer_eq]

/-- Stopping a timer a second time changes nothing. -/
lemma renew_cancelTimer (e : Engine) (now : ℕ) (pending : Option Pending) :
    e.cancelTimer.renew now pending = e.renew now pending := by
  have hhalted : e.cancelTimer.halted = id := by
    funext t
    simp [halted, cancelTimer_eq]
  rw [renew_eq, renew_eq, hhalted]
  simp [cancelTimer_eq]

/-- What is scheduled is what an operation has started. -/
lemma schedule_fst (e : Engine) (now : ℕ) (outcome : Outcome) :
    (e.schedule now outcome).1 =
      let e := if e.slot.any fun ticket => !e.stage.state.isCurrent ticket
        then e.cancelTimer else e
      match Outcome.pending? outcome with
      | none => e
      | some pending => e.startTimer now pending := by
  unfold schedule
  rcases outcome with err | _ | pending <;> rfl

/-- **A message that takes the running effect away** renews the timer.

**Proof sketch.** The ticket in the slot is that of the effect that was taken away and has expired
(`Stage.Renewal.expired`), so the timer is stopped. -/
theorem handle_of_drops {op : Operation} (h : e.SlotAgrees) (hlast : e.stage.RunsLast)
    (hdrops : e.stage.drops op = true) (now : ℕ) :
    e.handle now op =
      (({ e with stage := (e.stage.apply op).1 } : Engine).renew now
        (Outcome.pending? (e.stage.apply op).2)).publish := by
  have hstale : ∀ ticket, e.slot = some ticket →
      (e.stage.apply op).1.state.isCurrent ticket = false := by
    intro ticket hslot
    have hcurrent : e.stage.state.isCurrent ticket = true := by
      obtain ⟨effect, hrunning, rfl⟩ := Option.map_eq_some_iff.1 (h ▸ hslot)
      simp [State.isCurrent, hrunning]
    exact ((Stage.renewal_apply hdrops).expired (hlast.drawn hcurrent)).stopped
  rw [handle, schedule_fst]
  cases hslot : e.slot with
  | none =>
    cases hpending : Outcome.pending? (e.stage.apply op).2 with
    | none => simp [renew, cancelTimer]
    | some pending => simp [renew]
  | some ticket =>
    simp only [Option.any_some, hstale ticket hslot, Bool.not_false, if_true]
    rw [← renew_cancelTimer]
    cases Outcome.pending? (e.stage.apply op).2 with
    | none => simp [renew, cancelTimer]
    | some pending => rfl

/-- **Any other message** leaves the slot and the timers alone. -/
theorem handle_of_not_drops {op : Operation} (h : e.SlotAgrees)
    (hdrops : e.stage.drops op = false) (now : ℕ) :
    e.handle now op = ({ e with stage := (e.stage.apply op).1 } : Engine).publish := by
  obtain ⟨hpending, -, hrunning⟩ := Stage.apply_of_not_drops hdrops
  have hagrees : ({ e with stage := (e.stage.apply op).1 } : Engine).SlotAgrees := by
    rw [SlotAgrees, hrunning, h]
  rw [handle, schedule_fst, hpending]
  simp only [hagrees.not_stale, Bool.false_eq_true, if_false]

/-- What a message leaves of slot, timers and queue: a message that takes the running effect away
puts the timer of the effect that it has started, if there is one, in the place of the timer in the
slot; any other message changes nothing. -/
structure Handled (e : Engine) (op : Operation) (now : ℕ) (e' : Engine) : Prop where
  /-- The stage does what it is asked for. -/
  stage : e'.stage = (e.stage.apply op).1
  /-- The slot. -/
  slot : e'.slot =
    if e.stage.drops op then (Outcome.pending? (e.stage.apply op).2).map Pending.ticket else e.slot
  /-- The timers. -/
  timers : e'.timers =
    if e.stage.drops op then
      (Outcome.pending? (e.stage.apply op).2).toList.map
        (Timer.start now e.stage.settings.typeInterval) ++ e.timers.map e.halted
    else e.timers
  /-- The queue. -/
  queue : e'.queue = e.queue

/-- **A message** renews the timer exactly if it takes the running effect away. -/
theorem handled_handle (h : e.SlotAgrees) (hlast : e.stage.RunsLast) (now : ℕ) (op : Operation) :
    e.Handled op now (e.handle now op) := by
  cases hdrops : e.stage.drops op with
  | true =>
    rw [handle_of_drops h hlast hdrops, renew_eq]
    obtain ⟨hstage, hslot, htimers, hqueue⟩ := publish_fixed _
    exact ⟨hstage, by rw [hslot, hdrops]; rfl,
      by rw [htimers, hdrops, Stage.settings_apply]; rfl, hqueue⟩
  | false =>
    rw [handle_of_not_drops h hdrops]
    obtain ⟨hstage, hslot, htimers, hqueue⟩ := publish_fixed _
    exact ⟨hstage, by rw [hslot, hdrops]; rfl, by rw [htimers, hdrops]; rfl, hqueue⟩

/-- A command is handled with the queue as it is. -/
lemma handled_command (h : e.SlotAgrees) (hlast : e.stage.RunsLast) (now : ℕ) (c : Command) :
    e.Handled c.operation now (e.make (.command now c)) := by
  rw [make, handleCommand_fst]
  exact handled_handle h hlast now c.operation

/-- A report is handled with the rest of the queue. -/
lemma handled_deliver {report : Report} {queue : List Report} (h : e.SlotAgrees)
    (hlast : e.stage.RunsLast) (hqueue : e.queue = report :: queue) (now : ℕ) :
    ({ e with queue } : Engine).Handled report.operation now (e.make (.deliver now)) := by
  have hslot : ({ e with queue } : Engine).SlotAgrees := h
  rw [make, deliver_fst h hqueue]
  exact handled_handle hslot hlast now report.operation

/-! ## The stage of an engine -/

/-- Scheduling leaves the stage alone. -/
@[simp] lemma stage_schedule (e : Engine) (now : ℕ) (outcome : Outcome) :
    (e.schedule now outcome).1.stage = e.stage := by
  rw [schedule_fst]
  simp only
  split <;> split <;> simp [startTimer, cancelTimer_eq]

/-- Publishing leaves the stage alone. -/
@[simp] lemma stage_publish (e : Engine) : e.publish.stage = e.stage := (publish_fixed e).1

/-- A timer that reports leaves the stage alone. -/
@[simp] lemma stage_tick (e : Engine) (ticket : Ticket) : (e.tick ticket).stage = e.stage := by
  unfold tick
  split <;> rfl

/-- What a move asks of the stage. -/
def asks (e : Engine) : Move → Option Operation
  | .command _ c => some c.operation
  | .deliver _ => e.queue.head?.map Report.operation
  | .tick _ => none
  | .quit _ => none

/-- The stage does what a move asks of it, and nothing else happens to it. -/
lemma stage_make (e : Engine) (m : Move) :
    (e.make m).stage = (e.asks m).elim e.stage fun op => (e.stage.apply op).1 := by
  cases m with
  | command now c => simp [make, asks, handleCommand_fst, handle]
  | deliver now =>
    cases hqueue : e.queue with
    | nil => simp [make, asks, hqueue, deliver]
    | cons report queue =>
      cases report <;> simp [make, asks, hqueue, deliver, handleReport, runReport,
        Report.operation, Stage.apply]
  | tick ticket => simp [make, asks]
  | quit ticket => rfl

/-- The stage of a reachable engine is reachable. -/
theorem Reachable.stage (h : Reachable r settings e) :
    Stage.Reachable r settings e.stage := by
  induction h with
  | opening ids => exact .opening ids
  | @make e h m ih =>
    rw [stage_make]
    cases e.asks m with
    | none => exact ih
    | some op => exact ih.step op

end Engine

end Cutscene
