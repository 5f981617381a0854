import Cutscene.Playback.Snapshot
import Cutscene.Playback.Stage

set_option relaxedAutoImplicit false
set_option autoImplicit false

/-!
# The playback engine

The engine runs a stage in time. It takes commands one at a time, keeps a timer for the running
effect, and publishes a snapshot whenever something has changed. Timers do not touch the stage:
they put reports into a queue, and the engine handles the reports in their order, between
commands. A report of a timer that has been cancelled meanwhile meets a stage that has moved on,
and does nothing.

The engine keeps all the timers it ever started. When each of them reports is not its business:
whoever drives the engine lets timers report, as `Cutscene.Performance` does by a clock.

## Main definitions

* `Cutscene.Command`, `Cutscene.Report` — what the engine is told by its users and by timers.
* `Cutscene.Timer` — waits for an effect; `Timer.fire` is its next report.
* `Cutscene.Engine` — the stage, the timers, the queue and the published snapshot.
* `Cutscene.Engine.handleCommand`, `Cutscene.Engine.handleReport` — one message handled.
* `Cutscene.Engine.publish` — a new snapshot, if there is anything new.
-/

namespace Cutscene

/-- What users of the engine ask for. -/
inductive Command where
  /-- Start a scene. -/
  | trigger (name : String)
  /-- Leave the current step. -/
  | proceed
  /-- Leave the current step if it allows it. -/
  | confirm
  /-- Start the scene over again. -/
  | restart
  deriving DecidableEq, Repr

/-- What a timer reports. -/
inductive Report where
  /-- One more character. -/
  | reveal (ticket : Ticket)
  /-- The effect is over. -/
  | resolved (ticket : Ticket)
  deriving DecidableEq, Repr

/-! ## Timers -/

/-- Waits for an effect. -/
structure Timer where
  /-- The ticket of the effect. -/
  ticket : Ticket
  /-- How many characters are still to be reported. -/
  reveals : Nat
  /-- The time from one character to the next, in nanoseconds. -/
  interval : Nat
  /-- When the timer reports next, in nanoseconds. -/
  due : Nat
  /-- Whether the timer has been told to stop. -/
  cancelled : Bool
  /-- Whether the timer has made its last report. -/
  finished : Bool
  deriving DecidableEq

namespace Timer

/-- Starts a timer for an effect. -/
def start (now : Nat) (interval : Duration) (pending : Pending) : Timer where
  ticket := pending.ticket
  reveals := pending.effect.chars
  interval := interval.nanos
  due := now + match pending.effect with
    | .typing _ => interval.nanos
    | .pause length => length.nanos
    | .settle length => length.nanos
  cancelled := false
  finished := false

/-- Whether a timer is still going to report. -/
def isLive (t : Timer) : Bool := !t.cancelled && !t.finished

/-- The next report of a timer. With the last character comes the report that the effect is
over. -/
def fire (t : Timer) : Timer × List Report :=
  match t.reveals with
  | 0 => ({ t with finished := true }, [.resolved t.ticket])
  | 1 => ({ t with reveals := 0, finished := true }, [.reveal t.ticket, .resolved t.ticket])
  | count + 2 => ({ t with reveals := count + 1, due := t.due + t.interval }, [.reveal t.ticket])

end Timer

/-! ## The engine -/

/-- A stage with its timers, the reports that wait to be handled, and what is published. -/
structure Engine where
  /-- The stage. -/
  stage : Stage
  /-- The ticket of the timer that is waited for. -/
  slot : Option Ticket
  /-- All timers ever started, newest first. -/
  timers : List Timer
  /-- The reports that have not been handled, oldest first. -/
  queue : List Report
  /-- The number of changes published so far. -/
  version : Nat
  /-- The snapshot that everybody sees. -/
  published : Snapshot

namespace Engine

/-- An engine that has done nothing yet. -/
def ofStage (stage : Stage) : Engine :=
  ⟨stage, none, [], [], 0, .ofState stage.state 0⟩

/-- Tells the timer in the slot to stop. -/
def cancelTimer (e : Engine) : Engine :=
  match e.slot with
  | none => e
  | some ticket =>
    { e with
      slot := none
      timers := e.timers.map fun t =>
        if t.ticket = ticket then { t with cancelled := true } else t }

/-- Starts a timer in place of the one in the slot. -/
def startTimer (e : Engine) (now : Nat) (pending : Pending) : Engine :=
  let e := e.cancelTimer
  { e with
    slot := some pending.ticket
    timers := .start now e.stage.settings.typeInterval pending :: e.timers }

/-- Makes the slot agree with the stage: a timer whose effect is no longer running is stopped, and
one is started for the effect that an operation has started. -/
def schedule (e : Engine) (now : Nat) (outcome : Outcome) : Engine × Except PlayError Unit :=
  let e := if e.slot.any fun ticket => !e.stage.state.isCurrent ticket then e.cancelTimer else e
  match outcome with
  | .error err => (e, .error err)
  | .ok none => (e, .ok ())
  | .ok (some pending) => (e.startTimer now pending, .ok ())

/-- Publishes a snapshot under the next version, unless it shows what is published already. -/
def publish (e : Engine) : Engine :=
  let next := Snapshot.ofState e.stage.state e.version
  if e.published == next then e
  else { e with version := e.version + 1, published := { next with version := e.version + 1 } }

/-- What a command does on the stage. -/
def runCommand (s : Stage) : Command → Stage × Outcome
  | .trigger name => s.trigger name
  | .proceed => s.proceed
  | .confirm => s.confirm
  | .restart => s.restart

/-- What a report does on the stage. -/
def runReport (s : Stage) : Report → Stage × Outcome
  | .reveal ticket => ((s.reveal ticket).1, .ok none)
  | .resolved ticket => s.resolve ticket

/-- Handles a command and publishes what has become of it. -/
def handleCommand (e : Engine) (now : Nat) (c : Command) : Engine × Except PlayError Unit :=
  let (stage, outcome) := runCommand e.stage c
  let (e, result) := { e with stage }.schedule now outcome
  (e.publish, result)

/-- Handles a report and publishes what has become of it. A report that an effect is over brings
the slot up to date; one of a character cannot change what runs. -/
def handleReport (e : Engine) (now : Nat) (r : Report) : Engine × Except PlayError Unit :=
  let (stage, outcome) := runReport e.stage r
  match r with
  | .reveal _ => ({ e with stage }.publish, .ok ())
  | .resolved _ =>
    let (e, result) := { e with stage }.schedule now outcome
    (e.publish, result)

/-- Handles the oldest report in the queue. -/
def deliver (e : Engine) (now : Nat) : Engine × Except PlayError Unit :=
  match e.queue with
  | [] => (e, .ok ())
  | r :: queue => { e with queue }.handleReport now r

/-- Lets the timer of a ticket make its next report. -/
def fire (e : Engine) (ticket : Ticket) : Engine :=
  match e.timers.find? (·.ticket == ticket) with
  | none => e
  | some timer =>
    let (timer, reports) := timer.fire
    { e with
      timers := e.timers.map fun t => if t.ticket = ticket then timer else t
      queue := e.queue ++ reports }

/-- The timer that is to report next, if there is one before a time. -/
def dueTimer? (e : Engine) (limit : Nat) : Option Timer :=
  e.timers.find? fun t => t.isLive && t.due ≤ limit

end Engine

end Cutscene
