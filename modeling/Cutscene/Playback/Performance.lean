import Cutscene.Playback.Engine

set_option relaxedAutoImplicit false
set_option autoImplicit false

/-!
# Performances

A performance is an engine on a clock. Commands are handled at the time they come; the clock moves
only while somebody waits, and then every timer that falls due reports at its time. Once it has
been shut down, a performance keeps its last snapshot and takes no more commands.

## Main definitions

* `Cutscene.Performance` — an engine, the time, and all that was published.
* `Cutscene.Performance.send` — a command, handled now.
* `Cutscene.Performance.wait` — lets time pass.
* `Cutscene.Recording` — what a renderer has seen.
-/

namespace Cutscene

/-- An engine on a clock. -/
structure Performance where
  /-- The engine. -/
  engine : Engine
  /-- The time, in nanoseconds. -/
  now : Nat
  /-- Whether the engine takes commands. -/
  running : Bool
  /-- The snapshots published so far, newest first. -/
  frames : List Snapshot

namespace Performance

/-- A performance that is about to begin. -/
def ofStage (stage : Stage) : Performance :=
  let engine := Engine.ofStage stage
  ⟨engine, 0, true, [engine.published]⟩

/-- The snapshot that everybody sees. -/
def snapshot (p : Performance) : Snapshot := p.engine.published

/-- Stops the engine. -/
def shutdown (p : Performance) : Performance :=
  { p with engine := p.engine.cancelTimer, running := false }

/-- Goes on with an engine that has handled a message. A pause out of range is fatal: the engine
stops where it is, and whoever asked learns only that it has stopped. -/
def take (p : Performance) : Engine × Except PlayError Unit → Performance × Except PlayError Unit
  | (_, .error .pauseTooLong) => (p.shutdown, .error .unavailable)
  | (engine, result) =>
    let frames :=
      if engine.version = p.engine.version then p.frames else engine.published :: p.frames
    ({ p with engine, frames }, result)

/-- Sends a command to the engine. -/
def send (p : Performance) (c : Command) : Performance × Except PlayError Unit :=
  if p.running then p.take (p.engine.handleCommand p.now c) else (p, .error .unavailable)

/-- Handles a number of reports. -/
def deliverMany (p : Performance) : Nat → Performance
  | 0 => p
  | count + 1 =>
    if p.running then (p.take (p.engine.deliver p.now)).1.deliverMany count else p

/-- Lets a timer report at its time, and handles the reports. -/
def fire (p : Performance) (timer : Timer) : Performance :=
  let engine := p.engine.fire timer.ticket
  { p with engine, now := max p.now timer.due }.deliverMany engine.queue.length

/-- Lets timers report up to a time, as many as `fuel` of them. -/
def runUntil (p : Performance) (limit : Nat) : Nat → Performance
  | 0 => p
  | fuel + 1 =>
    if p.running then
      match p.engine.dueTimer? limit with
      | some timer => (p.fire timer).runUntil limit fuel
      | none => p
    else p

/-- The most reports of characters and of effects that a step gives rise to. -/
def reportsOf (s : Step) : Nat := (s.line?.elim 0 Line.length) + 2

/-- How many reports can be made before the player is needed: those of the scene that is played,
and the one of a rest that is going on. -/
def reportsLeft (p : Performance) : Nat :=
  match p.engine.stage.state.session with
  | some session => session.scene.steps.foldr (fun step n => reportsOf step + n) 2
  | none => 2

/-- Lets time pass. -/
def wait (p : Performance) (nanos : Nat) : Performance :=
  let limit := p.now + nanos
  { p.runUntil limit p.reportsLeft with now := limit }

end Performance

/-- What a renderer has seen of a performance. -/
structure Recording where
  /-- The first snapshot. -/
  first : Snapshot
  /-- The last snapshot. -/
  last : Snapshot
  /-- Whether a line was being typed in one of them. -/
  typing : Bool
  /-- Whether the player was waited for in one of them. -/
  waiting : Bool
  /-- Whether the versions rose from each to the next. -/
  rising : Bool

/-- Whether each number is larger than the one before. -/
def isRising : List Nat → Bool
  | a :: b :: rest => a < b && isRising (b :: rest)
  | _ => true

/-- What a renderer has seen who was there from the start. -/
def Performance.recording (p : Performance) : Recording :=
  let frames := p.frames.reverse
  { first := frames.headD p.snapshot
    last := p.snapshot
    typing := frames.any Snapshot.typing
    waiting := frames.any Snapshot.waiting
    rising := isRising (frames.map Snapshot.version) }

end Cutscene
