import Cutscene.Playback.Stage

set_option relaxedAutoImplicit false
set_option autoImplicit false

/-!
# Playing scenes through

A scene can be played with nobody watching: every effect is waited for to its end, and whenever
the stage waits for the player, it is told to proceed. What happens is written down in order.

## Main definitions

* `Cutscene.Happening` — an effect waited for, a line said, or a proceed.
* `Cutscene.PlayThrough` — what has happened; `lines`, `proceeds` and `waits` are views of it.
* `Cutscene.Stage.playThrough` — plays a scene from its start to its end.
-/

namespace Cutscene

/-- What happens while a scene is played through. -/
inductive Happening where
  /-- An effect was waited for. -/
  | waited (length : Duration)
  /-- A line was typed to its end. -/
  | said (bubble : Bubble)
  /-- The stage waited for the player, and was told to proceed. -/
  | proceeded
  deriving DecidableEq

/-- What has happened, oldest first. -/
abbrev PlayThrough := List Happening

namespace PlayThrough

/-- The bubbles whose lines were said. -/
def lines (p : PlayThrough) : List Bubble :=
  p.filterMap fun
    | .said bubble => some bubble
    | .waited _ => none
    | .proceeded => none

/-- How often the stage was told to proceed. -/
def proceeds (p : PlayThrough) : Nat := p.countP (· == .proceeded)

/-- How long each effect took. -/
def waits (p : PlayThrough) : List Duration :=
  p.filterMap fun
    | .waited length => some length
    | .said _ => none
    | .proceeded => none

/-- How long everything took, in nanoseconds. -/
def elapsed (p : PlayThrough) : Nat := Duration.total p.waits

end PlayThrough

namespace Stage

/-- Shows a number of characters. -/
def revealMany (s : Stage) (ticket : Ticket) : Nat → Stage
  | 0 => s
  | count + 1 => (s.reveal ticket).1.revealMany ticket count

/-- Waits for an effect. The characters it types are shown, and a line that is complete then has
been said. -/
def await (s : Stage) (pending : Pending) : Stage × PlayThrough :=
  let s' := s.revealMany pending.ticket pending.effect.chars
  let line := if pending.effect.isTyping then s'.state.bubbles.getLast?.toList else []
  (s', .waited (pending.effect.duration s.settings.typeInterval) :: line.map .said)

/-- Plays on from an operation, for a number of operations. -/
def playOn (past : PlayThrough) : Nat → Stage × Outcome → Stage × Except PlayError PlayThrough
  | _, (s, .error e) => (s, .error e)
  | 0, (s, .ok _) => (s, .ok past)
  | fuel + 1, (s, .ok (some pending)) =>
    let (s, news) := s.await pending
    playOn (past ++ news) fuel (s.resolve pending.ticket)
  | fuel + 1, (s, .ok none) =>
    if s.state.isWaiting then playOn (past ++ [.proceeded]) fuel s.proceed
    else (s, .ok past)

/-- How many operations playing on can take: each step is resolved at most once and left at most
once. -/
def operationsLeft (s : Stage) : Nat :=
  match s.state.session with
  | some session => 2 * session.scene.length + 2
  | none => 2

/-- Plays a scene from its start to its end. -/
def playThrough (s : Stage) (name : String) : Stage × Except PlayError PlayThrough :=
  let started := s.trigger name
  playOn [] (operationsLeft started.1) started

end Stage

end Cutscene
