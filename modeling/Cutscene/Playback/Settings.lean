import Cutscene.Duration

set_option relaxedAutoImplicit false
set_option autoImplicit false

/-!
# Playback settings

How fast a scene is played: the time between two characters, the rest after the bubbles were
taken away, and a scale for the pauses that are written in the script.

## Main definitions

* `Cutscene.Settings` — the settings; `Settings.standard` and `Settings.instant` are the usual
  ones.
* `Cutscene.Settings.withScale` — sets the scale to a number that makes sense.
* `Cutscene.Settings.scaledPause?` — how long a written pause lasts.
-/

namespace Cutscene

/-- How scenes are played. -/
structure Settings where
  /-- The time from one character to the next. -/
  typeInterval : Duration
  /-- The rest after the bubbles were taken away. -/
  settleDelay : Duration
  /-- What pauses are multiplied by. -/
  delayScale : Float
  /-- The seed of the bubbles' identifiers, if they are to be the same every time. -/
  seed : Option UInt64
  /-- How many commands may wait for the engine. -/
  commandBuffer : UInt64

namespace Settings

/-- Twenty milliseconds a character, three hundred of rest, and pauses as they are written. -/
def standard : Settings where
  typeInterval := .ofMillis 20
  settleDelay := .ofMillis 300
  delayScale := 1.0
  seed := none
  commandBuffer := 32

/-- Everything takes no time at all. -/
def instant : Settings :=
  { standard with typeInterval := .zero, settleDelay := .zero, delayScale := 0.0 }

/-- Sets the scale of pauses. It is never negative, and one where it is not a finite number. -/
def withScale (s : Settings) (scale : Float) : Settings :=
  { s with delayScale := if scale.isFinite then (if 0 < scale then scale else 0.0) else 1.0 }

/-- Sets how many commands may wait; there is room for one at least. -/
def withCommandBuffer (s : Settings) (capacity : UInt64) : Settings :=
  { s with commandBuffer := if capacity = 0 then 1 else capacity }

/-- How long a pause lasts, unless scaling takes it out of range. -/
def scaledPause? (s : Settings) (millis : UInt64) : Option Duration :=
  (Duration.ofMillis millis).scaled? s.delayScale

end Settings

end Cutscene
