import Cutscene.Duration

set_option relaxedAutoImplicit false
set_option autoImplicit false

/-!
# Effects

What a step does takes effect at once, except for what takes time: typing a line, a pause, and the
rest after the bubbles were taken away. An effect that has been started is known by its ticket,
and whoever waits for it reports back with that ticket.

## Main definitions

* `Cutscene.Effect` — what takes time.
* `Cutscene.Ticket` — the number of a started effect.
* `Cutscene.Pending` — an effect with its ticket.
-/

namespace Cutscene

/-- What a step leaves to wait for. -/
inductive Effect where
  /-- The characters of the newest bubble appear one by one. -/
  | typing (chars : Nat)
  /-- A pause that the script asks for. -/
  | pause (length : Duration)
  /-- The rest after the bubbles were taken away. -/
  | settle (length : Duration)
  deriving DecidableEq

namespace Effect

/-- Whether an effect is the typing of a line. -/
def isTyping : Effect → Bool
  | typing _ => true
  | pause _ => false
  | settle _ => false

/-- How many characters there are to type. -/
def chars : Effect → Nat
  | typing n => n
  | pause _ => 0
  | settle _ => 0

/-- The largest number of characters that counts for the time an effect takes. -/
def maxChars : Nat := UInt32.size - 1

/-- How long an effect takes if nothing cuts it short. -/
def duration (interval : Duration) : Effect → Duration
  | typing n => interval.times (min n maxChars)
  | pause d => d
  | settle d => d

/-- How long it takes until whatever a step left to wait for is over. -/
def waitTime (interval : Duration) (effect : Option Effect) : Duration :=
  effect.elim .zero (duration interval)

end Effect

/-- The number of a started effect. Effects started later have larger numbers. -/
structure Ticket where
  /-- The number. -/
  number : Nat
  deriving DecidableEq, Repr

/-- A ticket as it is shown. -/
def Ticket.display (t : Ticket) : String := "#" ++ toString t.number

/-- A started effect. -/
structure Pending where
  /-- Its ticket. -/
  ticket : Ticket
  /-- What there is to wait for. -/
  effect : Effect
  deriving DecidableEq

end Cutscene
