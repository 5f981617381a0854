import Cutscene.Scene.Line

set_option relaxedAutoImplicit false
set_option autoImplicit false

/-!
# Bubbles

A bubble shows a line of dialogue, more and more of it while it is typed, and a mark that lets the
player go on.

## Main definitions

* `Cutscene.Bubble` — a line on screen with its progress.
* `Cutscene.Bubble.visibleText` — what is shown so far.
* `Cutscene.Bubble.revealNext`, `Cutscene.Bubble.revealAll`, `Cutscene.Bubble.hideProceed` — what
  can happen to it.
-/

namespace Cutscene

/-- A line of dialogue on screen. -/
structure Bubble where
  /-- What it is known by. -/
  id : String
  /-- What it says. -/
  line : Line
  /-- Whether the mark for going on is shown. -/
  proceedVisible : Bool
  /-- How many characters are shown. -/
  revealed : Nat
  /-- How many characters there are to show. -/
  length : Nat
  deriving DecidableEq, Repr

namespace Bubble

/-- A bubble that shows nothing of its line yet. -/
def start (id : String) (line : Line) : Bubble := ⟨id, line, true, 0, line.length⟩

/-- The text shown so far. -/
def visibleText (b : Bubble) : String := String.ofList (b.line.text.toList.take b.revealed)

/-- Whether all characters are shown. -/
def isRevealed (b : Bubble) : Bool := b.length ≤ b.revealed

/-- Shows one more character, and says whether there was one. -/
def revealNext (b : Bubble) : Bool × Bubble :=
  if b.isRevealed then (false, b) else (true, { b with revealed := b.revealed + 1 })

/-- Shows the whole text. -/
def revealAll (b : Bubble) : Bubble := { b with revealed := b.length }

/-- Takes the mark for going on away. -/
def hideProceed (b : Bubble) : Bubble := { b with proceedVisible := false }

/-- The address of the mark for going on. -/
def proceedAddress (id : String) : String := "proceed-button-" ++ id

/-- A bubble in JSON. -/
def toJson (b : Bubble) : Json :=
  .record [("id", .text b.id), ("line", .record b.line.members),
    ("proceed_visible", .flag b.proceedVisible), ("revealed", .count b.revealed),
    ("char_count", .count b.length)]

/-- A bubble that is being read. -/
structure Parts where
  /-- What it is known by. -/
  id : Option String
  /-- What it says. -/
  line : Option Line
  /-- Whether the mark is shown. -/
  proceedVisible : Option Bool
  /-- How many characters are shown. -/
  revealed : Option UInt64
  /-- How many characters there are. -/
  length : Option UInt64

/-- The fields of a bubble. Its two counts are taken as they are. -/
def schema : Json.Schema Parts Bubble where
  title := "struct DialogueBubble"
  fields := [
    ⟨"id", fun p => p.id.isSome, fun o p => return { p with id := some (← Json.readString o) }⟩,
    ⟨"line", fun p => p.line.isSome, fun o p => return { p with line := some (← Line.read o) }⟩,
    ⟨"proceed_visible", fun p => p.proceedVisible.isSome,
      fun o p => return { p with proceedVisible := some (← Json.readFlag o) }⟩,
    ⟨"revealed", fun p => p.revealed.isSome,
      fun o p => return { p with revealed := some (← Json.readCount "usize" o) }⟩,
    ⟨"char_count", fun p => p.length.isSome,
      fun o p => return { p with length := some (← Json.readCount "usize" o) }⟩]
  start := ⟨none, none, none, none, none⟩
  finish missing p := do
    let id ← Json.required missing 0 "id" p.id
    let line ← Json.required missing 1 "line" p.line
    let proceedVisible ← Json.required missing 2 "proceed_visible" p.proceedVisible
    let revealed ← Json.required missing 3 "revealed" p.revealed
    let length ← Json.required missing 4 "char_count" p.length
    return ⟨id, line, proceedVisible, revealed.toNat, length.toNat⟩

/-- Reads a bubble. -/
def read : Json.Reader Bubble := schema.read

end Bubble

end Cutscene
