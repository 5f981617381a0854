import Cutscene.Playback.Snapshot
import Cutscene.Screen.Frame
import Cutscene.Screen.Paragraph
import Cutscene.Screen.Wrap

set_option relaxedAutoImplicit false
set_option autoImplicit false

/-!
# The overlay

Bubbles lie over the monitor, the newest at the bottom and older ones above it, as long as there
is room. Each is a frame around its text, with the speaker's name at the top and the mark for
going on at the bottom. Where an operation on coordinates has no result there is no layout, and
nothing can be drawn.

## Main definitions

* `Cutscene.Screen.speakerColor` — the colour of a speaker.
* `Cutscene.Screen.bubbleWidth?`, `Cutscene.Screen.bubbleHeight` — the size of a bubble.
* `Cutscene.Screen.bubbleAreas?` — where the bubbles are.
* `Cutscene.Screen.bubbleLines`, `Cutscene.Screen.textArea` — the text of a bubble, and where it is.
* `Cutscene.Screen.drawOverlay` — draws them.
-/

namespace Cutscene.Screen

/-- The colour of a speaker, by the style key. -/
def speakerColor (slug : String) : Color :=
  if slug = "engineer" then .cyan
  else if slug = "manager" then .yellow
  else if slug = "managersmom" then .magenta
  else .white

/-! ## Layout -/

/-- The least width of a bubble that is shown. -/
def minBubbleWidth : Nat := 8

/-- The width of bubbles in an area of a width: three fifths of it, but not less than 24 columns,
and a column is left free on both sides. -/
def bubbleWidth? (width : Nat) : Option Nat := do
  let triple ← times? width 3
  return min (max (triple / 5) 24) (width - 2)

/-- The columns for text in a bubble: without the border and a blank on both sides. -/
def textWidth (bubbleWidth : Nat) : Nat := bubbleWidth - 4

/-- The rows of a bubble: those of its text, and the border. They are counted up to the last
coordinate and no further. -/
def bubbleHeight (bubbleWidth : Nat) (text : String) : Nat :=
  min (min (wrap (textWidth bubbleWidth) text).length lastCoordinate + 2) lastCoordinate

/-- The first column of a bubble. -/
def bubbleLeft? (area : Rect) (width : Nat) : Side → Option Nat
  | .left => plus? area.x 1
  | .right => do
    let edge ← minus? area.right width
    minus? edge 1

/-- Places bubbles upward from a row, the newest first, until one does not fit. -/
def placeUpward? (area : Rect) (width bottom : Nat) : List BubbleView → Option (List (Option Rect))
  | [] => some []
  | b :: older =>
    let height := bubbleHeight width b.text
    if bottom < min (area.y + height) lastCoordinate then some (none :: older.map fun _ => none)
    else do
      let y ← minus? bottom height
      let x ← bubbleLeft? area width b.side
      let rest ← placeUpward? area width y older
      return some (.clipped x y width height) :: rest

/-- Where each of the bubbles is, if it is shown. A row below the newest is left free. -/
def bubbleAreas? (area : Rect) (bubbles : List BubbleView) : Option (List (Option Rect)) := do
  let width ← bubbleWidth? area.width
  if width < minBubbleWidth then return bubbles.map fun _ => none
  let places ← placeUpward? area width (area.bottom - 1) bubbles.reverse
  return places.reverse

/-! ## Drawing -/

/-- The frame of a bubble. The name of its speaker is on the bubble's own side. -/
def bubbleFrame (b : BubbleView) : Frame :=
  let color := speakerColor b.slug
  { border := .rounded
    style := { fore := some color }
    top := some {
      text := " " ++ b.speaker ++ " "
      style := { Style.none.bold with fore := some color }
      anchor := match b.side with
        | .left => .start
        | .right => .finish
      kept := .start }
    bottom :=
      if b.proceedVisible then some {
        text := " ▶ "
        style := if b.proceedEnabled then { Style.none.bold with fore := some color }
          else { fore := some .darkGray }
        anchor := .finish
        kept := .finish }
      else none }

/-- The lines of the text of a bubble in a rectangle. -/
def bubbleLines (b : BubbleView) (area : Rect) : List String := wrap (textWidth area.width) b.text

/-- The cells for them: inside the border, with a blank column on both sides. -/
def textArea (area : Rect) : Rect := area.inner 2 1

/-- The style of a bubble. It is dimmed unless it comes before everything else. -/
def bubbleStyle (raised : Bool) : Style :=
  let style : Style := { fore := some .white, back := some .black }
  if raised then style else style.dim

/-- Draws a bubble: its frame, and its text inside. -/
def drawBubble (font : Font) (raised : Bool) (b : BubbleView) (area : Rect) (c : Canvas) :
    Canvas :=
  let blank := (c.clear area).setStyle area (bubbleStyle raised)
  let text : Paragraph := { lines := (bubbleLines b area).map TextLine.ofText }
  text.draw font (textArea area) ((bubbleFrame b).draw font area blank)

/-- Draws the bubbles, oldest first. -/
def drawOverlay (font : Font) (raised : Bool) (bubbles : List BubbleView) (area : Rect)
    (c : Canvas) : Option Canvas := do
  let places ← bubbleAreas? area bubbles
  return (bubbles.zip places).foldl
    (fun c (b, place) => match place with
      | some r => drawBubble font raised b r c
      | none => c) c

end Cutscene.Screen
