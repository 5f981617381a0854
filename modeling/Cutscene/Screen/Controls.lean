import Cutscene.Playback.Remote
import Cutscene.Screen.Page

set_option relaxedAutoImplicit false
set_option autoImplicit false

/-!
# Controls

What keys and clicks mean, given what is on screen.

## Main definitions

* `Cutscene.Screen.KeyPress` — a key with what is held down.
* `Cutscene.Screen.Gesture` — what a key or a click asks for.
* `Cutscene.Screen.sectionsEnabled` — whether the sections of the page can be started.
* `Cutscene.Screen.keyGesture`, `Cutscene.Screen.clickGesture` — the meaning of a key, of a click.
-/

namespace Cutscene.Screen

/-- A key. -/
inductive Key where
  /-- The key of a character. -/
  | char (c : Char)
  /-- The enter key. -/
  | enter
  /-- The escape key. -/
  | escape
  /-- Any other key. -/
  | other
  deriving DecidableEq, Repr

/-- A key that is pressed. -/
structure KeyPress where
  /-- The key. -/
  key : Key
  /-- Whether the control key is held down. -/
  control : Bool
  deriving DecidableEq, Repr

/-- What a key or a click asks for. -/
inductive Gesture where
  /-- An input to the performance. -/
  | input (i : Input)
  /-- Leaving the program. -/
  | quit
  deriving DecidableEq, Repr

/-- Whether the sections of the page can be started: the page is there, and no scene is played. -/
def sectionsEnabled (s : Snapshot) : Bool :=
  s.display.monitorOn && s.display.showsContent && !s.interactionDisabled

/-- Starts the scene of a section. -/
def Section.gesture (s : Section) : Gesture := .input (.trigger s.scene)

/-- What a key asks for. -/
def keyGesture (k : KeyPress) (s : Snapshot) : Option Gesture :=
  if k.control then (if k.key = .char 'c' then some .quit else none)
  else
    match k.key with
    | .escape => some .quit
    | .enter => some (.input .confirm)
    | .char c =>
      if c = 'q' then some .quit
      else if c = ' ' then some (.input .proceed)
      else if c = 'r' then some (.input .restart)
      else if sectionsEnabled s then (Section.ofKey? c).map Section.gesture
      else none
    | .other => none

/-- What a click on a cell asks for. Bubbles come before the page beneath them. -/
def clickGesture (x y : Nat) (s : Snapshot) (bubbles : List (Option Rect)) (page : PageLayout) :
    Option Gesture :=
  if bubbles.any fun area => area.any (·.contains x y) then some (.input .proceed)
  else if sectionsEnabled s then (page.sectionAt? x y).map Section.gesture
  else none

end Cutscene.Screen
