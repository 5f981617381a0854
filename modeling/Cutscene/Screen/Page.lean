import Cutscene.Screen.Paragraph
import Cutscene.Screen.Wrap

set_option relaxedAutoImplicit false
set_option autoImplicit false

/-!
# The page

The page on the monitor: a heading, and three sections below one another, each of which starts a
scene of its own when it is clicked or when its key is pressed. Before there is a page, a bar shows
that it is being loaded.

## Main definitions

* `Cutscene.Screen.Section` — the sections, with their scenes, titles and keys.
* `Cutscene.Screen.PageLayout` — where the heading and the sections are.
* `Cutscene.Screen.drawPage`, `Cutscene.Screen.drawLoadingBar` — drawing.
-/

namespace Cutscene.Screen

/-! ## Sections -/

/-- A section of the page. -/
inductive Section where
  /-- Employers. -/
  | workHistory
  /-- The degree. -/
  | education
  /-- Ways to get in touch. -/
  | contact
  deriving DecidableEq, Repr

namespace Section

/-- The sections from top to bottom. -/
def all : List Section := [workHistory, education, contact]

/-- The scene that a section starts. -/
def scene : Section → String
  | workHistory => "workHistory"
  | education => "education"
  | contact => "contact"

/-- The title of a section. -/
def title : Section → String
  | workHistory => "Work History"
  | education => "Education"
  | contact => "Contact"

/-- The key of a section. -/
def key : Section → Char
  | workHistory => 'w'
  | education => 'e'
  | contact => 'c'

/-- The section of a key. -/
def ofKey? (key : Char) : Option Section := all.find? (·.key == key)

/-- The degree, on one line. -/
def degree : String := "University of Waterloo, BASc in Computer Engineering, Honours, Co-op"

/-- What a section says, in lines for a width, without the indent. -/
def content (width : Nat) : Section → List String
  | workHistory => ["Kinaxis", "Cinchy", "Shopliftr", "Local Line"]
  | education => wrap (width - 2) degree
  | contact => [" · ".intercalate ["email", "github", "phone"]]

/-- The lines of a section between its title and the rule below it. -/
def body (width : Nat) (s : Section) : List String := (s.content width).map ("  " ++ ·)

/-- The rows of a section: its title, what it says, and a rule. -/
def height (width : Nat) (s : Section) : Nat := (s.body width).length + 2

end Section

/-! ## Layout -/

/-- Where the parts of the page are. -/
structure PageLayout where
  /-- The heading. -/
  header : Rect
  /-- The sections from top to bottom. -/
  sections : List (Section × Rect)
  deriving DecidableEq

namespace PageLayout

/-- The rows of the heading. -/
def headerHeight : Nat := 3

/-- Lays sections out one below the other, from an offset, as far as there is room. -/
def stack (r : Rect) (offset : Nat) : List Section → List (Section × Rect)
  | [] => []
  | s :: rest =>
    let height := min (s.height r.width) (r.height - offset)
    (s, .clipped r.x (r.y + offset) r.width height) :: stack r (offset + height) rest

/-- The layout of the page on a screen, one column in from both sides. -/
def ofScreen (screen : Rect) : PageLayout :=
  let r := screen.inner 1 0
  let height := min headerHeight r.height
  ⟨.clipped r.x r.y r.width height, stack r height Section.all⟩

/-- The section at a cell. -/
def sectionAt? (layout : PageLayout) (x y : Nat) : Option Section :=
  (layout.sections.find? fun (_, r) => r.contains x y).map (·.1)

end PageLayout

/-! ## Drawing -/

/-- A line across a width. -/
def rule (width : Nat) : TextLine := [⟨String.ofList (List.replicate width '─'), {}⟩]

/-- Draws the heading and the sections. Sections that can be started have titles that stand
out. -/
def drawPage (font : Font) (enabled : Bool) (screen : Rect) (c : Canvas) : Canvas :=
  let layout := PageLayout.ofScreen screen
  let width := layout.header.width
  let header : Paragraph := {
    lines := [[⟨"Curriculum Vitae", Style.none.bold⟩],
      [⟨"I build experiences.", Style.none.italic⟩], rule width]
    centered := true }
  let titleStyle : Style :=
    if enabled then { Style.none.bold.underlined with fore := some .lightGreen }
    else Style.none.bold
  let drawSection (c : Canvas) (s : Section) (r : Rect) : Canvas :=
    let title : TextLine :=
      [⟨s.title, titleStyle⟩, ⟨" [" ++ String.ofList [s.key] ++ "]", { fore := some .darkGray }⟩]
    let body := (s.body width).map TextLine.ofText
    { lines := title :: body ++ [rule width] : Paragraph }.draw font r c
  layout.sections.foldl (fun c (s, r) => drawSection c s r) (header.draw font layout.header c)

/-- The segments of the loading bar. -/
def loadingSegments : Nat := 6

/-- How many segments are filled at a tick: one more each time, and none again after all. -/
def loadingFilled (tick : Nat) : Nat := tick % (loadingSegments + 1)

/-- Draws the loading bar in the middle of a screen. -/
def drawLoadingBar (font : Font) (tick : Nat) (screen : Rect) (c : Canvas) : Canvas :=
  let filled := loadingFilled tick
  let empty := loadingSegments - filled
  let bar := '[' :: List.replicate filled '■' ++ List.replicate empty '□' ++ [']']
  let lines : List TextLine := [[⟨"LOADING", Style.none.bold⟩], [], [⟨String.ofList bar, {}⟩]]
  { lines, centered := true : Paragraph }.draw font (screen.centered 12 3) c

end Cutscene.Screen
