import Cutscene.Script.Compilation

set_option relaxedAutoImplicit false
set_option autoImplicit false

/-!
# The built-in scenes

The scenes of the site itself: one that boots it, and one for each section of the page. A manager,
an engineer and the manager's mother talk, and what they look at appears on the monitor.

## Main definitions

* `Cutscene.Builtin.draft` — the built-in scenes.
-/

namespace Cutscene.Builtin

/-! ## Steps -/

/-- A line that the player may cut short. -/
def line (speaker : String) (side : Side) (text : String) : StepDraft where
  tag := Kind.say.tag
  speaker := some speaker
  text := some text
  side := some side
  skippable := true

/-- A line of the manager. -/
def manager (text : String) : StepDraft := line "MANAGER" .left text

/-- A line of the engineer. -/
def engineer (text : String) : StepDraft := line "ENGINEER" .right text

/-- A line of the manager's mother. -/
def mom (text : String) : StepDraft := line "MANAGER'S MOM" .right text

/-- A step after which playback goes on by itself. -/
def goingOn (d : StepDraft) : StepDraft := { d with autoAdvance := true }

/-- Takes the bubbles away and goes on. -/
def clear : StepDraft := goingOn { tag := Kind.reset.tag }

/-- Waits and goes on. -/
def wait (millis : UInt64) (skippable : Bool) : StepDraft :=
  goingOn { tag := Kind.pause.tag, millis := some millis, skippable }

/-- Writes variables and goes on. -/
def set (values : List (String × Value)) : StepDraft :=
  goingOn { tag := Kind.assign.tag, values := some (.ofList values) }

/-- Ends the scene. -/
def complete : StepDraft := { tag := Kind.complete.tag }

/-! ## Scenes -/

/-- The scene that boots the site. -/
def opening : List StepDraft := [
  manager "So who is this guy again?",
  engineer ("Dominic Aquilina. \"Your next best front-end engineer.\" That's a bit bold. I " ++
    "guess it's cool that he made his CV into a website, but we'll see if he can back it up."),
  clear,
  manager "Well then, what are we waiting for? Let's boot the sucker up.",
  clear,
  set [("isMonitorOn", .flag true)],
  wait 1000 false,
  set [("showCVLoadingAnimation", .flag true)],
  wait 1000 true,
  engineer ("Remind me, why are we doing this in your basement? Also, why the heck do you have " ++
    "dial-up?"),
  manager "Because the office has a COVID outbreak. And my files are here.",
  engineer "I would risk death to regain access to that fibre connection. This... This is torture.",
  clear,
  wait 2000 true,
  set [("showCVLoadingAnimation", .flag false), ("showCVContent", .flag true)],
  engineer "Finally.",
  clear,
  wait 1000 true,
  manager "\"I Build Experiences\"",
  manager ("That's pretty catchy as slogans go. You don't usually see an engineer with a " ++
    "servicable tagline."),
  engineer "Excuse you.",
  clear,
  complete]

/-- The scene about the education section. -/
def education : List StepDraft := [
  goingOn (manager ("Oh, University of Waterloo! I've heard that's a really good engineering " ++
    "school. Did you know—")),
  mom "Manager, dear!",
  manager "Ugh, moooom!",
  mom "Manager, sweetheart, can you hear me?",
  manager "Mom, I told you not to bother me while I'm working!",
  clear,
  mom "Manager, would you or your friend like a tuna fish sandwich?",
  manager "No thank you mom, we would not like a tuna fish sandwich. Go back to your stories.",
  mom "Okay dear, have fun with your friend!",
  manager "Mooooooooooooooooooom!",
  clear,
  wait 1000 true,
  engineer "...",
  manager "...",
  manager "What?",
  engineer "Dude, I've got so many questions.",
  clear,
  manager "Let's not and say we didn't.",
  engineer "Why does she call you 'Manager'?",
  goingOn (manager "Can we just—"),
  engineer "Also, why did you say no? I could go for some tuna.",
  manager "...",
  complete]

/-- The scene about the work history section. -/
def workHistory : List StepDraft := [
  engineer ("I'm seeing a good breadth of experience here. Supply chain management, big data, " ++
    "ad tech, ag tech... This guy has been around."),
  manager "Is he one of those people who will just jump to the next big thing, you think?",
  engineer ("Are you kidding? He worked at Shopliftr for like 5 years. When's the last time you " ++
    "met a developer who stayed at one company for that long?"),
  clear,
  manager "Fair enough. How is he with our stack?",
  engineer ("LOTS of Angular, so we're definitely good there, but honestly the specific " ++
    "languages don't matter that much. We can train anyone if they have the right mindset, and " ++
    "it looks like he's had his hands in pretty much everything."),
  clear,
  complete]

/-- The scene about the contact section. -/
def contact : List StepDraft := [
  engineer "So what do you say? I think we should definitely follow up.",
  manager ("I think he's got the experience, technical knowledge, and professionalism to really " ++
    "benefit this company. You take a look through his GitHub, and I'll shoot him an email."),
  mom "I like him too!",
  engineer "Thanks, Mrs. M!",
  manager "MOOOOM!",
  clear,
  complete]

/-- The built-in scenes. -/
def draft : Draft where
  scenes := .ofList
    [("init", opening), ("education", education), ("workHistory", workHistory),
      ("contact", contact)]

/-- The compilation of the built-in scenes. -/
def compilation : Compilation := .ofDraft draft

end Cutscene.Builtin
