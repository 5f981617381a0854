import Cutscene.Scene.Value

set_option relaxedAutoImplicit false
set_option autoImplicit false

/-!
# Display variables

Scenes write variables and renderers look at them. There is no list of allowed names: four names
have a meaning for the renderers here, and all others are kept for whoever knows them.

## Main definitions

* `Cutscene.Variables` — values by name.
* `Cutscene.Variables.isOn` — whether a variable is set to something that counts as true.
* `Cutscene.Switch` — the names that renderers know.
* `Cutscene.Display` — what those names say.
-/

namespace Cutscene

/-- Values by name. -/
abbrev Variables := Dictionary Value

namespace Variables

/-- Whether a variable is set and truthy. -/
def isOn (vars : Variables) (name : String) : Bool :=
  (vars.get? name).any Value.isTruthy

/-- Variables in JSON. -/
def toJson (vars : Variables) : Json :=
  .record (vars.entries.map fun (name, value) => (name, value.toJson))

/-- Reads variables that lie inside `depth` containers. -/
def read (depth : Nat) : Json.Reader Variables :=
  Json.readDictionary (Value.read (depth + 1))

end Variables

/-- A name that renderers know. -/
inductive Switch where
  /-- The screen is powered. -/
  | monitorOn
  /-- The loading bar is shown. -/
  | loadingAnimation
  /-- The page is shown. -/
  | content
  /-- The site has finished booting. -/
  | siteLoaded
  deriving DecidableEq, Repr

namespace Switch

/-- All the switches. -/
def all : List Switch := [monitorOn, loadingAnimation, content, siteLoaded]

/-- The name of the variable. -/
def name : Switch → String
  | monitorOn => "isMonitorOn"
  | loadingAnimation => "showCVLoadingAnimation"
  | content => "showCVContent"
  | siteLoaded => "isSiteLoaded"

/-- The switch of a name. -/
def ofName? (name : String) : Option Switch := all.find? (·.name == name)

end Switch

/-- What the variables say that renderers know. -/
structure Display where
  /-- The screen is powered. -/
  monitorOn : Bool
  /-- The loading bar is shown. -/
  showsLoading : Bool
  /-- The page is shown. -/
  showsContent : Bool
  /-- The site has finished booting. -/
  siteLoaded : Bool
  deriving DecidableEq, Repr

/-- Reads the switches off the variables. -/
def Display.ofVariables (vars : Variables) : Display where
  monitorOn := vars.isOn Switch.monitorOn.name
  showsLoading := vars.isOn Switch.loadingAnimation.name
  showsContent := vars.isOn Switch.content.name
  siteLoaded := vars.isOn Switch.siteLoaded.name

end Cutscene
