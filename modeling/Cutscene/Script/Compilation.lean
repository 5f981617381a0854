import Cutscene.Scene.Repertoire
import Cutscene.Script.Diagnostic
import Cutscene.Script.Draft

set_option relaxedAutoImplicit false
set_option autoImplicit false

/-!
# Compiling drafts

A compilation turns drafts into scenes one scene at a time. A scene with an error in it is left
out and reported; the rest is registered, whatever happened to others before.

## Main definitions

* `Cutscene.StepDraft.compile` — the step of a draft, or what is wrong with it.
* `Cutscene.Compilation` — the scenes registered so far and what there is to say.
* `Cutscene.Compilation.addScene`, `Cutscene.Compilation.addDraft` — one more scene, one more
  draft.
* `Cutscene.Compilation.finished` — the scenes, if there is no error.
-/

namespace Cutscene

/-! ## Steps -/

/-- What can be wrong with a step draft: the scene, the place in it, and the cause. -/
inductive StepError where
  /-- There is no kind of that tag. -/
  | unknownTag (scene : String) (index : Nat) (tag : String)
  /-- The kind needs a field that is missing. -/
  | missingField (scene : String) (index : Nat) (field : String)
  deriving DecidableEq, Repr

/-- How messages name a step. -/
def stepAddress (scene : String) (index : Nat) : String :=
  "scene \"" ++ scene ++ "\" step " ++ toString index ++ ": "

/-- The wording of an error about a step. -/
def StepError.message : StepError → String
  | .unknownTag scene index tag =>
    stepAddress scene index ++ "unhandled step type \"" ++ tag ++ "\""
  | .missingField scene index field =>
    stepAddress scene index ++ "missing field \"" ++ field ++ "\""

namespace StepDraft

/-- A field that a kind of step needs; otherwise the error names it. -/
def field {α : Type} (name : String) (value : Option α) : Except String α :=
  match value with
  | some a => .ok a
  | none => .error name

/-- What a step of a kind does, or the name of the first field that is missing. A line without a
side is on the left. -/
def action (d : StepDraft) : Kind → Except String Action
  | .say => do
    let speaker ← field "speaker" d.speaker
    let text ← field "text" d.text
    return .say ⟨speaker, text, d.side.getD .left⟩
  | .pause => return .pause (← field "duration" d.millis)
  | .assign => return .assign (← field "values" d.values)
  | .reset => return .reset
  | .complete => return .complete

/-- The step of a draft at a place of a scene. -/
def compile (scene : String) (index : Nat) (d : StepDraft) : Except StepError Step :=
  match Kind.ofTag? d.tag with
  | none => .error (.unknownTag scene index d.tag)
  | some kind =>
    match d.action kind with
    | .ok action => .ok ⟨action, d.autoAdvance, d.skippable⟩
    | .error name => .error (.missingField scene index name)

end StepDraft

/-- What is odd about a step that can be played. -/
def Step.oddity (s : Step) : Option String :=
  match s.action with
  | .say line => if line.text.isEmpty then some "dialogue text is empty" else none
  | .pause millis => if millis = 0 then some "delay has zero duration" else none
  | .assign values => if values.isEmpty then some "SET_VALUE sets no variables" else none
  | .reset => none
  | .complete => none

/-- The diagnostic that the compilation of one step gives, if there is something to say. -/
def stepDiagnostic (file : Option String) (scene : String) (index : Nat) :
    Except StepError Step → Option Diagnostic
  | .error e => some ⟨.error, file, e.message⟩
  | .ok s => s.oddity.map fun oddity => ⟨.warning, file, stepAddress scene index ++ oddity⟩

/-! ## Compilations -/

/-- The scenes registered so far, and what there is to say, oldest first. -/
structure Compilation where
  /-- The scenes that compiled. -/
  repertoire : Repertoire
  /-- Errors and warnings. -/
  diagnostics : List Diagnostic

namespace Compilation

/-- Nothing compiled. -/
def empty : Compilation := ⟨.empty, []⟩

/-- Adds a diagnostic. -/
def note (c : Compilation) (d : Diagnostic) : Compilation :=
  { c with diagnostics := c.diagnostics ++ [d] }

/-- Registers a scene, or says why it cannot be. -/
def register (c : Compilation) (file : Option String) (name : String) (steps : List Step) :
    Compilation :=
  match Scene.build name steps >>= c.repertoire.insert with
  | .ok repertoire => { c with repertoire }
  | .error e => c.note ⟨.error, file, e.message⟩

/-- Compiles a scene. All its steps are looked at; it is registered only if all of them
compile. -/
def addScene (c : Compilation) (file : Option String) (name : String) (drafts : List StepDraft) :
    Compilation :=
  let results := drafts.mapIdx (StepDraft.compile name)
  let notes := (results.mapIdx (stepDiagnostic file name)).filterMap id
  let c := { c with diagnostics := c.diagnostics ++ notes }
  match results.mapM Except.toOption with
  | some steps => c.register file name steps
  | none => c

/-- Compiles the scenes of a draft in the order of their names. -/
def addDraft (c : Compilation) (file : Option String) (d : Draft) : Compilation :=
  d.scenes.entries.foldl (fun c e => c.addScene file e.1 e.2) c

/-- The compilation of one draft on its own. -/
def ofDraft (d : Draft) : Compilation := empty.addDraft none d

/-- The errors among the diagnostics. -/
def errors (c : Compilation) : List Diagnostic := c.diagnostics.filter Diagnostic.isError

/-- The warnings among the diagnostics. -/
def warnings (c : Compilation) : List Diagnostic := c.diagnostics.filter fun d => !d.isError

/-- Whether there is an error. -/
def hasErrors (c : Compilation) : Bool := c.diagnostics.any Diagnostic.isError

/-- The scenes that compiled, or all the errors if there are any. -/
def finished (c : Compilation) : Except (List Diagnostic) Repertoire :=
  if c.hasErrors then .error c.errors else .ok c.repertoire

end Compilation

end Cutscene
