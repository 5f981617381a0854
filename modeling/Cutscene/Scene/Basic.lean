import Cutscene.Scene.Step

set_option relaxedAutoImplicit false
set_option autoImplicit false

/-!
# Scenes

A scene is a named list of steps that ends with the step that completes it, and holds no such
step before. A player that walks through the steps one by one therefore never walks past the
last.

## Main definitions

* `Cutscene.Closed` — a list of steps that completes exactly at its end.
* `Cutscene.Scene` — a name and a closed list of steps.
* `Cutscene.Scene.build` — the scene of a list of steps, or what is wrong with it.
* `Cutscene.SceneError` — the errors about scenes, with their wording.
-/

namespace Cutscene

/-- What can be wrong with a scene or its name. -/
inductive SceneError where
  /-- There is no scene of that name. -/
  | notFound (name : String)
  /-- There is a scene of that name already. -/
  | duplicate (name : String)
  /-- The scene has no steps. -/
  | empty (name : String)
  /-- The scene never completes. -/
  | missingComplete (name : String)
  /-- The scene goes on after it completes, at the given index. -/
  | afterComplete (name : String) (index : Nat)
  deriving DecidableEq, Repr

/-- The wording of an error about a scene. -/
def SceneError.message : SceneError → String
  | .notFound name => "scene not found: \"" ++ name ++ "\""
  | .duplicate name => "scene already exists: \"" ++ name ++ "\""
  | .empty name => "scene \"" ++ name ++ "\" has no steps"
  | .missingComplete name => "scene \"" ++ name ++ "\" does not end with a COMPLETE step"
  | .afterComplete name index =>
    "scene \"" ++ name ++ "\" has a step after COMPLETE at index " ++ toString index

/-- The steps complete at their end and nowhere before. -/
def Closed (steps : List Step) : Prop :=
  ∃ body last, steps = body ++ [last] ∧ last.isComplete = true ∧
    ∀ s ∈ body, s.isComplete = false

/-- A named list of steps that completes at its end. -/
structure Scene where
  /-- The name. -/
  name : String
  /-- The steps in order. -/
  steps : List Step
  /-- The steps complete exactly at their end. -/
  closed : Closed steps

namespace Scene

/-- A list is closed if its first completing step is its last step. -/
theorem closed_of_findIdx? {steps : List Step} {i : Nat}
    (h : steps.findIdx? Step.isComplete = some i) (hi : i + 1 = steps.length) : Closed steps := by
  obtain ⟨hlt, hcomplete, hbefore⟩ := List.findIdx?_eq_some_iff_getElem.1 h
  refine ⟨steps.take i, steps[i], ?_, hcomplete, ?_⟩
  · rw [← List.take_succ_eq_append_getElem hlt, hi, List.take_length]
  · intro s hs
    obtain ⟨j, hj, rfl⟩ := List.mem_take_iff_getElem.1 hs
    simpa using hbefore j (by omega)

/-- The scene of a list of steps. Where a step completes the scene early, the first step behind it
is reported; a list that never completes is reported as empty if it is. -/
def build (name : String) (steps : List Step) : Except SceneError Scene :=
  match h : steps.findIdx? Step.isComplete with
  | some i =>
    if hi : i + 1 = steps.length then .ok ⟨name, steps, closed_of_findIdx? h hi⟩
    else .error (.afterComplete name (i + 1))
  | none => .error (if steps.isEmpty then .empty name else .missingComplete name)

/-- The number of steps. -/
def length (s : Scene) : Nat := s.steps.length

/-- The number of lines of dialogue. -/
def dialogueCount (s : Scene) : Nat := s.steps.countP Step.isSay

/-- The pauses of a scene added up, if their sum is a duration. -/
def scriptedDelay? (s : Scene) : Option Duration :=
  Duration.sum? (s.steps.filterMap Step.pause?)

/-- A scene in JSON. -/
def toJson (s : Scene) : Json :=
  .record [("name", .text s.name), ("steps", .list (s.steps.map Step.toJson))]

end Scene

end Cutscene
