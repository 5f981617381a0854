import Cutscene.Proofs.Dictionary
import Cutscene.Scene.Repertoire

set_option relaxedAutoImplicit false
set_option autoImplicit false

/-!
# Striking variables out

Of the variables that scenes write, often only some are of interest. Here all others are struck
out of the steps that write them, and what is left is a scene and a repertoire again. Two scenes
that are the same once variables have been struck out differ in nothing but what is written to
these.

## Main definitions

* `Cutscene.Action.only`, `Cutscene.Step.only`, `Cutscene.Scene.only`, `Cutscene.Repertoire.only` —
  what writes variables, with all others struck out.

## Main results

* `Cutscene.Repertoire.get?_only` — scenes are found as before.

## Design

A step that writes nothing of interest any more stays where it is, and writes nothing.
-/

namespace Cutscene

/-! ## Steps and scenes -/

/-- An action that writes variables writes some of them. -/
def Action.only (names : String → Bool) : Action → Action
  | .assign values => .assign (values.only names)
  | action => action

/-- A step with some of the variables that it writes. -/
def Step.only (names : String → Bool) (step : Step) : Step :=
  { step with action := step.action.only names }

namespace Step

variable (names : String → Bool) (step : Step)

@[simp] lemma kind_only : (step.only names).kind = step.kind := by
  unfold kind only Action.only
  cases step.action <;> rfl

@[simp] lemma isSay_only : (step.only names).isSay = step.isSay := by rw [isSay, kind_only, isSay]

@[simp] lemma isComplete_only : (step.only names).isComplete = step.isComplete := by
  rw [isComplete, kind_only, isComplete]

@[simp] lemma autoAdvance_only : (step.only names).autoAdvance = step.autoAdvance := rfl

@[simp] lemma skippable_only : (step.only names).skippable = step.skippable := rfl

end Step

/-- A scene with some of the variables that its steps write. -/
def Scene.only (names : String → Bool) (scene : Scene) : Scene where
  name := scene.name
  steps := scene.steps.map (Step.only names)
  closed := by
    obtain ⟨body, last, hsteps, hlast, hbody⟩ := scene.closed
    refine ⟨body.map (Step.only names), last.only names, ?_, ?_, ?_⟩
    · rw [hsteps, List.map_append, List.map_singleton]
    · rw [Step.isComplete_only, hlast]
    · simpa using hbody

@[simp] lemma Scene.name_only (names : String → Bool) (scene : Scene) :
    (scene.only names).name = scene.name := rfl

@[simp] lemma Scene.steps_only (names : String → Bool) (scene : Scene) :
    (scene.only names).steps = scene.steps.map (Step.only names) := rfl

namespace Repertoire

/-- Scenes with some of the variables that they write. -/
def only (names : String → Bool) (r : Repertoire) : Repertoire where
  scenes := r.scenes.map (Scene.only names)
  named e he := by
    obtain ⟨e, hmem, rfl⟩ := List.mem_map.1 he
    exact r.named e hmem

/-- Scenes are found under the names that they had. -/
lemma get?_only (names : String → Bool) (r : Repertoire) (name : String) :
    (r.only names).get? name = (r.get? name).map (Scene.only names) :=
  Dictionary.get?_map (Scene.only names) r.scenes name

/-- Repertoires are the same but for what is struck out if the same scenes are found in them. -/
lemma only_eq_only_iff {names : String → Bool} {r r' : Repertoire} :
    r.only names = r'.only names ↔
      ∀ name, (r.get? name).map (Scene.only names) = (r'.get? name).map (Scene.only names) := by
  constructor
  · intro h name
    rw [← get?_only, h, get?_only]
  · intro h
    have hscenes : (r.only names).scenes = (r'.only names).scenes := by
      refine Dictionary.ext_get? fun name => ?_
      calc (r.only names).get? name
          = (r.get? name).map (Scene.only names) := get?_only names r name
        _ = (r'.get? name).map (Scene.only names) := h name
        _ = (r'.only names).get? name := (get?_only names r' name).symm
    unfold only at *
    simp only [mk.injEq]
    exact hscenes

end Repertoire

end Cutscene
