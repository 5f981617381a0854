import Mathlib.Data.Nat.Notation
import Mathlib.Tactic.Lemma
import Cutscene.Scene.Basic

set_option relaxedAutoImplicit false
set_option autoImplicit false

/-!
# Which lists of steps are scenes

A list of steps ends in one of four ways: it completes at its end and nowhere before, it is empty,
it has steps but never completes, or it goes on behind the step that completes first. Lists that end
in the first way are scenes and stay as they are. Each other ending is an error of its own.

## Main definitions

* `Cutscene.CompletesFirstAt` — the first step of a list that completes.
* `Cutscene.Ending` — the four ways in which lists of steps end.
* `Cutscene.Scene.check` — the checks of a list of steps, one after the other.
* `Cutscene.Scene.Admission` — what becomes of a list of steps.

## Main results

* `Cutscene.ending` — each list ends in one of these ways.
* `Cutscene.Scene.build_eq_ok_iff` — a scene has the name and the steps that it is built from.
* `Cutscene.Scene.check_eq_build` — a scene can be built exactly if its steps pass the checks.
* `Cutscene.Scene.admits_closed` — what becomes of a list of steps, for each ending.

## Design

Two checks can fail for one list, as what stands behind a step that completes need not complete
again, and it depends on their order which error is given. The endings leave no such choice: the
result is computed for each of them, and every statement about results is decided by these four.
-/

namespace Cutscene

variable {name : String} {steps : List Step} {i : ℕ}

/-! ## How lists of steps end -/

/-- The first step that completes is at an index. -/
structure CompletesFirstAt (steps : List Step) (i : ℕ) : Prop where
  /-- The step there completes. -/
  completes : ∃ step, steps[i]? = some step ∧ step.isComplete = true
  /-- No step before does. -/
  before : ∀ j < i, ∀ step, steps[j]? = some step → step.isComplete = false

/-- The four ways in which a list of steps ends. -/
inductive Ending (steps : List Step) : Prop
  /-- The steps complete at their end and nowhere before. -/
  | closed (h : Closed steps)
  /-- There are no steps. -/
  | empty (h : steps = [])
  /-- There are steps, and none completes. -/
  | unending (hne : steps ≠ []) (h : ∀ step ∈ steps, step.isComplete = false)
  /-- The step that completes first is not the last. -/
  | early (i : ℕ) (h : CompletesFirstAt steps i) (hlt : i + 1 < steps.length)

lemma findIdx?_eq_some_iff :
    steps.findIdx? Step.isComplete = some i ↔ CompletesFirstAt steps i := by
  rw [List.findIdx?_eq_some_iff_getElem]
  constructor
  · rintro ⟨hi, hcompletes, hbefore⟩
    refine ⟨⟨steps[i], List.getElem?_eq_getElem hi, hcompletes⟩, fun j hj step hstep => ?_⟩
    obtain ⟨hlt, rfl⟩ := List.getElem?_eq_some_iff.1 hstep
    simpa using hbefore j hj
  · rintro ⟨⟨step, hstep, hcompletes⟩, hbefore⟩
    obtain ⟨hi, rfl⟩ := List.getElem?_eq_some_iff.1 hstep
    refine ⟨hi, hcompletes, fun j hj => ?_⟩
    simpa using hbefore j hj _ (List.getElem?_eq_getElem (by omega))

lemma findIdx?_eq_none_iff :
    steps.findIdx? Step.isComplete = none ↔ ∀ step ∈ steps, step.isComplete = false :=
  List.findIdx?_eq_none_iff

/-- The steps of a closed list complete first at its end. -/
lemma Closed.completesFirstAt (h : Closed steps) : CompletesFirstAt steps (steps.length - 1) := by
  obtain ⟨body, last, rfl, hlast, hbody⟩ := h
  rw [← findIdx?_eq_some_iff, List.findIdx?_append, findIdx?_eq_none_iff.2 hbody]
  simp [List.findIdx?_cons, hlast]

lemma Closed.ne_nil (h : Closed steps) : steps ≠ [] := by
  obtain ⟨body, last, rfl, -, -⟩ := h
  simp

/-- **Each list of steps ends in one of the four ways.** -/
theorem ending (steps : List Step) : Ending steps := by
  cases hfind : steps.findIdx? Step.isComplete with
  | some i =>
    have hfirst := findIdx?_eq_some_iff.1 hfind
    obtain ⟨step, hstep, -⟩ := hfirst.completes
    have hi : i < steps.length := (List.getElem?_eq_some_iff.1 hstep).1
    rcases Nat.lt_or_ge (i + 1) steps.length with hlt | hge
    · exact .early i hfirst hlt
    · exact .closed (Scene.closed_of_findIdx? hfind (by omega))
  | none =>
    by_cases hempty : steps = []
    · exact .empty hempty
    · exact .unending hempty (findIdx?_eq_none_iff.1 hfind)

namespace Scene

/-! ## What is built for each ending -/

/-- Where a list completes first decides between a scene and a list that goes on. -/
lemma build_of_completesFirstAt (h : CompletesFirstAt steps i) :
    build name steps =
      if hi : i + 1 = steps.length then
        .ok ⟨name, steps, closed_of_findIdx? (findIdx?_eq_some_iff.2 h) hi⟩
      else .error (.afterComplete name (i + 1)) := by
  have hfind := findIdx?_eq_some_iff.2 h
  unfold build
  split
  next j hj =>
    obtain rfl : i = j := Option.some.inj (hfind.symm.trans hj)
    rfl
  next hnone => simp [hfind] at hnone

/-- A closed list of steps is a scene as it is. -/
lemma build_of_closed (h : Closed steps) : build name steps = .ok ⟨name, steps, h⟩ := by
  have hpos := List.length_pos_iff.2 h.ne_nil
  rw [build_of_completesFirstAt h.completesFirstAt, dif_pos (by omega)]

/-- A scene is built from its own name and steps. -/
lemma build_steps (scene : Scene) : build scene.name scene.steps = .ok scene :=
  build_of_closed scene.closed

/-- A list that goes on behind the step that completes first is refused at what follows that. -/
lemma build_of_early (h : CompletesFirstAt steps i) (hlt : i + 1 < steps.length) :
    build name steps = .error (.afterComplete name (i + 1)) := by
  rw [build_of_completesFirstAt h, dif_neg (by omega)]

/-- A list that never completes is refused for that, unless it is empty. -/
lemma build_of_unending (h : ∀ step ∈ steps, step.isComplete = false) :
    build name steps = .error (if steps.isEmpty then .empty name else .missingComplete name) := by
  have hfind := findIdx?_eq_none_iff.2 h
  unfold build
  split
  next i hi => simp [hfind] at hi
  next => rfl

lemma build_nil : build name [] = .error (.empty name) := build_of_unending (by simp)

lemma build_of_unending_of_ne_nil (hne : steps ≠ []) (h : ∀ step ∈ steps, step.isComplete = false) :
    build name steps = .error (.missingComplete name) := by
  rw [build_of_unending h, if_neg (by simpa using hne)]

lemma build_eq_ok_iff {scene : Scene} :
    build name steps = .ok scene ↔ scene.name = name ∧ scene.steps = steps := by
  constructor
  · intro h
    cases ending steps with
    | closed hclosed =>
      rw [build_of_closed hclosed] at h
      cases h
      exact ⟨rfl, rfl⟩
    | empty hempty => rw [hempty, build_nil] at h; cases h
    | unending hne hnone => rw [build_of_unending_of_ne_nil hne hnone] at h; cases h
    | early i hfirst hlt => rw [build_of_early hfirst hlt] at h; cases h
  · rintro ⟨rfl, rfl⟩
    exact scene.build_steps

/-- What a list of steps is like that is refused, for each of the errors. -/
lemma build_eq_error_cases {e : SceneError} (h : build name steps = .error e) :
    (e = .empty name ∧ steps = []) ∨
      (e = .missingComplete name ∧ steps ≠ [] ∧ ∀ step ∈ steps, step.isComplete = false) ∨
      ∃ i, e = .afterComplete name (i + 1) ∧ CompletesFirstAt steps i ∧ i + 1 < steps.length := by
  cases ending steps with
  | closed hclosed => rw [build_of_closed hclosed] at h; cases h
  | empty hempty =>
    rw [hempty, build_nil] at h
    cases h
    exact .inl ⟨rfl, hempty⟩
  | unending hne hnone =>
    rw [build_of_unending_of_ne_nil hne hnone] at h
    cases h
    exact .inr (.inl ⟨rfl, hne, hnone⟩)
  | early i hfirst hlt =>
    rw [build_of_early hfirst hlt] at h
    cases h
    exact .inr (.inr ⟨i, rfl, hfirst, hlt⟩)

/-- Whether there are other scenes does not matter. -/
lemma build_ne_duplicate {other : String} : build name steps ≠ .error (.duplicate other) := by
  intro h
  rcases build_eq_error_cases h with ⟨he, -⟩ | ⟨he, -⟩ | ⟨i, he, -⟩ <;> cases he

lemma build_eq_empty_iff : build name steps = .error (.empty name) ↔ steps = [] := by
  constructor
  · intro h
    rcases build_eq_error_cases h with ⟨-, hempty⟩ | ⟨he, -⟩ | ⟨i, he, -⟩
    · exact hempty
    all_goals cases he
  · rintro rfl
    exact build_nil

lemma build_eq_missingComplete_iff : build name steps = .error (.missingComplete name) ↔
    steps ≠ [] ∧ ∀ step ∈ steps, step.isComplete = false := by
  constructor
  · intro h
    rcases build_eq_error_cases h with ⟨he, -⟩ | ⟨-, hunending⟩ | ⟨i, he, -⟩
    · cases he
    · exact hunending
    · cases he
  · rintro ⟨hne, hnone⟩
    exact build_of_unending_of_ne_nil hne hnone

lemma build_eq_afterComplete_iff {index : ℕ} :
    build name steps = .error (.afterComplete name index) ↔
      ∃ i, index = i + 1 ∧ CompletesFirstAt steps i ∧ i + 1 < steps.length := by
  constructor
  · intro h
    rcases build_eq_error_cases h with ⟨he, -⟩ | ⟨he, -⟩ | ⟨i, he, hearly⟩
    · cases he
    · cases he
    · cases he
      exact ⟨i, rfl, hearly⟩
  · rintro ⟨i, rfl, hfirst, hlt⟩
    exact build_of_early hfirst hlt

/-- A list of steps is closed exactly if there is a scene of them. -/
lemma exists_build_eq_ok_iff : (∃ scene, build name steps = .ok scene) ↔ Closed steps := by
  constructor
  · rintro ⟨scene, hscene⟩
    obtain ⟨-, rfl⟩ := build_eq_ok_iff.1 hscene
    exact scene.closed
  · intro h
    exact ⟨_, build_of_closed h⟩

/-! ## The checks -/

/-- The checks of a list of steps, one after the other: there is a last step, no step stands behind
the first that completes, and the last step completes. -/
def check (name : String) (steps : List Step) : Except SceneError Unit := do
  let some last := steps.getLast? | throw (.empty name)
  if let some i := steps.findIdx? Step.isComplete then
    if i + 1 < steps.length then throw (.afterComplete name (i + 1))
  if !last.isComplete then throw (.missingComplete name)

/-- **A scene can be built exactly if its steps pass the checks**, and the first check that fails is
the error otherwise. -/
theorem check_eq_build (name : String) (steps : List Step) :
    check name steps = (build name steps).map fun _ => () := by
  cases ending steps with
  | closed hclosed =>
    have hfind := findIdx?_eq_some_iff.2 hclosed.completesFirstAt
    obtain ⟨body, last, rfl, hlast, -⟩ := id hclosed
    rw [build_of_closed hclosed, check, hfind]
    simp [hlast, Except.map, pure, Except.pure]
  | empty hempty => rw [hempty, build_nil]; rfl
  | unending hne hnone =>
    have hfind := findIdx?_eq_none_iff.2 hnone
    have hlast := hnone _ (List.getLast_mem hne)
    rw [build_of_unending_of_ne_nil hne hnone, check, List.getLast?_eq_some_getLast hne, hfind]
    simp [hlast, Except.map, throw, throwThe, MonadExceptOf.throw]
  | early i hfirst hlt =>
    have hfind := findIdx?_eq_some_iff.2 hfirst
    have hne : steps ≠ [] := List.length_pos_iff.1 (by omega)
    rw [build_of_early hfirst hlt, check, List.getLast?_eq_some_getLast hne, hfind]
    simp [hlt, Except.map, throw, throwThe, MonadExceptOf.throw, bind, Except.bind]

/-! ## What becomes of a list of steps -/

/-- What becomes of a list of steps under a name: it is a scene, or one of three errors is given. -/
structure Admission (name : String) (steps : List Step) : Prop where
  /-- There is a scene exactly if the list is some steps that do not complete and then one that
  does. -/
  admitted : (∃ scene, build name steps = .ok scene) ↔
    ∃ body last, steps = body ++ [last] ∧ last.isComplete = true ∧
      ∀ step ∈ body, step.isComplete = false
  /-- It has the name and the steps as they are given. -/
  kept : ∀ scene, build name steps = .ok scene → scene.name = name ∧ scene.steps = steps
  /-- The error that there are no steps is given exactly if there are none. -/
  empty : build name steps = .error (.empty name) ↔ steps = []
  /-- The error that nothing completes is given exactly if there are steps and none of them does. -/
  unending : build name steps = .error (.missingComplete name) ↔
    steps ≠ [] ∧ ∀ step ∈ steps, step.isComplete = false
  /-- The error that the list goes on is given at an index exactly if the step before it is the one
  that completes first, and is not the last, whatever that is. -/
  early : ∀ index, build name steps = .error (.afterComplete name index) ↔
    ∃ i, index = i + 1 ∧ CompletesFirstAt steps i ∧ i + 1 < steps.length
  /-- There are no other errors, and none names another scene. -/
  errors : ∀ e, build name steps = .error e →
    e = .empty name ∨ e = .missingComplete name ∨ ∃ index, e = .afterComplete name index
  /-- The error is that of the first check that fails. -/
  checked : check name steps = (build name steps).map fun _ => ()

/-- **What becomes of a list of steps.** A closed list is a scene as it is, and any other list is
refused with the error that says how it ends.

**Proof sketch.** Each list ends in one of four ways (`ending`), and for each of them the result is
known: a scene (`build_of_closed`), or the error of its own (`build_eq_error_cases`). So a result
tells the ending, and an ending the result. -/
theorem admits_closed (name : String) (steps : List Step) : Admission name steps where
  admitted := exists_build_eq_ok_iff
  kept _ h := build_eq_ok_iff.1 h
  empty := build_eq_empty_iff
  unending := build_eq_missingComplete_iff
  early _ := build_eq_afterComplete_iff
  errors e h := by
    rcases build_eq_error_cases h with ⟨he, -⟩ | ⟨he, -⟩ | ⟨i, he, -⟩
    · exact .inl he
    · exact .inr (.inl he)
    · exact .inr (.inr ⟨i + 1, he⟩)
  checked := check_eq_build name steps

/-- A list that goes on and does not complete again fails two checks, and is refused at the index
where it goes on. -/
example : check "twice" [⟨.complete, false, false⟩, ⟨.reset, false, false⟩] =
    .error (.afterComplete "twice" 1) := rfl

end Scene

end Cutscene
