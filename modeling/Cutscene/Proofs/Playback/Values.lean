import Cutscene.Proofs.Dictionary
import Cutscene.Proofs.Playback.Discipline

set_option relaxedAutoImplicit false
set_option autoImplicit false

/-!
# What a scene leaves in the variables

A scene may be walked through in many ways, and started over in between, which does not take back
what it has written. In the end the display variables are always the same: those from before, with
all assignments of the scene written over them.

## Main definitions

* `Cutscene.Scene.assignments` — what a scene assigns, in the order of the script.
* `Cutscene.Stage.writing` — the discipline of the display variables.
* `Cutscene.Stage.PlaysToEnd` — a scene that was put on and has been played to its end.

## Main results

* `Cutscene.Stage.holds_writing` — what is yet to be written leads to the same values from any step.
* `Cutscene.Stage.values_of_playsToEnd` — the values at the end do not depend on the way there.

## Design

The discipline does not say which assignments have been made, only where the remaining ones lead:
with them the values become what the whole scene makes of the values from before. Starting over
then needs one law, that writing a part before the whole changes nothing.
-/

namespace Cutscene

/-! ## Assignments -/

/-- What a step assigns. -/
def Step.values? (s : Step) : Option Variables :=
  match s.action with
  | .assign values => some values
  | _ => none

/-- What the steps of a scene from an index on assign, in their order. -/
def Scene.assignmentsFrom (scene : Scene) (c : ℕ) : List Variables :=
  (scene.steps.drop c).filterMap Step.values?

/-- What a scene assigns, in the order of the script. -/
def Scene.assignments (scene : Scene) : List Variables := scene.steps.filterMap Step.values?

variable {scene : Scene} {c : ℕ} {step : Step}

/-- From its first step on, a scene assigns all that it assigns. -/
lemma Scene.assignmentsFrom_zero (scene : Scene) : scene.assignmentsFrom 0 = scene.assignments := by
  rw [assignmentsFrom, List.drop_zero, assignments]

/-- What is assigned from a step on is what the step assigns and what is assigned behind it. -/
lemma Scene.assignmentsFrom_eq (h : scene.steps[c]? = some step) :
    scene.assignmentsFrom c = step.values?.toList ++ scene.assignmentsFrom (c + 1) := by
  obtain ⟨hc, hstep⟩ := List.getElem?_eq_some_iff.1 h
  rw [assignmentsFrom, List.drop_eq_getElem_cons hc, hstep, assignmentsFrom, List.filterMap_cons]
  cases step.values? <;> rfl

/-- What is assigned from a step on is a part of what the scene assigns. -/
lemma Scene.assignmentsFrom_subset (scene : Scene) (c : ℕ) :
    scene.assignmentsFrom c ⊆ scene.assignments := by
  intro values hmem
  obtain ⟨step, hstep, hvalues⟩ := List.mem_filterMap.1 hmem
  exact List.mem_filterMap.2 ⟨step, List.mem_of_mem_drop hstep, hvalues⟩

/-- Behind the step that completes a scene nothing is assigned. -/
lemma Scene.assignmentsFrom_of_isComplete (h : scene.steps[c]? = some step)
    (hstep : step.isComplete = true) : scene.assignmentsFrom (c + 1) = [] := by
  rw [assignmentsFrom, (Scene.isComplete_iff h).1 hstep, List.drop_length, List.filterMap_nil]

namespace Stage

/-! ## The discipline of the variables -/

variable {s s₁ s' : Stage} {effect : Option Effect} {target : Variables}

/-- The values of a stage become the target once the scene has assigned what it assigns from an
index on. -/
structure WritesTo (target : Variables) (played scene : Scene) (c : ℕ) (s : Stage) : Prop where
  /-- The scene is the one that was put on. -/
  same : scene = played
  /-- Its remaining assignments lead to the target. -/
  leads : s.state.values.overlayAll (scene.assignmentsFrom c) = target

/-- What leaves the variables alone leaves them on the way to the target. -/
lemma WritesTo.congr {played : Scene} (h : WritesTo target played scene c s)
    (hvalues : s₁.state.values = s.state.values) : WritesTo target played scene c s₁ :=
  ⟨h.same, by rw [hvalues, h.leads]⟩

/-- What a step does at once to the variables is to write what it assigns. -/
lemma Execution.values_eq (h : Execution s step s₁ effect) :
    (s₁.awaiting step effect).state.values = s.state.values.overlayAll step.values?.toList := by
  cases h with
  | silent _ _ _ ha | line _ _ _ ha | pause _ _ ha | assign _ ha | reset ha | complete ha =>
    simp only [Step.values?, ha]
    rfl

/-- A step that has been performed has made its assignment. -/
lemma WritesTo.executed {played : Scene} (h : WritesTo target played scene c s)
    (hs : StandsAt s scene c step) (hex : Execution s step s₁ effect) :
    WritesTo target played scene (c + 1) (s₁.awaiting step effect) := by
  refine ⟨h.same, ?_⟩
  rw [hex.values_eq, ← Dictionary.overlayAll_append, ← Scene.assignmentsFrom_eq hs.current, h.leads]

/-- Putting a scene on leaves the variables alone. -/
@[simp] lemma values_enter (s : Stage) (scene : Scene) :
    (s.enter scene).state.values = s.state.values := State.values_cancelEffect s.state

/-- Starting over leaves the variables alone. -/
@[simp] lemma values_rewind (s : Stage) (scene : Scene) :
    (s.rewind scene).state.values = s.state.values := by
  rw [rewind, values_enter]
  exact State.values_cancelEffect s.state

/-- A scene that is started over leads to the same target as from where it was.

**Proof sketch.** The whole scene writes over the values what has been written before and over that
what is yet to be written, so it may as well be started at the target
(`Dictionary.overlayAll_overlayAll`). -/
lemma WritesTo.rewind {before : Variables} {played : Scene}
    (h : WritesTo (before.overlayAll played.assignments) played scene c s) :
    WritesTo (before.overlayAll played.assignments) played scene 0 (s.rewind scene) := by
  obtain ⟨rfl, hleads⟩ := h
  refine ⟨rfl, ?_⟩
  calc (s.rewind scene).state.values.overlayAll (scene.assignmentsFrom 0)
      = s.state.values.overlayAll scene.assignments := by
        rw [values_rewind, Scene.assignmentsFrom_zero]
    _ = (s.state.values.overlayAll (scene.assignmentsFrom c)).overlayAll scene.assignments := by
        rw [Dictionary.overlayAll_overlayAll (scene.assignmentsFrom_subset c)]
    _ = (before.overlayAll scene.assignments).overlayAll scene.assignments := by rw [hleads]
    _ = before.overlayAll scene.assignments := by
        rw [Dictionary.overlayAll_overlayAll (List.Subset.refl _)]

/-- Taking away an effect that has ended leaves the variables alone. -/
@[simp] lemma values_finish (s : Stage) (ticket : Ticket) :
    (s.finish ticket).state.values = s.state.values := by
  cases hcurrent : s.state.isCurrent ticket with
  | true => rw [finish_of_isCurrent hcurrent, State.values_cancelEffect]
  | false => rw [finish_of_not_isCurrent hcurrent]

/-- Leaving a step leaves the variables alone. -/
@[simp] lemma values_leave (s : Stage) : s.leave.state.values = s.state.values := by
  simp [leave, State.leaveStep_eq]

/-- The report of a character leaves the variables alone. -/
@[simp] lemma values_reveal (s : Stage) (ticket : Ticket) :
    (s.reveal ticket).1.state.values = s.state.values := by rw [reveal_fst]

/-- **The discipline of the display variables**, for a scene that was put on over given values. -/
def writing (before : Variables) (played : Scene) : Discipline where
  Before := WritesTo (before.overlayAll played.assignments) played
  At scene c := WritesTo (before.overlayAll played.assignments) played scene (c + 1)
  Over s := s.state.values = before.overlayAll played.assignments
  perform hs hbefore hex _ := hbefore.executed hs hex
  complete := by
    intro scene c s step s₁ effect hs hbefore hex hcomplete
    have hleads := (hbefore.executed hs hex).leads
    rwa [Scene.assignmentsFrom_of_isComplete hs.current hcomplete] at hleads
  refuse := by
    intro scene c s step millis hs hbefore hpause
    have hleads := hbefore.leads
    rw [Scene.assignmentsFrom_eq hs.current] at hleads
    exact ⟨hbefore.same, by simpa [Step.values?, hpause] using hleads⟩
  leave _ hat := hat.congr (values_leave _)
  rewind _ hat := hat.rewind
  reveal _ hat := hat.congr (values_reveal _ _)
  finish _ hat := hat.congr (values_finish _ _)
  reveal_over _ hover := by rwa [values_reveal]
  finish_over _ hover := by rwa [values_finish]

/-- A scene that has been put on keeps to its discipline, whatever is done but to put another on. -/
theorem holds_writing (hidle : s.state.session = none)
    (hscene : s.repertoire.get? scene.name = some scene) {ops : List Operation}
    (hops : ∀ op ∈ ops, op.isTrigger = false) :
    (writing s.state.values scene).Holds ((s.trigger scene.name).1.run ops) := by
  refine Discipline.holds_run ?_ hops
  rw [trigger_of_get?_eq_some (State.isActive_of_session_eq_none hidle) hscene]
  refine Discipline.holds_enter hscene (session_enter s scene) ⟨rfl, ?_⟩
  simp [enter, State.startSession, Scene.assignmentsFrom_zero]

/-! ## The values at the end -/

/-- A scene was put on between scenes, and has been played to its end. On the way, players may have
proceeded, confirmed and started over, and effects may have reported under any tickets. -/
structure PlaysToEnd (s : Stage) (scene : Scene) (s' : Stage) : Prop where
  /-- No scene was played before. -/
  idle : s.state.session = none
  /-- The scene is in the repertoire. -/
  registered : s.repertoire.get? scene.name = some scene
  /-- It was put on, and no other. -/
  played : ∃ ops : List Operation, (∀ op ∈ ops, op.isTrigger = false) ∧
    s' = (s.trigger scene.name).1.run ops
  /-- It is over. -/
  ended : s'.state.session = none

/-- **The values at the end do not depend on the way there.** They are those from before, with all
assignments of the scene written over them in the order of the script. A name that the scene never
assigns keeps its value, and whoever plays the scene to its end from the same values ends with the
same values.

**Proof sketch.** By the discipline of the display variables (`holds_writing`). -/
theorem values_of_playsToEnd (h : PlaysToEnd s scene s') :
    s'.state.values = s.state.values.overlayAll scene.assignments ∧
      (∀ key, (∀ values ∈ scene.assignments, values.contains key = false) →
        s'.state.values.get? key = s.state.values.get? key) ∧
      ∀ t t', PlaysToEnd t scene t' → t.state.values = s.state.values →
        t'.state.values = s'.state.values := by
  have hvalues : ∀ {t t'}, PlaysToEnd t scene t' →
      t'.state.values = t.state.values.overlayAll scene.assignments := by
    rintro t t' ⟨hidle, hscene, ⟨ops, hops, rfl⟩, hended⟩
    exact (holds_writing hidle hscene hops).between hended
  refine ⟨hvalues h, ?_, ?_⟩
  · intro key hkey
    rw [hvalues h, Dictionary.get?_overlayAll_of_forall hkey]
  · intro t t' ht heq
    rw [hvalues ht, hvalues h, heq]

/-- The rehearsal, started over during its pause, with a late report, and played to its end. -/
theorem values_of_playsToEnd_rehearsing :
    let s' := (rehearsing.trigger "rehearsal").1.run
      [.restart, .proceed, .resolve ⟨1⟩, .proceed, .resolve ⟨4⟩]
    PlaysToEnd rehearsing rehearsal s' ∧
      s'.state.values = rehearsing.state.values.overlayAll rehearsal.assignments ∧
      s'.state.values.isOn "isMonitorOn" = true := by
  have hends : PlaysToEnd rehearsing rehearsal ((rehearsing.trigger "rehearsal").1.run
      [.restart, .proceed, .resolve ⟨1⟩, .proceed, .resolve ⟨4⟩]) := by
    refine ⟨rfl, Dictionary.get?_insert_self .., ⟨_, ?_, rfl⟩, ?_⟩
    · decide
    · exact Option.isNone_iff_eq_none.1 (by decide +kernel)
  exact ⟨hends, (values_of_playsToEnd hends).1, by decide +kernel⟩

end Stage

end Cutscene
