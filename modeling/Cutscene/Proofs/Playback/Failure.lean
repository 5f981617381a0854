import Cutscene.Proofs.Playback.Discipline

set_option relaxedAutoImplicit false
set_option autoImplicit false

/-!
# What can fail

The only thing that can fail on a stage whose pauses are in range is a trigger of a scene that is
not in the repertoire, and it changes nothing. The cursor never runs over the end of a scene.

## Main definitions

* `Cutscene.Repertoire.PausesFit` — every pause of the scenes is in range once it has been scaled.
* `Cutscene.Stage.within` — the discipline that asks for nothing but a cursor within its scene.
* `Cutscene.Stage.FailsOnlyForUnknown` — what can fail and what cannot.

## Main results

* `Cutscene.Stage.holds_within` — the cursor of a reachable stage is within its scene.
* `Cutscene.Stage.fails_only_for_unknown` — nothing fails but a trigger of an unknown scene.
-/

namespace Cutscene

/-- Every pause of the scenes is in range once it has been scaled. -/
def Repertoire.PausesFit (r : Repertoire) (settings : Settings) : Prop :=
  ∀ scene ∈ r.toList, ∀ step ∈ scene.steps, ∀ millis, step.action = .pause millis →
    (settings.scaledPause? millis).isSome = true

/-- Pauses that are played as they are written are in range. -/
lemma Repertoire.pausesFit_of_unscaled (r : Repertoire) {settings : Settings}
    (h : (settings.delayScale == 1.0) = true) : r.PausesFit settings := by
  intro scene _ step _ millis _
  unfold Settings.scaledPause? Duration.scaled?
  rw [if_pos h, Option.isSome_some]

namespace Stage

/-! ## The cursor -/

/-- The discipline that asks for nothing but a cursor within its scene. -/
def within : Discipline where
  Before _ _ _ := True
  At _ _ _ := True
  Over _ := True
  perform _ _ _ _ := trivial
  complete _ _ _ _ := trivial
  refuse _ _ _ := trivial
  leave _ _ := trivial
  rewind _ _ := trivial
  reveal _ _ := trivial
  finish _ _ := trivial
  reveal_over _ _ := trivial
  finish_over _ _ := trivial

variable {r : Repertoire} {settings : Settings} {s : Stage} {scene : Scene} {c : ℕ}

/-- **The cursor of a reachable stage is within its scene**, at a step that does not complete it,
and the scene is the one that the repertoire has under its name. -/
theorem holds_within (h : Reachable r settings s) : within.Holds s :=
  Discipline.holds_of_reachable h (fun _ => trivial) (fun _ _ => trivial)

/-! ## Errors -/

/-- Performing does not fail if the pauses are in range.

**Proof sketch.** Induction on performing: it can fail only at a pause that is out of range, which
would be a pause of a scene of the repertoire. -/
lemma perform_ok (hfit : s.repertoire.PausesFit s.settings)
    (hscene : s.repertoire.get? scene.name = some scene)
    (hsession : s.state.session = some ⟨scene, c⟩) (hc : c < scene.steps.length) :
    ∃ pending, (s.perform (scene.steps.drop c)).2 = .ok pending := by
  have hmem : scene ∈ s.repertoire.toList := Repertoire.mem_toList_of_get? hscene
  refine perform_induction (P := fun _ s' => s'.settings = s.settings)
    (Q := fun result => ∃ pending, result.2 = .ok pending) ?_ ?_ ?_ ?_ hsession hc rfl
  · intro c s' step millis hs hsettings hpause hlong
    have hfits := hfit scene hmem step (List.mem_of_getElem? hs.current) millis hpause
    rw [← hsettings, hlong] at hfits
    cases hfits
  · intro c s' step s₁ effect _ _ _
    exact ⟨_, rfl⟩
  · intro c s' step s₁ _ _ _ _
    exact ⟨_, rfl⟩
  · intro c s' step s₁ _ hsettings hex _
    rw [settings_leave, hex.settings_eq, hsettings]

/-- A scene that has been put on is performed without failing. -/
lemma perform_steps_ok (hfit : s.repertoire.PausesFit s.settings)
    (hscene : s.repertoire.get? scene.name = some scene)
    (hsession : s.state.session = some ⟨scene, 0⟩) :
    ∃ pending, (s.perform scene.steps).2 = .ok pending := by
  have h := perform_ok hfit hscene hsession scene.length_pos
  rwa [List.drop_zero] at h

/-- Proceeding does not fail. -/
lemma proceed_ok (h : within.Holds s) (hfit : s.repertoire.PausesFit s.settings) :
    ∃ pending, s.proceed.2 = .ok pending := by
  cases hsession : s.state.session with
  | none =>
    rw [proceed_of_not_isActive (State.isActive_of_session_eq_none hsession)]
    exact ⟨none, rfl⟩
  | some session =>
    obtain ⟨scene, c⟩ := session
    obtain ⟨hscene, step, hs, hstep, -⟩ := h.during hsession
    rw [proceed_of_session hsession]
    exact perform_ok (s := s.leave) hfit hscene (session_leave hsession)
      (Scene.succ_lt_length hs.current hstep)

/-- Confirming does not fail. -/
lemma confirm_ok (h : within.Holds s) (hfit : s.repertoire.PausesFit s.settings) :
    ∃ pending, s.confirm.2 = .ok pending := by
  rw [confirm_eq]
  split
  · exact proceed_ok h hfit
  · exact ⟨none, rfl⟩

/-- Starting over does not fail. -/
lemma restart_ok (h : within.Holds s) (hfit : s.repertoire.PausesFit s.settings) :
    ∃ pending, s.restart.2 = .ok pending := by
  cases hsession : s.state.session with
  | none => exact ⟨none, by rw [restart_of_session_eq_none hsession]⟩
  | some session =>
    obtain ⟨scene, c⟩ := session
    obtain ⟨hscene, -⟩ := h.during hsession
    rw [restart_of_session hsession hscene]
    exact perform_steps_ok (s := s.rewind scene) hfit hscene (session_rewind s scene)

/-- The report of the end of an effect does not fail. -/
lemma resolve_ok (h : within.Holds s) (hfit : s.repertoire.PausesFit s.settings)
    (ticket : Ticket) : ∃ pending, (s.resolve ticket).2 = .ok pending := by
  rw [resolve_eq]
  split
  · exact proceed_ok (Discipline.holds_finish h ticket) (by simpa using hfit)
  · exact ⟨none, rfl⟩

/-- A trigger of a scene of the repertoire does not fail. -/
lemma trigger_ok (hfit : s.repertoire.PausesFit s.settings) {name : String}
    (hname : s.repertoire.get? name = some scene) :
    ∃ pending, (s.trigger name).2 = .ok pending := by
  cases hactive : s.state.isActive with
  | true => exact ⟨none, by rw [trigger_of_isActive hactive]⟩
  | false =>
    have hscene : s.repertoire.get? scene.name = some scene := by
      rw [s.repertoire.name_of_get? hname, hname]
    rw [trigger_of_get?_eq_some hactive hname]
    exact perform_steps_ok (s := s.enter scene) hfit hscene (session_enter s scene)

/-- A trigger fails exactly if no scene is played and the repertoire has none of that name. It
says so and does nothing else. -/
lemma trigger_eq_error_iff (hfit : s.repertoire.PausesFit s.settings) {name : String}
    {e : PlayError} :
    (s.trigger name).2 = .error e ↔
      s.state.session = none ∧ s.repertoire.contains name = false ∧ e = .sceneNotFound name := by
  rw [Repertoire.contains_eq_false_iff]
  cases hsession : s.state.session with
  | some session =>
    rw [trigger_of_isActive (State.isActive_of_session hsession)]
    simp
  | none =>
    cases hname : s.repertoire.get? name with
    | none =>
      rw [trigger_of_get?_eq_none (State.isActive_of_session_eq_none hsession) hname]
      simp [eq_comm]
    | some scene =>
      obtain ⟨pending, hok⟩ := trigger_ok hfit hname
      simp [hok]

/-- What can fail on a stage, and what cannot. -/
structure FailsOnlyForUnknown (s : Stage) : Prop where
  /-- The cursor of a scene that is played is at a step, and not at the one that completes it. -/
  cursor : ∀ scene c, s.state.session = some ⟨scene, c⟩ →
    ∃ step, scene.steps[c]? = some step ∧ step.isComplete = false
  /-- Proceeding does not fail. -/
  proceed : ∃ pending, s.proceed.2 = .ok pending
  /-- Confirming does not fail. -/
  confirm : ∃ pending, s.confirm.2 = .ok pending
  /-- Starting over does not fail. -/
  restart : ∃ pending, s.restart.2 = .ok pending
  /-- The report of the end of an effect does not fail, whatever its ticket. -/
  resolve : ∀ ticket, ∃ pending, (s.resolve ticket).2 = .ok pending
  /-- A trigger fails exactly if no scene is played and the repertoire has none of that name. -/
  trigger : ∀ name, (∃ e, (s.trigger name).2 = .error e) ↔
    s.state.session = none ∧ s.repertoire.contains name = false
  /-- A trigger that fails says that there is no scene of that name, and changes nothing at all: a
  rest that is still running goes on. -/
  failed : ∀ name e, (s.trigger name).2 = .error e →
    e = .sceneNotFound name ∧ (s.trigger name).1 = s
  /-- No operation runs over the end of a scene. -/
  overrun : ∀ op name index, (s.apply op).2 ≠ .error (.cursorOverrun name index)

/-- **Nothing fails but a trigger of an unknown scene.** The repertoire may be any, in whatever way
it was put together; its pauses have to be in range once they are scaled.

**Proof sketch.** The cursor of a reachable stage is within its scene (`holds_within`), so
performing meets a step wherever it goes, and a pause is the only step that can be refused. The
scene that is started over is found, since scenes lie under their own names. -/
theorem fails_only_for_unknown (h : Reachable r settings s) (hfit : r.PausesFit settings) :
    s.FailsOnlyForUnknown := by
  have hwithin : within.Holds s := holds_within h
  have hfit' : s.repertoire.PausesFit s.settings := by rwa [h.repertoire_eq, h.settings_eq]
  have htrigger : ∀ name e, (s.trigger name).2 = .error e →
      e = .sceneNotFound name ∧ (s.trigger name).1 = s := by
    intro name e he
    obtain ⟨hsession, hname, rfl⟩ := (trigger_eq_error_iff hfit').1 he
    rw [Repertoire.contains_eq_false_iff] at hname
    rw [trigger_of_get?_eq_none (State.isActive_of_session_eq_none hsession) hname]
    exact ⟨rfl, rfl⟩
  refine ⟨?_, proceed_ok hwithin hfit', confirm_ok hwithin hfit', restart_ok hwithin hfit',
    resolve_ok hwithin hfit', ?_, htrigger, ?_⟩
  · intro scene c hsession
    obtain ⟨-, step, hs, hstep, -⟩ := hwithin.during hsession
    exact ⟨step, hs.current, hstep⟩
  · intro name
    simp [trigger_eq_error_iff hfit']
  · intro op name index
    cases op with
    | trigger name' =>
      intro he
      cases (htrigger name' _ he).1
    | proceed =>
      obtain ⟨pending, hok⟩ := proceed_ok hwithin hfit'
      simp [apply, hok]
    | confirm =>
      obtain ⟨pending, hok⟩ := confirm_ok hwithin hfit'
      simp [apply, hok]
    | restart =>
      obtain ⟨pending, hok⟩ := restart_ok hwithin hfit'
      simp [apply, hok]
    | reveal ticket => simp [apply]
    | resolve ticket =>
      obtain ⟨pending, hok⟩ := resolve_ok hwithin hfit' ticket
      simp [apply, hok]

/-- When the rehearsal is over, in the rest that follows. -/
theorem fails_only_for_unknown_rehearsing :
    (Repertoire.empty.add rehearsal).PausesFit .standard ∧
      Reachable (Repertoire.empty.add rehearsal) .standard
        (rehearsing.run [.trigger "rehearsal", .proceed, .proceed, .proceed]) ∧
      (rehearsing.run [.trigger "rehearsal", .proceed, .proceed, .proceed]).state.running.isSome =
        true ∧
      (rehearsing.run [.trigger "rehearsal", .proceed, .proceed, .proceed]).FailsOnlyForUnknown :=
  have hfit : (Repertoire.empty.add rehearsal).PausesFit .standard :=
    Repertoire.pausesFit_of_unscaled _ (by decide)
  ⟨hfit, reachable_rehearsing _, by decide +kernel,
    fails_only_for_unknown (reachable_rehearsing _) hfit⟩

end Stage

end Cutscene
