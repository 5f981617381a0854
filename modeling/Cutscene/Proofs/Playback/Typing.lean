import Cutscene.Proofs.Playback.Tickets

set_option relaxedAutoImplicit false
set_option autoImplicit false

/-!
# Typing a line

A stage that performs a line hands out as many characters as the line has, with none of them shown,
and every report of a character shows one more, in the bubble of the line and in no other.

## Main definitions

* `Cutscene.Passage` — a line that is typed, and what it is typed into.
* `Cutscene.Stage.Types` — a stage that types a passage and has come to some character.

## Main results

* `Cutscene.Stage.types_apply` — an effect that types is handed out at the start of a passage.
* `Cutscene.Stage.Types.reveal_eq` — a report of a character shows one more character.
* `Cutscene.Stage.apply_fst_of_not_drops` — whatever leaves the running effect alone changes nothing
  at all, unless it is a report of a character.
-/

namespace Cutscene

/-- A line that is typed: where it is said, and what it is typed into. -/
structure Passage where
  /-- The scene and the place of the line in it. -/
  session : Session
  /-- The line. -/
  line : Line
  /-- What its bubble is known by. -/
  id : String
  /-- The bubbles before it. -/
  past : List Bubble

namespace Passage

/-- The bubble of the line when some of its characters are shown. -/
def bubble (p : Passage) (n : ℕ) : Bubble := { Bubble.start p.id p.line with revealed := n }

/-- All bubbles when some of the characters are shown. -/
def bubbles (p : Passage) (n : ℕ) : List Bubble := p.past ++ [p.bubble n]

variable {p : Passage} {n : ℕ}

/-- The bubble of a line has room for its characters. -/
lemma isRevealed_bubble : (p.bubble n).isRevealed = true ↔ p.line.length ≤ n :=
  decide_eq_true_iff

/-- One more character is shown where there is one. -/
lemma revealNext_bubble (h : n < p.line.length) :
    (p.bubble n).revealNext = (true, p.bubble (n + 1)) := by
  have hpart : ¬(p.bubble n).isRevealed = true := by
    rw [isRevealed_bubble]
    omega
  rw [Bubble.revealNext, if_neg hpart]
  rfl

end Passage

namespace Stage

/-- A stage that types a passage and has come to the `n`-th character. -/
structure Types (s : Stage) (ticket : Ticket) (p : Passage) (n : ℕ) : Prop where
  /-- An effect of the ticket is running, and it types. -/
  running : ∃ autoAdvance, s.state.running = some ⟨ticket, autoAdvance, true⟩
  /-- A line is being typed. -/
  typing : s.state.typing = true
  /-- The scene is at the place of the line. -/
  session : s.state.session = some p.session
  /-- The step there says the line. -/
  line : p.session.step?.bind Step.line? = some p.line
  /-- The bubbles are those of the passage. -/
  bubbles : s.state.bubbles = p.bubbles n

variable {s : Stage} {ticket : Ticket} {p : Passage} {n chars : ℕ}

/-! ## One more character -/

/-- The ticket of a passage is current. -/
lemma Types.isCurrent (h : s.Types ticket p n) : s.state.isCurrent ticket = true := by
  obtain ⟨autoAdvance, hrunning⟩ := h.running
  simp [State.isCurrent, hrunning]

/-- A report of a character shows one more character of the line, if there is one, and changes
nothing else. -/
lemma Types.reveal_eq (h : s.Types ticket p n) (hn : n < p.line.length) :
    s.reveal ticket =
      ({ s with state := { s.state with bubbles := p.bubbles (n + 1) } }, true) := by
  have hlast : s.state.bubbles.getLast? = some (p.bubble n) := by simp [h.bubbles, Passage.bubbles]
  unfold reveal
  rw [h.isCurrent, h.typing, hlast, h.bubbles]
  simp [Passage.revealNext_bubble hn, Passage.bubbles]

/-- After the report the stage has come to the next character. -/
lemma Types.succ (h : s.Types ticket p n) :
    ({ s with state := { s.state with bubbles := p.bubbles (n + 1) } } : Stage).Types ticket p
      (n + 1) := ⟨h.running, h.typing, h.session, h.line, rfl⟩

/-! ## The start of a passage -/

/-- A line that is executed and has characters starts a passage. -/
lemma types_awaiting {s₁ : Stage} {step : Step} {session : Session}
    (hsession : s.state.session = some session) (hstep : session.step? = some step)
    (h : Execution s step s₁ (some (.typing chars))) :
    ∃ p : Passage, p.line.length = chars ∧
      (s₁.awaiting step (some (.typing chars))).Types ⟨s₁.state.generation + 1⟩ p 0 := by
  cases h with
  | line line id ids hsay _ =>
    refine ⟨⟨session, line, id, s.state.bubbles⟩, rfl, ⟨_, rfl⟩, rfl, hsession, ?_, rfl⟩
    simp [hstep, Step.line?, hsay]

/-- An effect that types, handed out by performing, is at the start of a passage.

**Proof sketch.** Induction on the steps from the cursor on. Only a line hands out an effect that
types, and steps that are passed move the cursor along. -/
lemma types_perform {scene : Scene} {c : ℕ} {steps : List Step}
    (hsession : s.state.session = some ⟨scene, c⟩) (hsteps : scene.steps.drop c = steps)
    (hpending : Outcome.pending? (s.perform steps).2 = some ⟨ticket, .typing chars⟩) :
    ∃ p : Passage, p.line.length = chars ∧ (s.perform steps).1.Types ticket p 0 := by
  induction steps generalizing s c with
  | nil => simp [perform, overrun, hsession, Outcome.pending?] at hpending
  | cons step rest ih =>
    have hstep : scene.steps[c]? = some step := by
      rw [← List.head?_drop, hsteps, List.head?_cons]
    have hrest : scene.steps.drop (c + 1) = rest := by
      rw [← List.tail_drop, hsteps, List.tail_cons]
    cases h : s.execute step with
    | error e =>
      rw [perform_of_error h] at hpending
      cases hpending
    | ok executed =>
      obtain ⟨s₁, effect⟩ := executed
      have hex : Execution s step s₁ effect := execution_of_execute h
      cases effect with
      | some effect =>
        rw [perform_of_effect h] at hpending ⊢
        cases hpending
        exact types_awaiting hsession hstep hex
      | none =>
        cases hgo : step.autoAdvance && s₁.state.isActive with
        | false =>
          rw [perform_of_stop h hgo] at hpending
          cases hpending
        | true =>
          rw [perform_of_pass h hgo] at hpending ⊢
          have hs₁ : s₁.state.session = some ⟨scene, c⟩ := by
            refine Eq.trans (hex.session_eq ?_) hsession
            cases hcomplete : step.isComplete with
            | false => rfl
            | true => cases (hex.of_isComplete hcomplete).2
          exact ih (session_leave hs₁) hrest hpending

/-- The same of proceeding. -/
lemma types_proceed (hpending : Outcome.pending? s.proceed.2 = some ⟨ticket, .typing chars⟩) :
    ∃ p : Passage, p.line.length = chars ∧ s.proceed.1.Types ticket p 0 := by
  cases hsession : s.state.session with
  | none =>
    rw [proceed_of_not_isActive (State.isActive_of_session_eq_none hsession)] at hpending
    cases hpending
  | some session =>
    obtain ⟨scene, c⟩ := session
    rw [proceed_of_session hsession] at hpending ⊢
    exact types_perform (session_leave hsession) rfl hpending

/-- The same of a trigger. -/
lemma types_trigger {name : String}
    (hpending : Outcome.pending? (s.trigger name).2 = some ⟨ticket, .typing chars⟩) :
    ∃ p : Passage, p.line.length = chars ∧ (s.trigger name).1.Types ticket p 0 := by
  cases hactive : s.state.isActive with
  | true =>
    rw [trigger_of_isActive hactive] at hpending
    cases hpending
  | false =>
    cases hname : s.repertoire.get? name with
    | none =>
      rw [trigger_of_get?_eq_none hactive hname] at hpending
      cases hpending
    | some scene =>
      rw [trigger_of_get?_eq_some hactive hname] at hpending ⊢
      exact types_perform (session_enter s scene) rfl hpending

/-- **An effect that types is handed out at the start of a passage**: it has as many characters as
the line of the current step, and none of them is shown yet. -/
theorem types_apply {op : Operation}
    (hpending : Outcome.pending? (s.apply op).2 = some ⟨ticket, .typing chars⟩) :
    ∃ p : Passage, p.line.length = chars ∧ (s.apply op).1.Types ticket p 0 := by
  cases op with
  | trigger name => exact types_trigger hpending
  | proceed => exact types_proceed hpending
  | confirm =>
    rw [apply, confirm_eq] at hpending ⊢
    split at hpending
    next h =>
      rw [if_pos h]
      exact types_proceed hpending
    next => cases hpending
  | restart =>
    rw [apply] at hpending ⊢
    unfold restart at hpending ⊢
    cases hsession : s.state.session with
    | none => simp [hsession, Outcome.pending?] at hpending
    | some session =>
      simp only [hsession] at hpending ⊢
      exact types_trigger hpending
  | reveal ticket => cases hpending
  | resolve ticket =>
    rw [apply, resolve_eq] at hpending ⊢
    split at hpending
    next h =>
      rw [if_pos h]
      exact types_proceed hpending
    next => cases hpending

/-! ## Nothing else changes anything -/

/-- Whatever leaves the running effect alone changes nothing at all, unless it is a report of a
character under the current ticket. -/
lemma apply_fst_of_not_drops {op : Operation} (h : s.drops op = false)
    (hop : ∀ ticket, op = .reveal ticket → s.state.isCurrent ticket = false) :
    (s.apply op).1 = s := by
  cases op with
  | trigger name =>
    cases hactive : s.state.isActive with
    | true => rw [apply, trigger_of_isActive hactive]
    | false =>
      have hname : s.repertoire.contains name = false := by simpa [drops, hactive] using h
      rw [apply, trigger_of_get?_eq_none hactive (Repertoire.contains_eq_false_iff.1 hname)]
  | proceed => rw [apply, proceed_of_not_isActive h]
  | confirm =>
    simp only [drops] at h
    rw [apply, confirm_eq, h]
    rfl
  | restart =>
    have hsession : s.state.session = none := by simpa [drops, State.isActive] using h
    rw [apply, restart_of_session_eq_none hsession]
  | reveal ticket => rw [apply, reveal_of_not_isCurrent (hop ticket rfl)]
  | resolve ticket => rw [apply, resolve_of_not_isCurrent h]

end Stage

end Cutscene
