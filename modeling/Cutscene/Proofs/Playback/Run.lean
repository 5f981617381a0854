import Mathlib.Data.Nat.Notation
import Mathlib.Tactic.Lemma
import Cutscene.Proofs.Playback.Execution

set_option relaxedAutoImplicit false
set_option autoImplicit false

/-!
# Runs of the stage

A stage is asked for one thing after the other: players trigger, proceed, confirm and restart, and
effects report characters and their end, in time or late. This file makes a value of what can be
asked, and says which stages can come about.

## Main definitions

* `Cutscene.Operation` — what can be asked of a stage; `Cutscene.Stage.apply` does it.
* `Cutscene.Stage.run` — one operation after the other.
* `Cutscene.Stage.issued` — the effects that a run hands out.
* `Cutscene.Stage.Reachable` — the stages that come about over a repertoire.

## Main results

* `Cutscene.Stage.repertoire_apply`, `Cutscene.Stage.settings_apply` — no operation changes the
  scenes or how they are played.

## Design

Reports may carry any ticket whatsoever, also one that was never issued, and an opening stage may
draw its identifiers from any source. An operation that fails because a pause is out of range is an
operation like others: what a run says holds also for the stage that it leaves behind.
-/

namespace Cutscene

/-- What can be asked of a stage. -/
inductive Operation where
  /-- Start a scene. -/
  | trigger (name : String)
  /-- Leave the current step. -/
  | proceed
  /-- Leave the current step if it allows it. -/
  | confirm
  /-- Start the scene over again. -/
  | restart
  /-- Report one more character. -/
  | reveal (ticket : Ticket)
  /-- Report that an effect is over. -/
  | resolve (ticket : Ticket)
  deriving DecidableEq, Repr

/-- Whether an operation starts a scene by its name. -/
def Operation.isTrigger : Operation → Bool
  | trigger _ => true
  | _ => false

/-- The effect that an operation has started. -/
def Outcome.pending? : Outcome → Option Pending
  | .ok pending => pending
  | .error _ => none

namespace Stage

/-! ## Operations as values -/

/-- Does what is asked. A report of a character never starts an effect. -/
def apply (s : Stage) : Operation → Stage × Outcome
  | .trigger name => s.trigger name
  | .proceed => s.proceed
  | .confirm => s.confirm
  | .restart => s.restart
  | .reveal ticket => ((s.reveal ticket).1, .ok none)
  | .resolve ticket => s.resolve ticket

/-- Does one operation after the other. -/
def run (s : Stage) (ops : List Operation) : Stage := ops.foldl (fun s op => (s.apply op).1) s

/-- The effects that a run hands out, in their order. -/
def issued (s : Stage) : List Operation → List Pending
  | [] => []
  | op :: ops => (Outcome.pending? (s.apply op).2).toList ++ (s.apply op).1.issued ops

@[simp] lemma run_nil (s : Stage) : s.run [] = s := rfl

@[simp] lemma run_cons (s : Stage) (op : Operation) (ops : List Operation) :
    s.run (op :: ops) = (s.apply op).1.run ops := rfl

@[simp] lemma run_append (s : Stage) (ops more : List Operation) :
    s.run (ops ++ more) = (s.run ops).run more := by simp [run]

/-! ## What never changes -/

/-- Steps that are performed leave the scenes and the settings alone. -/
lemma perform_fixed (s : Stage) (steps : List Step) :
    (s.perform steps).1.repertoire = s.repertoire ∧ (s.perform steps).1.settings = s.settings := by
  induction steps generalizing s with
  | nil =>
    simp only [perform, overrun]
    split <;> exact ⟨rfl, rfl⟩
  | cons step rest ih =>
    cases h : s.execute step with
    | error e =>
      rw [perform_of_error h]
      exact ⟨rfl, rfl⟩
    | ok executed =>
      obtain ⟨s₁, effect⟩ := executed
      have hr := (execution_of_execute h).repertoire_eq
      have hs := (execution_of_execute h).settings_eq
      cases effect with
      | some effect =>
        rw [perform_of_effect h]
        exact ⟨hr, hs⟩
      | none =>
        cases hgo : step.autoAdvance && s₁.state.isActive with
        | false =>
          rw [perform_of_stop h hgo]
          exact ⟨hr, hs⟩
        | true =>
          rw [perform_of_pass h hgo]
          exact ⟨(ih s₁.leave).1.trans hr, (ih s₁.leave).2.trans hs⟩

/-- Performing from the cursor leaves the scenes and the settings alone. -/
lemma performFromCursor_fixed (s : Stage) :
    s.performFromCursor.1.repertoire = s.repertoire ∧
      s.performFromCursor.1.settings = s.settings := by
  unfold performFromCursor
  split
  · exact perform_fixed s _
  · exact ⟨rfl, rfl⟩

/-- A trigger leaves the scenes and the settings alone. -/
lemma trigger_fixed (s : Stage) (name : String) :
    (s.trigger name).1.repertoire = s.repertoire ∧ (s.trigger name).1.settings = s.settings := by
  unfold trigger
  split
  · exact ⟨rfl, rfl⟩
  · split
    · exact ⟨rfl, rfl⟩
    · exact performFromCursor_fixed _

/-- Proceeding leaves the scenes and the settings alone. -/
lemma proceed_fixed (s : Stage) :
    s.proceed.1.repertoire = s.repertoire ∧ s.proceed.1.settings = s.settings := by
  unfold proceed
  split
  · exact performFromCursor_fixed _
  · exact ⟨rfl, rfl⟩

/-- No operation changes the scenes or the settings.

**Proof sketch.** Every operation is a change of the state alone, or performs steps after such a
change (`performFromCursor_fixed`). -/
lemma apply_fixed (s : Stage) (op : Operation) :
    (s.apply op).1.repertoire = s.repertoire ∧ (s.apply op).1.settings = s.settings := by
  cases op with
  | trigger name => exact trigger_fixed s name
  | proceed => exact proceed_fixed s
  | confirm =>
    simp only [apply, confirm_eq]
    split
    · exact proceed_fixed s
    · exact ⟨rfl, rfl⟩
  | restart =>
    simp only [apply, restart]
    split
    · exact trigger_fixed _ _
    · exact ⟨rfl, rfl⟩
  | reveal ticket =>
    simp only [apply]
    exact ⟨repertoire_reveal s ticket, settings_reveal s ticket⟩
  | resolve ticket =>
    simp only [apply, resolve_eq]
    have hfin : (s.finish ticket).repertoire = s.repertoire ∧
        (s.finish ticket).settings = s.settings := by simp
    split
    · exact ⟨(proceed_fixed _).1.trans hfin.1, (proceed_fixed _).2.trans hfin.2⟩
    · exact hfin

/-- No operation changes the scenes. -/
@[simp] theorem repertoire_apply (s : Stage) (op : Operation) :
    (s.apply op).1.repertoire = s.repertoire := (apply_fixed s op).1

/-- No operation changes how scenes are played. -/
@[simp] theorem settings_apply (s : Stage) (op : Operation) :
    (s.apply op).1.settings = s.settings := (apply_fixed s op).2

/-! ## Reachable stages -/

/-- The stages that come about when the scenes of a repertoire are played. -/
inductive Reachable (r : Repertoire) (settings : Settings) : Stage → Prop
  /-- Nothing is played and nothing has been. -/
  | opening (ids : Random.Source) : Reachable r settings ⟨r, settings, ids, .idle⟩
  /-- One more operation. -/
  | step {s : Stage} (h : Reachable r settings s) (op : Operation) :
    Reachable r settings (s.apply op).1

variable {r : Repertoire} {settings : Settings} {s : Stage}

/-- A new stage is reachable. -/
lemma Reachable.ofRepertoire : Reachable r settings (.ofRepertoire r settings) := .opening _

/-- Runs stay among the reachable stages. -/
lemma Reachable.run (h : Reachable r settings s) (ops : List Operation) :
    Reachable r settings (s.run ops) := by
  induction ops generalizing s with
  | nil => exact h
  | cons op ops ih => exact ih (h.step op)

/-- The scenes of a reachable stage are those it was opened with. -/
lemma Reachable.repertoire_eq (h : Reachable r settings s) : s.repertoire = r := by
  induction h with
  | opening => rfl
  | step _ op ih => rw [repertoire_apply, ih]

/-- The settings of a reachable stage are those it was opened with. -/
lemma Reachable.settings_eq (h : Reachable r settings s) : s.settings = settings := by
  induction h with
  | opening => rfl
  | step _ op ih => rw [settings_apply, ih]

end Stage

/-! ## A scene to try things on -/

/-- A scene with a step of each kind. It starts with a pause that may be cut short, waits for the
player at its line, and goes on by itself from there. -/
def rehearsal : Scene where
  name := "rehearsal"
  steps := [⟨.pause 500, true, true⟩, ⟨.say ⟨"ENGINEER", "hi", .left⟩, false, false⟩,
    ⟨.assign (.ofList [("isMonitorOn", .flag true)]), true, false⟩, ⟨.reset, true, false⟩,
    ⟨.complete, true, false⟩]
  closed := by
    refine ⟨[⟨.pause 500, true, true⟩, ⟨.say ⟨"ENGINEER", "hi", .left⟩, false, false⟩,
      ⟨.assign (.ofList [("isMonitorOn", .flag true)]), true, false⟩, ⟨.reset, true, false⟩],
      ⟨.complete, true, false⟩, rfl, rfl, ?_⟩
    simp [Step.isComplete, Step.kind, Action.kind]

/-- A stage on which only that scene can be played, and nothing has been. -/
def Stage.rehearsing : Stage := .ofRepertoire (Repertoire.empty.add rehearsal) .standard

/-- Whatever is done on that stage, it stays reachable. -/
lemma Stage.reachable_rehearsing (ops : List Operation) :
    Reachable (Repertoire.empty.add rehearsal) .standard (rehearsing.run ops) :=
  Reachable.ofRepertoire.run ops

end Cutscene
