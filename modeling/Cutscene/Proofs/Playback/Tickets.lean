import Cutscene.Proofs.Playback.Run
import Cutscene.Proofs.Scene.Repertoire

set_option relaxedAutoImplicit false
set_option autoImplicit false

/-!
# Tickets

An effect that runs elsewhere may report late, twice, or after its step was left. Nothing bad comes
of it, since every effect is started under a new number and only the number of the effect that is
running counts.

## Main definitions

* `Cutscene.Stage.drops` — the operations that take the running effect away.
* `Cutscene.Stage.Renewal` — what there is after the running effect was taken away.
* `Cutscene.Stage.RunsLast` — the running effect is the one that was started last.
* `Cutscene.Stage.Expired` — a ticket that has been drawn and is not current.
* `Cutscene.Stage.times` — how often something happens along a run.
* `Cutscene.Stage.TicketsServeOnce` — what tickets are good for.

## Main results

* `Cutscene.Stage.renewal_apply`, `Cutscene.Stage.apply_of_not_drops` — an operation takes the
  running effect away, or leaves it alone and starts none.
* `Cutscene.Stage.isCurrent_apply` — a ticket stays current exactly until its effect is taken away.
* `Cutscene.Stage.Expired.run` — a ticket that has expired stays expired.
* `Cutscene.Stage.pairwise_issued` — the tickets that a run hands out increase.
* `Cutscene.Stage.tickets_serve_once` — a ticket serves once.

## Design

Numbers are drawn from a counter without bound. An operation either leaves the running effect alone
or takes it away, in one of the ways listed by `Cutscene.Stage.drops`; everything about runs follows
from the two step lemmas for these cases.
-/

namespace Cutscene

namespace Stage

/-! ## What one operation does to the running effect -/

/-- Whether an operation takes the running effect away: a scene is put on, its step is left, the
scene is started over, or its own end is reported. -/
def drops (s : Stage) : Operation → Bool
  | .trigger name => !s.state.isActive && s.repertoire.contains name
  | .proceed => s.state.isActive
  | .confirm => s.state.step?.any s.state.mayLeave
  | .restart => s.state.isActive
  | .reveal _ => false
  | .resolve ticket => s.state.isCurrent ticket

/-- What there is once the running effect was taken away from a stage that had drawn `n` numbers:
no effect, or one under the next number, which is handed out. -/
inductive Renewal (n : ℕ) (s : Stage) : Option Pending → Prop
  /-- No effect is running. -/
  | quiet (hgeneration : s.state.generation = n) (hrunning : s.state.running = none) :
    Renewal n s none
  /-- An effect has been started. -/
  | started (pending : Pending) (effect : Running) (hgeneration : s.state.generation = n + 1)
    (hrunning : s.state.running = some effect) (hnumber : pending.ticket = ⟨n + 1⟩)
    (hticket : effect.ticket = pending.ticket) : Renewal n s (some pending)

variable {s : Stage} {op : Operation} {ticket : Ticket} {n : ℕ} {pending : Option Pending}

@[simp] lemma generation_leave (s : Stage) : s.leave.state.generation = s.state.generation := by
  simp [leave, State.leaveStep_eq]

@[simp] lemma running_leave (s : Stage) : s.leave.state.running = none := by
  simp [leave, State.leaveStep_eq]

@[simp] lemma generation_enter (s : Stage) (scene : Scene) :
    (s.enter scene).state.generation = s.state.generation := by
  simp [enter, State.startSession]

@[simp] lemma running_enter (s : Stage) (scene : Scene) : (s.enter scene).state.running = none := by
  simp [enter, State.startSession]

/-- Performing steps while no effect is running starts one at most.

**Proof sketch.** Induction on the steps. What a step does at once draws no number, and leaving it
does not either. -/
lemma renewal_perform (hrunning : s.state.running = none) (steps : List Step) :
    Renewal s.state.generation (s.perform steps).1 (Outcome.pending? (s.perform steps).2) := by
  induction steps generalizing s with
  | nil =>
    simp only [perform, overrun]
    split
    · exact .quiet (State.generation_cancelEffect s.state) (State.running_cancelEffect s.state)
    · exact .quiet rfl hrunning
  | cons step rest ih =>
    cases h : s.execute step with
    | error e =>
      rw [perform_of_error h]
      exact .quiet rfl hrunning
    | ok executed =>
      obtain ⟨s₁, effect⟩ := executed
      have hgeneration := (execution_of_execute h).generation_eq
      have hrunning₁ := (execution_of_execute h).running_eq.trans hrunning
      rw [← hgeneration]
      cases effect with
      | some effect =>
        rw [perform_of_effect h]
        exact .started _ _ rfl rfl rfl rfl
      | none =>
        cases hgo : step.autoAdvance && s₁.state.isActive with
        | false =>
          rw [perform_of_stop h hgo]
          exact .quiet rfl hrunning₁
        | true =>
          rw [perform_of_pass h hgo, ← generation_leave s₁]
          exact ih (running_leave s₁)

/-- Proceeding starts one effect at most, if it leaves a step or no effect is running. -/
lemma renewal_proceed (h : s.state.session = none → s.state.running = none) :
    Renewal s.state.generation s.proceed.1 (Outcome.pending? s.proceed.2) := by
  cases hsession : s.state.session with
  | none =>
    rw [proceed_of_not_isActive (State.isActive_of_session_eq_none hsession)]
    exact .quiet rfl (h hsession)
  | some session =>
    obtain ⟨scene, c⟩ := session
    rw [proceed_of_session hsession, ← generation_leave s]
    exact renewal_perform (running_leave s) _

/-- A trigger between scenes starts one effect at most, if no effect is running or the scene is
known. -/
lemma renewal_trigger (hactive : s.state.isActive = false) (name : String)
    (h : s.repertoire.get? name = none → s.state.running = none) :
    Renewal s.state.generation (s.trigger name).1 (Outcome.pending? (s.trigger name).2) := by
  cases hname : s.repertoire.get? name with
  | none =>
    rw [trigger_of_get?_eq_none hactive hname]
    exact .quiet rfl (h hname)
  | some scene =>
    rw [trigger_of_get?_eq_some hactive hname, ← generation_enter s scene]
    exact renewal_perform (running_enter s scene) _

/-- **What an operation leaves that takes the running effect away.** -/
theorem renewal_apply (h : s.drops op = true) :
    Renewal s.state.generation (s.apply op).1 (Outcome.pending? (s.apply op).2) := by
  cases op with
  | trigger name =>
    obtain ⟨hactive, hname⟩ := Bool.and_eq_true_iff.1 h
    refine renewal_trigger (by simpa using hactive) name fun hnone => ?_
    rw [Repertoire.contains_eq_false_iff.2 hnone] at hname
    cases hname
  | proceed =>
    refine renewal_proceed fun hnone => ?_
    simp [drops, State.isActive, hnone] at h
  | confirm =>
    simp only [drops] at h
    rw [apply, confirm_eq, if_pos h]
    refine renewal_proceed fun hnone => ?_
    simp [State.step?, hnone] at h
  | restart =>
    obtain ⟨session, hsession⟩ := Option.isSome_iff_exists.1 h
    have htrigger := renewal_trigger (s := { s with state := s.state.clearPlayback }) rfl
      session.scene.name fun _ => State.running_cancelEffect s.state
    simpa [apply, restart, hsession, State.clearPlayback] using htrigger
  | reveal ticket => cases h
  | resolve ticket =>
    have hnone : s.state.cancelEffect.running = none := State.running_cancelEffect s.state
    rw [apply, resolve_eq, finish_of_isCurrent h, ← State.generation_cancelEffect]
    split
    · exact renewal_proceed (s := { s with state := s.state.cancelEffect }) fun _ => hnone
    · exact .quiet rfl hnone

/-- **Any other operation** starts no effect and leaves the running one alone. -/
theorem apply_of_not_drops (h : s.drops op = false) :
    Outcome.pending? (s.apply op).2 = none ∧
      (s.apply op).1.state.generation = s.state.generation ∧
      (s.apply op).1.state.running = s.state.running := by
  cases op with
  | trigger name =>
    cases hactive : s.state.isActive with
    | true =>
      rw [apply, trigger_of_isActive hactive]
      exact ⟨rfl, rfl, rfl⟩
    | false =>
      have hname : s.repertoire.contains name = false := by simpa [drops, hactive] using h
      rw [apply, trigger_of_get?_eq_none hactive (Repertoire.contains_eq_false_iff.1 hname)]
      exact ⟨rfl, rfl, rfl⟩
  | proceed =>
    rw [apply, proceed_of_not_isActive h]
    exact ⟨rfl, rfl, rfl⟩
  | confirm =>
    simp only [drops] at h
    rw [apply, confirm_eq, h]
    exact ⟨rfl, rfl, rfl⟩
  | restart =>
    have hsession : s.state.session = none := by simpa [drops, State.isActive] using h
    rw [apply, restart_of_session_eq_none hsession]
    exact ⟨rfl, rfl, rfl⟩
  | reveal ticket =>
    rw [apply, reveal_fst]
    exact ⟨rfl, rfl, rfl⟩
  | resolve ticket =>
    have hnone : s.state.finishEffect? ticket = none := State.finishEffect?_eq_none_iff.2 h
    rw [apply, resolve, hnone]
    exact ⟨rfl, rfl, rfl⟩

/-- An operation that hands an effect out has taken the running one away before. -/
lemma renewal_of_pending {p : Pending} (h : Outcome.pending? (s.apply op).2 = some p) :
    Renewal s.state.generation (s.apply op).1 (some p) := by
  cases hdrops : s.drops op with
  | true =>
    rw [← h]
    exact renewal_apply hdrops
  | false =>
    rw [(apply_of_not_drops hdrops).1] at h
    cases h

/-! ## The running effect was started last -/

/-- If an effect is running, it runs under the last number that was drawn. -/
def RunsLast (s : Stage) : Prop :=
  ∀ ticket, s.state.isCurrent ticket = true → ticket = ⟨s.state.generation⟩

/-- A ticket that has been drawn and is not current. -/
structure Expired (s : Stage) (ticket : Ticket) : Prop where
  /-- Its number has been drawn. -/
  drawn : ticket.number ≤ s.state.generation
  /-- It is not that of the running effect. -/
  stopped : s.state.isCurrent ticket = false

/-- What is current follows from what is running. -/
lemma isCurrent_congr {s s' : Stage} (h : s'.state.running = s.state.running) (ticket : Ticket) :
    s'.state.isCurrent ticket = s.state.isCurrent ticket := by
  simp [State.isCurrent, h]

namespace Renewal

/-- Numbers are only ever added. -/
lemma generation_le (h : Renewal n s pending) : n ≤ s.state.generation := by
  cases h with
  | quiet hgeneration => omega
  | started _ _ hgeneration => omega

/-- The effect that runs afterwards runs under the last number. -/
lemma runsLast (h : Renewal n s pending) : s.RunsLast := by
  intro ticket hcurrent
  cases h with
  | quiet _ hrunning => simp [State.isCurrent, hrunning] at hcurrent
  | started pending effect hgeneration hrunning hnumber hticket =>
    have heffect : effect.ticket = ticket := by simpa [State.isCurrent, hrunning] using hcurrent
    rw [← heffect, hticket, hnumber, hgeneration]

/-- The ticket that is handed out is current. -/
lemma isCurrent {p : Pending} (h : Renewal n s (some p)) : s.state.isCurrent p.ticket = true := by
  cases h with
  | started _ effect _ hrunning _ hticket => simp [State.isCurrent, hrunning, hticket]

/-- The ticket that is handed out bears the last number, which is a new one. -/
lemma number_eq {p : Pending} (h : Renewal n s (some p)) :
    p.ticket.number = n + 1 ∧ s.state.generation = n + 1 := by
  cases h with
  | started _ _ hgeneration _ hnumber => exact ⟨by rw [hnumber], hgeneration⟩

/-- Every ticket that was drawn before has expired. -/
lemma expired (h : Renewal n s pending) (hdrawn : ticket.number ≤ n) : s.Expired ticket := by
  refine ⟨Nat.le_trans hdrawn h.generation_le, ?_⟩
  cases h with
  | quiet _ hrunning => simp [State.isCurrent, hrunning]
  | started pending effect _ hrunning hnumber hticket =>
    have hne : effect.ticket ≠ ticket := by
      intro heq
      rw [← heq, hticket, hnumber] at hdrawn
      exact Nat.not_succ_le_self n hdrawn
    simpa [State.isCurrent, hrunning] using hne

end Renewal

/-- No operation takes a number back. -/
lemma generation_le_apply (s : Stage) (op : Operation) :
    s.state.generation ≤ (s.apply op).1.state.generation := by
  cases hdrops : s.drops op with
  | true => exact (renewal_apply hdrops).generation_le
  | false => exact Nat.le_of_eq (apply_of_not_drops hdrops).2.1.symm

/-- The number of a current ticket has been drawn. -/
lemma RunsLast.drawn (h : s.RunsLast) (hcurrent : s.state.isCurrent ticket = true) :
    ticket.number ≤ s.state.generation := Nat.le_of_eq (by rw [h ticket hcurrent])

/-- An operation keeps the running effect the one that was started last. -/
lemma RunsLast.apply (h : s.RunsLast) (op : Operation) : (s.apply op).1.RunsLast := by
  cases hdrops : s.drops op with
  | true => exact (renewal_apply hdrops).runsLast
  | false =>
    obtain ⟨-, hgeneration, hrunning⟩ := apply_of_not_drops hdrops
    intro ticket hcurrent
    rw [hgeneration]
    exact h ticket (by rwa [isCurrent_congr hrunning] at hcurrent)

/-- The running effect of a reachable stage is the one that was started last. -/
theorem runsLast_of_reachable {r : Repertoire} {settings : Settings}
    (h : Reachable r settings s) : s.RunsLast := by
  induction h with
  | opening ids =>
    intro ticket hcurrent
    cases hcurrent
  | step _ op ih => exact ih.apply op

/-! ## Tickets expire once and for all -/

/-- **A ticket stays current exactly until its effect is taken away.** -/
theorem isCurrent_apply (h : s.RunsLast) (hcurrent : s.state.isCurrent ticket = true)
    (op : Operation) : (s.apply op).1.state.isCurrent ticket = !s.drops op := by
  cases hdrops : s.drops op with
  | true => exact ((renewal_apply hdrops).expired (h.drawn hcurrent)).stopped
  | false =>
    obtain ⟨-, -, hrunning⟩ := apply_of_not_drops hdrops
    rw [isCurrent_congr hrunning, hcurrent]
    rfl

/-- A ticket whose effect is taken away expires. -/
lemma expired_of_drops (h : s.RunsLast) (hcurrent : s.state.isCurrent ticket = true)
    (hdrops : s.drops op = true) : (s.apply op).1.Expired ticket :=
  (renewal_apply hdrops).expired (h.drawn hcurrent)

/-- A ticket that has expired stays expired when something is done. -/
lemma Expired.apply (h : s.Expired ticket) (op : Operation) : (s.apply op).1.Expired ticket := by
  cases hdrops : s.drops op with
  | true => exact (renewal_apply hdrops).expired h.drawn
  | false =>
    obtain ⟨-, -, hrunning⟩ := apply_of_not_drops hdrops
    refine ⟨Nat.le_trans h.drawn (generation_le_apply s op), ?_⟩
    rw [isCurrent_congr hrunning, h.stopped]

/-- **A ticket that has expired stays expired**, whatever is done afterwards. -/
theorem Expired.run (h : s.Expired ticket) (ops : List Operation) : (s.run ops).Expired ticket := by
  induction ops generalizing s with
  | nil => exact h
  | cons op ops ih => exact ih (h.apply op)

/-- A ticket that is current and no longer is after a run has expired. -/
lemma expired_of_run (h : s.RunsLast) (hcurrent : s.state.isCurrent ticket = true)
    {ops : List Operation} (hstopped : (s.run ops).state.isCurrent ticket = false) :
    (s.run ops).Expired ticket := by
  induction ops generalizing s with
  | nil =>
    rw [run_nil, hcurrent] at hstopped
    cases hstopped
  | cons op ops ih =>
    cases hdrops : s.drops op with
    | true => exact (expired_of_drops h hcurrent hdrops).run ops
    | false =>
      have hnext : (s.apply op).1.state.isCurrent ticket = true := by
        rw [isCurrent_apply h hcurrent, hdrops]
        rfl
      exact ih (h.apply op) hnext hstopped

/-- A report of a character under a ticket that is not current is late and does nothing. -/
lemma reveal_of_not_isCurrent (h : s.state.isCurrent ticket = false) :
    s.reveal ticket = (s, false) := by simp [reveal, h]

/-- A report of an end under a ticket that is not current is late and does nothing. -/
lemma resolve_of_not_isCurrent (h : s.state.isCurrent ticket = false) :
    s.resolve ticket = (s, .ok none) := by
  simp [resolve, State.finishEffect?_eq_none_iff.2 h]

/-! ## How often something happens -/

/-- How often an operation of a run is of some kind, which may depend on the stage it is done on. -/
def times (kind : Stage → Operation → Bool) (s : Stage) : List Operation → ℕ
  | [] => 0
  | op :: ops => (if kind s op then 1 else 0) + times kind (s.apply op).1 ops

/-- Whether a ticket stops being current by an operation. -/
def stops (ticket : Ticket) (s : Stage) (op : Operation) : Bool :=
  s.state.isCurrent ticket && !(s.apply op).1.state.isCurrent ticket

/-- Whether an operation is the report of an end under a ticket, and the end is taken. -/
def ends (ticket : Ticket) (s : Stage) (op : Operation) : Bool :=
  op == .resolve ticket && (s.state.finishEffect? ticket).isSome

/-- What needs a current ticket does not happen once it has expired. -/
lemma Expired.times_eq_zero {kind : Stage → Operation → Bool}
    (hkind : ∀ s op, kind s op = true → s.state.isCurrent ticket = true) (h : s.Expired ticket)
    (ops : List Operation) : times kind s ops = 0 := by
  induction ops generalizing s with
  | nil => rfl
  | cons op ops ih =>
    cases hyes : kind s op with
    | true =>
      have hcurrent := hkind s op hyes
      rw [h.stopped] at hcurrent
      cases hcurrent
    | false =>
      rw [times, hyes, ih (h.apply op)]
      rfl

/-- What happens to a current ticket only when it stops being current happens once at most.

**Proof sketch.** Induction on the run. Once it has happened, the ticket has expired, and
`Expired.times_eq_zero` says that it does not happen again. -/
lemma times_le_one {kind : Stage → Operation → Bool}
    (hkind : ∀ s op, kind s op = true → s.state.isCurrent ticket = true)
    (hdrops : ∀ s op, s.RunsLast → kind s op = true → s.drops op = true) (h : s.RunsLast)
    (ops : List Operation) : times kind s ops ≤ 1 := by
  induction ops generalizing s with
  | nil => exact Nat.zero_le 1
  | cons op ops ih =>
    cases hyes : kind s op with
    | true =>
      have hexpired : (s.apply op).1.Expired ticket :=
        expired_of_drops h (hkind s op hyes) (hdrops s op h hyes)
      rw [times, hyes, hexpired.times_eq_zero hkind]
      exact Nat.le_refl 1
    | false =>
      rw [times, hyes]
      simpa using ih (h.apply op)

/-- A ticket stops being current once at most. -/
theorem times_stops_le_one (h : s.RunsLast) (ticket : Ticket) (ops : List Operation) :
    times (stops ticket) s ops ≤ 1 := by
  refine times_le_one (fun s op hstops => (Bool.and_eq_true_iff.1 hstops).1) ?_ h ops
  intro s op hlast hstops
  obtain ⟨hcurrent, hstopped⟩ := Bool.and_eq_true_iff.1 hstops
  rw [isCurrent_apply hlast hcurrent] at hstopped
  simpa using hstopped

/-- The end of an effect is taken once at most. -/
theorem times_ends_le_one (h : s.RunsLast) (ticket : Ticket) (ops : List Operation) :
    times (ends ticket) s ops ≤ 1 := by
  have hends : ∀ s op, ends ticket s op = true →
      op = .resolve ticket ∧ s.state.isCurrent ticket = true := by
    intro s op hends
    obtain ⟨hop, hsome⟩ := Bool.and_eq_true_iff.1 hends
    cases hcurrent : s.state.isCurrent ticket with
    | true => exact ⟨by simpa using hop, rfl⟩
    | false =>
      rw [State.finishEffect?_eq_none_iff.2 hcurrent] at hsome
      cases hsome
  refine times_le_one (fun s op h => (hends s op h).2) ?_ h ops
  intro s op _ hyes
  obtain ⟨rfl, hcurrent⟩ := hends s op hyes
  exact hcurrent

/-! ## The tickets of a run -/

/-- The tickets that a run hands out bear numbers that had not been drawn before. -/
lemma generation_lt_of_mem_issued {p : Pending} {ops : List Operation} (h : p ∈ s.issued ops) :
    s.state.generation < p.ticket.number := by
  induction ops generalizing s with
  | nil => cases h
  | cons op ops ih =>
    rcases List.mem_append.1 h with h | h
    · obtain ⟨hnumber, -⟩ := (renewal_of_pending (by simpa using h)).number_eq
      omega
    · exact Nat.lt_of_le_of_lt (generation_le_apply s op) (ih h)

/-- **The tickets that a run hands out increase.** -/
theorem pairwise_issued (s : Stage) (ops : List Operation) :
    (s.issued ops).Pairwise fun p q => p.ticket.number < q.ticket.number := by
  induction ops generalizing s with
  | nil => exact List.Pairwise.nil
  | cons op ops ih =>
    refine List.pairwise_append.2 ⟨?_, ih _, ?_⟩
    · cases Outcome.pending? (s.apply op).2 <;> simp
    · intro p hp q hq
      obtain ⟨hnumber, hgeneration⟩ := (renewal_of_pending (by simpa using hp)).number_eq
      have hlt := generation_lt_of_mem_issued hq
      omega

/-! ## What tickets are good for -/

/-- What the tickets of a stage are good for, whatever is done from there on. -/
structure TicketsServeOnce (s : Stage) : Prop where
  /-- The tickets that are handed out increase. -/
  increasing : ∀ ops, (s.issued ops).Pairwise fun p q => p.ticket.number < q.ticket.number
  /-- A ticket that is handed out is current. -/
  handed : ∀ op pending, Outcome.pending? (s.apply op).2 = some pending →
    (s.apply op).1.state.isCurrent pending.ticket = true
  /-- A ticket that is current stops being so exactly by the operations that take its effect
  away. -/
  stopped : ∀ ticket op, s.state.isCurrent ticket = true →
    ((s.apply op).1.state.isCurrent ticket = false ↔ s.drops op = true)
  /-- It stops once at most. -/
  once : ∀ ticket ops, times (stops ticket) s ops ≤ 1
  /-- It never becomes current again. -/
  never : ∀ ticket ops more, s.state.isCurrent ticket = true →
    (s.run ops).state.isCurrent ticket = false →
    (s.run (ops ++ more)).state.isCurrent ticket = false
  /-- Its end is taken once at most. -/
  ended : ∀ ticket ops, times (ends ticket) s ops ≤ 1
  /-- Reports under other tickets than the current one change nothing at all. -/
  late : ∀ ticket, s.state.isCurrent ticket = false →
    s.reveal ticket = (s, false) ∧ s.resolve ticket = (s, .ok none)
  /-- The end of an effect that was taken away may be reported at any time later, and changes
  nothing: the cursor does not move a second time. -/
  left : ∀ ticket op ops, s.state.isCurrent ticket = true → s.drops op = true →
    ((s.apply op).1.run ops).resolve ticket = ((s.apply op).1.run ops, .ok none)

/-- **A ticket serves once.** It is new when it is handed out, it is good for the reports of its own
effect until that is taken away, and for nothing ever after.

**Proof sketch.** The running effect of a reachable stage bears the last number
(`runsLast_of_reachable`), so a ticket whose effect is taken away lies below all that follow and has
expired for good (`Expired.run`). -/
theorem tickets_serve_once {r : Repertoire} {settings : Settings} (h : Reachable r settings s) :
    s.TicketsServeOnce := by
  have hlast : s.RunsLast := runsLast_of_reachable h
  refine ⟨pairwise_issued s, ?_, ?_, times_stops_le_one hlast, ?_, times_ends_le_one hlast, ?_, ?_⟩
  · intro op pending hpending
    exact (renewal_of_pending hpending).isCurrent
  · intro ticket op hcurrent
    simp [isCurrent_apply hlast hcurrent]
  · intro ticket ops more hcurrent hstopped
    rw [run_append]
    exact ((expired_of_run hlast hcurrent hstopped).run more).stopped
  · intro ticket hother
    exact ⟨reveal_of_not_isCurrent hother, resolve_of_not_isCurrent hother⟩
  · intro ticket op ops hcurrent hdrops
    have hexpired := (expired_of_drops hlast hcurrent hdrops).run ops
    exact resolve_of_not_isCurrent hexpired.stopped

/-- While the pause of the rehearsal runs under the first ticket, which would go on by itself. -/
theorem tickets_serve_once_rehearsing :
    Reachable (Repertoire.empty.add rehearsal) .standard (rehearsing.run [.trigger "rehearsal"]) ∧
      (rehearsing.run [.trigger "rehearsal"]).state.isCurrent ⟨1⟩ = true ∧
      (rehearsing.run [.trigger "rehearsal"]).TicketsServeOnce :=
  ⟨reachable_rehearsing _, by decide +kernel, tickets_serve_once (reachable_rehearsing _)⟩

end Stage

end Cutscene
