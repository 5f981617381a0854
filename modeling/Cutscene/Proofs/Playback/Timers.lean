import Mathlib.Data.List.Nodup
import Cutscene.Proofs.Playback.Moves

set_option relaxedAutoImplicit false
set_option autoImplicit false

/-!
# The timers of an engine

However commands, reports and timers get in each other's way, the engine waits for exactly the
effect that runs on its stage, and the one timer that has not been stopped is going to report its
end.

## Main definitions

* `Cutscene.Engine.waiting` — the reports of a ticket that wait to be handled.
* `Cutscene.Timer.Serves` — a timer that is going to report the end of an effect, or has done so.
* `Cutscene.Engine.Synced` — slot, timers, queue and stage agree.
* `Cutscene.Engine.AwaitsItsEffect` — what that comes to for whoever waits.

## Main results

* `Cutscene.Engine.Synced.make` — every move keeps the agreement.
* `Cutscene.Engine.synced_of_reachable` — so it holds of every reachable engine.
* `Cutscene.Engine.not_isCurrent_after_ticks` — an effect ends if its timer is left to itself.
* `Cutscene.Engine.awaits_its_effect` — the engine waits for the running effect, and for no other.

## Design

The reports of the running effect that are still in the queue are its characters, and behind them
its end if the timer has reported it. This is more than is needed to know that the end is not lost:
it also says in which order the reports come, and the number of characters among them is what the
progress of a line is measured by.
-/

namespace Cutscene

/-! ## A timer and its reports -/

/-- A timer that serves an effect: it has not been told to stop, and what it has reported and nobody
has handled yet are characters, and the end of the effect behind them if it is done. -/
structure Timer.Serves (t : Timer) (ticket : Ticket) (waiting : List Report) : Prop where
  /-- It is the timer of the effect. -/
  ticket_eq : t.ticket = ticket
  /-- It has not been told to stop. -/
  going : t.cancelled = false
  /-- If it is done, it has reported all characters. -/
  spent : t.finished = true → t.reveals = 0
  /-- Its reports wait in the order in which they were made. -/
  reports : ∃ n, waiting =
    List.replicate n (.reveal ticket) ++ (if t.finished then [.resolved ticket] else [])

namespace Timer

variable {t : Timer} {ticket : Ticket} {report : Report} {waiting : List Report}

/-- A timer is started under the ticket of its effect. -/
@[simp] lemma ticket_start (now : ℕ) (interval : Duration) (pending : Pending) :
    (start now interval pending).ticket = pending.ticket := rfl

/-- A timer that has been started serves its effect. -/
lemma serves_start (now : ℕ) (interval : Duration) (pending : Pending) :
    (start now interval pending).Serves pending.ticket [] :=
  ⟨rfl, rfl, fun h => absurd h Bool.false_ne_true, 0, rfl⟩

/-- A timer serves its effect also behind a report of a character. -/
lemma Serves.tail (h : t.Serves ticket (report :: waiting)) (hreport : report ≠ .resolved ticket) :
    report = .reveal ticket ∧ t.Serves ticket waiting := by
  obtain ⟨hticket, hgoing, hspent, n, hn⟩ := h
  cases n with
  | zero =>
    split at hn
    · cases hn
      exact absurd rfl hreport
    · cases hn
  | succ n =>
    obtain ⟨rfl, rfl⟩ := List.cons.inj hn
    exact ⟨rfl, hticket, hgoing, hspent, n, rfl⟩

/-- A timer whose effect is about to be reported over has nothing left to do. -/
lemma Serves.of_resolved (h : t.Serves ticket (.resolved ticket :: waiting)) :
    t.finished = true ∧ t.reveals = 0 ∧ waiting = [] := by
  obtain ⟨-, -, hspent, n, hn⟩ := h
  cases n with
  | zero =>
    cases hfinished : t.finished with
    | true =>
      simp only [hfinished, if_true, List.replicate_zero, List.nil_append] at hn
      exact ⟨rfl, hspent hfinished, (List.cons.inj hn).2⟩
    | false => simp [hfinished] at hn
  | succ n => cases (List.cons.inj hn).1

/-- A timer that makes its next report goes on serving its effect. -/
lemma Serves.tick (h : t.Serves ticket waiting) (hfinished : t.finished = false) :
    t.tick.1.Serves ticket (waiting ++ [t.tick.2]) := by
  obtain ⟨rfl, hgoing, -, n, hn⟩ := h
  simp only [hfinished, Bool.false_eq_true, if_false, List.append_nil] at hn
  have hfixed := t.tick_fixed
  by_cases hreveals : t.reveals = 0
  · rw [Timer.tick_of_zero hreveals]
    exact ⟨rfl, hgoing, fun _ => hreveals, n, by rw [hn]; rfl⟩
  · obtain ⟨-, hstill, hreport⟩ := Timer.tick_of_pos hreveals
    refine ⟨hfixed.1, hfixed.2.1.trans hgoing, fun hdone => ?_, n + 1, ?_⟩
    · rw [hstill, hfinished] at hdone
      cases hdone
    · rw [hstill, hfinished, hreport, hn, List.replicate_succ']
      simp

end Timer

namespace Engine

/-! ## The agreement -/

/-- The reports of a ticket that wait to be handled. -/
def waiting (e : Engine) (ticket : Ticket) : List Report :=
  e.queue.filter (·.ticket == ticket)

/-- Slot, timers, queue and stage agree. -/
structure Synced (e : Engine) : Prop where
  /-- The slot holds the ticket of the running effect. -/
  slot : e.SlotAgrees
  /-- The running effect is the one that was started last. -/
  last : e.stage.RunsLast
  /-- No two timers serve the same effect. -/
  distinct : (e.timers.map Timer.ticket).Nodup
  /-- There are only timers of effects that have been started. -/
  drawn : ∀ t ∈ e.timers, t.ticket.number ≤ e.stage.state.generation
  /-- There are only reports of effects that have been started. -/
  sent : ∀ report ∈ e.queue, report.ticket.number ≤ e.stage.state.generation
  /-- The running effect is served by a timer. -/
  served : ∀ ticket, e.stage.state.isCurrent ticket = true →
    ∃ t ∈ e.timers, t.Serves ticket (e.waiting ticket)
  /-- All other timers are done or have been told to stop. -/
  others : ∀ t ∈ e.timers, e.stage.state.isCurrent t.ticket = false →
    t.finished = true ∨ t.cancelled = true

variable {e : Engine} {ticket : Ticket} {op : Operation}

/-- The ticket in the slot is exactly the current one. -/
lemma Synced.slot_eq_some_iff (h : e.Synced) :
    e.slot = some ticket ↔ e.stage.state.isCurrent ticket = true := by
  rw [h.slot]
  simp [State.isCurrent, Option.any_eq_true]

/-- Two timers of one ticket are one. -/
lemma Synced.timer_ext (h : e.Synced) {t u : Timer} (ht : t ∈ e.timers) (hu : u ∈ e.timers)
    (hticket : t.ticket = u.ticket) : t = u :=
  List.inj_on_of_nodup_map h.distinct ht hu hticket

/-! ## Messages -/

section Messages

variable {e' : Engine} {now : ℕ} {popped : Option Report} {queue : List Report}

/-- A message that leaves the running effect alone keeps the agreement. If it is a report, it is
gone from the queue.

**Proof sketch.** Nothing changes but the queue, and a report that is taken from it is not the end
of the running effect, since handling that would take the effect away. -/
lemma Synced.handled_of_not_drops (h : e.Synced) (hqueue : e.queue = popped.toList ++ queue)
    (hhandled : ({ e with queue } : Engine).Handled op now e')
    (hop : ∀ report ∈ popped, op = report.operation) (hdrops : e.stage.drops op = false) :
    e'.Synced := by
  obtain ⟨-, hgeneration, hrunning⟩ := Stage.apply_of_not_drops hdrops
  have hcurrent := Stage.isCurrent_congr hrunning
  obtain ⟨hstage, hslot, htimers, hqueue'⟩ := hhandled
  simp only [hdrops, Bool.false_eq_true, if_false] at hstage hslot htimers hqueue'
  refine ⟨?_, ?_, ?_, ?_, ?_, ?_, ?_⟩
  · rw [SlotAgrees, hslot, hstage, hrunning]
    exact h.slot
  · rw [hstage]
    exact h.last.apply op
  · rw [htimers]
    exact h.distinct
  · rw [htimers, hstage, hgeneration]
    exact h.drawn
  · intro report hreport
    rw [hqueue'] at hreport
    rw [hstage, hgeneration]
    exact h.sent report (by rw [hqueue]; exact List.mem_append_right _ hreport)
  · intro ticket hticket
    rw [hstage, hcurrent] at hticket
    obtain ⟨t, ht, hserves⟩ := h.served ticket hticket
    refine ⟨t, by rwa [htimers], ?_⟩
    cases popped with
    | none => simpa [waiting, hqueue, hqueue'] using hserves
    | some report =>
      by_cases hmine : report.ticket = ticket
      · have hne : report ≠ .resolved ticket := by
          rintro rfl
          rw [hop _ rfl] at hdrops
          simp [Stage.drops, Report.operation, hticket] at hdrops
        rw [waiting, hqueue']
        exact (Timer.Serves.tail (by simpa [waiting, hqueue, hmine] using hserves) hne).2
      · simpa [waiting, hqueue, hqueue', hmine] using hserves
  · intro t ht hother
    rw [hstage, hcurrent] at hother
    exact h.others t (by rwa [htimers] at ht) hother

/-- A timer of which the slot has been emptied is done or has been told to stop. -/
lemma Synced.halted_stopped (h : e.Synced) {t : Timer} (ht : t ∈ e.timers) :
    (e.halted t).finished = true ∨ (e.halted t).cancelled = true := by
  unfold halted
  split
  next => exact Or.inr rfl
  next hne =>
    exact h.others t ht (Bool.eq_false_iff.2 fun hcurrent => hne (h.slot_eq_some_iff.2 hcurrent))

/-- A message that takes the running effect away keeps the agreement.

**Proof sketch.** Of the timers that were there, only the one in the slot could be live, and it is
stopped. If an effect has been started, it has drawn a new number, so its timer is the only one of
its ticket, and no report of it waits yet. -/
lemma Synced.handled_of_drops (h : e.Synced) (hqueue : e.queue = popped.toList ++ queue)
    (hhandled : ({ e with queue } : Engine).Handled op now e')
    (hdrops : e.stage.drops op = true) : e'.Synced := by
  have hsent : ∀ report ∈ queue, report.ticket.number ≤ e.stage.state.generation :=
    fun report hreport => h.sent report (by rw [hqueue]; exact List.mem_append_right _ hreport)
  have hrenewal := Stage.renewal_apply hdrops
  have hle := hrenewal.generation_le
  have hlast := hrenewal.runsLast
  have hhalted : ({ e with queue } : Engine).halted = e.halted := rfl
  have htickets : (e.timers.map e.halted).map Timer.ticket = e.timers.map Timer.ticket := by
    rw [List.map_map]
    exact List.map_congr_left fun t _ => (halted_fixed e t).1
  obtain ⟨hstage, hslot, htimers, hqueue'⟩ := hhandled
  simp only [hdrops, if_true, hhalted] at hstage hslot htimers hqueue'
  rw [← hstage] at hrenewal hle hlast
  generalize Outcome.pending? (e.stage.apply op).2 = pending at hrenewal hslot htimers
  cases hrenewal with
  | quiet hgeneration hrunning =>
    simp only [Option.toList_none, List.map_nil, List.nil_append] at htimers
    refine ⟨?_, hlast, ?_, ?_, ?_, ?_, ?_⟩
    · simp [SlotAgrees, hrunning, hslot]
    · rw [htimers, htickets]
      exact h.distinct
    · simpa [htimers, hgeneration] using h.drawn
    · simpa [hqueue', hgeneration] using hsent
    · simp [State.isCurrent, hrunning]
    · simpa [htimers] using fun t ht _ => h.halted_stopped ht
  | started pending effect hgeneration hrunning hnumber hticket =>
    have hnew : ∀ ticket : Ticket, ticket.number ≤ e.stage.state.generation →
        ticket ≠ pending.ticket := by
      rintro ticket hdrawn rfl
      rw [hnumber] at hdrawn
      exact absurd hdrawn (Nat.not_succ_le_self _)
    have hcurrent : ∀ ticket,
        e'.stage.state.isCurrent ticket = true ↔ ticket = pending.ticket := by
      intro ticket
      rw [State.isCurrent, hrunning, Option.any_some, beq_iff_eq, hticket, eq_comm]
    simp only [Option.toList_some, List.map_cons, List.map_nil, List.singleton_append] at htimers
    refine ⟨?_, hlast, ?_, ?_, ?_, ?_, ?_⟩
    · rw [SlotAgrees, hslot, hrunning, Option.map_some, Option.map_some, hticket]
    · have hfresh : pending.ticket ∉ e.timers.map Timer.ticket := by
        intro hmem
        obtain ⟨t, ht, heq⟩ := List.mem_map.1 hmem
        exact hnew t.ticket (h.drawn t ht) heq
      rw [htimers, List.map_cons, htickets]
      exact List.nodup_cons.2 ⟨hfresh, h.distinct⟩
    · intro t ht
      rw [htimers] at ht
      rcases List.mem_cons.1 ht with rfl | ht
      · exact Nat.le_of_eq (by rw [Timer.ticket_start, hnumber, hgeneration])
      · obtain ⟨t, hmem, rfl⟩ := List.mem_map.1 ht
        rw [(halted_fixed e t).1]
        exact Nat.le_trans (h.drawn t hmem) hle
    · intro report hreport
      exact Nat.le_trans (hsent report (hqueue' ▸ hreport)) hle
    · intro ticket hticket
      obtain rfl := (hcurrent ticket).1 hticket
      have hnone : queue.filter (·.ticket == pending.ticket) = [] := by
        refine List.filter_eq_nil_iff.2 fun report hreport => ?_
        simpa using hnew report.ticket (hsent report hreport)
      refine ⟨_, by rw [htimers]; exact List.mem_cons_self, ?_⟩
      rw [waiting, hqueue', hnone]
      exact Timer.serves_start ..
    · intro t ht hother
      rw [htimers] at ht
      rcases List.mem_cons.1 ht with rfl | ht
      · rw [Timer.ticket_start, (hcurrent _).2 rfl] at hother
        cases hother
      · obtain ⟨t, hmem, rfl⟩ := List.mem_map.1 ht
        exact h.halted_stopped hmem

/-- **A message keeps the agreement.** If it is a report, it is gone from the queue. -/
theorem Synced.handled (h : e.Synced) (hqueue : e.queue = popped.toList ++ queue)
    (hhandled : ({ e with queue } : Engine).Handled op now e')
    (hop : ∀ report ∈ popped, op = report.operation) : e'.Synced := by
  cases hdrops : e.stage.drops op with
  | true => exact h.handled_of_drops hqueue hhandled hdrops
  | false => exact h.handled_of_not_drops hqueue hhandled hop hdrops

end Messages

/-! ## Timers -/

/-- A timer that has reports to make makes the next one. -/
lemma Synced.tick_eq (h : e.Synced) {t : Timer} (ht : t ∈ e.timers)
    (hfinished : t.finished = false) :
    e.tick t.ticket =
      { e with
        timers := e.timers.map fun u => if u.ticket = t.ticket then u.tick.1 else u
        queue := e.queue ++ [t.tick.2] } := by
  have hfind : e.timers.find? (fun u => u.ticket == t.ticket && !u.finished) = some t := by
    cases hfound : e.timers.find? (fun u => u.ticket == t.ticket && !u.finished) with
    | none => simpa [hfinished] using List.find?_eq_none.1 hfound t ht
    | some u =>
      have hu : u.ticket = t.ticket ∧ u.finished = false := by simpa using List.find?_some hfound
      rw [h.timer_ext (List.mem_of_find?_eq_some hfound) ht hu.1]
  simp only [tick, hfind, Engine.mk.injEq, true_and, and_true]
  refine List.map_congr_left fun u hu => ?_
  by_cases hticket : u.ticket = t.ticket
  · rw [if_pos hticket, if_pos hticket, h.timer_ext hu ht hticket]
  · rw [if_neg hticket, if_neg hticket]

/-- Nobody reports under a ticket whose timer is done, or that has no timer. -/
lemma tick_of_finished (h : ∀ t ∈ e.timers, t.ticket = ticket → t.finished = true) :
    e.tick ticket = e := by
  have hfind : e.timers.find? (fun t => t.ticket == ticket && !t.finished) = none := by
    refine List.find?_eq_none.2 fun t ht => ?_
    by_cases hticket : t.ticket = ticket
    · simp [h t ht hticket]
    · simp [hticket]
  simp only [tick, hfind]

/-- A timer that makes its next report keeps the agreement. -/
lemma Synced.tick (h : e.Synced) (ticket : Ticket) : (e.tick ticket).Synced := by
  by_cases hlive : ∃ t ∈ e.timers, t.ticket = ticket ∧ t.finished = false
  · obtain ⟨t, ht, rfl, hfinished⟩ := hlive
    rw [h.tick_eq ht hfinished]
    have hmap : (e.timers.map fun u => if u.ticket = t.ticket then u.tick.1 else u).map
        Timer.ticket = e.timers.map Timer.ticket := by
      rw [List.map_map]
      refine List.map_congr_left fun u _ => ?_
      by_cases hu : u.ticket = t.ticket <;> simp [hu]
    refine ⟨h.slot, h.last, by rw [hmap]; exact h.distinct, ?_, ?_, ?_, ?_⟩
    · intro u hu
      obtain ⟨u, hmem, rfl⟩ := List.mem_map.1 hu
      by_cases hticket : u.ticket = t.ticket <;> simpa [hticket] using h.drawn u hmem
    · intro report hreport
      rcases List.mem_append.1 hreport with hreport | hreport
      · exact h.sent report hreport
      · obtain rfl := List.mem_singleton.1 hreport
        simpa using h.drawn t ht
    · intro ticket hcurrent
      obtain ⟨u, hu, hserves⟩ := h.served ticket hcurrent
      refine ⟨_, List.mem_map_of_mem hu, ?_⟩
      by_cases hticket : u.ticket = t.ticket
      · obtain rfl := h.timer_ext hu ht hticket
        have hmine : u.ticket = ticket := hserves.ticket_eq
        simpa [waiting, hmine] using hserves.tick hfinished
      · have hother : t.ticket ≠ ticket := fun heq => hticket (hserves.ticket_eq.trans heq.symm)
        simpa [waiting, hticket, hother] using hserves
    · intro u hu hother
      obtain ⟨u, hmem, rfl⟩ := List.mem_map.1 hu
      by_cases hticket : u.ticket = t.ticket
      · obtain rfl := h.timer_ext hmem ht hticket
        simp only [if_true, u.tick_fixed] at hother ⊢
        have hstopped := h.others u ht hother
        simp only [hfinished, Bool.false_eq_true, false_or] at hstopped
        exact Or.inr hstopped
      · simp only [hticket, if_false] at hother ⊢
        exact h.others u hmem hother
  · rw [tick_of_finished]
    · exact h
    · intro t ht hticket
      by_contra hfinished
      exact hlive ⟨t, ht, hticket, by simpa using hfinished⟩

/-- A timer that gives up keeps the agreement. -/
lemma Synced.quit (h : e.Synced) (ticket : Ticket) : (e.quit ticket).Synced := by
  have hmap : (e.quit ticket).timers.map Timer.ticket = e.timers.map Timer.ticket := by
    simp only [Engine.quit, List.map_map]
    refine List.map_congr_left fun t _ => ?_
    simp only [Function.comp_apply]
    split <;> rfl
  refine ⟨h.slot, h.last, by rw [hmap]; exact h.distinct, ?_, h.sent, ?_, ?_⟩
  · intro t ht
    obtain ⟨t, hmem, rfl⟩ := List.mem_map.1 ht
    have hdrawn := h.drawn t hmem
    split <;> exact hdrawn
  · intro other hcurrent
    obtain ⟨t, ht, hserves⟩ := h.served other hcurrent
    refine ⟨t, List.mem_map.2 ⟨t, ht, ?_⟩, hserves⟩
    simp [hserves.going]
  · intro t ht hother
    obtain ⟨t, hmem, rfl⟩ := List.mem_map.1 ht
    by_cases hquits : t.ticket = ticket ∧ t.cancelled = true
    · simp [hquits]
    · rw [if_neg hquits] at hother ⊢
      exact h.others t hmem hother

/-! ## All moves -/

/-- **Every move keeps the agreement.** -/
theorem Synced.make (h : e.Synced) (m : Move) : (e.make m).Synced := by
  cases m with
  | command now c =>
    have hqueue : e.queue = (none : Option Report).toList ++ e.queue := rfl
    refine h.handled hqueue (handled_command h.slot h.last now c) ?_
    exact fun _ hreport => absurd hreport (Option.not_mem_none _)
  | deliver now =>
    cases hqueue : e.queue with
    | nil =>
      rw [Engine.make, deliver_of_nil hqueue]
      exact h
    | cons report queue =>
      have hpopped : e.queue = (some report).toList ++ queue := hqueue
      refine h.handled hpopped (handled_deliver h.slot h.last hqueue now) ?_
      rintro _ ⟨⟩
      rfl
  | tick ticket => exact h.tick ticket
  | quit ticket => exact h.quit ticket

/-- Runs keep the agreement. -/
lemma Synced.run (h : e.Synced) (moves : List Move) : (e.run moves).Synced := by
  induction moves generalizing e with
  | nil => exact h
  | cons m moves ih => exact ih (h.make m)

variable {r : Repertoire} {settings : Settings}

/-- **Slot, timers, queue and stage of a reachable engine agree.** -/
theorem synced_of_reachable (h : Reachable r settings e) : e.Synced := by
  induction h with
  | opening ids =>
    refine ⟨rfl, Stage.runsLast_of_reachable (.opening ids), List.nodup_nil, ?_, ?_, ?_, ?_⟩
    · intro t ht
      cases ht
    · intro report hreport
      cases hreport
    · intro ticket hcurrent
      cases hcurrent
    · intro t ht
      cases ht
  | make _ m ih => exact ih.make m

/-! ## No end is lost -/

/-- The end of an effect that a timer serves and has reported is in the queue. -/
lemma mem_queue_of_finished {t : Timer} (h : t.Serves ticket (e.waiting ticket))
    (hfinished : t.finished = true) : .resolved ticket ∈ e.queue := by
  obtain ⟨-, -, -, n, hn⟩ := h
  have hmem : Report.resolved ticket ∈ e.waiting ticket := by simp [hn, hfinished]
  exact List.mem_of_mem_filter hmem

/-- A timer that is left to itself reports the end of its effect.

**Proof sketch.** Induction on the characters that it has left to report. -/
lemma Synced.mem_queue_after_ticks (h : e.Synced) {t : Timer} (ht : t ∈ e.timers)
    (hserves : t.Serves ticket (e.waiting ticket)) :
    ∃ n, .resolved ticket ∈ (e.run (List.replicate n (.tick ticket))).queue ∧
      (e.run (List.replicate n (.tick ticket))).stage = e.stage := by
  cases hfinished : t.finished with
  | true => exact ⟨0, mem_queue_of_finished hserves hfinished, rfl⟩
  | false =>
    have hticket := hserves.ticket_eq
    have htick := h.tick_eq ht hfinished
    rw [hticket] at htick
    induction hreveals : t.reveals generalizing e t with
    | zero =>
      refine ⟨1, ?_, stage_tick e ticket⟩
      simp [Engine.make, htick, Timer.tick_of_zero hreveals, hticket]
    | succ n ih =>
      have hpos : t.reveals ≠ 0 := by omega
      obtain ⟨hleft, hstill, -⟩ := Timer.tick_of_pos hpos
      have hserves' : t.tick.1.Serves ticket ((e.tick ticket).waiting ticket) := by
        have htail := hserves.tick hfinished
        simpa [waiting, htick, hticket] using htail
      have ht' : t.tick.1 ∈ (e.tick ticket).timers := by
        rw [htick]
        exact List.mem_map.2 ⟨t, ht, by simp [hticket]⟩
      have hsynced := h.tick ticket
      have hfinished' : t.tick.1.finished = false := hstill.trans hfinished
      have htick' := hsynced.tick_eq ht' hfinished'
      rw [t.tick_fixed.1, hticket] at htick'
      obtain ⟨k, hmem, hstage⟩ :=
        ih hsynced ht' hserves' hfinished' hserves'.ticket_eq htick' (by omega)
      exact ⟨k + 1, hmem, hstage.trans (stage_tick e ticket)⟩

/-- An effect of which the end has been reported is over once the reports have been handled.

**Proof sketch.** Induction on the queue: the end of the effect takes it away, and whatever is
handled before leaves the rest of the queue as it is. -/
lemma Synced.not_isCurrent_after_delivery (h : e.Synced) (hmem : .resolved ticket ∈ e.queue)
    (now : ℕ) :
    ∃ n, (e.run (List.replicate n (.deliver now))).stage.state.isCurrent ticket = false := by
  generalize hqueue : e.queue = queue at hmem
  induction queue generalizing e with
  | nil => cases hmem
  | cons report queue ih =>
    cases hcurrent : e.stage.state.isCurrent ticket with
    | false => exact ⟨0, hcurrent⟩
    | true =>
      have hhandled := handled_deliver h.slot h.last hqueue now
      by_cases hend : report = .resolved ticket
      · refine ⟨1, ?_⟩
        have hstage : (e.run [.deliver now]).stage = (e.stage.apply (.resolve ticket)).1 := by
          rw [hend] at hhandled
          exact hhandled.stage
        rw [List.replicate_one, hstage, Stage.isCurrent_apply h.last hcurrent]
        simp [Stage.drops, hcurrent]
      · have hmem' : .resolved ticket ∈ queue := by
          rcases List.mem_cons.1 hmem with heq | hmem
          · exact absurd heq.symm hend
          · exact hmem
        obtain ⟨n, hn⟩ := ih (h.make (.deliver now)) hhandled.queue hmem'
        exact ⟨n + 1, hn⟩

/-- **An effect ends if its timer is left to itself** and its reports are handled. -/
theorem not_isCurrent_after_ticks (h : e.Synced)
    (hcurrent : e.stage.state.isCurrent ticket = true) (now : ℕ) :
    ∃ ticks reports, (e.run (List.replicate ticks (.tick ticket) ++
      List.replicate reports (.deliver now))).stage.state.isCurrent ticket = false := by
  obtain ⟨t, ht, hserves⟩ := h.served ticket hcurrent
  obtain ⟨ticks, hmem, -⟩ := h.mem_queue_after_ticks ht hserves
  obtain ⟨reports, hover⟩ := (h.run _).not_isCurrent_after_delivery hmem now
  exact ⟨ticks, reports, by rw [run_append]; exact hover⟩

/-! ## What the engine waits for -/

/-- What an engine waits for: the effect that runs on its stage, and nothing else. -/
structure AwaitsItsEffect (e : Engine) : Prop where
  /-- The slot holds a ticket exactly while the effect of that ticket is running, and is empty while
  none is. -/
  slot : ∀ ticket, e.slot = some ticket ↔ e.stage.state.isCurrent ticket = true
  /-- The running effect has a timer that has not been told to stop, and it is still going to report
  or has reported the end, which waits in the queue. -/
  awaited : ∀ ticket, e.stage.state.isCurrent ticket = true →
    ∃ t ∈ e.timers, t.ticket = ticket ∧ t.cancelled = false ∧
      (t.finished = false ∨ .resolved ticket ∈ e.queue)
  /-- Every timer of another effect is done or has been told to stop. -/
  others : ∀ t ∈ e.timers, e.stage.state.isCurrent t.ticket = false →
    t.finished = true ∨ t.cancelled = true
  /-- An effect has one timer at most. -/
  distinct : (e.timers.map Timer.ticket).Nodup
  /-- No two timers are live. -/
  single : ∀ t ∈ e.timers, ∀ u ∈ e.timers, t.isLive = true → u.isLive = true → t = u
  /-- The running effect comes to its end if its timer reports and the reports are handled, with
  nothing else in between. -/
  ends : ∀ ticket, e.stage.state.isCurrent ticket = true → ∀ now, ∃ ticks reports,
    (e.run (List.replicate ticks (.tick ticket) ++
      List.replicate reports (.deliver now))).stage.state.isCurrent ticket = false

/-- A live timer is that of the running effect. -/
lemma Synced.isCurrent_of_isLive (h : e.Synced) {t : Timer} (ht : t ∈ e.timers)
    (hlive : t.isLive = true) : e.stage.state.isCurrent t.ticket = true := by
  by_contra hother
  have hstopped := h.others t ht (by simpa using hother)
  simp only [Timer.isLive, Bool.and_eq_true, Bool.not_eq_true'] at hlive
  simp [hlive.1, hlive.2] at hstopped

/-- **The engine waits for the running effect, and for no other**, however commands, reports and
timers are interleaved. It never waits for an effect that nobody is going to end, and never leaves a
second timer live.

**Proof sketch.** The agreement of slot, timers, queue and stage is kept by every move
(`synced_of_reachable`). A live timer is that of the running effect, and an effect has one timer. -/
theorem awaits_its_effect (h : Reachable r settings e) : e.AwaitsItsEffect := by
  have hsynced : e.Synced := synced_of_reachable h
  refine ⟨fun _ => hsynced.slot_eq_some_iff, ?_, hsynced.others, hsynced.distinct, ?_,
    fun _ hcurrent now => not_isCurrent_after_ticks hsynced hcurrent now⟩
  · intro ticket hcurrent
    obtain ⟨t, ht, hserves⟩ := hsynced.served ticket hcurrent
    refine ⟨t, ht, hserves.ticket_eq, hserves.going, ?_⟩
    cases hfinished : t.finished with
    | false => exact Or.inl rfl
    | true => exact Or.inr (mem_queue_of_finished hserves hfinished)
  · intro t ht u hu htlive hulive
    have htcurrent := hsynced.isCurrent_of_isLive ht htlive
    have hucurrent := hsynced.isCurrent_of_isLive hu hulive
    refine hsynced.timer_ext ht hu ?_
    rw [hsynced.last _ htcurrent, hsynced.last _ hucurrent]

/-- The line of the rehearsal was being typed when the scene was started over: its timer has been
told to stop, and one of its reports comes late. -/
theorem awaits_its_effect_rehearsing :
    let e := (opening (Repertoire.empty.add rehearsal) .standard (.ofSeed 0)).run
      [.command 0 (.trigger "rehearsal"), .command 0 .proceed, .tick ⟨2⟩, .command 1 .restart,
        .deliver 1]
    Reachable (Repertoire.empty.add rehearsal) .standard e ∧
      e.stage.state.isCurrent ⟨3⟩ = true ∧ e.timers.length = 3 ∧ e.AwaitsItsEffect := by
  have hopening : Reachable (Repertoire.empty.add rehearsal) .standard
      (opening (Repertoire.empty.add rehearsal) .standard (.ofSeed 0)) := .opening _
  have hreachable := hopening.run [.command 0 (.trigger "rehearsal"), .command 0 .proceed,
    .tick ⟨2⟩, .command 1 .restart, .deliver 1]
  exact ⟨hreachable, by decide +kernel, by decide +kernel, awaits_its_effect hreachable⟩

end Engine

end Cutscene
