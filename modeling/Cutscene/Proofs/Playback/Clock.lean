import Cutscene.Playback.Performance
import Cutscene.Proofs.Playback.Timers

set_option relaxedAutoImplicit false
set_option autoImplicit false

/-!
# Engines on a clock

A performance lets its timers report when they are due. As long as it has not been shut down, its
engine is one of those that moves lead to, so what holds of every interleaving of moves holds of
what a performance does.

## Main definitions

* `Cutscene.Engine.report` — a timer changed, and reports made.
* `Cutscene.Performance.Reachable` — the performances that come about over a repertoire.

## Main results

* `Cutscene.Engine.fire_eq_run` — what a timer reports at once, as single reports.
* `Cutscene.Performance.Reachable.engine` — the engine of a performance is reachable.
-/

namespace Cutscene

namespace Engine

variable {r : Repertoire} {settings : Settings} {e : Engine}

/-- Changes the timer of a ticket, and makes reports. -/
def report (e : Engine) (ticket : Ticket) (t : Timer) (reports : List Report) : Engine :=
  { e with
    timers := e.timers.map fun u => if u.ticket = ticket then t else u
    queue := e.queue ++ reports }

/-- Of two changes of a timer the later counts, and the reports of both are made. -/
lemma report_report {t u : Timer} {ticket : Ticket} (ht : t.ticket = ticket)
    (first second : List Report) :
    (e.report ticket t first).report ticket u second = e.report ticket u (first ++ second) := by
  simp only [report, List.map_map, List.append_assoc, Engine.mk.injEq, true_and, and_true]
  refine List.map_congr_left fun v _ => ?_
  by_cases hv : v.ticket = ticket <;> simp [hv, ht]

/-- The single report of a timer. -/
lemma tick_eq_report (h : e.Synced) {t : Timer} (ht : t ∈ e.timers)
    (hfinished : t.finished = false) :
    e.tick t.ticket = e.report t.ticket t.tick.1 [t.tick.2] := by
  rw [h.tick_eq ht hfinished, report]
  congr 1
  refine List.map_congr_left fun u hu => ?_
  by_cases hticket : u.ticket = t.ticket
  · rw [h.timer_ext hu ht hticket]
  · rw [if_neg hticket, if_neg hticket]

/-- What a timer reports at once. -/
lemma fire_eq_report (h : e.Synced) {t : Timer} (ht : t ∈ e.timers) :
    e.fire t.ticket = e.report t.ticket t.fire.1 t.fire.2 := by
  have hfind : e.timers.find? (·.ticket == t.ticket) = some t := by
    cases hfound : e.timers.find? (·.ticket == t.ticket) with
    | none => simpa using List.find?_eq_none.1 hfound t ht
    | some u =>
      have hticket : u.ticket = t.ticket := by simpa using List.find?_some hfound
      rw [h.timer_ext (List.mem_of_find?_eq_some hfound) ht hticket]
  simp only [fire, hfind, report]

/-- **What a timer reports at once** is one thing, or the last character and the end of the effect,
one after the other. -/
theorem fire_eq_run (h : e.Synced) {t : Timer} (ht : t ∈ e.timers)
    (hfinished : t.finished = false) :
    e.fire t.ticket =
      e.run (List.replicate (if t.reveals = 1 then 2 else 1) (.tick t.ticket)) := by
  have htick := tick_eq_report h ht hfinished
  rw [fire_eq_report h ht]
  obtain ⟨ticket, reveals, interval, due, cancelled, finished⟩ := t
  simp only at hfinished htick
  subst hfinished
  match reveals with
  | 0 => exact htick.symm
  | 1 =>
    have hmem : (⟨ticket, 0, interval, due, cancelled, false⟩ : Timer) ∈
        (e.tick ticket).timers := by
      rw [htick]
      exact List.mem_map.2 ⟨_, ht, if_pos rfl⟩
    have hsecond := tick_eq_report (h.tick ticket) hmem rfl
    simp only at hsecond
    rw [if_pos rfl, List.replicate_succ, List.replicate_one, run_cons, run_cons, run_nil, make,
      make, hsecond, htick, report_report]
    · rfl
    · rfl
  | count + 2 => exact htick.symm

end Engine

namespace Performance

variable {r : Repertoire} {settings : Settings} {p : Performance}

/-- The performances that come about when the scenes of a repertoire are played. -/
inductive Reachable (r : Repertoire) (settings : Settings) : Performance → Prop
  /-- Nothing is played and nothing has been. -/
  | opening (ids : Random.Source) : Reachable r settings (.ofStage ⟨r, settings, ids, .idle⟩)
  /-- A command is sent. -/
  | send {p : Performance} (h : Reachable r settings p) (c : Command) :
    Reachable r settings (p.send c).1
  /-- Time passes. -/
  | wait {p : Performance} (h : Reachable r settings p) (nanos : ℕ) :
    Reachable r settings (p.wait nanos)
  /-- The engine is stopped. -/
  | shutdown {p : Performance} (h : Reachable r settings p) : Reachable r settings p.shutdown

/-- The engine of a performance is reachable, or the performance has been shut down. -/
def Plays (r : Repertoire) (settings : Settings) (p : Performance) : Prop :=
  p.running = true → Engine.Reachable r settings p.engine

/-- Going on with a reachable engine, or shutting down. -/
lemma plays_take {result : Engine × Except PlayError Unit}
    (h : Engine.Reachable r settings result.1) : (p.take result).1.Plays r settings := by
  obtain ⟨engine, result⟩ := result
  unfold take
  split
  · exact fun hrunning => absurd hrunning Bool.false_ne_true
  next hresult =>
    cases hresult
    exact fun _ => h

/-- Commands are handled by a reachable engine. -/
lemma Plays.send (h : p.Plays r settings) (c : Command) : (p.send c).1.Plays r settings := by
  unfold Performance.send
  split
  next hrunning => exact plays_take ((h hrunning).make (.command p.now c))
  next => exact h

/-- Reports are handled by a reachable engine. -/
lemma Plays.deliverMany (h : p.Plays r settings) (count : ℕ) :
    (p.deliverMany count).Plays r settings := by
  induction count generalizing p with
  | zero => exact h
  | succ count ih =>
    unfold Performance.deliverMany
    split
    next hrunning => exact ih (plays_take ((h hrunning).make (.deliver p.now)))
    next => exact h

/-- A timer that is due makes its reports. -/
lemma Plays.fire (h : p.Plays r settings) (hrunning : p.running = true) {t : Timer} {limit : ℕ}
    (hdue : p.engine.dueTimer? limit = some t) : (p.fire t).Plays r settings := by
  have hengine := h hrunning
  have hfinished : t.finished = false := by
    have hfound := List.find?_some hdue
    simp only [Timer.isLive, Bool.and_eq_true, Bool.not_eq_true'] at hfound
    exact hfound.1.2
  have hmem : t ∈ p.engine.timers := List.mem_of_find?_eq_some hdue
  have hfire : Engine.Reachable r settings (p.engine.fire t.ticket) := by
    rw [Engine.fire_eq_run (Engine.synced_of_reachable hengine) hmem hfinished]
    exact hengine.run _
  refine Plays.deliverMany ?_ _
  exact fun _ => hfire

/-- Timers that are due make their reports. -/
lemma Plays.runUntil (h : p.Plays r settings) (limit fuel : ℕ) :
    (p.runUntil limit fuel).Plays r settings := by
  induction fuel generalizing p with
  | zero => exact h
  | succ fuel ih =>
    unfold Performance.runUntil
    split
    next hrunning =>
      split
      next t hdue => exact ih (h.fire hrunning hdue)
      next => exact h
    next => exact h

/-- **The engine of a performance that has not been shut down is reachable.** -/
theorem Reachable.engine (h : p.Reachable r settings) (hrunning : p.running = true) :
    Engine.Reachable r settings p.engine := by
  have hplays : p.Plays r settings := by
    clear hrunning
    induction h with
    | opening ids => exact fun _ => .opening ids
    | send _ c ih => exact ih.send c
    | wait _ nanos ih => exact ih.runUntil _ _
    | shutdown _ _ => exact fun hrunning => absurd hrunning Bool.false_ne_true
  exact hplays hrunning

end Performance

end Cutscene
