import Mathlib.Data.List.Induction
import Cutscene.Proofs.Playback.Timers
import Cutscene.Proofs.Playback.Typing

set_option relaxedAutoImplicit false
set_option autoImplicit false

/-!
# Reports of characters

While a line is typed, its timer reports characters, the reports wait in the queue, and the engine
handles them between commands and late reports of other timers. Nothing is lost and nothing is
counted twice on the way: the characters that are shown, those in the queue and those that the timer
has left are those of the line.

## Main definitions

* `Cutscene.Engine.log` — the reports handled along a run, with the engines that met them.
* `Cutscene.Engine.started` — the effects started along a run.
* `Cutscene.Engine.metBy` — the engines that met a report.
* `Cutscene.Engine.Progress` — how far the typing of a line has come, in timer, queue and log.
* `Cutscene.Engine.Recorded` — an engine agrees with what has happened on the way to it.
* `Cutscene.Engine.TypesItsLines` — what that comes to when a line has been typed.

## Main results

* `Cutscene.Engine.Recorded.make` — every move keeps an engine and its record in agreement.
* `Cutscene.Engine.types_its_lines` — a line is over once each of its characters has been shown.
* `Cutscene.Engine.late_of_cancelled` — reports of a timer that was told to stop do nothing.

## Design

The record of a run is a list of what has been started and a list of what has been handled. A report
in the record comes with the whole engine that met it, so that it can be said what the report did,
and the agreement says it of each report at the time when it is handled.
-/

namespace Cutscene

namespace Engine

/-! ## The record of a run -/

/-- The report that a move handles. -/
def report? (e : Engine) : Move → Option Report
  | .deliver _ => e.queue.head?
  | .command _ _ => none
  | .tick _ => none
  | .quit _ => none

/-- The effect that a move starts. -/
def pending? (e : Engine) (m : Move) : Option Pending :=
  (e.asks m).bind fun op => Outcome.pending? (e.stage.apply op).2

/-- The reports that are handled along a run, each with the engine that meets it. -/
def log (e : Engine) : List Move → List (Engine × Report)
  | [] => []
  | m :: moves => (e.report? m).toList.map (Prod.mk e) ++ (e.make m).log moves

/-- The effects that are started along a run. -/
def started (e : Engine) : List Move → List Pending
  | [] => []
  | m :: moves => (e.pending? m).toList ++ (e.make m).started moves

/-- The engines that met a report. -/
def metBy (log : List (Engine × Report)) (report : Report) : List Engine :=
  (log.filter fun entry => entry.2 == report).map Prod.fst

/-- One more move, at the end. -/
lemma log_concat (e : Engine) (moves : List Move) (m : Move) :
    e.log (moves ++ [m]) =
      e.log moves ++ ((e.run moves).report? m).toList.map (Prod.mk (e.run moves)) := by
  induction moves generalizing e with
  | nil => simp [log]
  | cons m' moves ih => simp [log, ih]

/-- One more move, at the end. -/
lemma started_concat (e : Engine) (moves : List Move) (m : Move) :
    e.started (moves ++ [m]) = e.started moves ++ ((e.run moves).pending? m).toList := by
  induction moves generalizing e with
  | nil => simp [started]
  | cons m' moves ih => simp [started, ih]

variable {e e' : Engine} {ticket : Ticket} {p : Passage} {n : ℕ}
  {effects : List Pending} {past : List (Engine × Report)}

/-! ## How far a line has come -/

/-- How far the typing of a line has come: what is shown, what is in the queue and what the timer
has left are the characters of the line, and each of those that are shown was shown by a report of
its own. -/
structure Progress (e : Engine) (past : List (Engine × Report)) (ticket : Ticket) (p : Passage)
    (n : ℕ) : Prop where
  /-- The stage has come to the `n`-th character. -/
  types : e.stage.Types ticket p n
  /-- The others are in the queue or left to the timer. -/
  left : ∃ t ∈ e.timers, t.ticket = ticket ∧
    n + e.queue.count (.reveal ticket) + t.reveals = p.line.length
  /-- There has been one report for each character that is shown. -/
  count : (metBy past (.reveal ticket)).length = n
  /-- Each of them was met by a stage that had come to its character. -/
  each : ∀ i (met : Engine), (metBy past (.reveal ticket))[i]? = some met →
    met.stage.Types ticket p i

/-- An engine agrees with the effects that have been started and the reports that have been handled
on the way to it. -/
structure Recorded (e : Engine) (effects : List Pending) (past : List (Engine × Report)) :
    Prop where
  /-- Slot, timers, queue and stage agree. -/
  synced : e.Synced
  /-- The effects that have been started have drawn their numbers. -/
  drawn : ∀ pending ∈ effects, pending.ticket.number ≤ e.stage.state.generation
  /-- Reports have been handled only of effects that had been started. -/
  met : ∀ entry ∈ past, entry.2.ticket.number ≤ e.stage.state.generation
  /-- The running effect is one of those that have been started. -/
  known : ∀ ticket, e.stage.state.isCurrent ticket = true →
    ∃ pending ∈ effects, pending.ticket = ticket
  /-- If it types a line, it is known how far the line has come. -/
  typed : ∀ ticket chars, e.stage.state.isCurrent ticket = true →
    ⟨ticket, .typing chars⟩ ∈ effects →
    ∃ (p : Passage) (n : ℕ), p.line.length = chars ∧ e.Progress past ticket p n

/-- A report that nobody has met. -/
lemma metBy_eq_nil {report : Report}
    (h : ∀ entry ∈ past, entry.2.ticket.number ≠ report.ticket.number) :
    metBy past report = [] := by
  have hfilter : past.filter (fun entry => entry.2 == report) = [] := by
    refine List.filter_eq_nil_iff.2 fun entry hentry hreport => h entry hentry ?_
    rw [eq_of_beq hreport]
  rw [metBy, hfilter, List.map_nil]

/-- A report under another ticket has been met by nobody more. -/
lemma metBy_concat_of_ne {report : Report} {entry : Engine × Report} (h : entry.2 ≠ report) :
    metBy (past ++ [entry]) report = metBy past report := by
  simp [metBy, List.filter_append, h]

/-- A report has been met by one engine more. -/
lemma metBy_concat_self (past : List (Engine × Report)) (e : Engine) (report : Report) :
    metBy (past ++ [(e, report)]) report = metBy past report ++ [e] := by
  simp [metBy, List.filter_append]

/-! ## Messages -/

section Messages

variable {op : Operation} {now : ℕ} {popped : Option Report} {queue : List Report}

/-- A report that is handled is one of an effect that had been started, like all before it. -/
lemma Recorded.met_concat (h : e.Recorded effects past)
    (hqueue : e.queue = popped.toList ++ queue) :
    ∀ entry ∈ past ++ popped.toList.map (Prod.mk e),
      entry.2.ticket.number ≤ e.stage.state.generation := by
  intro entry hentry
  rcases List.mem_append.1 hentry with hentry | hentry
  · exact h.met entry hentry
  · obtain ⟨report, hreport, rfl⟩ := List.mem_map.1 hentry
    exact h.synced.sent report (by rw [hqueue]; exact List.mem_append_left _ hreport)

/-- A message that takes the running effect away keeps the record in agreement.

**Proof sketch.** If a new effect has been started, it bears a new number, so nothing in the record
or in the queue belongs to it. If it types, it does so from the start of a passage
(`Stage.types_apply`), and its timer has all the characters left. -/
lemma Recorded.renewed (h : e.Recorded effects past) (hqueue : e.queue = popped.toList ++ queue)
    (hhandled : ({ e with queue } : Engine).Handled op now e') (hsynced : e'.Synced)
    (hdrops : e.stage.drops op = true) :
    e'.Recorded (effects ++ (Outcome.pending? (e.stage.apply op).2).toList)
      (past ++ popped.toList.map (Prod.mk e)) := by
  obtain ⟨hstage, -, htimers, hqueue'⟩ := hhandled
  simp only [hdrops, if_true] at hstage htimers hqueue'
  have hrenewal := Stage.renewal_apply hdrops
  have htypes : ∀ ticket chars,
      Outcome.pending? (e.stage.apply op).2 = some ⟨ticket, .typing chars⟩ →
        ∃ p : Passage, p.line.length = chars ∧ (e.stage.apply op).1.Types ticket p 0 :=
    fun _ _ => Stage.types_apply
  rw [← hstage] at hrenewal htypes
  have hbefore := h.met_concat hqueue
  have hmet := fun entry hentry => Nat.le_trans (hbefore entry hentry) hrenewal.generation_le
  generalize Outcome.pending? (e.stage.apply op).2 = pending at hrenewal htypes htimers ⊢
  cases hrenewal with
  | quiet hgeneration hrunning =>
    refine ⟨hsynced, ?_, hmet, ?_, ?_⟩
    · simpa [hgeneration] using h.drawn
    · simp [State.isCurrent, hrunning]
    · simp [State.isCurrent, hrunning]
  | started pending effect hgeneration hrunning hnumber hticket =>
    have hcurrent : ∀ ticket,
        e'.stage.state.isCurrent ticket = true → ticket = pending.ticket := by
      intro ticket hcurrent
      rw [State.isCurrent, hrunning, Option.any_some, beq_iff_eq, hticket] at hcurrent
      exact hcurrent.symm
    have hnew : ∀ ticket : Ticket, ticket.number ≤ e.stage.state.generation →
        ticket.number ≠ pending.ticket.number := by
      intro ticket hdrawn heq
      rw [heq, hnumber] at hdrawn
      exact absurd hdrawn (Nat.not_succ_le_self _)
    refine ⟨hsynced, ?_, hmet, ?_, ?_⟩
    · intro other hother
      rcases List.mem_append.1 hother with hother | hother
      · exact Nat.le_trans (h.drawn other hother) (by omega)
      · obtain rfl : other = pending := by simpa using hother
        rw [hgeneration]
        exact Nat.le_of_eq (congrArg Ticket.number hnumber)
    · intro ticket hticket
      exact ⟨pending, by simp, (hcurrent ticket hticket).symm⟩
    · intro ticket chars hticket hmem
      obtain rfl := hcurrent ticket hticket
      have hpending : pending = ⟨pending.ticket, .typing chars⟩ := by
        rcases List.mem_append.1 hmem with hmem | hmem
        · exact absurd rfl (hnew pending.ticket (h.drawn ⟨pending.ticket, .typing chars⟩ hmem))
        · exact (by simpa using hmem : _ = pending).symm
      obtain ⟨p, hchars, htypes⟩ := htypes pending.ticket chars (congrArg some hpending)
      have hnone : metBy (past ++ popped.toList.map (Prod.mk e)) (.reveal pending.ticket) = [] :=
        metBy_eq_nil fun entry hentry => hnew _ (hbefore entry hentry)
      refine ⟨p, 0, hchars, htypes, ⟨_, by rw [htimers]; exact List.mem_cons_self, rfl, ?_⟩, ?_, ?_⟩
      · have hcount : e'.queue.count (.reveal pending.ticket) = 0 := by
          refine List.count_eq_zero.2 fun hmem => ?_
          rw [hqueue'] at hmem
          refine hnew pending.ticket (h.synced.sent (.reveal pending.ticket) ?_) rfl
          rw [hqueue]
          exact List.mem_append_right _ hmem
        rw [hcount, hpending, hchars]
        exact Nat.zero_add chars
      · rw [hnone]
        rfl
      · simp [hnone]

/-- A message that changes nothing on the stage keeps the record in agreement. If it is a report, it
is late. -/
lemma Recorded.kept (h : e.Recorded effects past) (hqueue : e.queue = popped.toList ++ queue)
    (hhandled : ({ e with queue } : Engine).Handled op now e') (hsynced : e'.Synced)
    (hdrops : e.stage.drops op = false) (hstay : (e.stage.apply op).1 = e.stage)
    (hlate : ∀ report ∈ popped, e.stage.state.isCurrent report.ticket = false) :
    e'.Recorded effects (past ++ popped.toList.map (Prod.mk e)) := by
  obtain ⟨hstage, -, htimers, hqueue'⟩ := hhandled
  simp only [hdrops, Bool.false_eq_true, if_false, hstay] at hstage htimers hqueue'
  refine ⟨hsynced, by simpa [hstage] using h.drawn, by simpa [hstage] using h.met_concat hqueue,
    by simpa [hstage] using h.known, ?_⟩
  intro ticket chars hcurrent hmem
  rw [hstage] at hcurrent
  obtain ⟨p, n, hchars, hprogress⟩ := h.typed ticket chars hcurrent hmem
  have hne : ∀ report ∈ popped, report ≠ .reveal ticket := by
    rintro report hreport rfl
    have hother := hlate _ hreport
    rw [Report.ticket, hcurrent] at hother
    cases hother
  have hcount : e'.queue.count (.reveal ticket) = e.queue.count (.reveal ticket) := by
    rw [hqueue, hqueue']
    cases popped with
    | none => rfl
    | some report => exact (List.count_cons_of_ne (hne report rfl)).symm
  have hmet : metBy (past ++ popped.toList.map (Prod.mk e)) (.reveal ticket) =
      metBy past (.reveal ticket) := by
    cases popped with
    | none => rw [Option.toList_none, List.map_nil, List.append_nil]
    | some report => exact metBy_concat_of_ne (hne report rfl)
  obtain ⟨htypes, hleft, hlength, heach⟩ := hprogress
  refine ⟨p, n, hchars, by rwa [hstage], by rwa [htimers, hcount], by rwa [hmet], by rwa [hmet]⟩

/-- A report of a character of the running effect keeps the record in agreement: it shows one
character more.

**Proof sketch.** A report that was in the queue counts among the characters that are not shown yet,
so there is one to be shown. -/
lemma Recorded.revealed (h : e.Recorded effects past) (hqueue : e.queue = .reveal ticket :: queue)
    (hhandled : ({ e with queue } : Engine).Handled (.reveal ticket) now e') (hsynced : e'.Synced)
    (hcurrent : e.stage.state.isCurrent ticket = true) :
    e'.Recorded effects (past ++ [(e, .reveal ticket)]) := by
  obtain ⟨hstage, -, htimers, hqueue'⟩ := hhandled
  simp only [Stage.drops, Bool.false_eq_true, if_false] at htimers hqueue'
  have hpopped : e.queue = (some (.reveal ticket)).toList ++ queue := hqueue
  have hdrops : e.stage.drops (.reveal ticket) = false := rfl
  obtain ⟨-, hgeneration, hrunning⟩ := Stage.apply_of_not_drops hdrops
  have hsame := Stage.isCurrent_congr hrunning
  rw [← hstage] at hgeneration hsame
  refine ⟨hsynced, by simpa [hgeneration] using h.drawn,
    by simpa [hgeneration] using h.met_concat hpopped, by simpa [hsame] using h.known, ?_⟩
  intro other chars hother hmem
  rw [hsame] at hother
  obtain rfl : other = ticket := by
    rw [h.synced.last other hother, h.synced.last ticket hcurrent]
  obtain ⟨p, n, hchars, htypes, ⟨t, ht, hticket, hleft⟩, hlength, heach⟩ :=
    h.typed other chars hother hmem
  rw [hqueue, List.count_cons_self, ← hqueue'] at hleft
  have hn : n < p.line.length := by omega
  have hstage' : e'.stage =
      { e.stage with state := { e.stage.state with bubbles := p.bubbles (n + 1) } } := by
    rw [hstage]
    exact congrArg Prod.fst (htypes.reveal_eq hn)
  refine ⟨p, n + 1, hchars, by rw [hstage']; exact htypes.succ, ⟨t, ?_, hticket, by omega⟩, ?_, ?_⟩
  · rwa [htimers]
  · rw [metBy_concat_self, List.length_append, hlength, List.length_singleton]
  · intro i met hmet
    rw [metBy_concat_self] at hmet
    rcases Nat.lt_or_ge i n with hi | hi
    · rw [List.getElem?_append_left (by omega)] at hmet
      exact heach i met hmet
    · obtain ⟨hlt, hget⟩ := List.getElem?_eq_some_iff.1 hmet
      rw [List.length_append, List.length_singleton] at hlt
      obtain rfl : i = n := by omega
      rw [List.getElem_append_right (by omega)] at hget
      rwa [← hget, List.getElem_singleton]

/-- **A message keeps the record in agreement.** -/
theorem Recorded.handled (h : e.Recorded effects past) (hqueue : e.queue = popped.toList ++ queue)
    (hhandled : ({ e with queue } : Engine).Handled op now e') (hsynced : e'.Synced)
    (hop : ∀ ticket, op = .reveal ticket → popped = some (.reveal ticket))
    (hpopped : ∀ report ∈ popped, op = report.operation) :
    e'.Recorded (effects ++ (Outcome.pending? (e.stage.apply op).2).toList)
      (past ++ popped.toList.map (Prod.mk e)) := by
  cases hdrops : e.stage.drops op with
  | true => exact h.renewed hqueue hhandled hsynced hdrops
  | false =>
    rw [(Stage.apply_of_not_drops hdrops).1, Option.toList_none, List.append_nil]
    by_cases hreveal : ∃ ticket, op = .reveal ticket ∧ e.stage.state.isCurrent ticket = true
    · obtain ⟨ticket, rfl, hcurrent⟩ := hreveal
      obtain rfl := hop ticket rfl
      exact h.revealed hqueue hhandled hsynced hcurrent
    · have hother : ∀ ticket, op = .reveal ticket → e.stage.state.isCurrent ticket = false :=
        fun ticket hop => by simpa using fun hcurrent => hreveal ⟨ticket, hop, hcurrent⟩
      refine h.kept hqueue hhandled hsynced hdrops (Stage.apply_fst_of_not_drops hdrops hother) ?_
      intro report hreport
      obtain rfl := hpopped report hreport
      cases report with
      | reveal ticket => exact hother ticket rfl
      | resolved ticket => exact hdrops

end Messages

/-! ## Timers -/

/-- A timer that makes its next report keeps the record in agreement: a character is no longer left
to it and is in the queue instead. -/
lemma Recorded.tick (h : e.Recorded effects past) (ticket : Ticket) :
    (e.tick ticket).Recorded effects past := by
  have hsynced := h.synced.tick ticket
  by_cases hlive : ∃ t ∈ e.timers, t.ticket = ticket ∧ t.finished = false
  · obtain ⟨t, ht, rfl, hfinished⟩ := hlive
    rw [h.synced.tick_eq ht hfinished] at hsynced ⊢
    refine ⟨hsynced, h.drawn, h.met, h.known, ?_⟩
    intro other chars hcurrent hmem
    obtain ⟨p, n, hchars, htypes, ⟨u, hu, hticket, hleft⟩, hlength, heach⟩ :=
      h.typed other chars hcurrent hmem
    refine ⟨p, n, hchars, htypes, ⟨_, List.mem_map_of_mem hu, ?_, ?_⟩, hlength, heach⟩
    · split <;> simp [hticket]
    · by_cases hmine : u.ticket = t.ticket
      · obtain rfl := h.synced.timer_ext hu ht hmine
        rw [if_pos rfl, List.count_append]
        by_cases hreveals : u.reveals = 0
        · rw [Timer.tick_of_zero hreveals]
          simpa using hleft
        · obtain ⟨hone, -, hreport⟩ := Timer.tick_of_pos hreveals
          rw [hreport, hticket, List.count_singleton_self]
          omega
      · have hne : t.tick.2 ≠ .reveal other := by
          intro heq
          have hother : t.ticket = other := t.tick_fixed.2.2 ▸ congrArg Report.ticket heq
          exact hmine (hticket.trans hother.symm)
        rw [if_neg hmine, List.count_append, List.count_singleton, beq_eq_false_iff_ne.2 hne]
        exact hleft
  · rw [tick_of_finished]
    · exact h
    · intro t ht hticket
      by_contra hfinished
      exact hlive ⟨t, ht, hticket, by simpa using hfinished⟩

/-- A timer that gives up keeps the record in agreement. -/
lemma Recorded.quit (h : e.Recorded effects past) (ticket : Ticket) :
    (e.quit ticket).Recorded effects past := by
  refine ⟨h.synced.quit ticket, h.drawn, h.met, h.known, ?_⟩
  intro other chars hcurrent hmem
  obtain ⟨p, n, hchars, htypes, ⟨t, ht, hticket, hleft⟩, hlength, heach⟩ :=
    h.typed other chars hcurrent hmem
  refine ⟨p, n, hchars, htypes, ⟨_, List.mem_map_of_mem ht, ?_, ?_⟩, hlength, heach⟩
  · split <;> exact hticket
  · split <;> exact hleft

/-! ## All moves -/

/-- **Every move keeps an engine and its record in agreement.** -/
theorem Recorded.make (h : e.Recorded effects past) (m : Move) :
    (e.make m).Recorded (effects ++ (e.pending? m).toList)
      (past ++ (e.report? m).toList.map (Prod.mk e)) := by
  have hsynced := h.synced.make m
  cases m with
  | command now c =>
    have hqueue : e.queue = (none : Option Report).toList ++ e.queue := rfl
    refine h.handled hqueue (handled_command h.synced.slot h.synced.last now c) hsynced ?_ ?_
    · intro ticket hop
      cases c <;> cases hop
    · exact fun _ hreport => absurd hreport (Option.not_mem_none _)
  | deliver now =>
    cases hqueue : e.queue with
    | nil =>
      have hmake : e.make (.deliver now) = e := deliver_of_nil hqueue now
      simpa [hmake, pending?, report?, asks, hqueue] using h
    | cons report queue =>
      have hpopped : e.queue = (some report).toList ++ queue := hqueue
      have hhandled := handled_deliver h.synced.slot h.synced.last hqueue now
      have hrecorded := h.handled hpopped hhandled hsynced
      simp only [pending?, report?, asks, hqueue, List.head?_cons, Option.map_some,
        Option.bind_some]
      refine hrecorded ?_ ?_
      · intro ticket hop
        cases report <;> cases hop
        rfl
      · rintro _ ⟨⟩
        rfl
  | tick ticket =>
    simp only [pending?, report?, asks, Option.bind_none, Option.toList_none, List.map_nil,
      List.append_nil]
    exact h.tick ticket
  | quit ticket =>
    simp only [pending?, report?, asks, Option.bind_none, Option.toList_none, List.map_nil,
      List.append_nil]
    exact h.quit ticket

/-- The record of a run agrees with the engine at its end. -/
theorem recorded_run (r : Repertoire) (settings : Settings) (ids : Random.Source)
    (moves : List Move) :
    ((opening r settings ids).run moves).Recorded ((opening r settings ids).started moves)
      ((opening r settings ids).log moves) := by
  induction moves using List.reverseRecOn with
  | nil =>
    refine ⟨synced_of_reachable (.opening ids), ?_, ?_, ?_, ?_⟩
    · intro pending hpending
      cases hpending
    · intro entry hentry
      cases hentry
    · intro ticket hcurrent
      cases hcurrent
    · intro ticket chars hcurrent
      cases hcurrent
  | append_singleton moves m ih =>
    rw [run_append, started_concat, log_concat]
    exact ih.make m

/-! ## Late reports -/

variable {r : Repertoire} {settings : Settings}

/-- A ticket that has expired stays expired, whatever happens. -/
lemma expired_run (h : e.stage.Expired ticket) (moves : List Move) :
    (e.run moves).stage.Expired ticket := by
  induction moves generalizing e with
  | nil => exact h
  | cons m moves ih =>
    refine ih ?_
    rw [stage_make]
    cases e.asks m with
    | none => exact h
    | some op => exact h.apply op

/-- The ticket of a timer that was told to stop has expired. -/
lemma Synced.expired_of_cancelled (h : e.Synced) {t : Timer} (ht : t ∈ e.timers)
    (hcancelled : t.cancelled = true) : e.stage.Expired t.ticket := by
  refine ⟨h.drawn t ht, Bool.eq_false_iff.2 fun hcurrent => ?_⟩
  obtain ⟨u, hu, hserves⟩ := h.served t.ticket hcurrent
  obtain rfl := h.timer_ext hu ht hserves.ticket_eq
  have hgoing := hserves.going
  rw [hcancelled] at hgoing
  cases hgoing

/-- **Reports of a timer that was told to stop do nothing**, whenever they are handled. -/
theorem late_of_cancelled (h : Reachable r settings e) {t : Timer} (ht : t ∈ e.timers)
    (hcancelled : t.cancelled = true) (more : List Move) (now : ℕ) {report : Report}
    {queue : List Report} (hqueue : (e.run more).queue = report :: queue)
    (hreport : report.ticket = t.ticket) :
    ((e.run more).make (.deliver now)).stage = (e.run more).stage := by
  have hexpired : (e.run more).stage.Expired report.ticket := by
    rw [hreport]
    exact expired_run ((synced_of_reachable h).expired_of_cancelled ht hcancelled) more
  have hlate := hexpired.stopped
  rw [stage_make, asks, hqueue]
  cases report with
  | reveal ticket => exact congrArg Prod.fst (Stage.reveal_of_not_isCurrent hlate)
  | resolved ticket => exact congrArg Prod.fst (Stage.resolve_of_not_isCurrent hlate)

/-! ## When a line is over -/

/-- What the reports of a run do on the stage. -/
structure TypesItsLines (e₀ : Engine) (moves : List Move) : Prop where
  /-- The running effect is one that the run has started. -/
  known : ∀ ticket, (e₀.run moves).stage.state.isCurrent ticket = true →
    ∃ effect, ⟨ticket, effect⟩ ∈ e₀.started moves
  /-- When the end of an effect that types is about to be handled, there is a line of as many
  characters, and the scene is at its step. One report for each of the characters has been handled.
  The first found nothing shown in the bubble of the line, each showed one character more and
  touched nothing else, and by now the bubble shows them all. -/
  resolved : ∀ ticket chars queue, ⟨ticket, .typing chars⟩ ∈ e₀.started moves →
    (e₀.run moves).stage.state.isCurrent ticket = true →
    (e₀.run moves).queue = .resolved ticket :: queue →
    ∃ p : Passage, p.line.length = chars ∧
      (metBy (e₀.log moves) (.reveal ticket)).length = chars ∧
      (∀ i (met : Engine), (metBy (e₀.log moves) (.reveal ticket))[i]? = some met →
        met.stage.Types ticket p i ∧
          met.stage.reveal ticket = ({ met.stage with
            state := { met.stage.state with bubbles := p.bubbles (i + 1) } }, true)) ∧
      (e₀.run moves).stage.Types ticket p chars ∧ (p.bubble chars).isRevealed = true
  /-- Reports of an effect that was cancelled change nothing on the stage, whatever happens before
  they are handled. -/
  late : ∀ t ∈ (e₀.run moves).timers, t.cancelled = true →
    ∀ more now report queue, ((e₀.run moves).run more).queue = report :: queue →
      report.ticket = t.ticket →
      (((e₀.run moves).run more).make (.deliver now)).stage = ((e₀.run moves).run more).stage

/-- With its end at hand, an effect has no characters left in the queue.

**Proof sketch.** The end is the last report of its timer, so what is in front of the queue is all
that waits under its ticket. -/
lemma Synced.count_eq_zero_of_resolved (h : e.Synced) {queue : List Report}
    (hcurrent : e.stage.state.isCurrent ticket = true)
    (hqueue : e.queue = .resolved ticket :: queue)
    {t : Timer} (ht : t ∈ e.timers) (hticket : t.ticket = ticket) :
    e.queue.count (.reveal ticket) = 0 ∧ t.reveals = 0 := by
  obtain ⟨u, hu, hserves⟩ := h.served ticket hcurrent
  obtain rfl := h.timer_ext hu ht (hserves.ticket_eq.trans hticket.symm)
  have hwaiting : e.waiting ticket = .resolved ticket :: queue.filter (·.ticket == ticket) := by
    simp [waiting, hqueue, Report.ticket]
  rw [hwaiting] at hserves
  obtain ⟨-, hreveals, hnone⟩ := hserves.of_resolved
  refine ⟨List.count_eq_zero.2 fun hmem => ?_, hreveals⟩
  have hwaits : Report.reveal ticket ∈ e.waiting ticket :=
    List.mem_filter.2 ⟨hmem, by simp [Report.ticket]⟩
  simp [hwaiting, hnone] at hwaits

/-- **A line is over once each of its characters has been shown**, by a report of its own, however
commands, reports and timers are interleaved; and reports of effects that were cancelled do nothing.

**Proof sketch.** Every move keeps the engine and the record of the run in agreement
(`Recorded.make`): what is shown, what is in the queue and what is left to the timer are the
characters of the line. With the end at hand nothing is in the queue or left
(`Synced.count_eq_zero_of_resolved`). -/
theorem types_its_lines (r : Repertoire) (settings : Settings) (ids : Random.Source)
    (moves : List Move) : (opening r settings ids).TypesItsLines moves := by
  have hrecorded := recorded_run r settings ids moves
  have hreachable : Reachable r settings ((opening r settings ids).run moves) :=
    (Reachable.opening ids).run moves
  refine ⟨?_, ?_, fun t ht hcancelled more now report queue hqueue hreport =>
    late_of_cancelled hreachable ht hcancelled more now hqueue hreport⟩
  · intro ticket hcurrent
    obtain ⟨⟨_, effect⟩, hmem, rfl⟩ := hrecorded.known ticket hcurrent
    exact ⟨effect, hmem⟩
  · intro ticket chars queue hstarted hcurrent hqueue
    obtain ⟨p, n, hchars, htypes, ⟨t, ht, hticket, hleft⟩, hlength, heach⟩ :=
      hrecorded.typed ticket chars hcurrent hstarted
    obtain ⟨hcount, hreveals⟩ :=
      hrecorded.synced.count_eq_zero_of_resolved hcurrent hqueue ht hticket
    obtain rfl : n = chars := by omega
    refine ⟨p, hchars, hlength, ?_, htypes, Passage.isRevealed_bubble.2 (Nat.le_of_eq hchars)⟩
    intro i met hmet
    have hi : i < p.line.length := by
      rw [hchars, ← hlength]
      exact (List.getElem?_eq_some_iff.1 hmet).1
    exact ⟨heach i met hmet, (heach i met hmet).reveal_eq hi⟩

/-- The end of the line of the rehearsal is at hand: both of its characters have been reported, and
the pause before it was cancelled. -/
theorem types_its_lines_rehearsing :
    let e₀ := opening (Repertoire.empty.add rehearsal) .standard (.ofSeed 0)
    let moves : List Move := [.command 0 (.trigger "rehearsal"), .command 0 .proceed, .tick ⟨2⟩,
      .tick ⟨1⟩, .tick ⟨2⟩, .tick ⟨2⟩, .deliver 1, .deliver 1, .deliver 1]
    e₀.started moves = [⟨⟨1⟩, .pause (.ofMillis 500)⟩, ⟨⟨2⟩, .typing 2⟩] ∧
      (e₀.run moves).stage.state.isCurrent ⟨2⟩ = true ∧
      (e₀.run moves).queue = [.resolved ⟨2⟩] ∧ e₀.TypesItsLines moves := by
  refine ⟨by decide +kernel, by decide +kernel, by decide +kernel, types_its_lines _ _ _ _⟩

end Engine

end Cutscene
