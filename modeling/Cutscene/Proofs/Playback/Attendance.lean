import Cutscene.Proofs.Playback.Course
import Cutscene.Proofs.Playback.Reveals
import Cutscene.Proofs.Playback.Screen

set_option relaxedAutoImplicit false
set_option autoImplicit false

/-!
# Clients that watch and ask

A client looks at the published snapshot, decides to ask for something, and waits for the answer.
What it asks for is handled later than it looked: timers report in between, and reports are handled.
This file gives the runs of an engine that is attended in this way by a single client, who starts a
scene and then asks for what some policy allows.

## Main definitions

* `Cutscene.Engine.result` — what is answered to a message.
* `Cutscene.Engine.Attended` — the runs that a client attends, up to a fatal error.
* `Cutscene.Engine.spoken` — the lines that were typed to their end along a run.

## Main results

* `Cutscene.Stage.Ahead.report` — what a report takes from the course of a scene.
* `Cutscene.Engine.ahead_opening` — a scene that has been started has its whole course ahead.
* `Cutscene.Engine.worked_of_not_isCommand` — what a move does that is none of the client's.

## Design

A pause out of range ends an engine where it is. A run that is attended therefore holds no message
that has been answered by such an error.
-/

namespace Cutscene

namespace Engine

variable {e : Engine}

/-! ## Answers -/

/-- What is answered to a message. Timers are not answered. -/
def result (e : Engine) : Move → Except PlayError Unit
  | .command now c => (e.handleCommand now c).2
  | .deliver now => (e.deliver now).2
  | .tick _ => .ok ()
  | .quit _ => .ok ()

/-- Scheduling passes errors on. -/
lemma schedule_snd (e : Engine) (now : ℕ) (outcome : Outcome) :
    (e.schedule now outcome).2 = outcome.map fun _ => () := by
  unfold schedule
  rcases outcome with err | _ | pending <;> rfl

/-- What is answered is what has come of it on the stage. -/
lemma result_eq {m : Move} {op : Operation} (h : e.asks m = some op) :
    e.result m = (e.stage.apply op).2.map fun _ => () := by
  cases m with
  | command now c =>
    cases h
    cases c <;> exact schedule_snd _ _ _
  | deliver now =>
    cases hqueue : e.queue with
    | nil => simp [asks, hqueue] at h
    | cons report queue =>
      simp only [asks, hqueue, List.head?_cons, Option.map_some, Option.some.injEq] at h
      subst h
      simp only [result, deliver, hqueue]
      cases report with
      | reveal ticket => rfl
      | resolved ticket => exact schedule_snd _ _ _
  | tick ticket => cases h
  | quit ticket => cases h

/-- What asks nothing of the stage is answered well. -/
lemma result_of_asks_eq_none {m : Move} (h : e.asks m = none) : e.result m = .ok () := by
  cases m with
  | command now c => cases h
  | deliver now =>
    cases hqueue : e.queue with
    | nil => simp only [result, deliver, hqueue]
    | cons report queue => simp [asks, hqueue] at h
  | tick ticket => rfl
  | quit ticket => rfl

/-- A fatal error is answered exactly where what is asked of the stage fails so. -/
lemma result_ne_iff {m : Move} {op : Operation} (h : e.asks m = some op) :
    e.result m ≠ .error .pauseTooLong ↔ (e.stage.apply op).2 ≠ .error .pauseTooLong := by
  rw [result_eq h]
  rcases (e.stage.apply op).2 with err | pending
  · simp [Except.map]
  · simp [Except.map]

/-! ## Runs that a client attends -/

/-- Whether a move is a command. -/
def Move.isCommand : Move → Bool
  | .command _ _ => true
  | .deliver _ => false
  | .tick _ => false
  | .quit _ => false

/-- The runs of an engine that a single client attends: it starts a scene, and then asks, again and
again, for something that the snapshot it sees allows by some policy. It waits for its answer before
it asks again. `asked` is what it waits for, and `sent` is how often it has asked. -/
inductive Attended (policy : Snapshot → Command → Prop) (e₀ : Engine) (name : String) :
    List Move → Option Command → ℕ → Prop
  /-- The scene has been started. -/
  | opening (now : ℕ) (hok : e₀.result (.command now (.trigger name)) = .ok ()) :
    Attended policy e₀ name [.command now (.trigger name)] none 0
  /-- A timer reports or gives up, or a report is handled. -/
  | work {moves : List Move} {asked : Option Command} {sent : ℕ}
    (h : Attended policy e₀ name moves asked sent) (m : Move) (hm : m.isCommand = false)
    (hok : (e₀.run moves).result m ≠ .error .pauseTooLong) :
    Attended policy e₀ name (moves ++ [m]) asked sent
  /-- The client looks, and asks for something. -/
  | ask {moves : List Move} {sent : ℕ} (h : Attended policy e₀ name moves none sent) (c : Command)
    (hpolicy : policy (e₀.run moves).published c) :
    Attended policy e₀ name moves (some c) (sent + 1)
  /-- What it has asked for is handled. -/
  | serve {moves : List Move} {c : Command} {sent : ℕ}
    (h : Attended policy e₀ name moves (some c) sent) (now : ℕ)
    (hok : (e₀.run moves).result (.command now c) ≠ .error .pauseTooLong) :
    Attended policy e₀ name (moves ++ [.command now c]) none sent

/-- Whether moves are none of a client's, and nothing fatal comes of any of them. -/
def goesWell (e : Engine) : List Move → Bool
  | [] => true
  | m :: moves =>
    !m.isCommand && decide (e.result m ≠ .error .pauseTooLong) && (e.make m).goesWell moves

/-- Work goes on for several moves. -/
lemma Attended.goOn {policy : Snapshot → Command → Prop} {e₀ : Engine} {name : String}
    {moves more : List Move} {asked : Option Command} {sent : ℕ}
    (h : Attended policy e₀ name moves asked sent) (hmore : (e₀.run moves).goesWell more = true) :
    Attended policy e₀ name (moves ++ more) asked sent := by
  induction more generalizing moves with
  | nil => rwa [List.append_nil]
  | cons m more ih =>
    rw [goesWell, Bool.and_eq_true, Bool.and_eq_true, Bool.not_eq_true', decide_eq_true_eq] at hmore
    obtain ⟨⟨hm, hok⟩, hrest⟩ := hmore
    have hnext := ih (h.work m hm hok) (by rwa [run_append])
    rwa [List.append_assoc] at hnext

/-- The report that a move handles is what it asks of the stage, if it is no command. -/
lemma asks_of_not_isCommand {m : Move} (hm : m.isCommand = false) :
    e.asks m = (e.report? m).map Report.operation := by
  cases m with
  | command now c => cases hm
  | deliver now => rfl
  | tick ticket => rfl
  | quit ticket => rfl

/-! ## Lines that were typed to their end -/

/-- The line that a report ends, on the stage that meets it: that of the current step, if the report
is that of the end of the running effect and the effect types. -/
def ended (entry : Engine × Report) : List Line :=
  match entry.2 with
  | .reveal _ => []
  | .resolved ticket =>
    if entry.1.stage.state.running.any fun effect => effect.ticket == ticket && effect.typing then
      (entry.1.stage.state.step?.bind Step.line?).toList
    else []

/-- The lines that were typed to their end along a run, in their order. -/
def spoken (e : Engine) (moves : List Move) : List Line := (e.log moves).flatMap ended

/-- One more move, at the end. -/
lemma spoken_concat (e : Engine) (moves : List Move) (m : Move) :
    e.spoken (moves ++ [m]) =
      e.spoken moves ++ ((e.run moves).report? m).toList.flatMap fun report =>
        ended (e.run moves, report) := by
  rw [spoken, log_concat, List.flatMap_append, spoken, List.flatMap_map]

end Engine

namespace Stage

variable {s : Stage} {scene : Scene} {pending : Option Pending} {cues : List Cue}
  {result : Stage × Outcome}

/-! ## Reports and the course of a scene -/

/-- The line that the end of what is waited for ends is the one that its effect types. -/
lemma Ahead.ended_eq {e : Engine} {p : Pending} (h : e.stage.Ahead scene (some p) cues) :
    Engine.ended (e, .resolved p.ticket) = e.stage.typedBy p.effect := by
  cases h with
  | busy _ _ _ _ hrunning => simp [Engine.ended, hrunning, typedBy]
  | settling _ _ hrunning => simp [Engine.ended, hrunning, typedBy, Effect.isTyping]

/-- A report under a ticket that is not current ends no line. -/
lemma ended_of_not_isCurrent {e : Engine} {report : Report}
    (h : e.stage.state.isCurrent report.ticket = false) : Engine.ended (e, report) = [] := by
  cases report with
  | reveal ticket => rfl
  | resolved ticket =>
    have hnone : (e.stage.state.running.any fun effect =>
        effect.ticket == ticket && effect.typing) = false := by
      rw [Report.ticket, State.isCurrent] at h
      cases hrunning : e.stage.state.running with
      | none => rfl
      | some effect =>
        rw [hrunning, Option.any_some] at h
        simp [h]
    simp [Engine.ended, hnone]

/-- Where the player is waited for, no effect is. -/
lemma Ahead.pending_eq_none (h : s.Ahead scene pending cues) (hwaiting : s.state.isWaiting = true) :
    pending = none := by
  cases h with
  | busy _ _ _ _ hrunning | settling _ _ hrunning => simp [State.isWaiting, hrunning] at hwaiting
  | waiting | ended => rfl

/-- Where no effect is waited for, reports are late and do nothing. -/
lemma Ahead.apply_report (h : s.Ahead scene none cues) (report : Report) :
    s.apply report.operation = (s, .ok none) := by
  cases report with
  | reveal ticket =>
    rw [Report.operation, apply, reveal_of_not_isCurrent (h.not_isCurrent ticket)]
  | resolved ticket =>
    rw [Report.operation, apply, resolve_of_not_isCurrent (h.not_isCurrent ticket)]

/-- **What a report takes from the course of a scene.** The end of the effect that is waited for
takes its cues, with the line if it typed one. Any other report takes nothing.

**Proof sketch.** A report under another ticket changes nothing, and one of a character leaves
scene, cursor and running effect alone. The end of the effect is `Ahead.resolve`. -/
theorem Ahead.report {e : Engine} (h : e.stage.Ahead scene pending cues) (report : Report)
    (hok : (e.stage.apply report.operation).2 ≠ .error .pauseTooLong) :
    ((e.stage.apply report.operation).1.Ahead scene pending cues ∧ Engine.ended (e, report) = []) ∨
      ∃ p length rest pending', pending = some p ∧ report = .resolved p.ticket ∧
        cues = .waited length :: ((Engine.ended (e, report)).map .said ++ rest) ∧
        (e.stage.apply report.operation).1.Ahead scene pending' rest := by
  cases report with
  | reveal ticket => exact Or.inl ⟨h.reveal ticket, rfl⟩
  | resolved ticket =>
    cases hcurrent : e.stage.state.isCurrent ticket with
    | false =>
      refine Or.inl ⟨?_, ended_of_not_isCurrent hcurrent⟩
      rw [Report.operation, apply, resolve_of_not_isCurrent hcurrent]
      exact h
    | true =>
      cases pending with
      | none => simp [h.not_isCurrent ticket] at hcurrent
      | some p =>
        obtain rfl := (h.isCurrent ticket).1 hcurrent
        obtain ⟨rest, hcues, hleads⟩ := h.resolve
        obtain ⟨pending', -, hahead⟩ := hleads.of_ne hok
        exact Or.inr ⟨p, _, rest, pending', rfl, rfl, by rw [h.ended_eq, hcues], hahead⟩

end Stage

namespace Engine

/-! ## One more move -/

/-- No move changes how scenes are played. -/
@[simp] lemma settings_run (e : Engine) (moves : List Move) :
    (e.run moves).stage.settings = e.stage.settings := by
  induction moves generalizing e with
  | nil => rfl
  | cons m moves ih =>
    rw [run_cons, ih, stage_make]
    cases e.asks m with
    | none => rfl
    | some op => exact Stage.settings_apply e.stage op

/-- The stage after one more move. -/
lemma stage_run_concat (e : Engine) (moves : List Move) (m : Move) :
    (e.run (moves ++ [m])).stage =
      ((e.run moves).asks m).elim (e.run moves).stage fun op =>
        ((e.run moves).stage.apply op).1 := by
  rw [run_append, run_cons, run_nil, stage_make]

/-- What one more move does that is none of the client's. -/
inductive Worked (e : Engine) (moves : List Move) (m : Move) : Prop
  /-- No report is handled, and nothing happens on the stage. -/
  | idle (hstage : (e.run (moves ++ [m])).stage = (e.run moves).stage)
    (hspoken : e.spoken (moves ++ [m]) = e.spoken moves) (hresult : (e.run moves).result m = .ok ())
  /-- A report is handled. -/
  | handled (report : Report) (hasks : (e.run moves).asks m = some report.operation)
    (hstage : (e.run (moves ++ [m])).stage = ((e.run moves).stage.apply report.operation).1)
    (hspoken : e.spoken (moves ++ [m]) = e.spoken moves ++ ended (e.run moves, report))

/-- A move that is no command handles a report, or does nothing on the stage. -/
lemma worked_of_not_isCommand (e : Engine) (moves : List Move) {m : Move}
    (hm : m.isCommand = false) : e.Worked moves m := by
  have hstage := stage_run_concat e moves m
  have hasks := asks_of_not_isCommand (e := e.run moves) hm
  have hspoken := spoken_concat e moves m
  cases hreport : (e.run moves).report? m with
  | none =>
    rw [hreport, Option.map_none] at hasks
    rw [hasks, Option.elim_none] at hstage
    rw [hreport, Option.toList_none, List.flatMap_nil, List.append_nil] at hspoken
    exact .idle hstage hspoken (result_of_asks_eq_none hasks)
  | some report =>
    rw [hreport, Option.map_some] at hasks
    rw [hasks, Option.elim_some] at hstage
    rw [hreport, Option.toList_some, List.flatMap_singleton] at hspoken
    exact .handled report hasks hstage hspoken

variable {e₀ : Engine} {name : String} {now : ℕ}

/-- A scene that has been started between scenes is in the repertoire, and its whole course is
ahead. -/
lemma ahead_opening (hidle : e₀.stage.state.session = none)
    (hok : e₀.result (.command now (.trigger name)) = .ok ()) :
    ∃ scene pending, e₀.stage.repertoire.get? name = some scene ∧
      (e₀.stage.trigger name).1.Ahead scene pending (scene.course e₀.stage.settings) := by
  have hasks : e₀.asks (.command now (.trigger name)) = some (.trigger name) := rfl
  have hne : (e₀.stage.trigger name).2 ≠ .error .pauseTooLong :=
    (result_ne_iff hasks).1 (by rw [hok]; exact fun h => nomatch h)
  cases hname : e₀.stage.repertoire.get? name with
  | none =>
    rw [result_eq hasks, Stage.apply,
      Stage.trigger_of_get?_eq_none (State.isActive_of_session_eq_none hidle) hname] at hok
    cases hok
  | some scene =>
    obtain ⟨pending, -, hahead⟩ := (Stage.leadsTo_trigger hidle hname).of_ne hne
    exact ⟨scene, pending, rfl, hahead⟩

end Engine

end Cutscene
