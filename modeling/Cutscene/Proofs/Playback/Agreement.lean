import Cutscene.Proofs.Playback.Attendance
import Cutscene.Proofs.Playback.PlayThrough
import Cutscene.Proofs.Playback.Shown

set_option relaxedAutoImplicit false
set_option autoImplicit false

/-!
# Played by a client, and played through

An engine that is attended by a client who proceeds wherever the player is waited for does what a
loop does that waits for every effect and then proceeds. Both take the same course, whatever late
reports of earlier scenes come in between, and however long the client takes to ask.

## Main definitions

* `Cutscene.Engine.proceedsWhenWaiting` — the policy of such a client.
* `Cutscene.Engine.Follows` — what a run has done and what is ahead of it add up to the course.

## Main results

* `Cutscene.Engine.Attended.follows` — every run that such a client attends follows the course.
* `Cutscene.Engine.agrees_with_playThrough` — a run that has come to its end has said the same
  lines, has asked as often, and has left the same values as the scene played through.

## Design

Nothing is compared step by step. The loop and the run are each measured against the course of the
scene, of which each has taken everything at the end. In particular no assumption on the pauses is
needed: a run that has come to its end has passed them all.
-/

namespace Cutscene

namespace Stage

variable {s : Stage} {scene : Scene} {pending : Option Pending} {cues : List Cue}

/-- Where no scene is played and no effect is running, nothing is ahead. -/
lemma Ahead.eq_nil (h : s.Ahead scene pending cues) (hsession : s.state.session = none)
    (hrunning : s.state.running = none) : cues = [] := by
  cases h with
  | busy hs | waiting hs => simp [hs.session] at hsession
  | settling _ _ hrunning' => simp [hrunning'] at hrunning
  | ended => rfl

end Stage

namespace Engine

variable {r : Repertoire} {settings : Settings} {e₀ : Engine} {scene : Scene} {name : String}
  {moves : List Move} {asked : Option Command} {sent : ℕ}

/-! ## The policy -/

/-- The policy of a client who proceeds where it sees that the player is waited for, and asks for
nothing else. -/
def proceedsWhenWaiting (seen : Snapshot) (c : Command) : Prop := c = .proceed ∧ seen.waiting = true

/-- A run follows the course of a scene: what it has done and what is ahead of it add up to the
course, and what its client waits for is a proceed where the player is waited for. -/
structure Follows (e₀ : Engine) (scene : Scene) (moves : List Move) (asked : Option Command)
    (sent : ℕ) : Prop where
  /-- The lines that were said and those ahead are those of the scene, and so are the proceeds. A
  proceed that has been asked for is still ahead. -/
  ahead : ∃ pending cues, (e₀.run moves).stage.Ahead scene pending cues ∧
    e₀.spoken moves ++ cues.filterMap Cue.line? = scene.steps.filterMap Step.spoken? ∧
    sent + cues.count .proceeded = scene.steps.countP Step.isManual + asked.toList.length
  /-- The client waits for nothing but a proceed, and it will not come too late. -/
  asked : ∀ c ∈ asked, c = .proceed ∧ (e₀.run moves).stage.state.isWaiting = true
  /-- What has been written and what is yet to be written are the assignments of the scene. -/
  values : (Stage.writing e₀.stage.state.values scene).Holds (e₀.run moves).stage

/-! ## Steps -/

/-- A scene that has been started between scenes is in the repertoire, and the run follows it. -/
lemma follows_opening {now : ℕ} (hidle : e₀.stage.state.session = none)
    (hok : e₀.result (.command now (.trigger name)) = .ok ()) :
    ∃ scene, e₀.stage.repertoire.get? name = some scene ∧
      e₀.Follows scene [.command now (.trigger name)] none 0 := by
  obtain ⟨scene, pending, hname, hahead⟩ := ahead_opening hidle hok
  obtain rfl := e₀.stage.repertoire.name_of_get? hname
  have hstage : (e₀.run [.command now (.trigger scene.name)]).stage =
      (e₀.stage.trigger scene.name).1 := stage_run_concat e₀ [] _
  have hholds : (Stage.writing e₀.stage.state.values scene).Holds
      ((e₀.stage.trigger scene.name).1.run []) :=
    Stage.holds_writing hidle hname (List.forall_mem_nil _)
  refine ⟨scene, hname, ⟨pending, _, hstage ▸ hahead, ?_, ?_⟩, ?_, hstage ▸ hholds⟩
  · exact Scene.filterMap_line?_course _ scene
  · rw [Nat.zero_add, Scene.count_proceeded_course]
    rfl
  · simp

/-- Work of timers and on reports keeps following the course.

**Proof sketch.** A move that asks nothing of the stage changes nothing, and a report takes its cues
if it takes any (`Ahead.report`). Where the client waits for its proceed, no effect is waited for,
so that all reports are late and the player is still waited for when the proceed comes. -/
lemma Follows.work (h : e₀.Follows scene moves asked sent) {m : Move} (hm : m.isCommand = false)
    (hok : (e₀.run moves).result m ≠ .error .pauseTooLong) :
    e₀.Follows scene (moves ++ [m]) asked sent := by
  obtain ⟨⟨pending, cues, hahead, hlines, hcount⟩, hasked, hvalues⟩ := h
  cases worked_of_not_isCommand e₀ moves hm with
  | idle hstage hspoken =>
    exact ⟨⟨pending, cues, hstage ▸ hahead, hspoken ▸ hlines, hcount⟩, hstage ▸ hasked,
      hstage ▸ hvalues⟩
  | handled report hasks hstage hspoken =>
    have hvalues' := Stage.Discipline.holds_apply hvalues report.operation (by cases report <;> rfl)
    rw [← hstage] at hvalues'
    have hasked' : ∀ c ∈ asked, c = .proceed ∧
        (e₀.run (moves ++ [m])).stage.state.isWaiting = true := by
      intro c hc
      obtain ⟨hproceed, hwaiting⟩ := hasked c hc
      obtain rfl := hahead.pending_eq_none hwaiting
      rw [hstage, hahead.apply_report]
      exact ⟨hproceed, hwaiting⟩
    rcases hahead.report report ((result_ne_iff hasks).1 hok) with
      ⟨hsame, hended⟩ | ⟨p, length, rest, pending', -, -, rfl, hrest⟩
    · rw [hended, List.append_nil] at hspoken
      exact ⟨⟨pending, cues, hstage ▸ hsame, hspoken ▸ hlines, hcount⟩, hasked', hvalues'⟩
    · refine ⟨⟨pending', rest, hstage ▸ hrest, ?_, ?_⟩, hasked', hvalues'⟩
      · rw [hspoken, ← hlines, List.filterMap_cons, List.filterMap_append,
          Cue.filterMap_line?_said, List.append_assoc]
        rfl
      · rw [← hcount, List.count_cons_of_ne (by simp), List.count_append, Cue.count_said,
          Nat.zero_add]

/-- A client that sees that the player is waited for, and asks for a proceed, follows the course. -/
lemma Follows.ask (h : e₀.Follows scene moves none sent) (hshown : (e₀.run moves).Shown)
    {c : Command} (hpolicy : proceedsWhenWaiting (e₀.run moves).published c) :
    e₀.Follows scene moves (some c) (sent + 1) := by
  obtain ⟨hproceed, hseen⟩ := hpolicy
  obtain ⟨⟨pending, cues, hahead, hlines, hcount⟩, -, hvalues⟩ := h
  have hcount' : sent + 1 + cues.count .proceeded =
      scene.steps.countP Step.isManual + (some c).toList.length := by
    rw [Nat.add_right_comm, hcount]
    rfl
  refine ⟨⟨pending, cues, hahead, hlines, hcount'⟩, ?_, hvalues⟩
  rintro c' ⟨⟩
  exact ⟨hproceed, hshown.depicts.waiting_eq ▸ hseen⟩

/-- A proceed that is handled takes its cue. -/
lemma Follows.serve {c : Command} {now : ℕ} (h : e₀.Follows scene moves (some c) sent)
    (hok : (e₀.run moves).result (.command now c) ≠ .error .pauseTooLong) :
    e₀.Follows scene (moves ++ [.command now c]) none sent := by
  obtain ⟨⟨pending, cues, hahead, hlines, hcount⟩, hasked, hvalues⟩ := h
  obtain ⟨rfl, hwaiting⟩ := hasked c rfl
  obtain rfl := hahead.pending_eq_none hwaiting
  have hstage : (e₀.run (moves ++ [.command now .proceed])).stage =
      (e₀.run moves).stage.proceed.1 := stage_run_concat e₀ moves _
  have hspoken : e₀.spoken (moves ++ [.command now .proceed]) = e₀.spoken moves := by
    rw [spoken_concat]
    exact List.append_nil _
  have hasks : (e₀.run moves).asks (.command now .proceed) = some .proceed := rfl
  have hne : (e₀.run moves).stage.proceed.2 ≠ .error .pauseTooLong :=
    (result_ne_iff hasks).1 hok
  obtain ⟨rest, rfl, hleads⟩ := hahead.proceed hwaiting
  obtain ⟨pending', -, hrest⟩ := hleads.of_ne hne
  refine ⟨⟨pending', rest, hstage ▸ hrest, ?_, ?_⟩, by simp, ?_⟩
  · rw [hspoken, ← hlines]
    rfl
  · rw [List.count_cons_self, ← Nat.add_assoc] at hcount
    exact Nat.succ_inj.1 hcount
  · rw [hstage]
    exact Stage.Discipline.holds_apply hvalues .proceed rfl

/-! ## Runs -/

/-- **Every run follows the course** that a client attends who proceeds wherever the player is
waited for.

**Proof sketch.** Induction on the run, with a lemma for each thing that can happen. -/
theorem Attended.follows (h : Attended proceedsWhenWaiting e₀ name moves asked sent)
    (he : Reachable r settings e₀) (hidle : e₀.stage.state.session = none) :
    ∃ scene, r.get? name = some scene ∧ e₀.Follows scene moves asked sent := by
  induction h with
  | opening now hok =>
    obtain ⟨scene, hname, hfollows⟩ := follows_opening hidle hok
    exact ⟨scene, he.stage.repertoire_eq ▸ hname, hfollows⟩
  | work h m hm hok ih =>
    obtain ⟨scene, hname, hfollows⟩ := ih
    exact ⟨scene, hname, hfollows.work hm hok⟩
  | ask h c hpolicy ih =>
    obtain ⟨scene, hname, hfollows⟩ := ih
    exact ⟨scene, hname, hfollows.ask (shown_of_reachable (he.run _)) hpolicy⟩
  | serve h now hok ih =>
    obtain ⟨scene, hname, hfollows⟩ := ih
    exact ⟨scene, hname, hfollows.serve hok⟩

/-- **A run that has come to its end agrees with the scene played through**, however the reports of
timers and the proceeds of the client were interleaved, if both start from the same variables: the
same lines have been typed to their end, the client has asked as often as the loop proceeds, and the
variables are the same.

**Proof sketch.** At the end nothing is ahead, so the run has taken the whole course
(`Attended.follows`), all pauses of the scene have been in range, and so the loop takes the whole
course as well (`Stage.playsThrough_of_get?`). -/
theorem agrees_with_playThrough {t : Stage} (he : Reachable r settings e₀)
    (hidle : e₀.stage.state.session = none)
    (h : Attended proceedsWhenWaiting e₀ name moves asked sent)
    (hsession : (e₀.run moves).stage.state.session = none)
    (hrunning : (e₀.run moves).stage.state.running = none)
    (ht : Stage.Reachable r settings t) (htidle : t.state.session = none)
    (hvalues : t.state.values = e₀.stage.state.values) :
    ∃ t' p, t.playThrough name = (t', .ok p) ∧
      e₀.spoken moves = p.lines.map Bubble.line ∧ sent = p.proceeds ∧
      (e₀.run moves).stage.state.values = t'.state.values := by
  obtain ⟨scene, hname, ⟨pending, cues, hahead, hlines, hcount⟩, hasked, hwriting⟩ :=
    h.follows he hidle
  obtain rfl := hahead.eq_nil hsession hrunning
  have hfits := hahead.pauseFits hsession
  rw [(he.run moves).stage.settings_eq] at hfits
  have hnone : asked = none := by
    cases asked with
    | none => rfl
    | some c =>
      have hwaiting := (hasked c rfl).2
      simp [State.isWaiting, hsession] at hwaiting
  obtain rfl := r.name_of_get? hname
  obtain ⟨t', p, hplay, hthrough, -⟩ := Stage.playsThrough_of_get? ht htidle hname hfits
  refine ⟨t', p, hplay, ?_, ?_, ?_⟩
  · rw [hthrough.lines, ← hlines, List.filterMap_nil, List.append_nil]
  · rw [hthrough.proceeds]
    simpa [hnone] using hcount
  · rw [hthrough.values, hvalues]
    exact hwriting.between hsession

/-- The rehearsal a second time, while the rest after the first still goes on. Reports of that rest
and of an effect that was cut short come in late, the latter while the client waits for its
answer. -/
theorem agrees_with_playThrough_rehearsing :
    let e₀ := (opening (Repertoire.empty.add rehearsal) .standard (.ofSeed 0)).run
      [.command 0 (.trigger "rehearsal"), .command 0 .proceed, .command 0 .proceed,
        .command 0 .proceed]
    let toLine : List Move := [.command 1 (.trigger "rehearsal"), .tick ⟨4⟩, .tick ⟨5⟩, .deliver 2,
      .deliver 2, .tick ⟨6⟩, .tick ⟨6⟩, .deliver 3, .deliver 3, .tick ⟨6⟩, .deliver 4]
    let toEnd : List Move := [.tick ⟨1⟩, .deliver 5, .command 6 .proceed, .tick ⟨7⟩, .deliver 7,
      .tick ⟨8⟩, .deliver 8]
    Attended proceedsWhenWaiting e₀ "rehearsal" (toLine ++ toEnd) none 1 ∧
      ∃ t' p, e₀.stage.playThrough "rehearsal" = (t', .ok p) ∧
        e₀.spoken (toLine ++ toEnd) = p.lines.map Bubble.line ∧ 1 = p.proceeds ∧
        (e₀.run (toLine ++ toEnd)).stage.state.values = t'.state.values := by
  intro e₀ toLine toEnd
  -- What there is to compute, in one piece: the run is the same in all of it.
  have hcomputed :
      (e₀.result (.command 1 (.trigger "rehearsal")) = .ok () ∧
        (e₀.run [.command 1 (.trigger "rehearsal")]).goesWell toLine.tail = true ∧
        (e₀.run toLine).published.waiting = true ∧
        (e₀.run toLine).goesWell [.tick ⟨1⟩, .deliver 5] = true ∧
        (e₀.run (toLine ++ [.tick ⟨1⟩, .deliver 5])).result (.command 6 .proceed) ≠
          .error .pauseTooLong ∧
        (e₀.run (toLine ++ [.tick ⟨1⟩, .deliver 5] ++ [.command 6 .proceed])).goesWell
          [.tick ⟨7⟩, .deliver 7, .tick ⟨8⟩, .deliver 8] = true) ∧
      e₀.stage.state.session.isNone = true ∧
      (e₀.run (toLine ++ toEnd)).stage.state.session.isNone = true ∧
      (e₀.run (toLine ++ toEnd)).stage.state.running.isNone = true := by
    decide +kernel
  obtain ⟨⟨hok, hline, hwaiting, hlate, hserved, hrest⟩, hidle, hsession, hrunning⟩ := hcomputed
  rw [Option.isNone_iff_eq_none] at hidle hsession hrunning
  have hattended : Attended proceedsWhenWaiting e₀ "rehearsal" toLine none 0 :=
    (Attended.opening 1 hok).goOn hline
  have hasked := (hattended.ask .proceed ⟨rfl, hwaiting⟩).goOn hlate
  have hend : Attended proceedsWhenWaiting e₀ "rehearsal" (toLine ++ toEnd) none 1 :=
    (hasked.serve 6 hserved).goOn hrest
  have he : Reachable (Repertoire.empty.add rehearsal) .standard e₀ :=
    (Reachable.opening (.ofSeed 0)).run _
  exact ⟨hend, agrees_with_playThrough he hidle hend hsession hrunning he.stage hidle rfl⟩

end Engine

end Cutscene
