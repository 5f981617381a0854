import Cutscene.Proofs.Playback.Clock
import Cutscene.Proofs.Playback.Failure
import Cutscene.Proofs.Playback.Inputs

set_option relaxedAutoImplicit false
set_option autoImplicit false

/-!
# Where players get stuck

A player who has nothing but the mark for going on and the key to confirm gets to the end of a scene
exactly if each of its steps before the last is a line, or goes on by itself, or may be cut short.
Then there is no way to get stuck on the way; otherwise there is no way around the step.

## Main definitions

* `Cutscene.Step.IsPassable`, `Cutscene.Scene.IsPassable` — whether players get past a step, and to
  the end of a scene.
* `Cutscene.Stage.HasPassed` — players get past all steps that have been left behind.
* `Cutscene.Engine.clicksOrConfirms` — the policy of a player who has nothing but the two inputs.
* `Cutscene.Engine.OnWay` — what is true along a run of such a player.
* `Cutscene.Engine.CanEnd` — such a player can get to the end of a scene.
* `Cutscene.Engine.MovesOn` — when a player gets stuck, and when not.

## Main results

* `Cutscene.Engine.Attended.onWay` — only steps that can be passed are left behind.
* `Cutscene.Engine.Attended.exists_end` — from every point of a scene that can be passed, its end
  can still be reached.
* `Cutscene.Engine.moves_on` — single inputs and whole runs.

## Design

The mark is looked at before the command is sent, and the command is handled later. What makes the
look reliable is that the mark is enabled only where no effect is running: until the answer comes,
all reports are late, and the player is still waited for at the same line.

A pause that is out of range once it has been scaled ends an engine where it is, so nobody gets past
it. Nothing is assumed about pauses; they are a part of what is proved equivalent.
-/

namespace Cutscene

/-! ## Steps that can be passed -/

/-- Players get past a step if it is a line, or goes on by itself, or may be cut short. -/
def Step.IsPassable (step : Step) : Prop :=
  step.isSay = true ∨ step.autoAdvance = true ∨ step.skippable = true

/-- Players get past all steps of a scene before the one that completes it. -/
def Scene.IsPassable (scene : Scene) : Prop :=
  ∀ step ∈ scene.steps, step.isComplete = false → step.IsPassable

/-- Players get past all steps of a scene up to a place. -/
def Scene.PassableBelow (scene : Scene) (n : ℕ) : Prop :=
  ∀ i step, i < n → scene.steps[i]? = some step → step.isComplete = false → step.IsPassable

/-- A scene with a step that nobody gets past: it assigns nothing, and waits. -/
def deadEnd : Scene where
  name := "dead end"
  steps := [⟨.assign .empty, false, false⟩, ⟨.complete, true, false⟩]
  closed := ⟨[⟨.assign .empty, false, false⟩], ⟨.complete, true, false⟩, rfl, rfl, by
    simp [Step.isComplete, Step.kind, Action.kind]⟩

/-- A line does not complete its scene. -/
lemma Step.isComplete_of_isSay {step : Step} (h : step.isSay = true) : step.isComplete = false := by
  rw [isSay, beq_iff_eq] at h
  rw [isComplete, h]
  rfl

/-- A line that has an effect is typed. -/
lemma Step.isTyping_of_isSay {settings : Settings} {step : Step} {effect : Effect}
    (h : step.effect? settings = some effect) (hsay : step.isSay = true) :
    effect.isTyping = true := by
  cases haction : step.action with
  | say line =>
    by_cases hline : line.length = 0
    · simp [effect?, haction, hline] at h
    · obtain rfl : Effect.typing line.length = effect := by simpa [effect?, haction, hline] using h
      rfl
  | pause _ | assign _ | reset | complete => simp [isSay, kind, Action.kind, haction] at hsay

namespace Scene

variable {scene : Scene} {settings : Settings} {c k n : ℕ} {step : Step}

/-- There are no steps before the start of a scene. -/
lemma passableBelow_zero (scene : Scene) : scene.PassableBelow 0 :=
  fun i _ hi => absurd hi (Nat.not_lt_zero i)

/-- One more step that players get past. -/
lemma PassableBelow.succ (h : scene.PassableBelow n) (hstep : scene.steps[n]? = some step)
    (hpassable : step.isComplete = false → step.IsPassable) : scene.PassableBelow (n + 1) := by
  intro i step' hi hstep'
  rcases Nat.lt_succ_iff_lt_or_eq.1 hi with hi | rfl
  · exact h i step' hi hstep'
  · cases hstep.symm.trans hstep'
    exact hpassable

/-- Steps that are left at once are passed. -/
lemma Leads.passableBelow (h : scene.Leads settings c k step) (hpassable : scene.PassableBelow c) :
    scene.PassableBelow k := by
  intro i passing hi hstep hcomplete
  rcases Nat.lt_or_ge i c with hic | hic
  · exact hpassable i passing hic hstep hcomplete
  · exact Or.inr (Or.inl (h.passed i passing hic hi hstep).auto)

/-- Players get past all steps up to the end of a scene exactly if they get past the scene. -/
lemma passableBelow_length (scene : Scene) :
    scene.PassableBelow scene.steps.length ↔ scene.IsPassable := by
  constructor
  · intro h step hmem
    obtain ⟨i, hi, rfl⟩ := List.getElem_of_mem hmem
    exact h i _ hi (List.getElem?_eq_getElem hi)
  · intro h i step _ hstep
    exact h step (List.mem_of_getElem? hstep)

end Scene

namespace Stage

variable {s s' : Stage} {scene : Scene} {settings : Settings} {c : ℕ} {step : Step}
  {pending : Option Pending} {cues : List Cue} {result : Stage × Outcome}

/-! ## What has been passed -/

/-- Players get past all steps of a scene that a stage has left behind. -/
inductive HasPassed (s : Stage) (scene : Scene) : Prop
  /-- The scene is played. -/
  | during {c : ℕ} (hsession : s.state.session = some ⟨scene, c⟩)
    (hpassable : scene.PassableBelow c)
  /-- The scene is over. -/
  | ended (hsession : s.state.session = none) (hpassable : scene.IsPassable)

/-- What has been passed is told from the cursor. -/
lemma HasPassed.congr (h : s.HasPassed scene) (hsession : s'.state.session = s.state.session) :
    s'.HasPassed scene := by
  cases h with
  | during hsession' hpassable => exact .during (hsession.trans hsession') hpassable
  | ended hsession' hpassable => exact .ended (hsession.trans hsession') hpassable

/-- Up to the cursor all steps are passed. -/
lemma HasPassed.passableBelow (h : s.HasPassed scene) (hs : StandsAt s scene c step) :
    scene.PassableBelow c := by
  cases h with
  | during hsession hpassable =>
    cases hs.session.symm.trans hsession
    exact hpassable
  | ended hsession => simp [hs.session] at hsession

/-- A landing has passed what was passed before, and what was left at once. -/
lemma Landing.hasPassed (h : Landing settings scene c result) (hpassable : scene.PassableBelow c) :
    result.1.HasPassed scene := by
  obtain ⟨k, step, hleads, hlanded⟩ := h
  have hbelow := hleads.passableBelow hpassable
  have hcurrent := hleads.current
  cases hlanded with
  | refused hs | busy hs | waiting hs => exact .during hs.session hbelow
  | ended hsession hcomplete =>
    have hlength : k + 1 = scene.steps.length := (Scene.isComplete_iff hcurrent).1 hcomplete
    have hall : scene.PassableBelow (k + 1) :=
      hbelow.succ hcurrent fun hfalse => by simp [hcomplete] at hfalse
    exact .ended hsession ((Scene.passableBelow_length scene).1 (hlength ▸ hall))

/-- Leaving a step that can be passed. -/
lemma HasPassed.proceed (h : s.HasPassed scene) (hs : StandsAt s scene c step)
    (hcomplete : step.isComplete = false) (hpassable : step.IsPassable) :
    s.proceed.1.HasPassed scene :=
  (landing_proceed hs hcomplete).hasPassed
    ((h.passableBelow hs).succ hs.current fun _ => hpassable)

/-- A stage in the middle of a scene either stands at a step that does not complete it, or the scene
is over. -/
lemma Ahead.stands (h : s.Ahead scene pending cues) :
    (∃ c step, StandsAt s scene c step ∧ step.isComplete = false) ∨ s.state.session = none := by
  cases h with
  | busy hs hcomplete | waiting hs hcomplete => exact Or.inl ⟨_, _, hs, hcomplete⟩
  | settling hsession | ended hsession => exact Or.inr hsession

/-- A confirmation leaves only steps that can be passed. -/
lemma HasPassed.confirm (h : s.HasPassed scene) (hahead : s.Ahead scene pending cues) :
    s.confirm.1.HasPassed scene := by
  rw [confirm_eq]
  split
  next hmay =>
    rcases hahead.stands with ⟨c, step, hs, hcomplete⟩ | hsession
    · rw [hs.step?_eq, Option.any_some, State.mayLeave, Bool.or_eq_true, Bool.and_eq_true] at hmay
      refine h.proceed hs hcomplete ?_
      rcases hmay with hskippable | ⟨hsay, -⟩
      · exact Or.inr (Or.inr hskippable)
      · exact Or.inl hsay
    · rwa [proceed_of_not_isActive (State.isActive_of_session_eq_none hsession)]
  next => exact h

/-- The end of an effect leaves only steps that go on by themselves. -/
lemma HasPassed.resolve (h : s.HasPassed scene) (hahead : s.Ahead scene pending cues)
    (ticket : Ticket) : (s.resolve ticket).1.HasPassed scene := by
  have hfinish : (s.finish ticket).HasPassed scene := h.congr (session_finish s ticket)
  rw [resolve_eq]
  split
  next hauto =>
    cases hahead with
    | @busy c step effect ticket' hs hcomplete _ _ hrunning =>
      rw [hrunning, Option.any_some, Bool.and_eq_true] at hauto
      have hs' : StandsAt (s.finish ticket) scene c step :=
        ⟨(session_finish s ticket).trans hs.session, hs.current⟩
      exact hfinish.proceed hs' hcomplete (Or.inr (Or.inl hauto.2))
    | waiting _ _ _ _ hrunning => simp [hrunning] at hauto
    | settling hsession | ended hsession =>
      have hsession' : (s.finish ticket).state.session = none := by rw [session_finish, hsession]
      rwa [proceed_of_not_isActive (State.isActive_of_session_eq_none hsession')]
  next => exact hfinish

/-- Reports leave only steps that go on by themselves. -/
lemma HasPassed.report (h : s.HasPassed scene) (hahead : s.Ahead scene pending cues)
    (report : Report) : (s.apply report.operation).1.HasPassed scene := by
  cases report with
  | reveal ticket => exact h.congr (session_reveal s ticket)
  | resolved ticket => exact h.resolve hahead ticket

/-! ## Going on -/

/-- A proceed during a scene takes the cues of a step. -/
lemma Ahead.leave (h : s.Ahead scene pending cues) (hs : StandsAt s scene c step) :
    ∃ rest, rest.length < cues.length ∧ LeadsTo scene rest s.proceed := by
  cases h with
  | @busy c' step' effect ticket hs' hcomplete hfits heffect hrunning =>
    refine ⟨_, ?_, leadsTo_proceed hs' hcomplete hfits⟩
    rw [Scene.courseFrom_eq hs'.current]
    simp only [Step.course, Step.cues, heffect, List.length_append, List.length_cons]
    omega
  | waiting hs' hcomplete hfits =>
    exact ⟨_, Nat.lt_succ_self _, leadsTo_proceed hs' hcomplete hfits⟩
  | settling hsession | ended hsession => simp [hs.session] at hsession

/-- A proceed or a confirmation takes cues, or it does nothing. -/
lemma Ahead.onward {op : Operation} (h : s.Ahead scene pending cues)
    (hop : op = .proceed ∨ op = .confirm) :
    s.apply op = (s, .ok none) ∨
      ∃ rest, rest.length < cues.length ∧ LeadsTo scene rest (s.apply op) := by
  have hproceed : s.proceed = (s, .ok none) ∨
      ∃ rest, rest.length < cues.length ∧ LeadsTo scene rest s.proceed := by
    rcases h.stands with ⟨c, step, hs, -⟩ | hsession
    · exact Or.inr (h.leave hs)
    · exact Or.inl (proceed_of_not_isActive (State.isActive_of_session_eq_none hsession))
  rcases hop with rfl | rfl
  · exact hproceed
  · rw [apply, confirm_eq]
    split
    · exact hproceed
    · exact Or.inl rfl

/-- A report does not fail where all pauses of the scene are in range. -/
lemma Ahead.report_ne (h : s.Ahead scene pending cues)
    (hfits : ∀ step ∈ scene.steps, step.PauseFits s.settings) (report : Report) :
    (s.apply report.operation).2 ≠ .error .pauseTooLong := by
  intro hlong
  cases report with
  | reveal ticket => cases hlong
  | resolved ticket =>
    cases hcurrent : s.state.isCurrent ticket with
    | false =>
      rw [Report.operation, apply, resolve_of_not_isCurrent hcurrent] at hlong
      cases hlong
    | true =>
      cases pending with
      | none => simp [h.not_isCurrent ticket] at hcurrent
      | some p =>
        obtain rfl := (h.isCurrent ticket).1 hcurrent
        obtain ⟨rest, -, hleads⟩ := h.resolve
        have hsettings := settings_apply s (.resolve p.ticket)
        obtain ⟨pending', hok, -⟩ := hleads.ok (by rwa [← hsettings] at hfits)
        rw [Report.operation, apply, hok] at hlong
        cases hlong

/-- A line at which nothing is typed has no effect running. -/
lemma Ahead.running_eq_none (h : s.Ahead scene pending cues) (hs : StandsAt s scene c step)
    (hsay : step.isSay = true) (htyping : s.state.running.any Running.typing = false) :
    s.state.running = none := by
  cases h with
  | @busy c' step' effect ticket hs' _ _ heffect hrunning =>
    obtain ⟨rfl, rfl⟩ := hs.eq_of_standsAt hs'
    rw [hrunning, Option.any_some, Step.isTyping_of_isSay heffect hsay] at htyping
    cases htyping
  | waiting _ _ _ _ hrunning => exact hrunning
  | settling hsession | ended hsession => simp [hs.session] at hsession

/-- The player is waited for at a line. -/
structure AtLine (s : Stage) (scene : Scene) (c : ℕ) (step : Step) : Prop
    extends StandsAt s scene c step where
  /-- The step is a line. -/
  say : step.isSay = true
  /-- No effect is running. -/
  running : s.state.running = none

/-- The player is waited for there. -/
lemma AtLine.isWaiting (h : AtLine s scene c step) : s.state.isWaiting = true := by
  simp [State.isWaiting, h.session, h.running]

end Stage

namespace Engine

variable {r : Repertoire} {settings : Settings} {e₀ : Engine} {scene : Scene} {name : String}
  {moves : List Move} {asked : Option Command} {sent : ℕ}

/-! ## Players with a mark and a key -/

/-- The policy of a player who has nothing but the mark for going on and the key to confirm. -/
def clicksOrConfirms (seen : Snapshot) (c : Command) : Prop :=
  Input.command? seen .proceed = some c ∨ Input.command? seen .confirm = some c

/-- A run on its way through a scene: whatever has been left behind can be passed, and if the client
waits for a proceed, the player is waited for at a line. -/
structure OnWay (e₀ : Engine) (scene : Scene) (moves : List Move) (asked : Option Command) :
    Prop where
  /-- The stage is in the middle of the scene, or at its end. -/
  ahead : ∃ pending cues, (e₀.run moves).stage.Ahead scene pending cues
  /-- Players get past all steps that have been left behind. -/
  passed : (e₀.run moves).stage.HasPassed scene
  /-- The client waits for a confirmation, or for a proceed that leaves a line. -/
  asked : ∀ command ∈ asked, command = .confirm ∨
    command = .proceed ∧ ∃ c step, (e₀.run moves).stage.AtLine scene c step

/-- A scene that has been started between scenes. -/
lemma onWay_opening {now : ℕ} (hidle : e₀.stage.state.session = none)
    (hok : e₀.result (.command now (.trigger name)) = .ok ()) :
    ∃ scene, e₀.stage.repertoire.get? name = some scene ∧
      e₀.OnWay scene [.command now (.trigger name)] none := by
  obtain ⟨scene, pending, hname, hahead⟩ := ahead_opening hidle hok
  have hstage : (e₀.run [.command now (.trigger name)]).stage = (e₀.stage.trigger name).1 :=
    stage_run_concat e₀ [] _
  have hpassed := (Stage.landing_trigger hidle hname).hasPassed scene.passableBelow_zero
  exact ⟨scene, hname, ⟨pending, _, hstage ▸ hahead⟩, hstage ▸ hpassed, by simp⟩

/-- Work of timers and on reports. While the client waits for a proceed, all reports are late, and
the line stays where it is. -/
lemma OnWay.work (h : e₀.OnWay scene moves asked) {m : Move} (hm : m.isCommand = false)
    (hok : (e₀.run moves).result m ≠ .error .pauseTooLong) :
    e₀.OnWay scene (moves ++ [m]) asked := by
  obtain ⟨⟨pending, cues, hahead⟩, hpassed, hasked⟩ := h
  cases worked_of_not_isCommand e₀ moves hm with
  | idle hstage =>
    exact ⟨⟨pending, cues, hstage ▸ hahead⟩, hstage ▸ hpassed, hstage ▸ hasked⟩
  | handled report hasks hstage =>
    refine ⟨?_, hstage ▸ hpassed.report hahead report, ?_⟩
    · rcases hahead.report report ((result_ne_iff hasks).1 hok) with
        ⟨hsame, -⟩ | ⟨-, -, rest, pending', -, -, -, hrest⟩
      · exact ⟨pending, cues, hstage ▸ hsame⟩
      · exact ⟨pending', rest, hstage ▸ hrest⟩
    · intro command hcommand
      rcases hasked command hcommand with hconfirm | ⟨hproceed, c, step, hline⟩
      · exact Or.inl hconfirm
      · obtain rfl := hahead.pending_eq_none hline.isWaiting
        rw [hahead.apply_report] at hstage
        exact Or.inr ⟨hproceed, c, step, hstage ▸ hline⟩

/-- The player clicks the mark or presses the key.

**Proof sketch.** The mark is enabled only at a line that is not being typed, and then no effect is
running at all. -/
lemma OnWay.ask (h : e₀.OnWay scene moves none) (he : Reachable r settings (e₀.run moves))
    {command : Command} (hpolicy : clicksOrConfirms (e₀.run moves).published command) :
    e₀.OnWay scene moves (some command) := by
  obtain ⟨⟨pending, cues, hahead⟩, hpassed, -⟩ := h
  refine ⟨⟨pending, cues, hahead⟩, hpassed, ?_⟩
  rintro command' ⟨⟩
  rcases hpolicy with hmark | hkey
  · right
    have hseen : (e₀.run moves).published.canProceed = true ∧ Command.proceed = command := by
      simpa [Input.command?] using hmark
    obtain ⟨hcan, rfl⟩ := hseen
    rw [(shown_of_reachable he).depicts.canProceed_eq 0] at hcan
    rcases hahead.stands with ⟨c, step, hs, -⟩ | hsession
    · obtain ⟨-, -, -, -, hat⟩ := (Stage.holds_screen he.stage).during hs.session
      rw [hat.canProceed_eq hs, Bool.and_eq_true, Bool.not_eq_true', hat.typing] at hcan
      exact ⟨rfl, c, step, hs, hcan.1, hahead.running_eq_none hs hcan.1 hcan.2⟩
    · simp [Snapshot.canProceed, Snapshot.ofState, State.isActive, hsession] at hcan
  · left
    exact (Option.some.inj hkey).symm

/-- What the client has asked for is a proceed or a confirmation. -/
lemma OnWay.operation_eq {command : Command} (h : e₀.OnWay scene moves (some command)) :
    command.operation = .proceed ∨ command.operation = .confirm := by
  rcases h.asked command rfl with rfl | ⟨rfl, -⟩
  · exact Or.inr rfl
  · exact Or.inl rfl

/-- What the client has asked for is handled. -/
lemma OnWay.serve {command : Command} {now : ℕ} (h : e₀.OnWay scene moves (some command))
    (hok : (e₀.run moves).result (.command now command) ≠ .error .pauseTooLong) :
    e₀.OnWay scene (moves ++ [.command now command]) none := by
  obtain ⟨⟨pending, cues, hahead⟩, hpassed, hasked⟩ := h
  have hstage : (e₀.run (moves ++ [.command now command])).stage =
      ((e₀.run moves).stage.apply command.operation).1 := stage_run_concat e₀ moves _
  have hasks : (e₀.run moves).asks (.command now command) = some command.operation := rfl
  have hop := OnWay.operation_eq ⟨⟨pending, cues, hahead⟩, hpassed, hasked⟩
  refine ⟨?_, hstage ▸ ?_, by simp⟩
  · rcases hahead.onward hop with hsame | ⟨rest, -, hleads⟩
    · exact ⟨pending, cues, by rw [hstage, hsame]; exact hahead⟩
    · obtain ⟨pending', -, hrest⟩ := hleads.of_ne ((result_ne_iff hasks).1 hok)
      exact ⟨pending', rest, hstage ▸ hrest⟩
  · rcases hasked command rfl with rfl | ⟨rfl, c, step, hline⟩
    · exact hpassed.confirm hahead
    · exact hpassed.proceed hline.toStandsAt (Step.isComplete_of_isSay hline.say)
        (Or.inl hline.say)

/-- **Only steps that can be passed are left behind** by a player who has nothing but the mark and
the key.

**Proof sketch.** Induction on the run, with a lemma for each thing that can happen. -/
theorem Attended.onWay (h : Attended clicksOrConfirms e₀ name moves asked sent)
    (he : Reachable r settings e₀) (hidle : e₀.stage.state.session = none) :
    ∃ scene, r.get? name = some scene ∧ e₀.OnWay scene moves asked := by
  induction h with
  | opening now hok =>
    obtain ⟨scene, hname, hway⟩ := onWay_opening hidle hok
    exact ⟨scene, he.stage.repertoire_eq ▸ hname, hway⟩
  | work h m hm hok ih =>
    obtain ⟨scene, hname, hway⟩ := ih
    exact ⟨scene, hname, hway.work hm hok⟩
  | ask h c hpolicy ih =>
    obtain ⟨scene, hname, hway⟩ := ih
    exact ⟨scene, hname, hway.ask (he.run _) hpolicy⟩
  | serve h now hok ih =>
    obtain ⟨scene, hname, hway⟩ := ih
    exact ⟨scene, hname, hway.serve hok⟩

/-! ## Ways to the end -/

section WaysToTheEnd

variable {policy : Snapshot → Command → Prop} {pending : Option Pending} {cues : List Cue}
  (hfits : ∀ step ∈ scene.steps, step.PauseFits e₀.stage.settings)

include hfits

/-- Whatever leads on after a run of the scene leads on well. -/
lemma ok_of_leadsTo {op : Operation} {rest : List Cue}
    (h : Stage.LeadsTo scene rest ((e₀.run moves).stage.apply op)) :
    ∃ pending, ((e₀.run moves).stage.apply op).2 = .ok pending ∧
      ((e₀.run moves).stage.apply op).1.Ahead scene pending rest := by
  refine h.ok ?_
  rwa [Stage.settings_apply, settings_run]

/-- A scene can be started between scenes. -/
lemma attended_opening (hidle : e₀.stage.state.session = none)
    (hname : e₀.stage.repertoire.get? scene.name = some scene) :
    Attended policy e₀ scene.name [.command 0 (.trigger scene.name)] none 0 := by
  have hasks : e₀.asks (.command 0 (.trigger scene.name)) = some (.trigger scene.name) := rfl
  have hleads : Stage.LeadsTo scene (scene.course e₀.stage.settings)
      ((e₀.run []).stage.apply (.trigger scene.name)) := Stage.leadsTo_trigger hidle hname
  obtain ⟨pending, hok, -⟩ := ok_of_leadsTo hfits hleads
  rw [run_nil] at hok
  refine .opening 0 ?_
  rw [result_eq hasks, hok]
  rfl

/-- A run goes on with one more move that is none of the client's. Either nothing comes of it, or it
takes cues from what is ahead. -/
lemma Attended.workOnce (h : Attended policy e₀ name moves asked sent)
    (hahead : (e₀.run moves).stage.Ahead scene pending cues) {m : Move} (hm : m.isCommand = false) :
    Attended policy e₀ name (moves ++ [m]) asked sent ∧
      ((e₀.run (moves ++ [m])).stage.Ahead scene pending cues ∨
        ∃ pending' cues', cues'.length < cues.length ∧
          (e₀.run (moves ++ [m])).stage.Ahead scene pending' cues') := by
  cases worked_of_not_isCommand e₀ moves hm with
  | idle hstage _ hresult =>
    refine ⟨h.work m hm ?_, Or.inl (hstage ▸ hahead)⟩
    rw [hresult]
    exact fun hlong => nomatch hlong
  | handled report hasks hstage =>
    have hne := hahead.report_ne (by rwa [settings_run]) report
    refine ⟨h.work m hm ((result_ne_iff hasks).2 hne), ?_⟩
    rw [hstage]
    rcases hahead.report report hne with ⟨hsame, -⟩ | ⟨-, -, rest, pending', -, -, rfl, hrest⟩
    · exact Or.inl hsame
    · refine Or.inr ⟨pending', rest, ?_, hrest⟩
      rw [List.length_cons, List.length_append]
      omega

/-- So it does with several. -/
lemma Attended.workOn (h : Attended policy e₀ name moves asked sent)
    (hahead : (e₀.run moves).stage.Ahead scene pending cues) {more : List Move}
    (hmore : ∀ m ∈ more, m.isCommand = false) :
    Attended policy e₀ name (moves ++ more) asked sent ∧
      ((e₀.run (moves ++ more)).stage.Ahead scene pending cues ∨
        ∃ pending' cues', cues'.length < cues.length ∧
          (e₀.run (moves ++ more)).stage.Ahead scene pending' cues') := by
  induction more generalizing moves pending cues with
  | nil => simpa using ⟨h, Or.inl hahead⟩
  | cons m more ih =>
    obtain ⟨hm, hmore⟩ := List.forall_mem_cons.1 hmore
    rw [List.append_cons]
    obtain ⟨hattended, hsame | ⟨pending₁, cues₁, hlt₁, hahead₁⟩⟩ := h.workOnce hfits hahead hm
    · exact ih hattended hsame hmore
    · obtain ⟨hdone, hsame | ⟨pending', cues', hlt, hahead'⟩⟩ := ih hattended hahead₁ hmore
      · exact ⟨hdone, Or.inr ⟨pending₁, cues₁, hlt₁, hsame⟩⟩
      · exact ⟨hdone, Or.inr ⟨pending', cues', hlt.trans hlt₁, hahead'⟩⟩

/-- An effect that is waited for comes to its end, and takes its cues.

**Proof sketch.** Its timer reports the end and the queue is handled up to it
(`not_isCurrent_after_ticks`). Cues must have been taken on the way, since with the same cues ahead
the effect would still be running. -/
lemma Attended.waitOn {p : Pending} (h : Attended policy e₀ name moves asked sent)
    (he : Reachable r settings (e₀.run moves))
    (hahead : (e₀.run moves).stage.Ahead scene (some p) cues) :
    ∃ more pending' cues', Attended policy e₀ name (moves ++ more) asked sent ∧
      cues'.length < cues.length ∧ (e₀.run (moves ++ more)).stage.Ahead scene pending' cues' := by
  have hcurrent := (hahead.isCurrent p.ticket).2 rfl
  obtain ⟨ticks, reports, hover⟩ := not_isCurrent_after_ticks (synced_of_reachable he) hcurrent 0
  have hmore : ∀ m ∈ List.replicate ticks (Move.tick p.ticket) ++
      List.replicate reports (.deliver 0), m.isCommand = false := by
    intro m hm
    rcases List.mem_append.1 hm with hm | hm <;> rw [List.eq_of_mem_replicate hm] <;> rfl
  obtain ⟨hdone, hsame | ⟨pending', cues', hlt, hahead'⟩⟩ := h.workOn hfits hahead hmore
  · have hstill := (hsame.isCurrent p.ticket).2 rfl
    rw [run_append, hover] at hstill
    cases hstill
  · exact ⟨_, pending', cues', hdone, hlt, hahead'⟩

/-- What the client has asked for is handled, and leads on. -/
lemma Attended.serveOn {command : Command} {rest : List Cue}
    (h : Attended policy e₀ name moves (some command) sent)
    (hleads : Stage.LeadsTo scene rest ((e₀.run moves).stage.apply command.operation)) :
    Attended policy e₀ name (moves ++ [.command 0 command]) none sent ∧
      ∃ pending', (e₀.run (moves ++ [.command 0 command])).stage.Ahead scene pending' rest := by
  have hasks : (e₀.run moves).asks (.command 0 command) = some command.operation := rfl
  have hstage : (e₀.run (moves ++ [.command 0 command])).stage =
      ((e₀.run moves).stage.apply command.operation).1 := stage_run_concat e₀ moves _
  obtain ⟨pending', hok, hahead⟩ := ok_of_leadsTo hfits hleads
  refine ⟨h.serve 0 ((result_ne_iff hasks).2 ?_), pending', hstage ▸ hahead⟩
  rw [hok]
  exact fun hlong => nomatch hlong

/-- Where a step can be passed and the player is waited for, the key leaves it. -/
lemma Attended.confirmOn {c : ℕ} {step : Step}
    (h : Attended clicksOrConfirms e₀ name moves none sent)
    (he : Reachable r settings (e₀.run moves))
    (hahead : (e₀.run moves).stage.Ahead scene none cues)
    (hs : (e₀.run moves).stage.StandsAt scene c step) (hmanual : step.autoAdvance = false)
    (hrunning : (e₀.run moves).stage.state.running = none) (hpassable : step.IsPassable) :
    ∃ pending' cues',
      Attended clicksOrConfirms e₀ name (moves ++ [.command 0 .confirm]) none (sent + 1) ∧
        cues'.length < cues.length ∧
        (e₀.run (moves ++ [.command 0 .confirm])).stage.Ahead scene pending' cues' := by
  obtain ⟨-, -, -, -, hat⟩ := (Stage.holds_screen he.stage).during hs.session
  have htyping : (e₀.run moves).stage.state.typing = false := by
    rw [hat.typing, hrunning, Option.any_none]
  have hopens : Input.opens .confirm step = true := by
    rcases hpassable with hsay | hauto | hskippable
    · simp [Input.opens, hsay]
    · rw [hmanual] at hauto
      cases hauto
    · simp [Input.opens, hskippable]
  have hconfirm := Stage.confirm_of_not_typing hs htyping
  rw [hopens, if_pos rfl] at hconfirm
  obtain ⟨rest, hlt, hleads⟩ := hahead.leave hs
  rw [← hconfirm] at hleads
  obtain ⟨hserved, pending', hrest⟩ := (h.ask .confirm (Or.inr rfl)).serveOn hfits hleads
  exact ⟨pending', rest, hserved, hlt, hrest⟩

/-- A client that waits for an answer gets it. -/
lemma Attended.answered (h : Attended clicksOrConfirms e₀ name moves asked sent)
    (hway : e₀.OnWay scene moves asked) :
    ∃ more pending' cues', Attended clicksOrConfirms e₀ name (moves ++ more) none sent ∧
      (e₀.run (moves ++ more)).stage.Ahead scene pending' cues' := by
  obtain ⟨pending, cues, hahead⟩ := hway.ahead
  cases asked with
  | none => exact ⟨[], pending, cues, by rwa [List.append_nil], by rwa [List.append_nil]⟩
  | some command =>
    rcases hahead.onward hway.operation_eq with hsame | ⟨rest, -, hleads⟩
    · have hasks : (e₀.run moves).asks (.command 0 command) = some command.operation := rfl
      have hstage := stage_run_concat e₀ moves (.command 0 command)
      rw [hasks, Option.elim_some, hsame] at hstage
      refine ⟨[.command 0 command], pending, cues, h.serve 0 ((result_ne_iff hasks).2 ?_), ?_⟩
      · rw [hsame]
        exact fun hlong => nomatch hlong
      · rwa [hstage]
    · obtain ⟨hserved, pending', hrest⟩ := h.serveOn hfits hleads
      exact ⟨[.command 0 command], pending', rest, hserved, hrest⟩

/-- **The end of a scene can be reached from everywhere** by a player who gets past all its steps.

**Proof sketch.** Induction on the number of cues ahead. An effect is waited for to its end
(`Attended.waitOn`), and where the player is waited for, the key leaves the step
(`Attended.confirmOn`). Either takes cues. -/
theorem Attended.exists_end (h : Attended clicksOrConfirms e₀ name moves none sent)
    (he : Reachable r settings e₀) (hahead : (e₀.run moves).stage.Ahead scene pending cues)
    (hpassable : scene.IsPassable) :
    ∃ more sent', Attended clicksOrConfirms e₀ name (moves ++ more) none sent' ∧
      (e₀.run (moves ++ more)).stage.state.session = none := by
  induction hn : cues.length using Nat.strong_induction_on generalizing moves sent pending cues with
  | _ n ih =>
    subst hn
    have hrun := he.run moves
    have hnext : ∀ {more pending' cues' sent'},
        Attended clicksOrConfirms e₀ name (moves ++ more) none sent' →
        cues'.length < cues.length →
        (e₀.run (moves ++ more)).stage.Ahead scene pending' cues' →
        ∃ more sent', Attended clicksOrConfirms e₀ name (moves ++ more) none sent' ∧
          (e₀.run (moves ++ more)).stage.state.session = none := by
      intro more pending' cues' sent' hmore hlt hahead'
      obtain ⟨rest, sent'', hrest, hover⟩ := ih _ hlt hmore hahead' rfl
      rw [List.append_assoc] at hrest hover
      exact ⟨more ++ rest, sent'', hrest, hover⟩
    have hplace := hahead
    cases hplace with
    | busy =>
      obtain ⟨more, pending', cues', hmore, hlt, hahead'⟩ := h.waitOn hfits hrun hahead
      exact hnext hmore hlt hahead'
    | waiting hs hcomplete hbelow hmanual hrunning =>
      have hstep := hpassable _ (List.mem_of_getElem? hs.current) hcomplete
      obtain ⟨pending', cues', hmore, hlt, hahead'⟩ :=
        h.confirmOn hfits hrun hahead hs hmanual hrunning hstep
      exact hnext hmore hlt hahead'
    | settling hsession | ended hsession =>
      exact ⟨[], sent, by rwa [List.append_nil], by rwa [List.append_nil]⟩

/-- So nobody gets stuck in a scene that can be passed, wherever a run has come to. -/
lemma Attended.exists_end_of_isPassable
    (h : Attended clicksOrConfirms e₀ scene.name moves asked sent) (he : Reachable r settings e₀)
    (hidle : e₀.stage.state.session = none) (hname : r.get? scene.name = some scene)
    (hpassable : scene.IsPassable) :
    ∃ more asked' sent', Attended clicksOrConfirms e₀ scene.name (moves ++ more) asked' sent' ∧
      (e₀.run (moves ++ more)).stage.state.session = none := by
  obtain ⟨scene', hname', hway⟩ := h.onWay he hidle
  obtain rfl : scene' = scene := Option.some.inj (hname'.symm.trans hname)
  obtain ⟨more, pending, cues, hanswered, hahead⟩ := h.answered hfits hway
  obtain ⟨rest, sent', hend, hover⟩ := hanswered.exists_end hfits he hahead hpassable
  rw [List.append_assoc] at hend hover
  exact ⟨more ++ rest, none, sent', hend, hover⟩

end WaysToTheEnd

/-! ## When players get stuck -/

/-- The end of a scene can be reached: there is a run in which a player starts it, has nothing but
the mark and the key from there on, and comes to where it is over. -/
def CanEnd (e₀ : Engine) (scene : Scene) : Prop :=
  ∃ moves asked sent, Attended clicksOrConfirms e₀ scene.name moves asked sent ∧
    (e₀.run moves).stage.state.session = none

/-- When a player who has nothing but the mark for going on and the key to confirm gets stuck, and
when not. -/
structure MovesOn (r : Repertoire) (settings : Settings) : Prop where
  /-- Where the player is waited for, the key leaves a line and a step that may be cut short, the
  mark leaves a line, and otherwise they do nothing. -/
  dispatched : ∀ {m : Remote} {scene : Scene} {c : ℕ} {step : Step} {input : Input},
    Reachable r settings m.performance.engine → m.performance.running = true →
    m.performance.engine.stage.StandsAt scene c step →
    m.performance.engine.stage.state.isWaiting = true → input = .proceed ∨ input = .confirm →
    Remote.Dispatched settings m input scene c step
  /-- The end of a scene can be reached exactly if all its steps can be passed. -/
  reaches : ∀ {e₀ : Engine} {scene : Scene}, Reachable r settings e₀ →
    e₀.stage.state.session = none → r.get? scene.name = some scene →
    (e₀.CanEnd scene ↔ scene.IsPassable ∧ ∀ step ∈ scene.steps, step.PauseFits settings)
  /-- Then it can be reached from everywhere on the way. -/
  onward : ∀ {e₀ : Engine} {scene : Scene} {moves : List Move} {asked : Option Command} {sent : ℕ},
    Reachable r settings e₀ → e₀.stage.state.session = none →
    r.get? scene.name = some scene → e₀.CanEnd scene →
    Attended clicksOrConfirms e₀ scene.name moves asked sent →
    ∃ more asked' sent', Attended clicksOrConfirms e₀ scene.name (moves ++ more) asked' sent' ∧
      (e₀.run (moves ++ more)).stage.state.session = none

/-- A scene of which the end can be reached is passed as a whole. -/
lemma CanEnd.passed (h : e₀.CanEnd scene) (he : Reachable r settings e₀)
    (hidle : e₀.stage.state.session = none) (hname : r.get? scene.name = some scene) :
    scene.IsPassable ∧ ∀ step ∈ scene.steps, step.PauseFits settings := by
  obtain ⟨moves, asked, sent, hattended, hover⟩ := h
  obtain ⟨scene', hname', ⟨pending, cues, hahead⟩, hpassed, -⟩ := hattended.onWay he hidle
  obtain rfl : scene' = scene := Option.some.inj (hname'.symm.trans hname)
  constructor
  · cases hpassed with
    | during hsession => simp [hsession] at hover
    | ended _ hpassable => exact hpassable
  · rw [← (he.run moves).stage.settings_eq]
    exact hahead.pauseFits hover

/-- **When players get stuck.** Where the player is waited for, the key to confirm leaves a line and
a step that may be cut short, the mark for going on leaves a line, and otherwise neither does
anything. So the end of a scene can be reached with the two exactly if each step before the last is
a line, or goes on by itself, or may be cut short, and no pause is out of range once it has been
scaled; and then it can be reached from everywhere on the way.

**Proof sketch.** Single inputs are `Remote.dispatched_of_isWaiting`. A run leaves only steps behind
that can be passed (`Attended.onWay`), and at the end it has left all of them. For the other way,
what the client waits for is handled first, and then there is a way to the end
(`Attended.exists_end`). -/
theorem moves_on (r : Repertoire) (settings : Settings) : MovesOn r settings := by
  refine ⟨Remote.dispatched_of_isWaiting, ?_, ?_⟩
  · intro e₀ scene he hidle hname
    refine ⟨fun h => h.passed he hidle hname, fun ⟨hpassable, hfits⟩ => ?_⟩
    rw [← he.stage.settings_eq] at hfits
    have hopening : Attended clicksOrConfirms e₀ scene.name
        [.command 0 (.trigger scene.name)] none 0 :=
      attended_opening hfits hidle (by rwa [he.stage.repertoire_eq])
    obtain ⟨more, asked, sent, hend, hover⟩ :=
      hopening.exists_end_of_isPassable hfits he hidle hname hpassable
    exact ⟨_, asked, sent, hend, hover⟩
  · intro e₀ scene moves asked sent he hidle hname hend h
    obtain ⟨hpassable, hfits⟩ := hend.passed he hidle hname
    rw [← he.stage.settings_eq] at hfits
    exact h.exists_end_of_isPassable hfits he hidle hname hpassable

/-- The end of the rehearsal can be reached, and that of the dead end cannot. At the latter the key
does nothing. -/
theorem moves_on_rehearsing :
    let r := (Repertoire.empty.add rehearsal).add deadEnd
    let e₀ := opening r .standard (.ofSeed 0)
    let m : Remote := ⟨((Performance.ofStage ⟨r, .standard, .ofSeed 0, .idle⟩).send
      (.trigger "dead end")).1, none⟩
    e₀.CanEnd rehearsal ∧ ¬e₀.CanEnd deadEnd ∧
      m.performance.engine.stage.state.isWaiting = true ∧
      (m.dispatch .confirm).2 = .ok () ∧
      (m.dispatch .confirm).1.performance.engine.stage = m.performance.engine.stage := by
  intro r e₀ m
  have hmoves := moves_on r .standard
  have hfit : r.PausesFit .standard := Repertoire.pausesFit_of_unscaled _ (by decide)
  have he : Reachable r .standard e₀ := .opening _
  have hrehearsal : r.get? "rehearsal" = some rehearsal := rfl
  have hdead : r.get? "dead end" = some deadEnd := rfl
  have hs : m.performance.engine.stage.StandsAt deadEnd 0 ⟨.assign .empty, false, false⟩ :=
    ⟨rfl, rfl⟩
  have hwaiting : m.performance.engine.stage.state.isWaiting = true := by decide +kernel
  have hm : Reachable r .standard m.performance.engine :=
    ((Performance.Reachable.opening (.ofSeed 0)).send (.trigger "dead end")).engine
      (by decide +kernel)
  have hdispatched := hmoves.dispatched hm (by decide +kernel) hs hwaiting (Or.inr rfl)
  obtain ⟨hok, hstage⟩ := hdispatched.stays rfl
  refine ⟨(hmoves.reaches he rfl hrehearsal).2 ⟨?_, ?_⟩, ?_, hwaiting, hok, hstage⟩
  · simp [Scene.IsPassable, Step.IsPassable, rehearsal, Step.isSay, Step.kind, Action.kind]
  · exact hfit rehearsal (Repertoire.mem_toList_of_get? hrehearsal)
  · intro hend
    have hpassable := ((hmoves.reaches he rfl hdead).1 hend).1
    simpa [Step.IsPassable, Step.isSay, Step.kind, Action.kind] using
      hpassable ⟨.assign .empty, false, false⟩ (by simp [deadEnd]) rfl

end Engine

end Cutscene
