import Mathlib.Data.List.Basic
import Cutscene.Proofs.Playback.Landing
import Cutscene.Proofs.Playback.Run

set_option relaxedAutoImplicit false
set_option autoImplicit false

/-!
# The course of a scene

If every effect is waited for to its end, and the player proceeds where the stage waits for that and
nowhere else, then all that will happen is known in advance: the *course* of the scene. This file
says what of it is still ahead, for a stage in the middle of a scene, and what each report and each
proceed takes from it.

## Main definitions

* `Cutscene.Cue` — an effect waited for, a line said, or a proceed.
* `Cutscene.Scene.course`, `Cutscene.Scene.courseFrom` — the cues of a scene, in their order.
* `Cutscene.Stage.Ahead` — what a stage waits for, and the cues that are still to come.
* `Cutscene.Stage.LeadsTo` — an operation has led to a stage with given cues ahead, unless a pause
  was refused.

## Main results

* `Cutscene.Stage.leadsTo_trigger` — a scene that is put on has its whole course ahead.
* `Cutscene.Stage.Ahead.resolve` — the end of an effect takes the cues of the effect.
* `Cutscene.Stage.Ahead.proceed` — a proceed where the player is waited for takes its own cue.

## Design

Cues say nothing of bubbles, whose identifiers differ from run to run. What is ahead depends on the
scene, the cursor and whether an effect is running, so that stages that differ in all else, such as
one that is driven in a loop and one that is driven by timers, can be compared by it.
-/

namespace Cutscene

/-! ## Cues -/

/-- What there is to happen while a scene is played. -/
inductive Cue where
  /-- An effect is waited for. -/
  | waited (length : Duration)
  /-- A line has been typed to its end. -/
  | said (line : Line)
  /-- The stage waits for the player, who proceeds. -/
  | proceeded
  deriving DecidableEq

namespace Cue

/-- The line that is said, if a line is. -/
def line? : Cue → Option Line
  | said line => some line
  | waited _ => none
  | proceeded => none

/-- How long is waited, if that is what happens. -/
def length? : Cue → Option Duration
  | waited length => some length
  | said _ => none
  | proceeded => none

/-- Lines that are said are the lines among the cues. -/
lemma filterMap_line?_said (lines : List Line) : (lines.map said).filterMap line? = lines := by
  rw [List.filterMap_map]
  exact List.filterMap_some

/-- Lines that are said take no proceeds. -/
lemma count_said (lines : List Line) : (lines.map said).count proceeded = 0 :=
  List.count_eq_zero.2 (by simp)

end Cue

/-- A line has no characters exactly if its text is empty. -/
lemma Line.length_eq_zero_iff {line : Line} : line.length = 0 ↔ line.text = "" := by
  rw [length, List.length_eq_zero_iff, String.toList_eq_nil_iff]

namespace Step

/-- The line that a step says, if there is anything to say. -/
def spoken? (step : Step) : Option Line :=
  match step.action with
  | .say line => if line.text = "" then none else some line
  | .pause _ => none
  | .assign _ => none
  | .reset => none
  | .complete => none

/-- How long the effect of a step takes, if it has one: the interval between two characters once
for each character of a line, the pause as it is scaled, or the rest. -/
def wait? (settings : Settings) (step : Step) : Option Duration :=
  match step.action with
  | .say line =>
    if line.text = "" then none
    else some (settings.typeInterval.times (min line.length Effect.maxChars))
  | .pause millis => settings.scaledPause? millis
  | .assign _ => none
  | .reset => some settings.settleDelay
  | .complete => some settings.settleDelay

/-- Whether it takes the player to leave a step: it is not the last and does not advance by
itself. -/
def isManual (step : Step) : Bool := !step.isComplete && !step.autoAdvance

/-- The cues of the effect of a step. -/
def cues (settings : Settings) (step : Step) : List Cue :=
  match step.effect? settings with
  | none => []
  | some effect =>
    .waited (effect.duration settings.typeInterval) ::
      (if effect.isTyping then step.line?.toList.map .said else [])

/-- The cue for leaving a step, if it takes the player to leave it. -/
def leaving (step : Step) : List Cue := if step.isManual then [.proceeded] else []

/-- All cues of a step. -/
def course (settings : Settings) (step : Step) : List Cue := step.cues settings ++ step.leaving

/-- A step that is left at once has no cues. -/
lemma Passes.course_eq {settings : Settings} {step : Step} (h : step.Passes settings) :
    step.course settings = [] := by
  simp [course, cues, leaving, isManual, h.atOnce, h.auto]

/-- The cues of a step are how long its effect takes, and the line that it says. -/
lemma cues_eq (settings : Settings) (step : Step) :
    step.cues settings =
      (step.wait? settings).toList.map .waited ++ step.spoken?.toList.map .said := by
  cases haction : step.action with
  | say line =>
    by_cases hline : line.text = ""
    · simp [cues, effect?, wait?, spoken?, haction, Line.length_eq_zero_iff, hline]
    · simp [cues, effect?, wait?, spoken?, haction, Line.length_eq_zero_iff, hline, line?,
        Effect.isTyping, Effect.duration]
  | pause millis =>
    cases hpause : settings.scaledPause? millis <;>
      simp [cues, effect?, wait?, spoken?, haction, hpause, Effect.isTyping, Effect.duration]
  | assign values => simp [cues, effect?, wait?, spoken?, haction]
  | reset | complete =>
    simp [cues, effect?, wait?, spoken?, haction, Effect.isTyping, Effect.duration]

/-- What the cues of a step say of its line. -/
lemma filterMap_line?_course (settings : Settings) (step : Step) :
    (step.course settings).filterMap Cue.line? = step.spoken?.toList := by
  rw [course, cues_eq, leaving]
  cases step.wait? settings <;> cases step.spoken? <;> cases step.isManual <;> rfl

/-- What the cues of a step say of its effect. -/
lemma filterMap_length?_course (settings : Settings) (step : Step) :
    (step.course settings).filterMap Cue.length? = (step.wait? settings).toList := by
  rw [course, cues_eq, leaving]
  cases step.wait? settings <;> cases step.spoken? <;> cases step.isManual <;> rfl

/-- What the cues of a step say of the player. -/
lemma count_proceeded_course (settings : Settings) (step : Step) :
    (step.course settings).count .proceeded = if step.isManual then 1 else 0 := by
  rw [course, cues_eq, leaving]
  cases step.wait? settings <;> cases step.spoken? <;> cases step.isManual <;> simp

/-- The step that completes a scene has the rest after it for its only cue. -/
lemma course_of_isComplete {settings : Settings} {step : Step} (h : step.isComplete = true) :
    step.course settings = [.waited settings.settleDelay] := by
  simp [course, cues, leaving, isManual, effect?_of_isComplete h, h, Effect.duration,
    Effect.isTyping]

end Step

namespace Scene

variable {settings : Settings} {scene : Scene} {c k : ℕ} {step : Step}

/-- The cues of a scene, in their order. -/
def course (settings : Settings) (scene : Scene) : List Cue :=
  scene.steps.flatMap (Step.course settings)

/-- The cues of a scene from an index on. -/
def courseFrom (settings : Settings) (scene : Scene) (c : ℕ) : List Cue :=
  (scene.steps.drop c).flatMap (Step.course settings)

/-- What the course says of the lines: those that are not empty are said, in their order. -/
lemma filterMap_line?_course (settings : Settings) (scene : Scene) :
    (scene.course settings).filterMap Cue.line? = scene.steps.filterMap Step.spoken? := by
  rw [course, List.filterMap_flatMap, List.filterMap_eq_flatMap_toList]
  exact congrArg (scene.steps.flatMap ·) (funext (Step.filterMap_line?_course settings))

/-- What the course says of the effects: each is waited for, in their order. -/
lemma filterMap_length?_course (settings : Settings) (scene : Scene) :
    (scene.course settings).filterMap Cue.length? =
      scene.steps.filterMap (Step.wait? settings) := by
  rw [course, List.filterMap_flatMap, List.filterMap_eq_flatMap_toList]
  exact congrArg (scene.steps.flatMap ·) (funext (Step.filterMap_length?_course settings))

/-- What the course says of the player: there is a proceed for each step that takes one. -/
lemma count_proceeded_course (settings : Settings) (scene : Scene) :
    (scene.course settings).count .proceeded = scene.steps.countP Step.isManual := by
  rw [course]
  induction scene.steps with
  | nil => rfl
  | cons step steps ih =>
    rw [List.flatMap_cons, List.count_append, ih, Step.count_proceeded_course, List.countP_cons,
      Nat.add_comm]

/-- From its first step on, a scene has its whole course ahead. -/
lemma courseFrom_zero (settings : Settings) (scene : Scene) :
    scene.courseFrom settings 0 = scene.course settings := by
  rw [courseFrom, List.drop_zero, course]

/-- The cues from a step on are those of the step and those behind it. -/
lemma courseFrom_eq (h : scene.steps[c]? = some step) :
    scene.courseFrom settings c = step.course settings ++ scene.courseFrom settings (c + 1) := by
  obtain ⟨hc, hstep⟩ := List.getElem?_eq_some_iff.1 h
  rw [courseFrom, List.drop_eq_getElem_cons hc, hstep, courseFrom, List.flatMap_cons]

/-- The step that completes a scene is the last that has cues. -/
lemma courseFrom_of_isComplete (h : scene.steps[c]? = some step) (hstep : step.isComplete = true) :
    scene.courseFrom settings c = [.waited settings.settleDelay] := by
  have hlast : scene.courseFrom settings (c + 1) = [] := by
    rw [courseFrom, (isComplete_iff h).1 hstep, List.drop_length, List.flatMap_nil]
  rw [courseFrom_eq h, hlast, Step.course_of_isComplete hstep, List.append_nil]

/-- Steps that are left at once take nothing from the course. -/
lemma Leads.courseFrom_eq (h : scene.Leads settings c k step) :
    scene.courseFrom settings c = scene.courseFrom settings k := by
  obtain ⟨hle, hcurrent, hpassed⟩ := h
  have hk : k < scene.steps.length := (List.getElem?_eq_some_iff.1 hcurrent).1
  induction hn : k - c generalizing c with
  | zero => rw [Nat.le_antisymm hle (by omega)]
  | succ n ih =>
    have hpasses := hpassed c scene.steps[c] (Nat.le_refl c) (by omega)
      (List.getElem?_eq_getElem (by omega))
    rw [Scene.courseFrom_eq (List.getElem?_eq_getElem (by omega)), hpasses.course_eq,
      List.nil_append]
    exact ih (by omega) (fun i passing hi => hpassed i passing (by omega)) (by omega)

/-- All pauses of a scene are in range if they are up to the end of its steps. -/
lemma fitsBelow_length (h : scene.FitsBelow settings k) (hk : scene.steps.length ≤ k)
    (hstep : step ∈ scene.steps) : step.PauseFits settings := by
  obtain ⟨i, hi, rfl⟩ := List.getElem_of_mem hstep
  exact h i scene.steps[i] (by omega) (List.getElem?_eq_getElem hi)

end Scene

namespace Stage

/-! ## What is ahead -/

/-- A stage that plays a scene by its course: what it waits for, and the cues that are still to
come. All pauses up to the cursor have been in range. -/
inductive Ahead (scene : Scene) (s : Stage) : Option Pending → List Cue → Prop
  /-- The effect of a step is waited for. -/
  | busy {c : ℕ} {step : Step} {effect : Effect} {ticket : Ticket} (hs : StandsAt s scene c step)
    (hcomplete : step.isComplete = false) (hfits : scene.FitsBelow s.settings (c + 1))
    (heffect : step.effect? s.settings = some effect)
    (hrunning : s.state.running = some ⟨ticket, step.autoAdvance, effect.isTyping⟩) :
    Ahead scene s (some ⟨ticket, effect⟩) (scene.courseFrom s.settings c)
  /-- The player is waited for. -/
  | waiting {c : ℕ} {step : Step} (hs : StandsAt s scene c step)
    (hcomplete : step.isComplete = false) (hfits : scene.FitsBelow s.settings (c + 1))
    (hmanual : step.autoAdvance = false) (hrunning : s.state.running = none) :
    Ahead scene s none (.proceeded :: scene.courseFrom s.settings (c + 1))
  /-- The scene is over, and the rest after it is waited for. -/
  | settling {ticket : Ticket} {autoAdvance : Bool} (hsession : s.state.session = none)
    (hfits : scene.FitsBelow s.settings scene.steps.length)
    (hrunning : s.state.running = some ⟨ticket, autoAdvance, false⟩) :
    Ahead scene s (some ⟨ticket, .settle s.settings.settleDelay⟩) [.waited s.settings.settleDelay]
  /-- Nothing is waited for any more. -/
  | ended (hsession : s.state.session = none)
    (hfits : scene.FitsBelow s.settings scene.steps.length) (hrunning : s.state.running = none) :
    Ahead scene s none []

/-- An operation has led to a stage with given cues ahead, unless a pause of the scene was
refused. -/
inductive LeadsTo (scene : Scene) (cues : List Cue) : Stage × Outcome → Prop
  /-- A pause was refused. -/
  | refused {s : Stage} {step : Step} (hstep : step ∈ scene.steps)
    (hlong : ¬step.PauseFits s.settings) : LeadsTo scene cues (s, .error .pauseTooLong)
  /-- What is waited for is handed out. -/
  | ahead {s : Stage} {pending : Option Pending} (h : s.Ahead scene pending cues) :
    LeadsTo scene cues (s, .ok pending)

variable {s s' : Stage} {scene : Scene} {c : ℕ} {step : Step} {pending : Option Pending}
  {cues : List Cue} {result : Stage × Outcome}

/-- What is ahead is told from settings, cursor and running effect. -/
lemma Ahead.congr (h : s.Ahead scene pending cues) (hsettings : s'.settings = s.settings)
    (hsession : s'.state.session = s.state.session)
    (hrunning : s'.state.running = s.state.running) : s'.Ahead scene pending cues := by
  have hcurrent : ∀ {c step}, StandsAt s scene c step → StandsAt s' scene c step :=
    fun hs => ⟨hsession.trans hs.session, hs.current⟩
  cases h with
  | busy hs hcomplete hfits heffect hrunning' =>
    rw [← hsettings] at hfits heffect ⊢
    exact .busy (hcurrent hs) hcomplete hfits heffect (hrunning.trans hrunning')
  | waiting hs hcomplete hfits hmanual hrunning' =>
    rw [← hsettings] at hfits ⊢
    exact .waiting (hcurrent hs) hcomplete hfits hmanual (hrunning.trans hrunning')
  | settling hsession' hfits hrunning' =>
    rw [← hsettings] at hfits ⊢
    exact .settling (hsession.trans hsession') hfits (hrunning.trans hrunning')
  | ended hsession' hfits hrunning' =>
    rw [← hsettings] at hfits
    exact .ended (hsession.trans hsession') hfits (hrunning.trans hrunning')

/-- A landing has the cues from its place on ahead.

**Proof sketch.** The steps that were left at once have no cues, and neither has an effect a step
that is waited at. -/
lemma Landing.leadsTo {settings : Settings} (h : Landing settings scene c result)
    (hsettings : result.1.settings = settings) (hfits : scene.FitsBelow settings c) :
    LeadsTo scene (scene.courseFrom settings c) result := by
  obtain ⟨k, step, hleads, hlanded⟩ := h
  have hbelow := hleads.fitsBelow hfits
  have hcurrent := hleads.current
  rw [hleads.courseFrom_eq]
  cases hlanded with
  | @refused s hs hlong =>
    obtain rfl : s.settings = settings := hsettings
    exact .refused (List.mem_of_getElem? hs.current) hlong
  | @busy s effect ticket hs hcomplete hpause heffect hrunning =>
    obtain rfl : s.settings = settings := hsettings
    exact .ahead (.busy hs hcomplete (hbelow.succ hs.current hpause) heffect hrunning)
  | @waiting s hs hcomplete hpause heffect hmanual hrunning =>
    obtain rfl : s.settings = settings := hsettings
    have hcourse : scene.courseFrom s.settings k =
        .proceeded :: scene.courseFrom s.settings (k + 1) := by
      rw [Scene.courseFrom_eq hs.current]
      simp [Step.course, Step.cues, Step.leaving, Step.isManual, heffect, hmanual, hcomplete]
    rw [hcourse]
    exact .ahead (.waiting hs hcomplete (hbelow.succ hs.current hpause) hmanual hrunning)
  | @ended s ticket hsession hcomplete hpause hrunning =>
    obtain rfl : s.settings = settings := hsettings
    have hlength : k + 1 = scene.steps.length := (Scene.isComplete_iff hcurrent).1 hcomplete
    rw [Scene.courseFrom_of_isComplete hcurrent hcomplete]
    exact .ahead (.settling hsession (hlength ▸ hbelow.succ hcurrent hpause) hrunning)

/-! ## What operations take from the course -/

/-- **A scene that is put on has its whole course ahead.** -/
theorem leadsTo_trigger {name : String} (hsession : s.state.session = none)
    (hname : s.repertoire.get? name = some scene) :
    LeadsTo scene (scene.course s.settings) (s.trigger name) := by
  have h := (landing_trigger hsession hname).leadsTo (trigger_fixed s name).2
    (scene.fitsBelow_zero s.settings)
  rwa [Scene.courseFrom_zero] at h

/-- Leaving a step leads to the cues behind it. -/
lemma leadsTo_proceed (hs : StandsAt s scene c step) (hcomplete : step.isComplete = false)
    (hfits : scene.FitsBelow s.settings (c + 1)) :
    LeadsTo scene (scene.courseFrom s.settings (c + 1)) s.proceed :=
  (landing_proceed hs hcomplete).leadsTo (proceed_fixed s).2 hfits

/-- The line that an effect types, if it types one: that of the current step. -/
def typedBy (s : Stage) (effect : Effect) : List Line :=
  if effect.isTyping then (s.state.step?.bind Step.line?).toList else []

/-- **The end of an effect takes the cues of the effect**: the time it took, and the line if it
typed one. -/
theorem Ahead.resolve {p : Pending} (h : s.Ahead scene (some p) cues) :
    ∃ rest, cues = .waited (p.effect.duration s.settings.typeInterval) ::
        ((s.typedBy p.effect).map .said ++ rest) ∧
      LeadsTo scene rest (s.resolve p.ticket) := by
  have hcurrent : ∀ {running : Running}, s.state.running = some running →
      s.state.isCurrent running.ticket = true := fun hr => by simp [State.isCurrent, hr]
  cases h with
  | @busy c step effect ticket hs hcomplete hfits heffect hrunning =>
    refine ⟨step.leaving ++ scene.courseFrom s.settings (c + 1), ?_, ?_⟩
    · rw [Scene.courseFrom_eq hs.current]
      simp only [Step.course, Step.cues, heffect, typedBy, hs.step?_eq, Option.bind_some,
        List.cons_append, List.append_assoc]
      split <;> rfl
    · have hfinish := finish_of_isCurrent (hcurrent hrunning)
      have hs' : StandsAt (s.finish ticket) scene c step :=
        ⟨(session_finish s ticket).trans hs.session, hs.current⟩
      have hnone : (s.finish ticket).state.running = none := by
        rw [hfinish]
        exact State.running_cancelEffect s.state
      have hsettings := settings_finish s ticket
      rw [← hsettings] at hfits ⊢
      rw [resolve_eq, hrunning]
      simp only [Option.any_some, beq_self_eq_true, Bool.true_and]
      cases hauto : step.autoAdvance with
      | true =>
        have hleaving : step.leaving = [] := by simp [Step.leaving, Step.isManual, hauto]
        rw [if_pos rfl, hleaving, List.nil_append]
        exact leadsTo_proceed hs' hcomplete hfits
      | false =>
        have hleaving : step.leaving = [.proceeded] := by
          simp [Step.leaving, Step.isManual, hauto, hcomplete]
        rw [if_neg Bool.false_ne_true, hleaving, List.singleton_append]
        exact .ahead (.waiting hs' hcomplete hfits hauto hnone)
  | @settling ticket autoAdvance hsession hfits hrunning =>
    refine ⟨[], rfl, ?_⟩
    have hfinish := finish_of_isCurrent (hcurrent hrunning)
    have hsession' : (s.finish ticket).state.session = none := by rw [session_finish, hsession]
    have hnone : (s.finish ticket).state.running = none := by
      rw [hfinish]
      exact State.running_cancelEffect s.state
    have hproceed := proceed_of_not_isActive (State.isActive_of_session_eq_none hsession')
    rw [← settings_finish s ticket] at hfits
    rw [resolve_eq, hproceed, ite_self]
    exact .ahead (.ended hsession' hfits hnone)

/-- **A proceed where the player is waited for takes its own cue.** -/
theorem Ahead.proceed (h : s.Ahead scene none cues) (hwaiting : s.state.isWaiting = true) :
    ∃ rest, cues = .proceeded :: rest ∧ LeadsTo scene rest s.proceed := by
  cases h with
  | waiting hs hcomplete hfits hmanual hrunning =>
    exact ⟨_, rfl, leadsTo_proceed hs hcomplete hfits⟩
  | ended hsession hfits hrunning => simp [State.isWaiting, hsession] at hwaiting

/-- Where neither an effect nor the player is waited for, the scene is over. -/
lemma Ahead.over_of_not_isWaiting (h : s.Ahead scene none cues)
    (hwaiting : s.state.isWaiting = false) :
    cues = [] ∧ s.state.session = none ∧ s.state.running = none := by
  cases h with
  | waiting hs _ _ _ hrunning => simp [State.isWaiting, hs.session, hrunning] at hwaiting
  | ended hsession hfits hrunning => exact ⟨rfl, hsession, hrunning⟩

/-- Once a scene is over, all its pauses have been in range. -/
lemma Ahead.pauseFits (h : s.Ahead scene pending cues) (hsession : s.state.session = none) :
    ∀ step ∈ scene.steps, step.PauseFits s.settings := by
  cases h with
  | busy hs | waiting hs => simp [hs.session] at hsession
  | settling _ hfits | ended _ hfits =>
    exact fun step hstep => Scene.fitsBelow_length hfits (Nat.le_refl _) hstep

/-- The report of a character takes nothing from the course. -/
lemma Ahead.reveal (h : s.Ahead scene pending cues) (ticket : Ticket) :
    (s.reveal ticket).1.Ahead scene pending cues :=
  h.congr (settings_reveal s ticket) (session_reveal s ticket) (by rw [reveal_fst])

/-- The ticket of what is waited for is the current one. -/
lemma Ahead.isCurrent {p : Pending} (h : s.Ahead scene (some p) cues) (ticket : Ticket) :
    s.state.isCurrent ticket = true ↔ ticket = p.ticket := by
  cases h with
  | busy _ _ _ _ hrunning | settling _ _ hrunning =>
    rw [State.isCurrent, hrunning, Option.any_some, beq_iff_eq]
    exact eq_comm

/-- Where no effect is waited for, no ticket is current. -/
lemma Ahead.not_isCurrent (h : s.Ahead scene none cues) (ticket : Ticket) :
    s.state.isCurrent ticket = false := by
  cases h with
  | waiting _ _ _ _ hrunning => simp [State.isCurrent, hrunning]
  | ended _ _ hrunning => simp [State.isCurrent, hrunning]

/-- What has led on without a fatal error has not been refused. -/
lemma LeadsTo.of_ne (h : LeadsTo scene cues result) (hok : result.2 ≠ .error .pauseTooLong) :
    ∃ pending, result.2 = .ok pending ∧ result.1.Ahead scene pending cues := by
  cases h with
  | refused => exact absurd rfl hok
  | ahead h => exact ⟨_, rfl, h⟩

/-- What leads on where all pauses of the scene are in range does not fail. -/
lemma LeadsTo.ok (h : LeadsTo scene cues result)
    (hfits : ∀ step ∈ scene.steps, step.PauseFits result.1.settings) :
    ∃ pending, result.2 = .ok pending ∧ result.1.Ahead scene pending cues := by
  cases h with
  | refused hstep hlong => exact absurd (hfits _ hstep) hlong
  | ahead h => exact ⟨_, rfl, h⟩

end Stage

end Cutscene
