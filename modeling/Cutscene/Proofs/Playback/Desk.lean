import Cutscene.Proofs.Playback.Steady

set_option relaxedAutoImplicit false
set_option autoImplicit false

/-!
# One remote control in front of an engine

Whoever holds a remote control looks at what is published, sends a command or does not, and waits
for the answer before the next input. Between the look and the command the engine may handle any
number of reports, and timers may make more of them. This file puts the two together, and shows that
a proceed that is sent still meets what was seen.

## Main definitions

* `Cutscene.Guard` — whether triggers are held back while a scene is played.
* `Cutscene.Desk` — an engine in its loop with a remote control in front of it.
* `Cutscene.Turn`, `Cutscene.Desk.turn` — a single thing that can happen there.
* `Cutscene.Loop.Sound`, `Cutscene.Desk.Sound` — what holds of a loop and of a desk whatever has
  happened.
* `Cutscene.Desk.Meets` — what a proceed meets that has been sent.

## Main results

* `Cutscene.Loop.Sound.act` — every act keeps a loop sound.
* `Cutscene.Desk.Sound.turn`, `Cutscene.Desk.sound_run` — every turn keeps a desk sound.
* `Cutscene.Desk.Sound.meets` — a proceed that has been sent meets what was seen.
* `Cutscene.Desk.run_dispatch` — an input to which nothing comes in between is dispatched.

## Design

A turn that is not due changes nothing, so that every list of turns is a way in which inputs, acts
of the engine and timers can interleave. A command that the engine has not come to stays where it is
while reports are handled. Once the engine has ended, since it was stopped or by a pause out of
range, it comes to no command any more, and whoever has asked is told that it has stopped.
-/

namespace Cutscene

/-! ## Guards -/

/-- Whether triggers are held back while a scene is played. -/
inductive Guard where
  /-- They are. -/
  | kept
  /-- They are sent in any case. -/
  | lifted
  deriving DecidableEq

/-- The command that an input becomes in front of a snapshot. -/
def Guard.command? : Guard → Snapshot → Input → Option Command
  | .kept, seen, input => input.command? seen
  | .lifted, _, .trigger name => some (.trigger name)
  | .lifted, seen, .proceed => Input.proceed.command? seen
  | .lifted, seen, .confirm => Input.confirm.command? seen
  | .lifted, seen, .restart => Input.restart.command? seen
  | .lifted, seen, .resize viewport => (Input.resize viewport).command? seen

namespace Guard

variable {g : Guard} {a b : Snapshot} {input : Input}

/-- All that inputs ask of a snapshot is whether a scene is played and whether the mark does
something. -/
lemma command?_congr (hactive : a.active = b.active) (hcan : a.canProceed = b.canProceed) :
    g.command? a input = g.command? b input := by
  have hinput : input.command? a = input.command? b := by
    cases input with
    | trigger name =>
      show (if a.active then none else _) = if b.active then none else _
      rw [hactive]
    | proceed =>
      show (if a.canProceed then _ else _) = if b.canProceed then _ else _
      rw [hcan]
    | confirm | restart | resize => rfl
  cases g with
  | kept => exact hinput
  | lifted => cases input <;> first | rfl | exact hinput

/-- A proceed is sent for a click on the mark, if that does something. -/
lemma command?_eq_proceed (h : g.command? a input = some .proceed) :
    input = .proceed ∧ a.canProceed = true := by
  cases g <;> cases input <;> simp_all [command?, Input.command?]

/-- With the guard, an input becomes the command that a remote control makes of it. -/
lemma command?_kept : Guard.kept.command? a input = input.command? a := rfl

end Guard

/-! ## Desks -/

/-- What the holder of a remote control is at. -/
inductive Client where
  /-- There is no input that waits for an answer. -/
  | free
  /-- A command has been sent, and the engine has not come to it. -/
  | asked (input : Input) (c : Command)
  /-- The engine has come to the command, and has not answered. -/
  | served (input : Input)
  deriving DecidableEq

namespace Client

variable {input : Input} {c : Command}

/-- Where there is no input, the engine has come to none. -/
lemma not_served_free : ¬∃ i, free = served i := by
  rintro ⟨_, h⟩
  cases h

/-- Nor where it has not come to the command. -/
lemma not_served_asked : ¬∃ i, asked input c = served i := by
  rintro ⟨_, h⟩
  cases h

end Client

/-- An engine in its loop with a remote control in front of it. -/
structure Desk where
  /-- The engine in its loop. -/
  loop : Loop
  /-- What the holder of the remote control is at. -/
  client : Client
  /-- The snapshot that was looked at last. -/
  seen : Snapshot
  /-- The inputs so far that have been answered, oldest first, with their answers. -/
  answers : List (Input × Except PlayError Unit)

/-- Whether an act is none of those of a remote control: a report is handled, a snapshot published,
a timer reports or gives up, or the loop stops. -/
def Act.isAlone : Act → Bool
  | .report _ => true
  | .publish => true
  | .tick _ => true
  | .quit _ => true
  | .stop => true
  | .command _ _ => false
  | .answer => false

/-- A single thing that can happen at a desk. -/
inductive Turn where
  /-- The holder of the remote control, if free, looks at what is published and makes an input. -/
  | input (input : Input)
  /-- The engine comes to the command that was sent. -/
  | serve (now : ℕ)
  /-- The input is answered. -/
  | answer
  /-- The engine or a timer acts by itself. -/
  | alone (a : Act)
  deriving DecidableEq

namespace Desk

/-- Answers an input. -/
def reply (d : Desk) (input : Input) (answer : Except PlayError Unit) : Desk :=
  { d with client := .free, answers := d.answers ++ [(input, answer)] }

/-- Lets something happen, if it is due. -/
def turn (g : Guard) (d : Desk) : Turn → Desk
  | .input input =>
    match d.client with
    | .free =>
      let looked := { d with seen := d.loop.engine.published }
      match g.command? d.loop.engine.published input with
      | none => looked.reply input (.ok ())
      | some c => { looked with client := .asked input c }
    | _ => d
  | .serve now =>
    match d.client, d.loop.phase with
    | .asked input c, .idle =>
      { d with loop := d.loop.act (.command now c), client := .served input }
    | _, _ => d
  | .answer =>
    match d.client, d.loop.phase with
    | .served input, .published answer => { d with loop := d.loop.act .answer }.reply input answer
    | .served input, .ended => d.reply input (.error .unavailable)
    | .asked input _, .ended => d.reply input (.error .unavailable)
    | _, _ => d
  | .alone a => if a.isAlone then { d with loop := d.loop.act a } else d

/-- Lets one thing happen after the other. -/
def run (g : Guard) (d : Desk) (turns : List Turn) : Desk := turns.foldl (turn g) d

/-- A desk at which nothing has happened. -/
def opening (r : Repertoire) (settings : Settings) (ids : Random.Source) : Desk :=
  ⟨.opening r settings ids, .free, .blank, []⟩

@[simp] lemma run_nil (g : Guard) (d : Desk) : d.run g [] = d := rfl

@[simp] lemma run_cons (g : Guard) (d : Desk) (t : Turn) (turns : List Turn) :
    d.run g (t :: turns) = (d.turn g t).run g turns := rfl

@[simp] lemma run_append (g : Guard) (d : Desk) (turns more : List Turn) :
    d.run g (turns ++ more) = (d.run g turns).run g more := by simp [run]

end Desk

/-! ## Acts of the engine alone -/

deriving instance DecidableEq for Phase

/-- Whether a command is being handled. -/
def Phase.isServing : Phase → Bool
  | .handled (some _) => true
  | .published _ => true
  | .idle => false
  | .handled none => false
  | .ended => false

namespace Loop

variable {l : Loop} {a : Act} {r : Repertoire} {settings : Settings}

/-- Behind a message a command is being handled if the message is one, unless it was fatal. -/
lemma isServing_behind {handled : Engine × Except PlayError Unit} {asked : Bool}
    (h : (behind handled asked).phase ≠ .ended) :
    (behind handled asked).phase.isServing = asked := by
  simp only [behind] at h ⊢
  split at h
  next => exact absurd rfl h
  next hok =>
    rw [if_neg hok]
    cases asked <;> rfl

/-- The engine comes to no command by itself, and answers none. -/
lemma isServing_act (ha : a.isAlone = true) (hgoing : (l.act a).phase ≠ .ended) :
    (l.act a).phase.isServing = l.phase.isServing := by
  cases a with
  | report now =>
    simp only [act] at hgoing ⊢
    split at hgoing
    next hidle _ => rw [isServing_behind hgoing, hidle]; rfl
    next => rfl
  | publish =>
    simp only [act]
    split
    next hphase => rw [hphase]; rfl
    next hphase => rw [hphase]; rfl
    next => rfl
  | stop =>
    simp only [act] at hgoing ⊢
    split at hgoing
    next => exact absurd rfl hgoing
    next => rfl
  | tick | quit => rfl
  | command | answer => cases ha

/-- Where the player is invited to go on, the engine does nothing to the stage by itself. -/
lemma stage_act_of_canProceed (ha : a.isAlone = true)
    (h : Stage.Reachable r settings l.engine.stage)
    (hcan : (Snapshot.ofState l.engine.stage.state 0).canProceed = true) :
    (l.act a).engine.stage = l.engine.stage := by
  cases a with
  | report now =>
    simp only [act]
    split
    next report queue _ _ =>
      exact (Engine.stage_receive { l.engine with queue } now report).trans
        (apply_report_of_canProceed h hcan report)
    next => rfl
  | publish =>
    simp only [act]
    split <;> simp
  | tick ticket => exact Engine.stage_tick _ _
  | quit ticket => rfl
  | stop =>
    simp only [act]
    split
    next => exact (Engine.sameShow_cancelTimer _).stage
    next => rfl
  | command | answer => cases ha

/-- What holds of a loop whatever it has done. -/
structure Sound (r : Repertoire) (settings : Settings) (l : Loop) : Prop where
  /-- What is published bears the version that is counted. -/
  counted : l.Counted
  /-- The stage is reachable. -/
  stage : Stage.Reachable r settings l.engine.stage
  /-- The engine is reachable once it has published. -/
  settled : l.phase ≠ .ended → Engine.Reachable r settings l.settled
  /-- What is published is not apart from what is there where the player is invited to go on. -/
  steady : l.Steady

/-- A loop that has done nothing is sound. -/
lemma sound_opening (r : Repertoire) (settings : Settings) (ids : Random.Source) :
    (opening r settings ids).Sound r settings where
  counted := rfl
  stage := .opening ids
  settled _ := .opening ids
  steady := .of_shown (Or.inr rfl)

/-- Between messages the engine of a sound loop is reachable. -/
lemma Sound.reachable (h : l.Sound r settings) (hidle : l.phase = .idle) :
    Engine.Reachable r settings l.engine := by
  rw [← settled_of_idle hidle]
  exact h.settled (by simp [hidle])

/-- **Every act keeps a loop sound.** -/
theorem Sound.act (h : l.Sound r settings) (a : Act) : (l.act a).Sound r settings where
  counted := h.counted.act a
  stage := reachable_stage h.stage [a]
  settled hgoing := reachable_settled (h.settled fun hended => hgoing (ended_act hended a)) hgoing
  steady := h.steady.act h.stage a

end Loop

namespace Desk

variable {g : Guard} {d : Desk} {r : Repertoire} {settings : Settings} {ids : Random.Source}
  {t : Turn} {turns : List Turn}

/-! ## Sound desks -/

/-- What holds of a desk whatever has happened. -/
structure Sound (r : Repertoire) (settings : Settings) (d : Desk) : Prop where
  /-- The loop is sound. -/
  loop : d.loop.Sound r settings
  /-- The engine is at a command exactly if whoever asked knows of it. -/
  attended : d.loop.phase ≠ .ended →
    (d.loop.phase.isServing = true ↔ ∃ input, d.client = .served input)
  /-- A proceed has been sent for a click on the mark, which did something and still does. -/
  proceed : ∀ input, d.client = .asked input .proceed → d.loop.phase ≠ .ended →
    input = .proceed ∧ d.seen.canProceed = true ∧ d.seen.Depicts d.loop.engine.stage.state

/-- A desk at which nothing has happened is sound. -/
lemma sound_opening (r : Repertoire) (settings : Settings) (ids : Random.Source) :
    (opening r settings ids).Sound r settings where
  loop := Loop.sound_opening r settings ids
  attended _ := iff_of_false Bool.false_ne_true Client.not_served_free
  proceed _ hasked := by cases hasked

namespace Sound

/-- A free client, or one whose command has not been come to, finds the loop between messages or
behind a report. -/
lemma phase_eq (h : d.Sound r settings) (hgoing : d.loop.phase ≠ .ended)
    (hclient : ∀ input, d.client ≠ .served input) :
    d.loop.phase = .idle ∨ d.loop.phase = .handled none := by
  have hserving : d.loop.phase.isServing ≠ true := by
    intro hserving
    obtain ⟨input, hserved⟩ := (h.attended hgoing).1 hserving
    exact hclient input hserved
  cases hphase : d.loop.phase with
  | idle => exact Or.inl rfl
  | handled answer =>
    cases answer with
    | none => exact Or.inr rfl
    | some answer => simp [hphase, Phase.isServing] at hserving
  | published => simp [hphase, Phase.isServing] at hserving
  | ended => exact absurd hphase hgoing

/-- What is seen when the mark does something is what is there. -/
lemma depicts (h : d.Sound r settings) (hgoing : d.loop.phase ≠ .ended)
    (hclient : ∀ input, d.client ≠ .served input)
    (hcan : d.loop.engine.published.canProceed = true) :
    d.loop.engine.published.Depicts d.loop.engine.stage.state := by
  rcases h.phase_eq hgoing hclient with hidle | hreported
  · exact h.loop.steady.rest (Or.inl hidle)
  · exact h.loop.steady.reported hreported hcan

/-- Where the engine is not at a command, a desk with nobody who waits is sound. -/
lemma freed (h : d.Sound r settings)
    (hserving : d.loop.phase ≠ .ended → d.loop.phase.isServing ≠ true) {seen : Snapshot}
    {answers : List (Input × Except PlayError Unit)} :
    Sound r settings ⟨d.loop, .free, seen, answers⟩ :=
  ⟨h.loop, fun hgoing => iff_of_false (hserving hgoing) Client.not_served_free,
    fun _ hasked => by cases hasked⟩

/-- An input keeps a desk sound. -/
lemma input (h : d.Sound r settings) (input : Input) :
    (d.turn g (.input input)).Sound r settings := by
  cases hclient : d.client with
  | free =>
    simp only [turn, hclient]
    have hserved : ∀ i, d.client ≠ .served i := by simp [hclient]
    have hattended : d.loop.phase ≠ .ended → d.loop.phase.isServing ≠ true :=
      fun hgoing hserving => by simpa [hclient] using (h.attended hgoing).1 hserving
    cases hcommand : g.command? d.loop.engine.published input with
    | none =>
      exact h.freed hattended
    | some c =>
      refine ⟨h.loop, fun hgoing => iff_of_false (hattended hgoing) Client.not_served_asked,
        fun i hasked hgoing => ?_⟩
      cases hasked
      obtain ⟨hinput, hcan⟩ := Guard.command?_eq_proceed hcommand
      exact ⟨hinput, hcan, h.depicts hgoing hserved hcan⟩
  | asked | served => simpa only [turn, hclient] using h

/-- Coming to a command keeps a desk sound. -/
lemma serve (h : d.Sound r settings) (now : ℕ) : (d.turn g (.serve now)).Sound r settings := by
  simp only [turn]
  split
  next input c hclient hidle =>
    have hact : d.loop.act (.command now c) = Loop.behind (d.loop.engine.take now c) true := by
      simp only [Loop.act, hidle]
    refine ⟨h.loop.act (.command now c), fun hgoing => ?_, fun _ hasked => by cases hasked⟩
    simp only [hact] at hgoing ⊢
    exact ⟨fun _ => ⟨input, rfl⟩, fun _ => Loop.isServing_behind hgoing⟩
  next => exact h

/-- Answers keep a desk sound. -/
lemma answer (h : d.Sound r settings) : (d.turn g .answer).Sound r settings := by
  simp only [turn]
  split
  next input answer hclient hphase =>
    have hact : (d.loop.act .answer).phase = .idle := by simp only [Loop.act, hphase]
    refine ⟨h.loop.act .answer, fun _ => ?_, fun _ hasked => by cases hasked⟩
    simp only [reply, hact]
    exact iff_of_false Bool.false_ne_true Client.not_served_free
  next hended =>
    exact h.freed fun hgoing => absurd hended hgoing
  next hended =>
    exact h.freed fun hgoing => absurd hended hgoing
  next => exact h

/-- What the engine does by itself keeps a desk sound. -/
lemma alone (h : d.Sound r settings) (a : Act) : (d.turn g (.alone a)).Sound r settings := by
  simp only [turn]
  split
  next ha =>
    have hbefore : (d.loop.act a).phase ≠ .ended → d.loop.phase ≠ .ended :=
      fun hgoing hended => hgoing (Loop.ended_act hended a)
    refine ⟨h.loop.act a, fun hgoing => ?_, fun input hasked hgoing => ?_⟩
    · simp only [Loop.isServing_act ha hgoing]
      exact h.attended (hbefore hgoing)
    · obtain ⟨hinput, hcan, hdepicts⟩ := h.proceed input hasked (hbefore hgoing)
      refine ⟨hinput, hcan, ?_⟩
      rw [hdepicts.canProceed_eq 0] at hcan
      rwa [Loop.stage_act_of_canProceed ha h.loop.stage hcan]
  next => exact h

/-- **Every turn keeps a desk sound.** -/
theorem turn (h : d.Sound r settings) (t : Turn) : (d.turn g t).Sound r settings := by
  cases t with
  | input input => exact h.input input
  | serve now => exact h.serve now
  | answer => exact h.answer
  | alone a => exact h.alone a

/-- Every run keeps a desk sound. -/
lemma run (h : d.Sound r settings) (turns : List Turn) : (d.run g turns).Sound r settings := by
  induction turns generalizing d with
  | nil => exact h
  | cons t turns ih => exact ih (h.turn t)

end Sound

/-- **A desk is sound whatever has happened.** -/
theorem sound_run (g : Guard) (r : Repertoire) (settings : Settings) (ids : Random.Source)
    (turns : List Turn) : ((opening r settings ids).run g turns).Sound r settings :=
  (sound_opening r settings ids).run turns

/-! ## What a proceed meets -/

/-- What a proceed meets that has been sent: the scene, the place in it and the bubbles that were
seen, at a line that has been typed, with no effect running. It leaves that line. -/
structure Meets (d : Desk) (scene : Scene) (c : ℕ) (step : Step) : Prop where
  /-- The stage is at a step of a scene. -/
  stands : d.loop.engine.stage.StandsAt scene c step
  /-- The step is a line. -/
  line : step.isSay = true
  /-- The scene is the one of its name. -/
  found : d.loop.engine.stage.repertoire.get? scene.name = some scene
  /-- That scene and that place were seen. -/
  place : d.seen.scene = some scene.name ∧ d.seen.stepIndex = some c
  /-- The bubbles were seen. -/
  bubbles : d.seen.bubbles = d.loop.engine.stage.state.bubbles.map (.ofBubble false)
  /-- The mark did something, and still does. -/
  invited : d.seen.canProceed = true ∧
    ∀ version, (Snapshot.ofState d.loop.engine.stage.state version).canProceed = true
  /-- Nothing is being typed, and no effect runs. -/
  still : d.loop.engine.stage.state.typing = false ∧ d.loop.engine.stage.state.running = none
  /-- All bubbles show their lines whole. -/
  whole : ∀ b ∈ d.loop.engine.stage.state.bubbles, b.isRevealed = true
  /-- To proceed is to hide the mark of the newest bubble and to perform from the next step. -/
  proceeds : d.loop.engine.stage.leave.state.bubbles =
      modifyLast Bubble.hideProceed d.loop.engine.stage.state.bubbles ∧
    d.loop.engine.stage.proceed = d.loop.engine.stage.leave.perform (scene.steps.drop (c + 1))
  /-- The place is left. -/
  leaves : d.loop.engine.stage.proceed.1.HasLeft scene c

/-- **A proceed that has been sent meets what was seen.**

**Proof sketch.** What was seen depicts the stage (`Sound.proceed`), so the mark does something on
the stage, which is where the player is waited for at a line. -/
theorem Sound.meets (h : d.Sound r settings) {input : Input}
    (hasked : d.client = .asked input .proceed) (hgoing : d.loop.phase ≠ .ended) :
    ∃ scene c step, d.Meets scene c step := by
  obtain ⟨-, hcan, hdepicts⟩ := h.proceed input hasked hgoing
  have hinvited : ∀ version,
      (Snapshot.ofState d.loop.engine.stage.state version).canProceed = true :=
    fun version => by rw [← hdepicts.canProceed_eq, hcan]
  obtain ⟨hactive, ⟨step, hstep, hsay⟩, htyping⟩ :=
    ((Stage.affords h.loop.stage).typed_iff 0).1 (hinvited 0)
  have hwaiting := (((Stage.affords h.loop.stage).waiting_iff 0).1 (hinvited 0)).1
  simp only [State.isWaiting, Bool.and_eq_true, Option.isNone_iff_eq_none] at hwaiting
  obtain ⟨⟨scene, c⟩, hsession, -⟩ := Option.bind_eq_some_iff.1 hstep
  obtain ⟨hfound, step', hs, hcomplete, hscreen⟩ :=
    (Stage.holds_screen h.loop.stage).during hsession
  obtain rfl : step' = step := Option.some.inj (hs.step?_eq.symm.trans hstep)
  have hstarts : Stage.Starts d.loop.engine.stage .proceed scene (c + 1)
      d.loop.engine.stage.leave := .proceed hs hcomplete
  refine ⟨scene, c, step', hs, hsay, hfound, ?_, ?_, ⟨hcan, hinvited⟩, ⟨htyping, hwaiting.2⟩, ?_,
    ⟨?_, hstarts.apply_eq⟩, hstarts.landing.hasLeft⟩
  · obtain ⟨version, values, hseen⟩ := hdepicts
    simp [hseen, Snapshot.ofState, hsession]
  · obtain ⟨version, values, hseen⟩ := hdepicts
    simp [hseen, Snapshot.ofState, htyping]
  · intro b hb
    obtain ⟨i, hi⟩ := List.mem_iff_getElem?.1 hb
    rcases hscreen.bubble_cases hs hi with ⟨hsettled, -⟩ | ⟨-, -, -, hwhole⟩
    · exact hsettled.whole
    · exact hwhole htyping
  · simp only [Stage.leave, State.leaveStep_eq, hstep, Option.any_some, hsay, if_true,
      State.cancelEffect, hwaiting.2]

/-- The engine does what was sent when it comes to it. -/
lemma serve_eq {input : Input} {c : Command} (hasked : d.client = .asked input c)
    (hidle : d.loop.phase = .idle) (now : ℕ) :
    d.turn g (.serve now) =
      { d with
        loop := .behind (d.loop.engine.take now c) true
        client := .served input } := by
  simp only [turn, hasked, hidle, Loop.act]

/-! ## Inputs to which nothing comes in between -/

/-- The turns of an input to which nothing comes in between. -/
def atOnce (input : Input) (now : ℕ) : List Turn :=
  [.input input, .serve now, .alone .publish, .answer]

/-- An input that is not sent is answered, and nothing happens. -/
lemma run_atOnce_of_none (hfree : d.client = .free) (hidle : d.loop.phase = .idle) {input : Input}
    (hnone : g.command? d.loop.engine.published input = none) (now : ℕ) :
    d.run g (atOnce input now) =
      ({ d with seen := d.loop.engine.published }).reply input (.ok ()) := by
  simp [atOnce, turn, hfree, hnone, reply, Act.isAlone, Loop.act, hidle]

/-- An input that is sent is handled, published and answered. -/
lemma run_atOnce_of_some (hfree : d.client = .free) (hidle : d.loop.phase = .idle) {input : Input}
    {c : Command} (hsome : g.command? d.loop.engine.published input = some c) {now : ℕ}
    (hok : (d.loop.engine.take now c).2 ≠ .error .pauseTooLong) :
    d.run g (atOnce input now) =
      ({ d with
        seen := d.loop.engine.published
        loop := ⟨(d.loop.engine.take now c).1.publish, .idle⟩ } : Desk).reply input
          (d.loop.engine.take now c).2 := by
  simp [atOnce, turn, hfree, hsome, reply, Act.isAlone, Loop.act, hidle, Loop.behind, hok]

/-- An input whose command is fatal ends the engine, and is answered by nobody. -/
lemma run_atOnce_of_fatal (hfree : d.client = .free) (hidle : d.loop.phase = .idle) {input : Input}
    {c : Command} (hsome : g.command? d.loop.engine.published input = some c) {now : ℕ}
    (hlong : (d.loop.engine.take now c).2 = .error .pauseTooLong) :
    d.run g (atOnce input now) =
      ({ d with
        seen := d.loop.engine.published
        loop := ⟨(d.loop.engine.take now c).1, .ended⟩ } : Desk).reply input
          (.error .unavailable) := by
  simp [atOnce, turn, hfree, hsome, reply, Act.isAlone, Loop.act, hidle, Loop.behind, hlong]

/-- An input in front of an engine that has ended is answered by nobody if it is sent, and nothing
happens. -/
lemma run_atOnce_of_ended (hfree : d.client = .free) (hended : d.loop.phase = .ended)
    (input : Input) (now : ℕ) :
    d.run g (atOnce input now) =
      ({ d with seen := d.loop.engine.published }).reply input
        (match g.command? d.loop.engine.published input with
        | none => .ok ()
        | some _ => .error .unavailable) := by
  cases hcommand : g.command? d.loop.engine.published input <;>
    simp [atOnce, turn, hfree, hcommand, reply, Act.isAlone, Loop.act, hended]

/-- A remote control that sends nothing answers by itself. -/
lemma dispatch_of_none {m : Remote} {input : Input} (h : input.command? m.snapshot = none) :
    (m.dispatch input).1.performance = m.performance ∧ (m.dispatch input).2 = .ok () := by
  cases input with
  | resize viewport => exact ⟨rfl, rfl⟩
  | trigger | proceed | confirm | restart => simp only [Remote.dispatch, h, and_self]

/-- A remote control that sends a command passes the answer on. -/
lemma dispatch_of_some {m : Remote} {input : Input} {c : Command}
    (h : input.command? m.snapshot = some c) : m.dispatch input = m.send c := by
  cases input with
  | resize viewport => cases h
  | trigger | proceed | confirm | restart => simp only [Remote.dispatch, h]

/-- **An input to which nothing comes in between is dispatched**: it is answered as the remote
control of a performance answers it, and the engine becomes the same unless it has ended. -/
theorem run_dispatch (hfree : d.client = .free) (hidle : d.loop.phase = .idle) {m : Remote}
    (hengine : m.performance.engine = d.loop.engine) (hrunning : m.performance.running = true)
    (input : Input) :
    (d.run .kept (atOnce input m.performance.now)).answers =
        d.answers ++ [(input, (m.dispatch input).2)] ∧
      ((d.run .kept (atOnce input m.performance.now)).loop.phase ≠ .ended →
        (d.run .kept (atOnce input m.performance.now)).loop.engine =
          (m.dispatch input).1.performance.engine) := by
  have hseen : m.snapshot = d.loop.engine.published := congrArg Engine.published hengine
  cases hcommand : input.command? d.loop.engine.published with
  | none =>
    obtain ⟨hperformance, hanswer⟩ := dispatch_of_none (m := m) (hseen ▸ hcommand)
    rw [run_atOnce_of_none (g := .kept) hfree hidle hcommand, hperformance, hanswer]
    exact ⟨rfl, fun _ => hengine.symm⟩
  | some c =>
    have hsend : m.performance.send c = m.performance.take
        (m.performance.engine.handleCommand m.performance.now c) := if_pos hrunning
    rw [dispatch_of_some (m := m) (hseen ▸ hcommand)]
    simp only [Remote.send, hsend, hengine, Engine.handleCommand_eq]
    by_cases hlong : (d.loop.engine.take m.performance.now c).2 = .error .pauseTooLong
    · rw [run_atOnce_of_fatal (g := .kept) hfree hidle hcommand hlong,
        Performance.take_of_eq (by exact hlong)]
      exact ⟨rfl, fun hgoing => absurd rfl hgoing⟩
    · have hok : ((d.loop.engine.take m.performance.now c).1.publish,
          (d.loop.engine.take m.performance.now c).2).2 ≠ .error .pauseTooLong := hlong
      obtain ⟨htaken, hanswer⟩ := Performance.take_of_ne (p := m.performance) hok
      rw [run_atOnce_of_some (g := .kept) hfree hidle hcommand hlong, htaken, hanswer]
      exact ⟨rfl, fun _ => rfl⟩

end Desk

end Cutscene
