import Cutscene.Proofs.Playback.Comparison
import Cutscene.Proofs.Playback.Shown

set_option relaxedAutoImplicit false
set_option autoImplicit false

/-!
# What is published, and when

The engine handles a message, publishes what has become of it, and answers. Whoever watches may look
at any time in between, and whoever has asked looks when the answer is there. This file takes the
loop of the engine apart into these acts, so that timers may get in between any two of them, and
shows what versions are good for.

## Main definitions

* `Cutscene.Loop`, `Cutscene.Loop.act` — the engine in its loop, and a single act of it.
* `Cutscene.Loop.PublishesChanges` — what is published is up to date, and versions count changes.
* `Cutscene.Repertoire.FromTexts` — scenes that were read from texts.

## Main results

* `Cutscene.Loop.run_command`, `Cutscene.Loop.run_report` — the acts of a message come to what the
  engine does with the message.
* `Cutscene.Loop.published_act` — nothing but publishing changes what is published.
* `Cutscene.Loop.current_run` — what is published is up to date between messages.
* `Cutscene.Loop.Counted.brings`, `Cutscene.Loop.answered_run` — what comes of a message, and of a
  command before it is answered.
* `Cutscene.Loop.publishes_changes` — versions count changes along every run.

## Design

Snapshots are compared by their own comparison, which finds no variable equal to itself that is
not-a-number. A run is therefore assumed to have no such variable, and no run has one whose scenes
were read from texts. A pause that is refused ends the loop before anything is published or
answered, and so does a stop between messages.
-/

namespace Cutscene

/-! ## The loop -/

/-- What the loop of an engine is at. -/
inductive Phase where
  /-- It waits for a message. -/
  | idle
  /-- A message has been handled and is to be published. A command is to be answered then. -/
  | handled (answer : Option (Except PlayError Unit))
  /-- A command has been handled and published, and is to be answered. -/
  | published (answer : Except PlayError Unit)
  /-- It has ended. -/
  | ended

/-- An engine in its loop. -/
structure Loop where
  /-- The engine. -/
  engine : Engine
  /-- What its loop is at. -/
  phase : Phase

/-- A single act of the loop, or of a timer. -/
inductive Act where
  /-- A command is handled. -/
  | command (now : ℕ) (c : Command)
  /-- The oldest report is handled. -/
  | report (now : ℕ)
  /-- What has become of a message is published. -/
  | publish
  /-- A command is answered. -/
  | answer
  /-- The timer of a ticket makes its next report. -/
  | tick (ticket : Ticket)
  /-- The timer of a ticket, if it has been told to stop, gives up. -/
  | quit (ticket : Ticket)
  /-- The engine is stopped. -/
  | stop
  deriving DecidableEq

namespace Loop

/-- The loop behind a message, which may be one that is to be answered. A pause that has been
refused is fatal. -/
def behind (handled : Engine × Except PlayError Unit) (asked : Bool) : Loop where
  engine := handled.1
  phase :=
    if handled.2 = .error .pauseTooLong then .ended
    else .handled (if asked then some handled.2 else none)

/-- Does a single act, if it is due. Timers act at any time. -/
def act (l : Loop) : Act → Loop
  | .command now c =>
    match l.phase with
    | .idle => behind (l.engine.take now c) true
    | _ => l
  | .report now =>
    match l.phase, l.engine.queue with
    | .idle, report :: queue => behind (({ l.engine with queue } : Engine).receive now report) false
    | _, _ => l
  | .publish =>
    match l.phase with
    | .handled none => ⟨l.engine.publish, .idle⟩
    | .handled (some answer) => ⟨l.engine.publish, .published answer⟩
    | _ => l
  | .answer =>
    match l.phase with
    | .published _ => ⟨l.engine, .idle⟩
    | _ => l
  | .tick ticket => ⟨l.engine.tick ticket, l.phase⟩
  | .quit ticket => ⟨l.engine.quit ticket, l.phase⟩
  | .stop =>
    match l.phase with
    | .idle => ⟨l.engine.cancelTimer, .ended⟩
    | _ => l

/-- Does one act after the other. -/
def run (l : Loop) (acts : List Act) : Loop := acts.foldl act l

/-- The loop of an engine whose stage has nothing on it. -/
def opening (r : Repertoire) (settings : Settings) (ids : Random.Source) : Loop :=
  ⟨.opening r settings ids, .idle⟩

@[simp] lemma run_nil (l : Loop) : l.run [] = l := rfl

@[simp] lemma run_cons (l : Loop) (a : Act) (acts : List Act) :
    l.run (a :: acts) = (l.act a).run acts := rfl

@[simp] lemma run_append (l : Loop) (acts more : List Act) :
    l.run (acts ++ more) = (l.run acts).run more := by simp [run]

variable {l l' : Loop} {a : Act} {acts more : List Act} {r : Repertoire} {settings : Settings}
  {ids : Random.Source}

/-- **The acts of a command** come to what the engine does with it. -/
theorem run_command (hidle : l.phase = .idle) {now : ℕ} {c : Command}
    (hok : (l.engine.handleCommand now c).2 ≠ .error .pauseTooLong) :
    l.run [.command now c, .publish, .answer] = ⟨(l.engine.handleCommand now c).1, .idle⟩ := by
  rw [Engine.handleCommand_eq] at hok ⊢
  simp [act, hidle, behind, hok]

/-- **The acts of a report** come to what the engine does with it. -/
theorem run_report (hidle : l.phase = .idle) {now : ℕ} (hqueue : l.engine.queue ≠ [])
    (hok : (l.engine.deliver now).2 ≠ .error .pauseTooLong) :
    l.run [.report now, .publish] = ⟨(l.engine.deliver now).1, .idle⟩ := by
  obtain ⟨report, queue, hcons⟩ := List.exists_cons_of_ne_nil hqueue
  simp only [Engine.deliver, hcons, Engine.handleReport_eq] at hok ⊢
  simp [act, hidle, hcons, behind, hok]

/-! ## The stage in the loop -/

/-- An act does to the stage what it asks of it, or nothing. -/
lemma stage_act (l : Loop) (a : Act) :
    (l.act a).engine.stage = l.engine.stage ∨
      ∃ op, (l.act a).engine.stage = (l.engine.stage.apply op).1 := by
  cases a with
  | command now c =>
    cases hphase : l.phase with
    | idle =>
      simp only [act, hphase, behind]
      exact Or.inr ⟨_, Engine.stage_take _ _ _⟩
    | _ => exact Or.inl (by simp only [act, hphase])
  | report now =>
    simp only [act]
    split
    · exact Or.inr ⟨_, Engine.stage_receive _ _ _⟩
    · exact Or.inl rfl
  | publish =>
    simp only [act]
    split <;> exact Or.inl (by simp)
  | answer =>
    simp only [act]
    split <;> exact Or.inl rfl
  | tick ticket => exact Or.inl (Engine.stage_tick _ _)
  | quit ticket => exact Or.inl rfl
  | stop =>
    simp only [act]
    split
    · exact Or.inl (Engine.sameShow_cancelTimer _).stage
    · exact Or.inl rfl

/-- The stage of a loop is reachable. -/
lemma reachable_stage (h : Stage.Reachable r settings l.engine.stage) (acts : List Act) :
    Stage.Reachable r settings (l.run acts).engine.stage := by
  induction acts generalizing l with
  | nil => exact h
  | cons a acts ih =>
    refine ih ?_
    rcases l.stage_act a with hsame | ⟨op, hop⟩
    · rwa [hsame]
    · rw [hop]
      exact h.step op

/-! ## What acts publish -/

/-- **Nothing but publishing** changes what is published. -/
theorem published_act (ha : a ≠ .publish) :
    (l.act a).engine.version = l.engine.version ∧
      (l.act a).engine.published = l.engine.published := by
  cases a with
  | publish => exact absurd rfl ha
  | command now c =>
    simp only [act]
    split
    · exact Engine.published_take _ _ _
    · exact ⟨rfl, rfl⟩
  | report now =>
    simp only [act]
    split
    next queue _ _ => exact Engine.published_receive { l.engine with queue } _ _
    · exact ⟨rfl, rfl⟩
  | answer =>
    simp only [act]
    split <;> exact ⟨rfl, rfl⟩
  | tick ticket =>
    have h := Engine.sameShow_tick l.engine ticket
    exact ⟨h.version, h.published⟩
  | quit ticket => exact ⟨rfl, rfl⟩
  | stop =>
    have h := Engine.sameShow_cancelTimer l.engine
    simp only [act]
    split
    · exact ⟨h.version, h.published⟩
    · exact ⟨rfl, rfl⟩

/-- The loop is still at what it was at, and shows the same. -/
structure Still (l l' : Loop) : Prop where
  /-- What it is at. -/
  phase : l'.phase = l.phase
  /-- What it shows. -/
  same : l.engine.SameShow l'.engine

lemma Still.refl (l : Loop) : l.Still l := ⟨rfl, .refl _⟩

lemma Still.trans {l'' : Loop} (h : l.Still l') (h' : l'.Still l'') : l.Still l'' :=
  ⟨h'.phase.trans h.phase, h.same.trans h'.same⟩

/-- Timers leave the loop at what it is at. -/
lemma still_tick (l : Loop) (ticket : Ticket) : l.Still (l.act (.tick ticket)) :=
  ⟨rfl, Engine.sameShow_tick _ _⟩

/-- A loop that has handled a message does nothing before it publishes. -/
lemma still_of_handled {answer : Option (Except PlayError Unit)} (h : l.phase = .handled answer)
    (ha : a ≠ .publish) : l.Still (l.act a) := by
  cases a with
  | publish => exact absurd rfl ha
  | tick ticket => exact l.still_tick ticket
  | quit ticket => exact ⟨rfl, Engine.sameShow_quit _ _⟩
  | command | report | answer | stop => simpa only [act, h] using Still.refl l

/-- A loop that has published what has become of a command does nothing before it answers. -/
lemma still_of_published {answer : Except PlayError Unit} (h : l.phase = .published answer)
    (ha : a ≠ .answer) : l.Still (l.act a) := by
  cases a with
  | answer => exact absurd rfl ha
  | tick ticket => exact l.still_tick ticket
  | quit ticket => exact ⟨rfl, Engine.sameShow_quit _ _⟩
  | command | report | publish | stop => simpa only [act, h] using Still.refl l

/-- What holds of every act but one that is due holds of acts among which it is not. -/
lemma still_run {due : Act} {phase : Phase}
    (hstill : ∀ {l : Loop} {a}, l.phase = phase → a ≠ due → l.Still (l.act a))
    (h : l.phase = phase) (hacts : due ∉ acts) : l.Still (l.run acts) := by
  induction acts generalizing l with
  | nil => exact .refl l
  | cons a acts ih =>
    obtain ⟨hne, hacts⟩ := not_or.1 (mt List.mem_cons.2 hacts)
    have hact := hstill h (Ne.symm hne)
    exact hact.trans (ih (hact.phase.trans h) hacts)

/-- A loop that has ended does nothing. -/
lemma still_of_ended (h : l.phase = .ended) (a : Act) : l.Still (l.act a) := by
  cases a with
  | tick ticket => exact l.still_tick ticket
  | quit ticket => exact ⟨rfl, Engine.sameShow_quit _ _⟩
  | command | report | publish | answer | stop => simpa only [act, h] using Still.refl l

/-- A loop that has handled a message publishes what has become of it. -/
lemma engine_act_publish {answer : Option (Except PlayError Unit)} (h : l.phase = .handled answer) :
    (l.act .publish).engine = l.engine.publish := by
  cases answer <;> simp only [act, h]

/-! ## What is published is up to date -/

/-- What is published bears the version that has been counted. -/
def Counted (l : Loop) : Prop := l.engine.published.version = l.engine.version

/-- Where no message is being handled, what is published compares to what there is to show. -/
def Current (l : Loop) : Prop :=
  l.phase = .idle ∨ (∃ answer, l.phase = .published answer) →
    (l.engine.published == Snapshot.ofState l.engine.stage.state l.engine.version) = true

/-- Publishing keeps count. -/
lemma counted_publish {e : Engine} (h : e.published.version = e.version) :
    e.publish.published.version = e.publish.version := by
  rw [Engine.publish_eq]
  split
  · exact h
  · rfl

/-- Every act keeps count. -/
lemma Counted.act (h : l.Counted) (a : Act) : (l.act a).Counted := by
  by_cases ha : a = .publish
  · subst ha
    have hpublish := counted_publish h
    simp only [Loop.act]
    split
    · exact hpublish
    · exact hpublish
    · exact h
  · obtain ⟨hversion, hpublished⟩ := published_act (l := l) ha
    rw [Counted, hversion, hpublished, h]

/-- Every run keeps count. -/
lemma Counted.run (h : l.Counted) (acts : List Act) : (l.run acts).Counted := by
  induction acts generalizing l with
  | nil => exact h
  | cons a acts ih => exact ih (h.act a)

/-- What has been published is up to date, if it compares to itself. -/
lemma current_publish {e : Engine} (h : e.stage.state.values.NanFree) (phase : Phase) :
    Current ⟨e.publish, phase⟩ := by
  intro _
  simp only [Engine.publish_eq]
  split
  next hsame => exact hsame
  next => exact Snapshot.beq_self (a := Snapshot.ofState e.stage.state (e.version + 1)) h

/-- What is up to date stays so where the same is shown. -/
lemma Current.of_same {e : Engine} (h : l.Current) (hsame : l.engine.SameShow e) {phase : Phase}
    (hphase : phase = .idle ∨ (∃ answer, phase = .published answer) →
      l.phase = .idle ∨ ∃ answer, l.phase = .published answer) : Current ⟨e, phase⟩ := by
  intro hrest
  simp only [hsame.published, hsame.version, hsame.stage, h (hphase hrest)]

/-- Nothing has to be up to date while a message is handled. -/
lemma current_behind (handled : Engine × Except PlayError Unit) (asked : Bool) :
    (behind handled asked).Current := by
  intro hrest
  simp only [behind] at hrest
  split at hrest <;> simp at hrest

/-- **Every act keeps what is published up to date.**

**Proof sketch.** A message is handled from where the loop waits, and nothing has to be up to date
until it is published. All other acts but publishing leave alone what is compared. -/
theorem Current.act (h : l.Current) (a : Act)
    (hvalues : (l.act a).engine.stage.state.values.NanFree) : (l.act a).Current := by
  cases a with
  | command now c =>
    simp only [Loop.act]
    split
    · exact current_behind _ _
    · exact h
  | report now =>
    simp only [Loop.act]
    split
    · exact current_behind _ _
    · exact h
  | publish =>
    simp only [Loop.act] at hvalues ⊢
    split at hvalues
    · exact current_publish (by simpa using hvalues) _
    · exact current_publish (by simpa using hvalues) _
    · exact h
  | answer =>
    simp only [Loop.act]
    split
    next answer hphase => exact h.of_same (.refl _) fun _ => Or.inr ⟨answer, hphase⟩
    next => exact h
  | tick ticket => exact h.of_same (Engine.sameShow_tick _ _) id
  | quit ticket => exact h.of_same (Engine.sameShow_quit _ ticket) id
  | stop =>
    simp only [Loop.act]
    split
    next hphase => exact h.of_same (Engine.sameShow_cancelTimer _) fun _ => Or.inl hphase
    next => exact h

/-- **What is published is up to date** along every run without not-a-number. -/
theorem current_run (h : l.Current)
    (hvalues : ∀ n, (l.run (acts.take n)).engine.stage.state.values.NanFree) :
    (l.run acts).Current := by
  induction acts generalizing l with
  | nil => exact h
  | cons a acts ih => exact ih (h.act a (hvalues 1)) fun n => hvalues (n + 1)

/-- A loop starts with what it shows published. -/
lemma current_opening (r : Repertoire) (settings : Settings) (ids : Random.Source) :
    (opening r settings ids).Current :=
  fun _ => Snapshot.beq_self (a := Snapshot.ofState .idle 0) (fun _ hx => nomatch hx)

/-! ## Versions -/

/-- What is published afterwards is not older, and the same under the same version. -/
structure NotOlder (l l' : Loop) : Prop where
  /-- The version does not decrease. -/
  le : l.engine.version ≤ l'.engine.version
  /-- Under the same version, the same is published. -/
  same : l'.engine.version = l.engine.version → l'.engine.published = l.engine.published

lemma NotOlder.refl (l : Loop) : l.NotOlder l := ⟨Nat.le_refl _, fun _ => rfl⟩

lemma NotOlder.trans {l'' : Loop} (h : l.NotOlder l') (h' : l'.NotOlder l'') : l.NotOlder l'' where
  le := Nat.le_trans h.le h'.le
  same heq := by
    have hle := h.le
    have hle' := h'.le
    rw [h'.same (by omega), h.same (by omega)]

/-- No act takes a version back, or publishes anything else under the same. -/
lemma notOlder_act (l : Loop) (a : Act) : l.NotOlder (l.act a) := by
  by_cases ha : a = .publish
  · subst ha
    have hpublish : l.NotOlder ⟨l.engine.publish, l.phase⟩ := by
      rw [Engine.publish_eq]
      split
      · exact .refl l
      · exact ⟨Nat.le_succ _, fun heq => absurd heq (Nat.succ_ne_self _)⟩
    simp only [act]
    split
    · exact ⟨hpublish.le, hpublish.same⟩
    · exact ⟨hpublish.le, hpublish.same⟩
    · exact .refl l
  · obtain ⟨hversion, hpublished⟩ := published_act (l := l) ha
    exact ⟨Nat.le_of_eq hversion.symm, fun _ => hpublished⟩

/-- No run takes a version back, or publishes anything else under the same. -/
lemma notOlder_run (l : Loop) (acts : List Act) : l.NotOlder (l.run acts) := by
  induction acts generalizing l with
  | nil => exact .refl l
  | cons a acts ih => exact (l.notOlder_act a).trans (ih _)

/-! ## What versions are good for -/

/-- What comes of a message once it has been published: the stage that it has left, under the same
version as before if that shows what was published before, and under the next one otherwise. -/
structure Brings (l : Loop) (left : Stage) (l' : Loop) : Prop where
  /-- The stage is the one that the message has left. -/
  stage : l'.engine.stage = left
  /-- What has been published already is not published again. -/
  quiet : l.engine.published.agrees (.ofState left.state 0) = true →
    l'.engine.published = l.engine.published ∧ l'.engine.version = l.engine.version
  /-- Anything else is published under the next version. -/
  news : l.engine.published.agrees (.ofState left.state 0) = false →
    l'.engine.published = .ofState left.state (l.engine.version + 1) ∧
      l'.engine.version = l.engine.version + 1

/-- **What comes of a message.**

**Proof sketch.** The message publishes nothing, and what is done before it is published shows
nothing. What is published then depends on what is shown and on what was published before. -/
theorem Counted.brings (h : l.Counted) {answer : Option (Except PlayError Unit)}
    (hidle : l.phase = .idle) (hhandled : (l.act a).phase = .handled answer)
    (hacts : Act.publish ∉ acts) :
    l.Brings (l.act a).engine.stage (l.run (a :: acts ++ [.publish])) := by
  have ha : a ≠ .publish := by
    rintro rfl
    simp only [Loop.act, hidle] at hhandled
    cases hhandled
  obtain ⟨hversion, hpublished⟩ := published_act (l := l) ha
  have hstill : (l.act a).Still ((l.act a).run acts) :=
    still_run still_of_handled hhandled hacts
  have hsame : (l.act a).engine.publish.SameShow (l.run (a :: acts ++ [.publish])).engine := by
    have hengine := engine_act_publish (hstill.phase.trans hhandled)
    rw [run_append, run_cons, run_cons, run_nil, hengine]
    exact hstill.same.publish
  have hcounted : (l.act a).engine.published.version = (l.act a).engine.version := h.act a
  refine ⟨hsame.stage.trans (Engine.stage_publish _), fun hagrees => ?_, fun hagrees => ?_⟩
  · rw [← hpublished, Snapshot.agrees_ofState _ _ 0 (l.act a).engine.version] at hagrees
    rw [hsame.published, hsame.version, Engine.publish_of_agrees hcounted hagrees]
    exact ⟨hpublished, hversion⟩
  · rw [← hpublished, Snapshot.agrees_ofState _ _ 0 (l.act a).engine.version] at hagrees
    rw [hsame.published, hsame.version, Engine.publish_of_not_agrees hcounted hagrees, hversion]
    exact ⟨rfl, rfl⟩

/-- A command that has been handled is published before it can be answered. -/
lemma publish_of_published {answer answer' : Except PlayError Unit}
    (hhandled : l.phase = .handled (some answer)) (hacts : Act.answer ∉ acts)
    (hanswer : (l.run acts).phase = .published answer') :
    answer' = answer ∧ l.engine.publish.SameShow (l.run acts).engine := by
  by_cases hpublish : Act.publish ∈ acts
  · obtain ⟨before, after, rfl, hbefore⟩ := List.eq_append_cons_of_mem hpublish
    have hstill := still_run still_of_handled hhandled hbefore
    have hphase := hstill.phase.trans hhandled
    rw [run_append, run_cons] at hanswer ⊢
    generalize l.run before = l₂ at hstill hphase hanswer ⊢
    have hpublished : (l₂.act .publish).phase = .published answer := by simp only [act, hphase]
    have hafter : Act.answer ∉ after := fun h =>
      hacts (List.mem_append_right _ (List.mem_cons_of_mem _ h))
    have hlast := still_run still_of_published hpublished hafter
    have hsame := hlast.same
    rw [hlast.phase, hpublished] at hanswer
    rw [engine_act_publish hphase] at hsame
    exact ⟨(Phase.published.inj hanswer).symm, hstill.same.publish.trans hsame⟩
  · have hstill := still_run still_of_handled hhandled hpublish
    rw [hstill.phase, hhandled] at hanswer
    cases hanswer

/-- **A command is answered** after what has become of it is published.

**Proof sketch.** Between a command and its answer the loop handles the command, publishes, and does
nothing else; timers may act, but show nothing. -/
theorem answered_run (hidle : l.phase = .idle) {now : ℕ} {c : Command}
    {answer : Except PlayError Unit} (hacts : Act.answer ∉ acts)
    (hanswer : (l.run (.command now c :: acts)).phase = .published answer) :
    answer = (l.engine.handleCommand now c).2 ∧
      (l.engine.handleCommand now c).1.SameShow (l.run (.command now c :: acts)).engine := by
  have htaken : l.act (.command now c) = behind (l.engine.take now c) true := by
    simp only [act, hidle]
  rw [run_cons, htaken] at hanswer ⊢
  by_cases hlong : (l.engine.take now c).2 = .error .pauseTooLong
  · have hended : (behind (l.engine.take now c) true).phase = .ended := by simp [behind, hlong]
    have hstill := still_run (fun h _ => still_of_ended h _) hended hacts
    rw [hstill.phase, hended] at hanswer
    cases hanswer
  · have hhandled : (behind (l.engine.take now c) true).phase =
        .handled (some (l.engine.take now c).2) := by simp [behind, hlong]
    exact publish_of_published hhandled hacts hanswer

/-- What is published is up to date, and versions count changes. -/
structure PublishesChanges (l : Loop) : Prop where
  /-- What is published bears the version that has been counted. -/
  counted : l.engine.published.version = l.engine.version
  /-- Between messages, and before an answer, it compares to what there is to show. -/
  current : l.phase = .idle ∨ (∃ answer, l.phase = .published answer) →
    (l.engine.published == Snapshot.ofState l.engine.stage.state l.engine.version) = true
  /-- Nothing but publishing changes it. -/
  kept : ∀ a, a ≠ .publish → (l.act a).engine.published = l.engine.published ∧
    (l.act a).engine.version = l.engine.version
  /-- A command is handled, published and answered as the engine does all that at once. -/
  command : ∀ now c, l.phase = .idle → (l.engine.handleCommand now c).2 ≠ .error .pauseTooLong →
    l.run [.command now c, .publish, .answer] = ⟨(l.engine.handleCommand now c).1, .idle⟩
  /-- So is the oldest report, which nobody waits to have answered. -/
  report : ∀ now, l.phase = .idle → l.engine.queue ≠ [] →
    (l.engine.deliver now).2 ≠ .error .pauseTooLong →
    l.run [.report now, .publish] = ⟨(l.engine.deliver now).1, .idle⟩
  /-- A message raises the version by one if there is anything new, and changes nothing of what is
  published otherwise. Timers may act while it is handled. -/
  message : ∀ a answer acts, l.phase = .idle → (l.act a).phase = .handled answer →
    Act.publish ∉ acts →
    l.Brings (l.act a).engine.stage (l.run (a :: acts ++ [.publish]))
  /-- A message that leaves the same to show changes nothing of what is published. -/
  unchanged : ∀ a answer acts, l.phase = .idle → (l.act a).phase = .handled answer →
    Act.publish ∉ acts →
    Snapshot.ofState (l.act a).engine.stage.state 0 = .ofState l.engine.stage.state 0 →
    (l.run (a :: acts ++ [.publish])).engine.published = l.engine.published ∧
      (l.run (a :: acts ++ [.publish])).engine.version = l.engine.version
  /-- A command is answered after what has become of it is published. -/
  answered : ∀ now c acts answer, l.phase = .idle → Act.answer ∉ acts →
    (l.run (.command now c :: acts)).phase = .published answer →
    answer = (l.engine.handleCommand now c).2 ∧
      (l.engine.handleCommand now c).1.SameShow (l.run (.command now c :: acts)).engine
  /-- Versions do not decrease, and one version is that of one snapshot. -/
  rising : ∀ acts, l.engine.published.version ≤ (l.run acts).engine.published.version ∧
    ((l.run acts).engine.published.version = l.engine.published.version →
      (l.run acts).engine.published = l.engine.published)

end Loop

/-- Scenes that were read from texts. -/
def Repertoire.FromTexts (r : Repertoire) : Prop :=
  ∃ drafts : List (Option String × Draft), (∀ d ∈ drafts, ∃ text, Draft.ofText text = .ok d.2) ∧
    (Compilation.ofDrafts drafts).repertoire = r

namespace Loop

variable {acts : List Act} {r : Repertoire} {settings : Settings} {ids : Random.Source}

/-- Where the scenes assign numbers only, no variable along a run is not-a-number. -/
lemma nanFree_run (hr : r.NanFree) (acts : List Act) :
    ((opening r settings ids).run acts).engine.stage.state.values.NanFree :=
  Stage.nanFree_of_reachable hr
    (reachable_stage (l := opening r settings ids) (.opening ids) acts)

/-- **Versions count changes** along every run in which no variable is not-a-number, and none is
where the scenes were read from texts.

**Proof sketch.** What is published is up to date between messages (`current_run`) and bears the
version that is counted, so that comparing what there is to show with what is published is comparing
it with what was there before the message. -/
theorem publishes_changes (r : Repertoire) (settings : Settings) (ids : Random.Source)
    (acts : List Act)
    (h : r.FromTexts ∨
      ∀ n, ((opening r settings ids).run (acts.take n)).engine.stage.state.values.NanFree) :
    (∀ n, ((opening r settings ids).run (acts.take n)).engine.stage.state.values.NanFree) ∧
      ((opening r settings ids).run acts).PublishesChanges := by
  have hvalues : ∀ n,
      ((opening r settings ids).run (acts.take n)).engine.stage.state.values.NanFree := by
    rcases h with ⟨drafts, htexts, rfl⟩ | hvalues
    · exact fun n => nanFree_run (Repertoire.nanFree_ofDrafts htexts) _
    · exact hvalues
  have hcurrent := current_run (current_opening r settings ids) hvalues
  have hcounted : ((opening r settings ids).run acts).Counted :=
    Counted.run (l := opening r settings ids) rfl acts
  refine ⟨hvalues, ?_⟩
  generalize (opening r settings ids).run acts = l at hcurrent hcounted
  refine ⟨hcounted, hcurrent, fun a ha => (published_act ha).symm,
    fun now c hidle hok => run_command hidle hok,
    fun now hidle hqueue hok => run_report hidle hqueue hok, ?_, ?_, ?_, ?_⟩
  · exact fun a answer acts hidle hhandled hacts => hcounted.brings hidle hhandled hacts
  · intro a answer acts hidle hhandled hacts hsame
    refine (hcounted.brings hidle hhandled hacts).quiet ?_
    have hagrees := hcurrent (Or.inl hidle)
    rw [Snapshot.beq_eq_agrees (b := .ofState l.engine.stage.state l.engine.version) hcounted]
      at hagrees
    rw [hsame]
    exact hagrees
  · exact fun now c acts answer hidle hacts hanswer => answered_run hidle hacts hanswer
  · intro acts
    have holder := l.notOlder_run acts
    rw [hcounted, hcounted.run acts]
    exact ⟨holder.le, holder.same⟩

/-- The pause at the start of the rehearsal, with a second user who asks for a scene that there is
not. The first command is published as a change, and the second is answered without one. -/
theorem publishes_changes_rehearsing :
    let l := (opening (Repertoire.empty.add rehearsal) .standard (.ofSeed 7)).run
      [.command 0 (.trigger "rehearsal"), .publish, .answer, .command 1 (.trigger "encore"),
        .publish]
    l.engine.version = 1 ∧ l.engine.published.waiting = false ∧ l.PublishesChanges := by
  have hscenes : (Repertoire.empty.add rehearsal).NanFree := by
    intro name scene hscene
    obtain rfl := List.mem_singleton.1 (Repertoire.mem_toList_of_get? hscene)
    exact fun _ hx => nomatch hx
  refine ⟨by decide +kernel, by decide +kernel, ?_⟩
  exact (publishes_changes (Repertoire.empty.add rehearsal) .standard _ _
    (Or.inr fun n => nanFree_run hscenes _)).2

end Loop

end Cutscene
