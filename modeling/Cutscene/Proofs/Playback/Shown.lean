import Cutscene.Proofs.Playback.Timers

set_option relaxedAutoImplicit false
set_option autoImplicit false

/-!
# What is shown

The engine publishes a snapshot of its stage behind every message, unless it compares to the one
that has been published. This file takes the handling of a message apart from the publishing of what
has become of it, and shows that what an engine has published is up to date between any two moves.

## Main definitions

* `Cutscene.Snapshot.agrees` — two snapshots compare, their versions left aside.
* `Cutscene.Snapshot.Depicts` — a snapshot of a state, its version and variables left aside.
* `Cutscene.Engine.take`, `Cutscene.Engine.receive` — a message handled, and nothing published yet.
* `Cutscene.Engine.SameShow` — two engines show the same.
* `Cutscene.Engine.Shown` — what is published is up to date.

## Main results

* `Cutscene.Engine.publish_eq` — what there is to publish, and when.
* `Cutscene.Engine.shown_of_reachable` — what a reachable engine has published is up to date.

## Design

Variables are left aside where a snapshot is compared to a state: what is published may differ from
what there is to show in the sign of a zero, which compares as equal, and is published over and over
where there is a variable that is not-a-number. Neither is anything a player could go on with.
-/

namespace Cutscene

/-! ## Snapshots without their versions -/

namespace Snapshot

variable {a b : Snapshot} {s : State}

/-- Whether two snapshots compare, their versions left aside. -/
def agrees (a b : Snapshot) : Bool := { a with version := 0 } == { b with version := 0 }

/-- Under the same version, snapshots compare if they agree. -/
lemma beq_eq_agrees (h : a.version = b.version) : (a == b) = a.agrees b := by
  rw [Bool.eq_iff_iff, agrees, beq_iff, beq_iff]
  simp [h]

/-- Whether a snapshot agrees with that of a state does not depend on the version of either. -/
lemma agrees_ofState (a : Snapshot) (s : State) (version version' : ℕ) :
    a.agrees (ofState s version) = a.agrees (ofState s version') := rfl

/-! ## Snapshots of a state -/

/-- A snapshot depicts a state if it is that of the state, but perhaps for version and variables. -/
def Depicts (a : Snapshot) (s : State) : Prop :=
  ∃ version values, a = { ofState s version with values }

lemma depicts_ofState (s : State) (version : ℕ) : (ofState s version).Depicts s :=
  ⟨version, s.values, rfl⟩

/-- A snapshot that agrees with that of a state depicts it. -/
lemma depicts_of_agrees {version : ℕ} (h : a.agrees (ofState s version) = true) : a.Depicts s := by
  obtain ⟨hbubbles, htyping, hactive, hwaiting, hscene, hindex, hkind, -, -⟩ := beq_iff.1 h
  refine ⟨a.version, a.values, ?_⟩
  obtain ⟨bubbles, typing, active, waiting, scene, stepIndex, kind, values, version⟩ := a
  simp_all [ofState]

/-- The mark does something in a snapshot if it does in that of the state. -/
lemma Depicts.canProceed_eq (h : a.Depicts s) (version : ℕ) :
    a.canProceed = (ofState s version).canProceed := by
  obtain ⟨version', values, rfl⟩ := h
  rfl

lemma Depicts.active_eq (h : a.Depicts s) : a.active = s.isActive := by
  obtain ⟨version, values, rfl⟩ := h
  rfl

lemma Depicts.waiting_eq (h : a.Depicts s) : a.waiting = s.isWaiting := by
  obtain ⟨version, values, rfl⟩ := h
  rfl

end Snapshot

namespace Engine

/-! ## Messages without publishing -/

/-- Handles a command, and publishes nothing yet. -/
def take (e : Engine) (now : ℕ) (c : Command) : Engine × Except PlayError Unit :=
  let (stage, outcome) := runCommand e.stage c
  { e with stage }.schedule now outcome

/-- Handles a report, and publishes nothing yet. -/
def receive (e : Engine) (now : ℕ) (report : Report) : Engine × Except PlayError Unit :=
  let (stage, outcome) := runReport e.stage report
  match report with
  | .reveal _ => ({ e with stage }, .ok ())
  | .resolved _ => { e with stage }.schedule now outcome

/-- To handle a command is to take it and to publish. -/
lemma handleCommand_eq (e : Engine) (now : ℕ) (c : Command) :
    e.handleCommand now c = ((e.take now c).1.publish, (e.take now c).2) := rfl

/-- To handle a report is to receive it and to publish. -/
lemma handleReport_eq (e : Engine) (now : ℕ) (report : Report) :
    e.handleReport now report = ((e.receive now report).1.publish, (e.receive now report).2) := by
  cases report <;> rfl

/-- A command is taken by what it asks of the stage. -/
lemma stage_take (e : Engine) (now : ℕ) (c : Command) :
    (e.take now c).1.stage = (e.stage.apply c.operation).1 := by
  cases c <;> exact stage_schedule _ _ _

/-- A report is received by what it asks of the stage. -/
lemma stage_receive (e : Engine) (now : ℕ) (report : Report) :
    (e.receive now report).1.stage = (e.stage.apply report.operation).1 := by
  cases report with
  | reveal ticket => rfl
  | resolved ticket => exact stage_schedule _ _ _

/-! ## What is shown -/

/-- Two engines show the same, and have published the same under the same version. They may differ
in timers and queue. -/
structure SameShow (e e' : Engine) : Prop where
  /-- The stage is the same. -/
  stage : e'.stage = e.stage
  /-- So is the version. -/
  version : e'.version = e.version
  /-- So is what is published. -/
  published : e'.published = e.published

variable {e e' e'' : Engine}

lemma SameShow.refl (e : Engine) : e.SameShow e := ⟨rfl, rfl, rfl⟩

lemma SameShow.trans (h : e.SameShow e') (h' : e'.SameShow e'') : e.SameShow e'' :=
  ⟨h'.stage.trans h.stage, h'.version.trans h.version, h'.published.trans h.published⟩

/-- Stopping the timer shows nothing. -/
lemma sameShow_cancelTimer (e : Engine) : e.SameShow e.cancelTimer := by
  rw [cancelTimer_eq]
  exact ⟨rfl, rfl, rfl⟩

/-- A timer that reports shows nothing yet. -/
lemma sameShow_tick (e : Engine) (ticket : Ticket) : e.SameShow (e.tick ticket) := by
  unfold tick
  split <;> exact ⟨rfl, rfl, rfl⟩

/-- A timer that gives up shows nothing. -/
lemma sameShow_quit (e : Engine) (ticket : Ticket) : e.SameShow (e.quit ticket) := ⟨rfl, rfl, rfl⟩

/-- Starting a timer shows nothing. -/
lemma sameShow_startTimer (e : Engine) (now : ℕ) (pending : Pending) :
    e.SameShow (e.startTimer now pending) := by
  have h := sameShow_cancelTimer e
  exact ⟨h.stage, h.version, h.published⟩

/-- Starting and stopping timers shows nothing. -/
lemma sameShow_schedule (e : Engine) (now : ℕ) (outcome : Outcome) :
    e.SameShow (e.schedule now outcome).1 := by
  have hcancel : e.SameShow
      (if e.slot.any fun ticket => !e.stage.state.isCurrent ticket then e.cancelTimer else e) := by
    split
    · exact sameShow_cancelTimer e
    · exact .refl e
  rw [schedule_fst]
  simp only
  split
  · exact hcancel
  · exact hcancel.trans (sameShow_startTimer _ _ _)

/-- Taking a command publishes nothing. -/
lemma published_take (e : Engine) (now : ℕ) (c : Command) :
    (e.take now c).1.version = e.version ∧ (e.take now c).1.published = e.published := by
  have h := sameShow_schedule { e with stage := (runCommand e.stage c).1 } now
    (runCommand e.stage c).2
  exact ⟨h.version, h.published⟩

/-- Receiving a report publishes nothing. -/
lemma published_receive (e : Engine) (now : ℕ) (report : Report) :
    (e.receive now report).1.version = e.version ∧
      (e.receive now report).1.published = e.published := by
  cases report with
  | reveal ticket => exact ⟨rfl, rfl⟩
  | resolved ticket =>
    have h := sameShow_schedule { e with stage := (e.stage.resolve ticket).1 } now
      (e.stage.resolve ticket).2
    exact ⟨h.version, h.published⟩

/-- What there is to publish is published under the next version, unless it compares to what has
been. -/
lemma publish_eq (e : Engine) :
    e.publish =
      if e.published == .ofState e.stage.state e.version then e
      else { e with
        version := e.version + 1
        published := .ofState e.stage.state (e.version + 1) } := rfl

/-- What is published depends on what is shown alone. -/
lemma SameShow.publish (h : e.SameShow e') : e.publish.SameShow e'.publish := by
  obtain ⟨hstage, hversion, hpublished⟩ := h
  rw [publish_eq, publish_eq, hstage, hversion, hpublished]
  split
  · exact ⟨hstage, hversion, hpublished⟩
  · exact ⟨rfl, rfl, rfl⟩

/-- A snapshot that agrees with what is published is not published again. -/
lemma publish_of_agrees (hcounted : e.published.version = e.version)
    (h : e.published.agrees (.ofState e.stage.state e.version) = true) : e.publish = e := by
  rw [publish_eq, Snapshot.beq_eq_agrees (b := .ofState e.stage.state e.version) hcounted,
    if_pos h]

/-- Any other is published under the next version. -/
lemma publish_of_not_agrees (hcounted : e.published.version = e.version)
    (h : e.published.agrees (.ofState e.stage.state e.version) = false) :
    e.publish = { e with
      version := e.version + 1
      published := .ofState e.stage.state (e.version + 1) } := by
  rw [publish_eq, Snapshot.beq_eq_agrees (b := .ofState e.stage.state e.version) hcounted, h,
    if_neg Bool.false_ne_true]

/-! ## Up to date -/

variable {r : Repertoire} {settings : Settings}

/-- What is published is up to date: it compares to what there is to show, or is the very snapshot
of it. -/
def Shown (e : Engine) : Prop :=
  e.published.agrees (.ofState e.stage.state 0) = true ∨
    e.published = .ofState e.stage.state e.published.version

/-- What is up to date depicts the stage. -/
lemma Shown.depicts (h : e.Shown) : e.published.Depicts e.stage.state := by
  rcases h with hagrees | hsame
  · exact Snapshot.depicts_of_agrees hagrees
  · rw [hsame]
    exact Snapshot.depicts_ofState _ _

/-- What is up to date stays so where the same is shown. -/
lemma Shown.of_same (h : e.Shown) (hsame : e.SameShow e') : e'.Shown := by
  rwa [Shown, hsame.published, hsame.stage]

/-- Publishing brings what is published up to date. -/
lemma shown_publish (e : Engine) : e.publish.Shown := by
  rw [publish_eq]
  split
  next hsame =>
    obtain ⟨-, -, -, -, -, -, -, -, hversion⟩ := Snapshot.beq_iff.1 hsame
    rw [Snapshot.beq_eq_agrees hversion] at hsame
    exact Or.inl hsame
  next => exact Or.inr rfl

/-- **What a reachable engine has published is up to date.** -/
theorem shown_of_reachable (h : Reachable r settings e) : e.Shown := by
  induction h with
  | opening ids => exact Or.inr rfl
  | @make e h m ih =>
    cases m with
    | command now c =>
      rw [make, handleCommand_eq]
      exact shown_publish _
    | deliver now =>
      rw [make, deliver]
      split
      · exact ih
      · rw [handleReport_eq]
        exact shown_publish _
    | tick ticket => exact ih.of_same (sameShow_tick e ticket)
    | quit ticket => exact ih.of_same (sameShow_quit e ticket)

end Engine

end Cutscene
