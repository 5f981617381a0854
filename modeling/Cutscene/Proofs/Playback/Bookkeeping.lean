import Mathlib.Data.List.Nodup
import Cutscene.Proofs.Playback.Course
import Cutscene.Proofs.Playback.Screen
import Cutscene.Proofs.Playback.Starts

set_option relaxedAutoImplicit false
set_option autoImplicit false

/-!
# The books on the running effect

A stage keeps books on the effect that is running: its ticket, whether playback goes on by itself
when it is over, and whether it types a line. The same is told by the current step, by the bubbles,
and by what was handed out when the effect was started. This file shows that these never disagree,
and that a stage without a running effect waits for the player and not for itself.

## Main definitions

* `Cutscene.Stage.handedOut?` — what was handed out for the running effect.
* `Cutscene.Stage.WaitsFor` — what a stage waits for between two operations.
* `Cutscene.Step.Records` — the books on the effect of a step.
* `Cutscene.Stage.KeepsItsBooks` — the books agree with the step and with what was handed out.

## Main results

* `Cutscene.Stage.waitsFor_apply` — what is waited for after an operation.
* `Cutscene.Stage.waitsFor_run` — what is waited for after a run was handed out along it.
* `Cutscene.Stage.keeps_its_books` — a stage keeps its books along every run that goes well.

## Design

What is waited for in the middle of a scene is said already by `Cutscene.Stage.Ahead`, and every
operation that performs comes to that by its landing. All that has to be added is where nothing has
been played, and that operations that do not perform take at most the running effect away.
-/

namespace Cutscene

/-! ## Books on a single step -/

/-- What stands in the books while the effect of a step is running. -/
structure Step.Records (step : Step) (effect : Running) : Prop where
  /-- Playback goes on by itself if the step does. -/
  autoAdvance : effect.autoAdvance = step.autoAdvance
  /-- A line is typed exactly at a line. -/
  typing : effect.typing = step.isSay
  /-- There is something to type. -/
  spoken : ∀ line, step.action = .say line → line.text ≠ ""
  /-- An assignment has no effect to wait for. -/
  kind : step.kind ≠ .assign

/-- A step that is neither a line nor an assignment gives the books on its effect. -/
lemma Step.records_of_not_isSay {step : Step} {effect : Effect} (hsay : step.isSay = false)
    (hkind : step.kind ≠ .assign) (htyping : effect.isTyping = false) (ticket : Ticket) :
    step.Records ⟨ticket, step.autoAdvance, effect.isTyping⟩ where
  autoAdvance := rfl
  typing := htyping.trans hsay.symm
  spoken line hline := by simp [isSay, Step.kind, Action.kind, hline] at hsay
  kind := hkind

/-- A step with an effect gives the books on it. -/
lemma Step.records_of_effect? {settings : Settings} {step : Step} {effect : Effect}
    (h : step.effect? settings = some effect) (ticket : Ticket) :
    step.Records ⟨ticket, step.autoAdvance, effect.isTyping⟩ := by
  unfold effect? at h
  cases haction : step.action with
  | say line =>
    simp only [haction] at h
    split at h
    next => cases h
    next hl =>
      cases h
      refine ⟨rfl, ?_, ?_, ?_⟩
      · simp [isSay, Step.kind, Action.kind, haction, Effect.isTyping]
      · intro line' hline
        obtain rfl : line = line' := Action.say.inj (haction.symm.trans hline)
        exact fun hempty => hl (Line.length_eq_zero_iff.2 hempty)
      · simp [Step.kind, Action.kind, haction]
  | pause millis =>
    simp only [haction, Option.map_eq_some_iff] at h
    obtain ⟨length, -, rfl⟩ := h
    exact records_of_not_isSay (by simp [isSay, Step.kind, Action.kind, haction])
      (by simp [Step.kind, Action.kind, haction]) rfl ticket
  | assign values => simp [haction] at h
  | reset | complete =>
    simp only [haction, Option.some.injEq] at h
    subst h
    exact records_of_not_isSay (by simp [isSay, Step.kind, Action.kind, haction])
      (by simp [Step.kind, Action.kind, haction]) rfl ticket

namespace Stage

variable {r : Repertoire} {settings : Settings} {s s' s₀ : Stage} {op : Operation}
  {ops : List Operation} {scene : Scene} {c : ℕ} {step : Step} {pending : Option Pending}
  {effect : Running}

/-! ## What is waited for -/

/-- What a stage waits for between two operations. -/
inductive WaitsFor (s : Stage) : Option Pending → Prop
  /-- Nothing has been played. -/
  | opening (hsession : s.state.session = none) (hrunning : s.state.running = none) :
    WaitsFor s none
  /-- A scene has been put on. -/
  | scene {scene : Scene} {cues : List Cue} {pending : Option Pending}
    (h : s.Ahead scene pending cues) : WaitsFor s pending

/-- What is waited for is told from settings, cursor and running effect. -/
lemma WaitsFor.congr (h : s.WaitsFor pending) (hsettings : s'.settings = s.settings)
    (hsession : s'.state.session = s.state.session)
    (hrunning : s'.state.running = s.state.running) : s'.WaitsFor pending := by
  cases h with
  | opening hnone hidle => exact .opening (hsession.trans hnone) (hrunning.trans hidle)
  | scene h => exact .scene (h.congr hsettings hsession hrunning)

/-- At a step, the pauses up to it have been in range. -/
lemma WaitsFor.fitsBelow (h : s.WaitsFor pending) (hs : StandsAt s scene c step) :
    scene.FitsBelow s.settings (c + 1) := by
  cases h with
  | opening hsession => simp [hs.session] at hsession
  | scene h =>
    cases h with
    | busy hs' _ hfits | waiting hs' _ hfits =>
      cases hs.session.symm.trans hs'.session
      exact hfits
    | settling hsession | ended hsession => simp [hs.session] at hsession

/-- Up to where an operation performs from, the pauses have been in range. -/
lemma Starts.fitsBelow (h : Starts s op scene c s₀) (hwaits : s.WaitsFor pending) :
    scene.FitsBelow s.settings c := by
  cases h with
  | trigger | restart => exact scene.fitsBelow_zero s.settings
  | proceed hs | confirm hs | resolve hs => exact hwaits.fitsBelow hs

/-- Where an effect is running, it is what is waited for, and its record tells whether it types. -/
lemma WaitsFor.of_running (h : s.WaitsFor pending) (hrunning : s.state.running = some effect) :
    ∃ p, pending = some p ∧ p.ticket = effect.ticket ∧ p.effect.isTyping = effect.typing := by
  cases h with
  | opening _ hnone => simp [hnone] at hrunning
  | scene h =>
    cases h with
    | busy _ _ _ _ hrunning' | settling _ _ hrunning' =>
      cases hrunning.symm.trans hrunning'
      exact ⟨_, rfl, rfl, rfl⟩
    | waiting _ _ _ _ hnone | ended _ _ hnone => simp [hnone] at hrunning

/-- Where an effect is waited for, its ticket is the current one. -/
lemma WaitsFor.isCurrent {p : Pending} (h : s.WaitsFor (some p)) (ticket : Ticket) :
    s.state.isCurrent ticket = true ↔ ticket = p.ticket := by
  cases h with
  | scene h => exact h.isCurrent ticket

/-- Where nothing is waited for, no effect is running. -/
lemma WaitsFor.running_eq_none (h : s.WaitsFor none) : s.state.running = none := by
  cases hrunning : s.state.running with
  | none => rfl
  | some effect =>
    obtain ⟨p, hp, -⟩ := h.of_running hrunning
    cases hp

/-- During a scene, the books are those on the effect of the current step. -/
lemma WaitsFor.records (h : s.WaitsFor pending) (hs : StandsAt s scene c step)
    (hrunning : s.state.running = some effect) :
    step.Records effect ∧ pending.map Pending.effect = step.effect? s.settings := by
  cases h with
  | opening hnone => simp [hs.session] at hnone
  | scene h =>
    cases h with
    | busy hs' _ _ heffect hrunning' =>
      obtain rfl := Option.some.inj (hs.step?_eq.symm.trans hs'.step?_eq)
      cases hrunning.symm.trans hrunning'
      exact ⟨Step.records_of_effect? heffect _, by rw [heffect]; rfl⟩
    | waiting _ _ _ _ hnone => simp [hrunning] at hnone
    | settling hnone | ended hnone => simp [hs.session] at hnone

/-- **What is waited for after an operation** is what the operation has started, or what has been
waited for before.

**Proof sketch.** An operation that performs comes to a landing, where what is waited for is what is
handed out. The end of an effect that leaves no step takes its cues from the course. -/
theorem waitsFor_apply (h : s.WaitsFor pending) (hwithin : within.Holds s)
    (hok : (s.apply op).2 ≠ .error .pauseTooLong) :
    ∃ pending', (s.apply op).1.WaitsFor pending' ∧
      (pending' = pending ∨ pending' = (s.apply op).2.pending?) := by
  rcases starts_or_rests hwithin op with ⟨scene, c, s₀, hstarts⟩ | ⟨-, hrests⟩
  · obtain ⟨pending', houtcome, hahead⟩ :=
      (hstarts.landing.leadsTo (settings_apply s op) (hstarts.fitsBelow h)).of_ne hok
    exact ⟨pending', .scene hahead, Or.inr (by rw [houtcome]; rfl)⟩
  · have hsettings := settings_apply s op
    generalize s.apply op = result at hrests hok hsettings ⊢
    cases hrests with
    | stays hsession hrunning => exact ⟨pending, h.congr hsettings hsession hrunning, Or.inl rfl⟩
    | @ends effect hrunning hstop =>
      refine ⟨none, ?_, Or.inr rfl⟩
      obtain ⟨p, rfl, hticket, -⟩ := h.of_running hrunning
      cases h with
      | scene h =>
        obtain ⟨rest, -, hleads⟩ := h.resolve
        have hrest : s.resolve p.ticket = (s.finish effect.ticket, .ok none) := by
          rw [hticket, resolve_eq, hrunning]
          rcases hstop with hsession | hstop
          · rw [proceed_of_not_isActive (State.isActive_of_session_eq_none
              ((session_finish s _).trans hsession)), ite_self]
          · simp [hstop]
        rw [hrest] at hleads
        cases hleads with
        | ahead hahead => exact .scene hahead

/-- **What is waited for after a run** was handed out along it, or has been waited for before. -/
theorem waitsFor_run (hreach : Reachable r settings s) (h : s.WaitsFor pending)
    (hwell : s.goesWell ops = true) :
    ∃ pending', (s.run ops).WaitsFor pending' ∧
      ∀ p, pending' = some p → pending = some p ∨ p ∈ s.issued ops := by
  induction ops generalizing s pending with
  | nil => exact ⟨pending, h, fun p hp => Or.inl hp⟩
  | cons op ops ih =>
    obtain ⟨hok, hwell⟩ := goesWell_cons.1 hwell
    obtain ⟨next, hnext, hfrom⟩ := waitsFor_apply h (holds_within hreach) hok
    obtain ⟨last, hlast, hmem⟩ := ih (hreach.step op) hnext hwell
    refine ⟨last, hlast, fun p hp => ?_⟩
    rcases hmem p hp with rfl | hissued
    · rcases hfrom with hold | hnew
      · exact Or.inl hold.symm
      · exact Or.inr (List.mem_append_left _ (by simp [← hnew]))
    · exact Or.inr (List.mem_append_right _ hissued)

/-! ## What was handed out -/

/-- What was handed out for the running effect, among what was handed out along a run. -/
def handedOut? (s : Stage) (issued : List Pending) : Option Pending :=
  issued.find? fun p => s.state.isCurrent p.ticket

/-- No two effects are handed out under one ticket. -/
lemma eq_of_ticket_eq {p q : Pending} (hp : p ∈ s.issued ops) (hq : q ∈ s.issued ops)
    (h : p.ticket = q.ticket) : p = q := by
  have hnodup : ((s.issued ops).map Pending.ticket).Nodup := by
    refine List.pairwise_map.2 ((pairwise_issued s ops).imp fun hlt heq => ?_)
    rw [heq] at hlt
    exact Nat.lt_irrefl _ hlt
  exact List.inj_on_of_nodup_map hnodup hp hq h

/-- What is waited for is what was handed out for the running effect. -/
lemma WaitsFor.handedOut?_eq (h : s'.WaitsFor pending)
    (hissued : ∀ p, pending = some p → p ∈ s.issued ops) :
    s'.handedOut? (s.issued ops) = pending := by
  cases pending with
  | none =>
    refine List.find?_eq_none.2 fun p _ => ?_
    simp [State.isCurrent, h.running_eq_none]
  | some p =>
    have hp := hissued p rfl
    cases hfind : s'.handedOut? (s.issued ops) with
    | none =>
      have hnot := List.find?_eq_none.1 hfind p hp
      exact absurd ((h.isCurrent p.ticket).2 rfl) hnot
    | some q =>
      have hcurrent := List.find?_some hfind
      rw [eq_of_ticket_eq (List.mem_of_find?_eq_some hfind) hp ((h.isCurrent q.ticket).1 hcurrent)]

/-! ## The books -/

/-- The books on the running effect, after effects have been handed out. -/
structure KeepsItsBooks (s : Stage) (issued : List Pending) : Prop where
  /-- The running effect is one that was handed out. Its record tells whether it types. -/
  handed : ∀ effect, s.state.running = some effect → ∃ p, s.handedOut? issued = some p ∧
    p.ticket = effect.ticket ∧ p.effect.isTyping = effect.typing
  /-- A line is being typed exactly while the running effect is one that types. -/
  typing : s.state.typing = (s.handedOut? issued).any fun p => p.effect.isTyping
  /-- During a scene and without a running effect, the current step does not advance by itself. -/
  waiting : ∀ scene c, s.state.session = some ⟨scene, c⟩ → s.state.running = none →
    ∃ step, scene.steps[c]? = some step ∧ step.autoAdvance = false
  /-- During a scene, the running effect is that of the current step, and its record is that of the
  step. -/
  busy : ∀ scene c effect, s.state.session = some ⟨scene, c⟩ → s.state.running = some effect →
    ∃ step, scene.steps[c]? = some step ∧ step.Records effect ∧
      (s.handedOut? issued).map Pending.effect = step.effect? s.settings
  /-- Between scenes, the running effect is the rest after the last scene, and its end changes
  nothing but that it is no longer running. -/
  settling : ∀ effect, s.state.session = none → s.state.running = some effect →
    effect.typing = false ∧
      (s.handedOut? issued).map Pending.effect = some (.settle s.settings.settleDelay) ∧
      s.resolve effect.ticket = ({ s with state := { s.state with running := none } }, .ok none)

/-- A line is being typed exactly while the record says so. -/
lemma typing_eq (h : Reachable r settings s) (hwaits : s.WaitsFor pending) :
    s.state.typing = s.state.running.any Running.typing := by
  have hscreen := holds_screen h
  cases hsession : s.state.session with
  | some session =>
    obtain ⟨scene, c⟩ := session
    obtain ⟨-, -, -, -, hat⟩ := hscreen.during hsession
    exact hat.typing
  | none =>
    rw [(hscreen.between hsession).2]
    cases hwaits with
    | opening _ hrunning => rw [hrunning, Option.any_none]
    | scene h =>
      cases h with
      | busy hs | waiting hs => simp [hs.session] at hsession
      | settling _ _ hrunning => rw [hrunning, Option.any_some]
      | ended _ _ hrunning => rw [hrunning, Option.any_none]

/-- Between scenes, the end of the running effect takes it away and does nothing else. -/
lemma resolve_of_session_eq_none (hsession : s.state.session = none)
    (hrunning : s.state.running = some effect) (htyping : effect.typing = false) :
    s.resolve effect.ticket =
      ({ s with state := { s.state with running := none } }, .ok none) := by
  have hcurrent : s.state.isCurrent effect.ticket = true := by simp [State.isCurrent, hrunning]
  have hidle : (s.finish effect.ticket).state.isActive = false :=
    State.isActive_of_session_eq_none ((session_finish s _).trans hsession)
  rw [resolve_eq, proceed_of_not_isActive hidle, ite_self, finish_of_isCurrent hcurrent]
  simp [State.cancelEffect, hrunning, htyping]

/-- The books are kept where what is waited for is what was handed out.

**Proof sketch.** What is waited for says where the stage stands and what is running. The bubbles
agree by the discipline of the screen. -/
lemma WaitsFor.keepsItsBooks {issued : List Pending} (h : s.WaitsFor pending)
    (hreach : Reachable r settings s) (hhanded : s.handedOut? issued = pending) :
    s.KeepsItsBooks issued := by
  refine ⟨?_, ?_, ?_, ?_, ?_⟩
  · intro effect hrunning
    obtain ⟨p, rfl, hticket, hrecord⟩ := h.of_running hrunning
    exact ⟨p, hhanded, hticket, hrecord⟩
  · rw [typing_eq hreach h, hhanded]
    cases hrunning : s.state.running with
    | some effect =>
      obtain ⟨p, rfl, -, hrecord⟩ := h.of_running hrunning
      simp [hrecord]
    | none =>
      cases pending with
      | none => rfl
      | some p =>
        have hcurrent := (h.isCurrent p.ticket).2 rfl
        simp [State.isCurrent, hrunning] at hcurrent
  · intro scene c hsession hrunning
    cases h with
    | opening hnone => simp [hsession] at hnone
    | scene h =>
      cases h with
      | waiting hs _ _ hmanual =>
        cases hsession.symm.trans hs.session
        exact ⟨_, hs.current, hmanual⟩
      | busy _ _ _ _ hrunning' => simp [hrunning] at hrunning'
      | settling hnone | ended hnone => simp [hsession] at hnone
  · intro scene c effect hsession hrunning
    obtain ⟨-, step, hs, -, -⟩ := (holds_within hreach).during hsession
    obtain ⟨hrecords, heffect⟩ := h.records hs hrunning
    exact ⟨step, hs.current, hrecords, by rw [hhanded, heffect]⟩
  · intro effect hsession hrunning
    cases h with
    | opening _ hnone => simp [hrunning] at hnone
    | scene h =>
      cases h with
      | busy hs | waiting hs => simp [hs.session] at hsession
      | settling _ _ hrunning' =>
        have htyping : effect.typing = false := by cases hrunning.symm.trans hrunning'; rfl
        exact ⟨htyping, by rw [hhanded]; rfl, resolve_of_session_eq_none hsession hrunning htyping⟩
      | ended _ _ hrunning' => simp [hrunning] at hrunning'

/-- **A stage keeps its books** along every run that goes well, whatever is asked of it and whatever
is reported.

**Proof sketch.** What is waited for at the end was handed out along the run (`waitsFor_run`), and
no other effect under its ticket (`WaitsFor.handedOut?_eq`). -/
theorem keeps_its_books (r : Repertoire) (settings : Settings) (ids : Random.Source)
    (ops : List Operation) (hwell : (opening r settings ids).goesWell ops = true) :
    ((opening r settings ids).run ops).KeepsItsBooks ((opening r settings ids).issued ops) := by
  have hreach := reachable_opening r settings ids
  have hopening : (opening r settings ids).WaitsFor none := .opening rfl rfl
  obtain ⟨pending, hwaits, hissued⟩ := waitsFor_run hreach hopening hwell
  exact hwaits.keepsItsBooks (hreach.run ops)
    (hwaits.handedOut?_eq fun p hp => (hissued p hp).resolve_left nofun)

/-- While the line of the rehearsal is typed, the pause before it having gone on by itself. -/
theorem keeps_its_books_rehearsing :
    rehearsing.goesWell [.trigger "rehearsal", .resolve ⟨1⟩] = true ∧
      (rehearsing.run [.trigger "rehearsal", .resolve ⟨1⟩]).state.typing = true ∧
      (rehearsing.run [.trigger "rehearsal", .resolve ⟨1⟩]).KeepsItsBooks
        (rehearsing.issued [.trigger "rehearsal", .resolve ⟨1⟩]) :=
  ⟨by decide +kernel, by decide +kernel,
    keeps_its_books (Repertoire.empty.add rehearsal) .standard _
      [.trigger "rehearsal", .resolve ⟨1⟩] (by decide +kernel)⟩

end Stage

end Cutscene
