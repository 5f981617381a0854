import Cutscene.Proofs.Playback.Bubbles
import Cutscene.Proofs.Playback.Chains

set_option relaxedAutoImplicit false
set_option autoImplicit false

/-!
# What operations do to the bubbles

An operation takes all bubbles away, or it leaves every bubble at its place and lets it grow, and
puts the lines that it executes behind them. Which of the two it is can be told from the steps that
are executed, and from whether the scene starts over.

## Main definitions

* `Cutscene.Step.takesAway` — steps that take the bubbles away.
* `Cutscene.Turns` — what the execution of some steps does to the bubbles.
* `Cutscene.Stage.clears` — operations that take the bubbles away.
* `Cutscene.Stage.Evolves` — what an operation does to the bubbles.
* `Cutscene.Stage.keeps` — runs of operations none of which takes the bubbles away.

## Main results

* `Cutscene.Stage.sound_of_reachable` — no bubble shows more than there is.
* `Cutscene.Stage.turns_performLogged` — what performing does, along its log.
* `Cutscene.Stage.evolves` — what an operation does to the bubbles of a reachable stage.
* `Cutscene.Stage.continues_run` — bubbles grow along runs that keep them.
* `Cutscene.Stage.bubbles_evolve` — all of this together, with what is shown of each line.

## Design

The steps that are executed are those of the log that `Cutscene.Stage.applyLogged` keeps, so that a
bubble is taken away only by a step that the log has. A bubble is followed by its place: bubbles are
put behind others and taken away all at once, so that the place of a bubble never changes, while
two bubbles may be known by the same identifier if the source of identifiers repeats itself.
-/

namespace Cutscene

/-- Whether a step takes the bubbles away. -/
def Step.takesAway (step : Step) : Bool := step.isReset || step.isComplete

/-! ## What steps do to bubbles -/

/-- The lines among the steps of a log. -/
def Entry.lines (log : List Entry) : List Line := log.filterMap fun entry => entry.step.line?

/-- Whether one of the steps of a log takes the bubbles away. -/
def Entry.takeAway (log : List Entry) : Bool := log.any fun entry => entry.step.takesAway

/-- What the execution of some steps does to the bubbles. -/
structure Turns (log : List Entry) (old new : List Bubble) : Prop where
  /-- A step that takes the bubbles away leaves none. -/
  cleared : Entry.takeAway log = true → new = []
  /-- Other steps let the bubbles grow. -/
  continues : Entry.takeAway log = false → Continues old new
  /-- Other steps put their lines behind. -/
  lines : Entry.takeAway log = false →
    new.map Bubble.line = old.map Bubble.line ++ Entry.lines log

namespace Turns

variable {log : List Entry} {entry : Entry} {old mid new : List Bubble}

/-- Bubbles that grow while no step is executed. -/
lemma of_continues (h : Continues old new) (hlines : new.map Bubble.line = old.map Bubble.line) :
    Turns [] old new :=
  ⟨nofun, fun _ => h, fun _ => by rw [hlines, Entry.lines, List.filterMap_nil, List.append_nil]⟩

/-- No step changes nothing. -/
lemma refl (bubbles : List Bubble) : Turns [] bubbles bubbles := of_continues (.refl bubbles) rfl

/-- What is done to the bubbles before a step is done. -/
lemma of_nil (h : Turns [] old mid) (h' : Turns log mid new) : Turns log old new where
  cleared := h'.cleared
  continues hkeep := (h.continues rfl).trans (h'.continues hkeep)
  lines hkeep := by
    rw [h'.lines hkeep, h.lines rfl]
    simp [Entry.lines]

/-- A step that leaves the bubbles and then others. -/
lemma cons (hstep : entry.step.takesAway = false) (h : Turns [entry] old mid)
    (h' : Turns log mid new) : Turns (entry :: log) old new := by
  have hkeep : Entry.takeAway [entry] = false := by simp [Entry.takeAway, hstep]
  have htail : Entry.takeAway (entry :: log) = Entry.takeAway log := by
    simp [Entry.takeAway, hstep]
  refine ⟨fun haway => h'.cleared (htail ▸ haway), fun hstay => ?_, fun hstay => ?_⟩
  · exact (h.continues hkeep).trans (h'.continues (htail ▸ hstay))
  · rw [h'.lines (htail ▸ hstay), h.lines hkeep, List.append_assoc]
    congr 1
    cases hline : entry.step.line? <;> simp [Entry.lines, hline]

end Turns

namespace Stage

variable {r : Repertoire} {settings : Settings} {s s₀ s₁ : Stage} {op : Operation}
  {ops : List Operation} {scene : Scene} {c : ℕ} {step : Step} {effect : Option Effect}

/-! ## Bubbles are sound -/

/-- No bubble on screen shows more than there is. -/
def AllSound (s : Stage) : Prop := ∀ b ∈ s.state.bubbles, b.Sound

namespace AllSound

/-- Dropping an effect keeps bubbles sound. -/
lemma cancelEffect (h : s.AllSound) :
    AllSound { s with state := s.state.cancelEffect } := by
  unfold AllSound State.cancelEffect State.completeTyping
  split
  · exact h
  · split
    · exact sound_modifyLast Bubble.Sound.revealAll h
    · exact h

lemma leave (h : s.AllSound) : s.leave.AllSound := by
  unfold AllSound Stage.leave
  rw [State.leaveStep_eq]
  simp only
  split
  · exact sound_modifyLast Bubble.Sound.hideProceed h.cancelEffect
  · exact h.cancelEffect

lemma finish (h : s.AllSound) (ticket : Ticket) : (s.finish ticket).AllSound := by
  cases hcurrent : s.state.isCurrent ticket with
  | true => rw [finish_of_isCurrent hcurrent]; exact h.cancelEffect
  | false => rwa [finish_of_not_isCurrent hcurrent]

lemma reveal (h : s.AllSound) (ticket : Ticket) : (s.reveal ticket).1.AllSound := by
  unfold AllSound
  rw [reveal_fst]
  simp only
  split
  · exact sound_modifyLast Bubble.Sound.revealNext h
  · exact h

lemma enter (h : s.AllSound) (scene : Scene) : (s.enter scene).AllSound := h.cancelEffect

/-- A step adds a bubble that shows nothing, or none. -/
lemma awaiting (h : s.AllSound) (hex : Execution s step s₁ effect) :
    (s₁.awaiting step effect).AllSound := by
  have hs₁ : s₁.AllSound := by
    cases hex with
    | silent line id | line line id =>
      intro b hb
      rcases List.mem_append.1 hb with hb | hb
      · exact h b hb
      · rw [List.mem_singleton.1 hb]
        exact Bubble.sound_start id line
    | pause | assign => exact h
    | reset | complete => exact nofun
  cases effect <;> exact hs₁

end AllSound

/-- A scene that starts over finds no bubbles. -/
lemma bubbles_rewind (s : Stage) (scene : Scene) : (s.rewind scene).state.bubbles = [] := by
  have hnone : s.state.clearPlayback.running = none := State.running_cancelEffect s.state
  show s.state.clearPlayback.cancelEffect.bubbles = []
  rw [State.cancelEffect, hnone]
  rfl

/-- **The discipline of sound bubbles.** -/
def soundBubbles : Discipline where
  Before _ _ s := s.AllSound
  At _ _ s := s.AllSound
  Over s := s.AllSound
  perform _ hbefore hex _ := hbefore.awaiting hex
  complete _ hbefore hex _ := hbefore.awaiting hex
  refuse _ hbefore _ := hbefore
  leave _ hat := hat.leave
  rewind _ _ := by
    rw [AllSound, bubbles_rewind]
    exact nofun
  reveal _ hat := hat.reveal _
  finish _ hat := hat.finish _
  reveal_over _ hover := hover.reveal _
  finish_over _ hover := hover.finish _

/-- **No bubble of a reachable stage shows more than there is.** -/
theorem sound_of_reachable (h : Reachable r settings s) : s.AllSound := by
  have hholds : soundBubbles.Holds s :=
    Discipline.holds_of_reachable h (fun _ => nofun) fun _ hover => hover.enter _
  cases hsession : s.state.session with
  | none => exact hholds.between hsession
  | some session =>
    obtain ⟨-, -, -, -, hat⟩ := hholds.during hsession
    exact hat

/-! ## Bubbles grow -/

namespace AllSound

/-- Dropping an effect shows the newest line whole, or changes nothing. -/
lemma turns_cancelEffect (h : s.AllSound) :
    Turns [] s.state.bubbles s.state.cancelEffect.bubbles := by
  unfold State.cancelEffect State.completeTyping
  split
  · exact .refl _
  · split
    · exact .of_continues (continues_modifyLast fun b hb => (h b hb).grows_revealAll)
        (Bubble.map_line_modifyLast Bubble.line_revealAll _)
    · exact .refl _

/-- Leaving a step shows its line whole and hides the mark, or changes nothing. -/
lemma turns_leave (h : s.AllSound) : Turns [] s.state.bubbles s.leave.state.bubbles := by
  refine h.turns_cancelEffect.of_nil ?_
  rw [Stage.leave, State.leaveStep_eq]
  simp only
  split
  · exact .of_continues (continues_modifyLast fun b _ => b.grows_hideProceed)
      (Bubble.map_line_modifyLast Bubble.line_hideProceed _)
  · exact .refl _

/-- The end of an effect shows the newest line whole, or changes nothing. -/
lemma turns_finish (h : s.AllSound) (ticket : Ticket) :
    Turns [] s.state.bubbles (s.finish ticket).state.bubbles := by
  cases hcurrent : s.state.isCurrent ticket with
  | true => rw [finish_of_isCurrent hcurrent]; exact h.turns_cancelEffect
  | false => rw [finish_of_not_isCurrent hcurrent]; exact .refl _

end AllSound

/-- The report of a character shows one more of the newest line, or changes nothing. -/
lemma turns_reveal (s : Stage) (ticket : Ticket) :
    Turns [] s.state.bubbles (s.reveal ticket).1.state.bubbles := by
  rw [reveal_fst]
  simp only
  split
  · exact .of_continues (continues_modifyLast fun b _ => b.grows_revealNext)
      (Bubble.map_line_modifyLast Bubble.line_revealNext _)
  · exact .refl _

/-- A step takes the bubbles away, or puts its line behind them if it has one. -/
lemma Execution.turns (h : Execution s step s₁ effect) (session : Option Session) :
    Turns [⟨session, step⟩] s.state.bubbles (s₁.awaiting step effect).state.bubbles := by
  have hbubbles : (s₁.awaiting step effect).state.bubbles = s₁.state.bubbles := by
    cases effect <;> rfl
  rw [hbubbles]
  cases h with
  | silent line id ids hsay | line line id ids hsay =>
    refine ⟨?_, fun _ => continues_append _ _, fun _ => ?_⟩
    · simp [Entry.takeAway, Step.takesAway, Step.isReset, Step.isComplete, Step.kind, Action.kind,
        hsay]
    · simp [Entry.lines, Step.line?, hsay, Bubble.start]
  | pause millis length hpause =>
    refine ⟨?_, fun _ => .refl _, fun _ => ?_⟩
    · simp [Entry.takeAway, Step.takesAway, Step.isReset, Step.isComplete, Step.kind, Action.kind,
        hpause]
    · simp [Entry.lines, Step.line?, hpause]
  | assign values hassign =>
    refine ⟨?_, fun _ => .refl _, fun _ => ?_⟩
    · simp [Entry.takeAway, Step.takesAway, Step.isReset, Step.isComplete, Step.kind, Action.kind,
        hassign]
    · simp [Entry.lines, Step.line?, hassign]
  | reset haction | complete haction =>
    have haway : Entry.takeAway [⟨session, step⟩] = true := by
      simp [Entry.takeAway, Step.takesAway, Step.isReset, Step.isComplete, Step.kind, Action.kind,
        haction]
    exact ⟨fun _ => rfl, by simp [haway], by simp [haway]⟩

/-- A step that takes the bubbles away takes time. -/
lemma Execution.takesAway_eq_false (h : Execution s step s₁ none) : step.takesAway = false := by
  cases h with
  | silent _ _ _ haction | assign _ haction =>
    simp [Step.takesAway, Step.isReset, Step.isComplete, Step.kind, Action.kind, haction]

/-- **What performing does to the bubbles**, along its log.

**Proof sketch.** Induction on the steps. A step that has an effect is the last of the log, and one
that is passed leaves the bubbles. The end of the scene is never run over, as a step that completes
it is ahead and cannot be passed. -/
theorem turns_performLogged {steps : List Step} (hsound : s.AllSound)
    (hends : ∃ step ∈ steps, step.isComplete = true) :
    Turns (s.performLogged steps).1 s.state.bubbles (s.performLogged steps).2.1.state.bubbles := by
  induction steps generalizing s with
  | nil => obtain ⟨step, hstep, -⟩ := hends; cases hstep
  | cons step rest ih =>
    cases hexec : s.execute step with
    | error e =>
      simp only [performLogged, hexec]
      exact .refl _
    | ok executed =>
      obtain ⟨s₁, effect⟩ := executed
      have hex := execution_of_execute hexec
      have hstep := hex.turns s.state.session
      have hsound₁ := hsound.awaiting hex
      cases effect with
      | some effect =>
        simp only [performLogged, hexec]
        exact hstep
      | none =>
        simp only [performLogged, hexec]
        split
        · have hrest : ∃ step ∈ rest, step.isComplete = true := by
            obtain ⟨last, hmem, hlast⟩ := hends
            rcases List.mem_cons.1 hmem with rfl | hmem
            · rw [hex.isComplete_eq_false] at hlast
              cases hlast
            · exact ⟨last, hmem, hlast⟩
          exact .cons hex.takesAway_eq_false hstep
            (hsound₁.turns_leave.of_nil (ih hsound₁.leave hrest))
        · exact hstep

/-! ## Operations -/

/-- Whether an operation takes the bubbles away: it starts the scene over, or executes a step that
does. -/
def clears (s : Stage) (op : Operation) : Bool := op == .restart || Entry.takeAway (s.executed op)

/-- What an operation does to the bubbles. -/
structure Evolves (s : Stage) (op : Operation) : Prop where
  /-- Unless they are taken away, all bubbles stay at their places and grow. -/
  continues : s.clears op = false → Continues s.state.bubbles (s.apply op).1.state.bubbles
  /-- A step that takes the bubbles away leaves none. -/
  cleared : Entry.takeAway (s.executed op) = true → (s.apply op).1.state.bubbles = []
  /-- The lines that are executed are put behind those that are kept. -/
  lines : Entry.takeAway (s.executed op) = false → (s.apply op).1.state.bubbles.map Bubble.line =
    (if op == .restart then [] else s.state.bubbles.map Bubble.line) ++
      Entry.lines (s.executed op)

/-- What the steps of an operation do to the bubbles is what it does to them. -/
lemma Evolves.of_turns (h : Turns (s.executed op)
    (if op == .restart then [] else s.state.bubbles) (s.apply op).1.state.bubbles) :
    s.Evolves op := by
  refine ⟨fun hkeep => ?_, h.cleared, fun hkeep => ?_⟩
  · obtain ⟨hop, hlog⟩ := Bool.or_eq_false_iff.1 hkeep
    simpa [hop] using h.continues hlog
  · rw [h.lines hkeep]
    split <;> rfl

/-- An operation that performs takes the bubbles away first if it starts the scene over, and lets
them grow otherwise. -/
lemma Starts.turns (h : Starts s op scene c s₀) (hsound : s.AllSound) :
    s₀.AllSound ∧
      Turns [] (if op == .restart then [] else s.state.bubbles) s₀.state.bubbles := by
  cases h with
  | trigger hidle hname => exact ⟨hsound.enter scene, hsound.turns_cancelEffect⟩
  | restart hs hscene =>
    rw [AllSound, bubbles_rewind]
    exact ⟨nofun, .refl []⟩
  | proceed hs | confirm hs => exact ⟨hsound.leave, hsound.turns_leave⟩
  | @resolve _ _ _ effect hs =>
    have hfinish := hsound.finish effect.ticket
    exact ⟨hfinish.leave, (hsound.turns_finish effect.ticket).of_nil hfinish.turns_leave⟩

/-- Ahead of every place of a scene there is a step that completes it. -/
lemma exists_isComplete (hc : c < scene.steps.length) :
    ∃ step ∈ scene.steps.drop c, step.isComplete = true := by
  obtain ⟨body, last, hsteps, hlast, -⟩ := scene.closed
  refine ⟨last, ?_, hlast⟩
  rw [hsteps, List.length_append, List.length_singleton] at hc
  rw [hsteps, List.drop_append_of_le_length (by omega)]
  simp

/-- Nothing is left where nothing is played. -/
lemma proceed_of_left?_eq_none (h : s.left? = none) : s.proceed = (s, .ok none) := by
  apply proceed_of_not_isActive
  simpa [left?] using h

/-- An operation that performs nothing does nothing, but for the reports of effects. -/
lemma apply_of_start?_eq_none (h : within.Holds s) (hstart : s.start? op = none) :
    (s.apply op).1 = match op with
      | .reveal ticket => (s.reveal ticket).1
      | .resolve ticket => s.finish ticket
      | _ => s := by
  cases op with
  | trigger name =>
    cases hactive : s.state.isActive with
    | true => rw [apply, trigger_of_isActive hactive]
    | false =>
      have hname : s.repertoire.get? name = none := by simpa [start?, hactive] using hstart
      rw [apply, trigger_of_get?_eq_none hactive hname]
  | proceed => rw [apply, proceed_of_left?_eq_none hstart]
  | confirm =>
    rw [apply, confirm_eq]
    split
    next hmay =>
      rw [start?, if_pos hmay] at hstart
      rw [proceed_of_left?_eq_none hstart]
    next => rfl
  | restart =>
    cases hsession : s.state.session with
    | none => rw [apply, restart_of_session_eq_none hsession]
    | some session =>
      obtain ⟨scene, c⟩ := session
      obtain ⟨hscene, -⟩ := h.during hsession
      simp [start?, hsession, hscene] at hstart
  | reveal ticket => rfl
  | resolve ticket =>
    rw [apply, resolve_eq]
    split
    next hgo =>
      rw [start?, if_pos hgo] at hstart
      rw [proceed_of_left?_eq_none hstart]
    next => rfl

/-- An operation that performs nothing lets the bubbles grow. -/
lemma turns_of_start?_eq_none (h : Reachable r settings s) (hstart : s.start? op = none) :
    Turns [] (if op == .restart then [] else s.state.bubbles) (s.apply op).1.state.bubbles := by
  have hsound := sound_of_reachable h
  rw [apply_of_start?_eq_none (holds_within h) hstart]
  cases op with
  | trigger | proceed | confirm => exact .refl _
  | restart =>
    -- there is something to start over unless no scene is played, and then there are no bubbles
    have hsession : s.state.session = none := by
      cases hsession : s.state.session with
      | none => rfl
      | some session =>
        obtain ⟨scene, c⟩ := session
        obtain ⟨hscene, -⟩ := (holds_within h).during hsession
        simp [start?, hsession, hscene] at hstart
    have hbubbles := ((shows_its_lines h).idle hsession).1
    simp only [hbubbles]
    exact .refl []
  | reveal ticket => exact turns_reveal s ticket
  | resolve ticket => exact hsound.turns_finish ticket

/-- **What an operation does to the bubbles** of a reachable stage. -/
theorem evolves (h : Reachable r settings s) (op : Operation) : s.Evolves op := by
  have hsound := sound_of_reachable h
  refine .of_turns ?_
  rcases starts_or_rests (holds_within h) op with ⟨scene, c, s₀, hstarts⟩ | ⟨hstart, -⟩
  · obtain ⟨hsound₀, hturns⟩ := hstarts.turns hsound
    have hperform := turns_performLogged hsound₀ (exists_isComplete hstarts.lt_length)
    rw [performLogged_snd, ← hstarts.apply_eq, ← hstarts.executed_eq] at hperform
    exact hturns.of_nil hperform
  · rw [executed_of_start?_eq_none hstart]
    exact turns_of_start?_eq_none h hstart

/-! ## Reports of characters -/

/-- What the report of a character does: one more character of the newest bubble is shown, and
nothing else changes; or nothing changes at all. -/
inductive Reveals (s : Stage) : Stage × Bool → Prop
  /-- There is no character to show, or the report is late. -/
  | nothing : Reveals s (s, false)
  /-- One more character of the newest bubble is shown. -/
  | character {past : List Bubble} {newest : Bubble} (hbubbles : s.state.bubbles = past ++ [newest])
    (hpart : newest.revealed < newest.length) :
    Reveals s ({ s with state := { s.state with
      bubbles := past ++ [{ newest with revealed := newest.revealed + 1 }] } }, true)

/-- **The report of a character shows one character, or nothing.** -/
theorem reveals (s : Stage) (ticket : Ticket) : s.Reveals (s.reveal ticket) := by
  unfold reveal
  split
  · rcases List.eq_nil_or_concat s.state.bubbles with hnil | ⟨past, newest, hpast⟩
    · simp only [hnil, List.getLast?_nil]
      exact .nothing
    · rw [List.concat_eq_append] at hpast
      cases hpart : newest.isRevealed with
      | true =>
        simp only [hpast, List.getLast?_concat, Bubble.revealNext, hpart, if_true,
          modifyLast_append_singleton]
        rw [← hpast]
        exact .nothing
      | false =>
        have hlt : newest.revealed < newest.length := by
          simpa [Bubble.isRevealed] using hpart
        simp only [hpast, List.getLast?_concat, Bubble.revealNext, hpart, Bool.false_eq_true,
          if_false, modifyLast_append_singleton]
        exact .character hpast hlt
  · exact .nothing

/-! ## Runs -/

/-- Whether none of some operations takes the bubbles away. -/
def keeps (s : Stage) : List Operation → Bool
  | [] => true
  | op :: ops => !s.clears op && (s.apply op).1.keeps ops

/-- **Bubbles grow along runs** that do not take them away. -/
theorem continues_run (h : Reachable r settings s) (hkeeps : s.keeps ops = true) :
    Continues s.state.bubbles (s.run ops).state.bubbles := by
  induction ops generalizing s with
  | nil => exact .refl _
  | cons op ops ih =>
    obtain ⟨hop, hops⟩ := Bool.and_eq_true_iff.1 hkeeps
    rw [Bool.not_eq_true'] at hop
    exact ((evolves h op).continues hop).trans (ih (h.step op) hops)

/-- **How bubbles evolve** on a reachable stage. None shows more than its line has. An operation
takes all of them away, or leaves them at their places and lets them grow; the report of a character
adds one character to the newest, or does nothing. Until a bubble is taken away, what it shows is a
beginning of its line that only gets longer.

**Proof sketch.** An operation performs or does not. What it does before it performs lets the
bubbles grow or takes them away (`Starts.turns`), and so does each step of its log
(`turns_performLogged`). Along a run growth is put together (`continues_run`). -/
theorem bubbles_evolve (h : Reachable r settings s) :
    s.AllSound ∧ (∀ op, s.Evolves op) ∧ (∀ ticket, s.Reveals (s.reveal ticket)) ∧
      ∀ ops, s.keeps ops = true → ∀ (i : ℕ) (b : Bubble), s.state.bubbles[i]? = some b →
        ∃ b', (s.run ops).state.bubbles[i]? = some b' ∧ b.Grows b' ∧ b'.Sound ∧
          b.visibleText.toList <+: b'.visibleText.toList ∧
          b'.visibleText.toList <+: b.line.text.toList := by
  refine ⟨sound_of_reachable h, evolves h, reveals s, fun ops hkeeps i b hb => ?_⟩
  obtain ⟨b', hb', hgrows⟩ := continues_run h hkeeps i b hb
  have hsound := sound_of_reachable (h.run ops) b' (List.mem_of_getElem? hb')
  refine ⟨b', hb', hgrows, hsound, hgrows.visibleText_prefix, ?_⟩
  rw [← hgrows.line_eq]
  exact b'.visibleText_prefix

/-- While the line of the rehearsal is typed, another character of it. -/
theorem bubbles_evolve_rehearsing :
    Reachable (Repertoire.empty.add rehearsal) .standard
        (rehearsing.run [.trigger "rehearsal", .resolve ⟨1⟩, .reveal ⟨2⟩]) ∧
      (rehearsing.run [.trigger "rehearsal", .resolve ⟨1⟩, .reveal ⟨2⟩]).state.bubbles.map
        Bubble.visibleText = ["h"] ∧
      (rehearsing.run [.trigger "rehearsal", .resolve ⟨1⟩, .reveal ⟨2⟩]).keeps
        [.reveal ⟨2⟩, .resolve ⟨2⟩] = true ∧
      ((rehearsing.run [.trigger "rehearsal", .resolve ⟨1⟩, .reveal ⟨2⟩]).run
        [.reveal ⟨2⟩, .resolve ⟨2⟩]).state.bubbles.map Bubble.visibleText = ["hi"] ∧
      (rehearsing.run [.trigger "rehearsal", .resolve ⟨1⟩, .reveal ⟨2⟩]).AllSound :=
  ⟨reachable_rehearsing _, by decide +kernel, by decide +kernel, by decide +kernel,
    (bubbles_evolve (reachable_rehearsing _)).1⟩

end Stage

end Cutscene
