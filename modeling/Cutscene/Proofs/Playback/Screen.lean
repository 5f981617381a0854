import Mathlib.Data.List.DropRight
import Cutscene.Proofs.Playback.Discipline

set_option relaxedAutoImplicit false
set_option autoImplicit false

/-!
# What is on screen

The bubbles on screen are determined by the scene that is played and the cursor: one for each line
behind the last reset, in the order of the script. Only the newest of them can be unfinished, and
only while it is typed; only it can show the mark for going on, and it does so exactly at its own
step.

## Main definitions

* `Cutscene.Scene.shownLines` — the lines behind the last reset up to a cursor.
* `Cutscene.Bubble.Settled` — a bubble that shows its whole line and no mark.
* `Cutscene.State.Display` — the bubbles at a step that has been performed.
* `Cutscene.Stage.screen` — the discipline of the screen.
* `Cutscene.Stage.ShowsItsLines` — what is on screen, in terms of the scene and the cursor.

## Main results

* `Cutscene.linesOnScreen_concat` — what one more step does to the lines.
* `Cutscene.Stage.holds_screen` — every reachable stage keeps to the discipline of the screen.
* `Cutscene.Stage.shows_its_lines` — the screen of a reachable stage.
-/

namespace Cutscene

/-! ## Lines on screen -/

/-- Whether a step takes the bubbles away and lets the scene go on. -/
def Step.isReset (s : Step) : Bool := s.kind == .reset

/-- The lines that steps leave on screen: those behind the last reset, in their order. -/
def linesOnScreen (steps : List Step) : List Line :=
  (steps.rtakeWhile fun step => !step.isReset).filterMap Step.line?

/-- The lines of a scene behind the last reset up to a cursor. The step at the cursor counts. -/
def Scene.shownLines (scene : Scene) (c : ℕ) : List Line := linesOnScreen (scene.steps.take (c + 1))

/-- A step that is not a line has none. -/
lemma Step.line?_eq_none {step : Step} (h : step.isSay = false) : step.line? = none := by
  unfold line?
  split
  next line hsay => simp [isSay, kind, Action.kind, hsay] at h
  next => rfl

/-- A reset leaves no line on screen. -/
lemma linesOnScreen_concat_of_isReset {steps : List Step} {step : Step}
    (h : step.isReset = true) : linesOnScreen (steps ++ [step]) = [] := by
  simp [linesOnScreen, h]

/-- Any other step adds its line, if it has one. -/
lemma linesOnScreen_concat {steps : List Step} {step : Step} (h : step.isReset = false) :
    linesOnScreen (steps ++ [step]) = linesOnScreen steps ++ step.line?.toList := by
  rw [linesOnScreen, List.rtakeWhile_concat_pos _ _ _ (by simp [h]), List.filterMap_append]
  cases hline : step.line? <;> simp [linesOnScreen, hline]

/-- The steps up to a cursor are those before it and the one at it. -/
lemma shownLines_eq {scene : Scene} {c : ℕ} {step : Step} (h : scene.steps[c]? = some step) :
    scene.shownLines c = linesOnScreen (scene.steps.take c ++ [step]) := by
  rw [Scene.shownLines, List.take_add_one, h, Option.toList_some]

/-! ## Bubbles -/

/-- A bubble that shows its whole line and no mark for going on. -/
structure Bubble.Settled (b : Bubble) : Prop where
  /-- The whole line is shown. -/
  whole : b.isRevealed = true
  /-- The mark for going on is not. -/
  unmarked : b.proceedVisible = false

namespace Bubble

@[simp] lemma line_revealAll (b : Bubble) : b.revealAll.line = b.line := rfl

@[simp] lemma line_hideProceed (b : Bubble) : b.hideProceed.line = b.line := rfl

@[simp] lemma line_revealNext (b : Bubble) : b.revealNext.2.line = b.line := by
  unfold revealNext
  split <;> rfl

@[simp] lemma proceedVisible_revealNext (b : Bubble) :
    b.revealNext.2.proceedVisible = b.proceedVisible := by
  unfold revealNext
  split <;> rfl

@[simp] lemma isRevealed_revealAll (b : Bubble) : b.revealAll.isRevealed = true := by
  simp [isRevealed, revealAll]

/-- What keeps the line of a bubble keeps the lines on screen. -/
lemma map_line_modifyLast {f : Bubble → Bubble} (hf : ∀ b, (f b).line = b.line)
    (bubbles : List Bubble) : (modifyLast f bubbles).map line = bubbles.map line := by
  rcases List.eq_nil_or_concat bubbles with rfl | ⟨past, newest, rfl⟩
  · rfl
  · simp [hf]

/-- A line that is shown whole is settled once its mark is hidden. -/
lemma settled_hideProceed {b : Bubble} (h : b.isRevealed = true) : b.hideProceed.Settled := ⟨h, rfl⟩

end Bubble

/-- The bubbles at a step that has been performed and has not been left. -/
inductive State.Display (s : State) (step : Step) : Prop
  /-- At a line, the newest bubble is its own. It shows the mark, and it is whole unless it is being
  typed. -/
  | line (past : List Bubble) (newest : Bubble) (hstep : step.isSay = true)
    (hbubbles : s.bubbles = past ++ [newest]) (hpast : ∀ b ∈ past, b.Settled)
    (hmark : newest.proceedVisible = true) (hwhole : s.typing = false → newest.isRevealed = true) :
    Display s step
  /-- At any other step nothing is typed and all bubbles are settled. -/
  | still (hstep : step.isSay = false) (htyping : s.typing = false)
    (hpast : ∀ b ∈ s.bubbles, b.Settled) : Display s step

namespace Stage

/-! ## The discipline of the screen -/

/-- The screen when a step is about to be performed. -/
structure ScreenBefore (scene : Scene) (c : ℕ) (s : Stage) : Prop where
  /-- The bubbles are those of the steps before. -/
  lines : s.state.bubbles.map Bubble.line = linesOnScreen (scene.steps.take c)
  /-- All of them are settled. -/
  settled : ∀ b ∈ s.state.bubbles, b.Settled
  /-- Nothing is typed. -/
  typing : s.state.typing = false
  /-- No effect is running. -/
  running : s.state.running = none

/-- The screen when a step has been performed and has not been left. -/
structure ScreenAt (scene : Scene) (c : ℕ) (s : Stage) : Prop where
  /-- The bubbles are those of the steps up to the cursor. -/
  lines : s.state.bubbles.map Bubble.line = scene.shownLines c
  /-- A line is typed exactly while an effect types it. -/
  typing : s.state.typing = s.state.running.any Running.typing
  /-- The bubbles are as the step asks for. -/
  display : ∀ step, scene.steps[c]? = some step → s.state.Display step

variable {scene : Scene} {c : ℕ} {s s₁ : Stage} {step : Step} {effect : Option Effect}

/-- A step that is neither a line nor a reset leaves the screen of the steps before. -/
lemma ScreenBefore.quiet (h : ScreenBefore scene c s) (hs : StandsAt s scene c step)
    (hsay : step.isSay = false) (hreset : step.isReset = false)
    (hbubbles : s₁.state.bubbles = s.state.bubbles) (htyping : s₁.state.typing = false)
    (hrunning : s₁.state.running.any Running.typing = false) : ScreenAt scene c s₁ := by
  refine ⟨?_, htyping.trans hrunning.symm, ?_⟩
  · rw [hbubbles, h.lines, shownLines_eq hs.current, linesOnScreen_concat hreset,
      Step.line?_eq_none hsay, Option.toList_none, List.append_nil]
  · intro step' hstep'
    cases hs.current.symm.trans hstep'
    exact .still hsay htyping (by rw [hbubbles]; exact h.settled)

/-- A line adds its own bubble to those of the steps before. -/
lemma ScreenBefore.said (h : ScreenBefore scene c s) (hs : StandsAt s scene c step) {line : Line}
    {id : String} (hsay : step.action = .say line)
    (hbubbles : s₁.state.bubbles = s.state.bubbles ++ [.start id line])
    (htyping : s₁.state.typing = s₁.state.running.any Running.typing)
    (hwhole : s₁.state.typing = false → line.length = 0) : ScreenAt scene c s₁ := by
  have hreset : step.isReset = false := by simp [Step.isReset, Step.kind, Action.kind, hsay]
  refine ⟨?_, htyping, ?_⟩
  · rw [hbubbles, List.map_append, h.lines, shownLines_eq hs.current, linesOnScreen_concat hreset,
      Step.line?, hsay]
    rfl
  · intro step' hstep'
    cases hs.current.symm.trans hstep'
    refine .line s.state.bubbles (.start id line) ?_ hbubbles h.settled rfl fun hdone => ?_
    · simp [Step.isSay, Step.kind, Action.kind, hsay]
    · simp [Bubble.isRevealed, Bubble.start, hwhole hdone]

/-- Performing a step puts on screen what the step asks for.

**Proof sketch.** By the six ways of executing a step. A line that is not typed is whole from the
start, since it has no characters. -/
lemma ScreenBefore.executed (h : ScreenBefore scene c s) (hs : StandsAt s scene c step)
    (hex : Execution s step s₁ effect) (hcomplete : step.isComplete = false) :
    ScreenAt scene c (s₁.awaiting step effect) := by
  cases hex with
  | silent line id ids hsay hl =>
    exact h.said hs hsay rfl (by simp [h.typing, h.running]) fun _ => hl
  | line line id ids hsay =>
    refine h.said hs hsay rfl rfl fun htyping => ?_
    cases htyping
  | pause millis length hpause =>
    exact h.quiet hs (by simp [Step.isSay, Step.kind, Action.kind, hpause])
      (by simp [Step.isReset, Step.kind, Action.kind, hpause]) rfl h.typing rfl
  | assign values hassign =>
    exact h.quiet hs (by simp [Step.isSay, Step.kind, Action.kind, hassign])
      (by simp [Step.isReset, Step.kind, Action.kind, hassign]) rfl h.typing (by simp [h.running])
  | reset hreset =>
    have hkind : step.kind = .reset := by rw [Step.kind, hreset, Action.kind]
    refine ⟨?_, h.typing, ?_⟩
    · rw [shownLines_eq hs.current, linesOnScreen_concat_of_isReset (by simp [Step.isReset, hkind])]
      rfl
    · intro step' hstep'
      cases hs.current.symm.trans hstep'
      refine .still (by simp [Step.isSay, hkind]) h.typing fun b hb => ?_
      cases hb
  | complete hend => simp [Step.isComplete, Step.kind, Action.kind, hend] at hcomplete

/-- A pause that is refused leaves the screen as it is. -/
lemma ScreenBefore.refused (h : ScreenBefore scene c s) (hs : StandsAt s scene c step)
    {millis : UInt64} (hpause : step.action = .pause millis) : ScreenAt scene c s :=
  h.quiet hs (by simp [Step.isSay, Step.kind, Action.kind, hpause])
    (by simp [Step.isReset, Step.kind, Action.kind, hpause]) rfl h.typing (by simp [h.running])

/-- Dropping the effect of a step shows its line whole, and changes nothing else on screen. -/
lemma ScreenAt.cancelEffect (h : ScreenAt scene c s) :
    ScreenAt scene c { s with state := s.state.cancelEffect } ∧
      s.state.cancelEffect.typing = false := by
  rw [State.cancelEffect_of_typing_eq h.typing]
  refine ⟨⟨?_, rfl, ?_⟩, rfl⟩
  · rw [← h.lines]
    split
    · exact Bubble.map_line_modifyLast Bubble.line_revealAll _
    · rfl
  · intro step hstep
    cases h.display step hstep with
    | line past newest hsay hbubbles hpast hmark hwhole =>
      cases htyping : s.state.typing with
      | true =>
        exact .line past newest.revealAll hsay (by simp [hbubbles]) hpast hmark fun _ => by simp
      | false =>
        exact .line past newest hsay (by simp [hbubbles]) hpast hmark fun _ => hwhole htyping
    | still hsay htyping hpast => exact .still hsay rfl (by simpa [htyping] using hpast)

/-- Leaving a step settles its bubble.

**Proof sketch.** Dropping the effect makes the newest bubble whole (`ScreenAt.cancelEffect`), and
its mark is hidden if the step is its own. -/
lemma ScreenAt.leave (h : ScreenAt scene c s) (hs : StandsAt s scene c step) :
    ScreenBefore scene (c + 1) s.leave := by
  obtain ⟨hcancel, htyping⟩ := h.cancelEffect
  simp only [Stage.leave, State.leaveStep_eq, hs.step?_eq, Option.any_some]
  refine ⟨?_, ?_, htyping, State.running_cancelEffect s.state⟩
  · refine Eq.trans ?_ hcancel.lines
    split
    · exact Bubble.map_line_modifyLast Bubble.line_hideProceed _
    · rfl
  · cases hcancel.display step hs.current with
    | line past newest hsay hbubbles hpast hmark hwhole =>
      simp only at hbubbles
      rw [if_pos hsay, hbubbles, modifyLast_append_singleton]
      intro b hb
      rcases List.mem_append.1 hb with hb | hb
      · exact hpast b hb
      · rw [List.mem_singleton.1 hb]
        exact Bubble.settled_hideProceed (hwhole htyping)
    | still hsay _ hpast => simpa [hsay] using hpast

/-- A scene that is put on starts with an empty screen. -/
lemma screenBefore_enter (hbubbles : s.state.bubbles = []) (htyping : s.state.typing = false) :
    ScreenBefore scene 0 (s.enter scene) := by
  have hcancel : s.state.cancelEffect.bubbles = [] ∧ s.state.cancelEffect.typing = false := by
    unfold State.cancelEffect State.completeTyping
    split
    · exact ⟨hbubbles, htyping⟩
    · split <;> simp [hbubbles, htyping, modifyLast]
  refine ⟨?_, ?_, hcancel.2, State.running_cancelEffect s.state⟩
  · simp [enter, State.startSession, hcancel.1, linesOnScreen]
  · intro b hb
    simp [enter, State.startSession, hcancel.1] at hb

/-- The report of a character shows one more character of the line that is typed. -/
lemma ScreenAt.reveal (h : ScreenAt scene c s) (ticket : Ticket) :
    ScreenAt scene c (s.reveal ticket).1 := by
  rw [reveal_fst]
  refine ⟨?_, h.typing, ?_⟩
  · rw [← h.lines]
    simp only
    split
    · exact Bubble.map_line_modifyLast Bubble.line_revealNext _
    · rfl
  · intro step hstep
    cases h.display step hstep with
    | line past newest hsay hbubbles hpast hmark hwhole =>
      by_cases hnew : (s.state.isCurrent ticket && s.state.typing) = true
      · have htyping : s.state.typing = true := (Bool.and_eq_true_iff.1 hnew).2
        refine .line past newest.revealNext.2 hsay (by simp [hnew, hbubbles]) hpast
          (by simpa using hmark) fun hfalse => ?_
        simp [htyping] at hfalse
      · exact .line past newest hsay (by simp [hnew, hbubbles]) hpast hmark hwhole
    | still hsay htyping hpast => exact .still hsay htyping (by simpa [htyping] using hpast)

/-- **The discipline of the screen.** -/
def screen : Discipline where
  Before := ScreenBefore
  At := ScreenAt
  Over s := s.state.bubbles = [] ∧ s.state.typing = false
  perform hs hbefore hex hcomplete := hbefore.executed hs hex hcomplete
  complete hs hbefore hex hcomplete := by
    obtain ⟨rfl, rfl⟩ := hex.of_isComplete hcomplete
    exact ⟨rfl, hbefore.typing⟩
  refuse hs hbefore hpause := hbefore.refused hs hpause
  leave hs hat := hat.leave hs
  rewind _ _ := screenBefore_enter rfl rfl
  reveal _ hat := hat.reveal _
  finish := by
    intro scene c s step ticket hs hat
    cases hcurrent : s.state.isCurrent ticket with
    | true => rw [finish_of_isCurrent hcurrent]; exact hat.cancelEffect.1
    | false => rw [finish_of_not_isCurrent hcurrent]; exact hat
  reveal_over := by
    rintro s ticket - ⟨hbubbles, htyping⟩
    rw [reveal_fst]
    simp [hbubbles, htyping]
  finish_over := by
    rintro s ticket - ⟨hbubbles, htyping⟩
    unfold Stage.finish
    split
    · exact ⟨hbubbles, htyping⟩
    next effect state h =>
      obtain ⟨-, -, rfl⟩ := State.finishEffect?_eq_some_iff.1 h
      split <;> simp [State.completeTyping, hbubbles, htyping, modifyLast]

variable {r : Repertoire} {settings : Settings}

/-- Every reachable stage keeps to the discipline of the screen. -/
theorem holds_screen (h : Reachable r settings s) : screen.Holds s :=
  Discipline.holds_of_reachable h (fun _ => ⟨rfl, rfl⟩)
    (fun _ hover => screenBefore_enter hover.1 hover.2)

/-! ## The screen of a reachable stage -/

/-- What is on screen between scenes and during a scene. -/
structure ShowsItsLines (s : Stage) : Prop where
  /-- Between scenes there are no bubbles and nothing is typed. -/
  idle : s.state.session = none → s.state.bubbles = [] ∧ s.state.typing = false
  /-- During a scene the bubbles are the lines behind the last reset up to the cursor. -/
  lines : ∀ scene c, s.state.session = some ⟨scene, c⟩ →
    s.state.bubbles.map Bubble.line = scene.shownLines c
  /-- All bubbles but the newest are whole. -/
  past : ∀ scene c, s.state.session = some ⟨scene, c⟩ → ∀ i b, s.state.bubbles[i]? = some b →
    i + 1 ≠ s.state.bubbles.length → b.isRevealed = true
  /-- The newest bubble is whole unless it is typed. -/
  newest : ∀ scene c, s.state.session = some ⟨scene, c⟩ → ∀ b, s.state.bubbles.getLast? = some b →
    b.isRevealed = false → s.state.typing = true
  /-- The mark for going on is shown by the newest bubble at a line, and by no other. -/
  mark : ∀ scene c, s.state.session = some ⟨scene, c⟩ → ∀ i b, s.state.bubbles[i]? = some b →
    (b.proceedVisible = true ↔ i + 1 = s.state.bubbles.length ∧
      ∃ step, scene.steps[c]? = some step ∧ step.isSay = true)

/-- At a line, the bubbles before the newest are whole and only the newest shows the mark. -/
lemma ScreenAt.bubble_cases (h : ScreenAt scene c s) (hs : StandsAt s scene c step) {i : ℕ}
    {b : Bubble} (hb : s.state.bubbles[i]? = some b) :
    b.Settled ∧ (i + 1 ≠ s.state.bubbles.length ∨ step.isSay = false) ∨
      b.proceedVisible = true ∧ i + 1 = s.state.bubbles.length ∧ step.isSay = true ∧
        (s.state.typing = false → b.isRevealed = true) := by
  cases h.display step hs.current with
  | line past newest hsay hbubbles hpast hmark hwhole =>
    rw [hbubbles] at hb ⊢
    rcases getElem?_concat_cases hb with ⟨hi, hmem⟩ | ⟨rfl, rfl⟩
    · refine Or.inl ⟨hpast b hmem, Or.inl ?_⟩
      rw [List.length_append, List.length_singleton]
      omega
    · exact Or.inr ⟨hmark, by simp, hsay, hwhole⟩
  | still hsay _ hpast => exact Or.inl ⟨hpast b (List.mem_of_getElem? hb), Or.inr hsay⟩

/-- **What is on screen** of a reachable stage is determined by the scene and the cursor.

**Proof sketch.** By the discipline of the screen (`holds_screen`). A bubble is settled, or it is
the newest at a line (`ScreenAt.bubble_cases`); the last item of a list is the one at its last
index. -/
theorem shows_its_lines (h : Reachable r settings s) : s.ShowsItsLines := by
  have hscreen : screen.Holds s := holds_screen h
  refine ⟨hscreen.between, ?_, ?_, ?_, ?_⟩
  · intro scene c hsession
    obtain ⟨-, step, -, -, hat⟩ := hscreen.during hsession
    exact hat.lines
  · intro scene c hsession i b hb hi
    obtain ⟨-, step, hs, -, hat⟩ := hscreen.during hsession
    rcases hat.bubble_cases hs hb with ⟨hsettled, -⟩ | ⟨-, hlast, -⟩
    · exact hsettled.whole
    · exact absurd hlast hi
  · intro scene c hsession b hb hpart
    obtain ⟨-, step, hs, -, hat⟩ := hscreen.during hsession
    rw [List.getLast?_eq_getElem?] at hb
    rcases hat.bubble_cases hs hb with ⟨hsettled, -⟩ | ⟨-, -, -, hwhole⟩
    · simp [hsettled.whole] at hpart
    · by_contra htyping
      simp [hwhole (by simpa using htyping)] at hpart
  · intro scene c hsession i b hb
    obtain ⟨-, step, hs, -, hat⟩ := hscreen.during hsession
    simp only [hs.current, Option.some.injEq, exists_eq_left']
    rcases hat.bubble_cases hs hb with ⟨hsettled, hne | hsay⟩ | ⟨hmark, hlast, hsay, -⟩
    · simp [hsettled.unmarked, hne]
    · simp [hsettled.unmarked, hsay]
    · simp [hmark, hlast, hsay]

/-- While the line of the rehearsal is typed, a character of it shown. -/
theorem shows_its_lines_rehearsing :
    Reachable (Repertoire.empty.add rehearsal) .standard
        (rehearsing.run [.trigger "rehearsal", .resolve ⟨1⟩, .reveal ⟨2⟩]) ∧
      (rehearsing.run [.trigger "rehearsal", .resolve ⟨1⟩, .reveal ⟨2⟩]).state.bubbles.map
        Bubble.revealed = [1] ∧
      (rehearsing.run [.trigger "rehearsal", .resolve ⟨1⟩, .reveal ⟨2⟩]).ShowsItsLines :=
  ⟨reachable_rehearsing _, by decide +kernel, shows_its_lines (reachable_rehearsing _)⟩

end Stage

end Cutscene
