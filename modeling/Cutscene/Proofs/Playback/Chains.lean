import Mathlib.Data.List.Range
import Cutscene.Proofs.Playback.Bookkeeping

set_option relaxedAutoImplicit false
set_option autoImplicit false

/-!
# Chains of steps

Steps that advance by themselves and have nothing to wait for are executed one after the other, in
one go. Which steps an operation executes is therefore not said by its name but by the script: all
from where it starts up to the first that does not advance by itself or takes time. This file keeps
a log of the steps that are executed, and shows that it is always that.

## Main definitions

* `Cutscene.Step.isImmediate` — steps that take no time.
* `Cutscene.Scene.Halts` — the first place from some place on where a chain of steps ends.
* `Cutscene.Stage.performLogged`, `Cutscene.Stage.applyLogged` — performing, and all operations,
  with a log of the steps that are executed.
* `Cutscene.Scene.stretch` — the log of the steps between two places, each once.
* `Cutscene.Stage.Chain` — an operation executes a chain from some place on.
* `Cutscene.Stage.played` — the log since a scene was put on.
* `Cutscene.Stage.PlaysInOrder` — the operations execute chains, and no step out of order.

## Main results

* `Cutscene.Stage.performLogged_snd`, `Cutscene.Stage.applyLogged_snd` — keeping the log changes
  nothing.
* `Cutscene.Stage.Starts.chain` — an operation that performs executes a chain.
* `Cutscene.Stage.inOrder_apply` — one more operation goes on with the log where it has ended.
* `Cutscene.Stage.plays_in_order` — a stage plays in order along every run that goes well.

## Design

A chain may end at a pause that is out of range once it has been scaled. Such a pause is refused: it
is not in the log, nothing is handed out, and the run goes on no longer. So a chain has two ends,
by whether the pause at which it ends fits, and no assumption on pauses is made.
-/

namespace Cutscene

/-! ## Where chains end -/

/-- Whether a step takes no time: it is an assignment, or a line without text. -/
def Step.isImmediate (step : Step) : Bool :=
  match step.action with
  | .say line => line.text == ""
  | .pause _ => false
  | .assign _ => true
  | .reset => false
  | .complete => false

/-- Whether a step is left at once is told from the script alone. -/
lemma Step.passes_iff {settings : Settings} {step : Step} :
    step.Passes settings ↔ step.autoAdvance = true ∧ step.isImmediate = true := by
  constructor
  · intro h
    refine ⟨h.auto, ?_⟩
    have heffect := h.atOnce
    unfold effect? at heffect
    unfold isImmediate
    cases haction : step.action with
    | say line =>
      simp only [haction, ite_eq_left_iff, reduceCtorEq, imp_false, not_not] at heffect
      simpa using Line.length_eq_zero_iff.1 heffect
    | pause millis =>
      have hfits := h.fits millis haction
      simp only [haction, Option.map_eq_none_iff] at heffect
      rw [heffect] at hfits
      cases hfits
    | assign values => rfl
    | reset | complete => simp [haction] at heffect
  · rintro ⟨hauto, himmediate⟩
    unfold isImmediate at himmediate
    cases haction : step.action with
    | say line =>
      have hempty : line.text = "" := by simpa [haction] using himmediate
      have hlength : line.length = 0 := Line.length_eq_zero_iff.2 hempty
      exact ⟨by simp [effect?, haction, hlength], by simp [PauseFits, haction], hauto⟩
    | assign values =>
      exact ⟨by simp [effect?, haction], by simp [PauseFits, haction], hauto⟩
    | pause | reset | complete => simp [haction] at himmediate

/-- The first place of a scene, from some place on, whose step takes time or does not advance by
itself. -/
structure Scene.Halts (scene : Scene) (c k : ℕ) (step : Step) : Prop where
  /-- It is not before the other place. -/
  le : c ≤ k
  /-- There is a step. -/
  current : scene.steps[k]? = some step
  /-- The step takes time or does not advance by itself. -/
  halts : ¬(step.autoAdvance = true ∧ step.isImmediate = true)
  /-- The steps before it, from the other place on, do neither. -/
  passed : ∀ i passing, c ≤ i → i < k → scene.steps[i]? = some passing →
    passing.autoAdvance = true ∧ passing.isImmediate = true

/-- There is one such place only. -/
lemma Scene.Halts.eq {scene : Scene} {c k k' : ℕ} {step step' : Step}
    (h : scene.Halts c k step) (h' : scene.Halts c k' step') : k = k' := by
  rcases Nat.lt_trichotomy k k' with hlt | heq | hgt
  · exact absurd (h'.passed k step h.le hlt h.current) h.halts
  · exact heq
  · exact absurd (h.passed k' step' h'.le hgt h'.current) h'.halts

/-! ## Logs -/

/-- A step that has been executed, with the scene that was played and the place in it. -/
structure Entry where
  /-- What was played, and where. -/
  session : Option Session
  /-- The step. -/
  step : Step

namespace Scene

variable {scene : Scene} {c d k : ℕ} {step : Step}

/-- The entry of a step of a scene that is executed at its own place. -/
def entry? (scene : Scene) (i : ℕ) : Option Entry :=
  scene.steps[i]?.map fun step => ⟨some ⟨scene, i⟩, step⟩

/-- The log of the steps of a scene from one place up to another, in their order, each once. -/
def stretch (scene : Scene) (c k : ℕ) : List Entry :=
  (List.range' c (k - c)).filterMap scene.entry?

/-- Between a place and itself there are no steps. -/
@[simp] lemma stretch_self (scene : Scene) (c : ℕ) : scene.stretch c c = [] := by simp [stretch]

/-- A stretch starts with the step at its first place. -/
lemma stretch_eq_cons (h : c < k) (hstep : scene.steps[c]? = some step) :
    scene.stretch c k = ⟨some ⟨scene, c⟩, step⟩ :: scene.stretch (c + 1) k := by
  obtain ⟨n, hn⟩ : ∃ n, k - c = n + 1 := ⟨k - c - 1, by omega⟩
  have hrest : k - (c + 1) = n := by omega
  simp [stretch, hn, hrest, List.range'_succ, entry?, hstep]

/-- The stretch of a single step. -/
lemma stretch_succ (hstep : scene.steps[c]? = some step) :
    scene.stretch c (c + 1) = [⟨some ⟨scene, c⟩, step⟩] := by
  rw [stretch_eq_cons (Nat.lt_succ_self c) hstep, stretch_self]

/-- Two stretches that meet make one. -/
lemma stretch_append (hcd : c ≤ d) (hdk : d ≤ k) :
    scene.stretch c d ++ scene.stretch d k = scene.stretch c k := by
  have hd : d = c + (d - c) := by omega
  have hk : k - c = (d - c) + (k - d) := by omega
  rw [stretch, stretch, stretch, ← List.filterMap_append, hk, ← List.range'_append_1, ← hd]

end Scene

namespace Stage

variable {r : Repertoire} {settings : Settings} {s s₀ : Stage} {op : Operation}
  {ops : List Operation} {scene : Scene} {c k : ℕ} {step : Step} {pending : Option Pending}
  {past : List Entry}

/-- Performs steps, with a log of those that are executed. -/
def performLogged (s : Stage) : List Step → List Entry × (Stage × Outcome)
  | [] => ([], s.overrun)
  | step :: rest =>
    match s.execute step with
    | .error e => ([], s, .error e)
    | .ok (s₁, some effect) =>
      let (state, ticket) := s₁.state.startEffect step.autoAdvance effect.isTyping
      ([⟨s.state.session, step⟩], { s₁ with state }, .ok (some ⟨ticket, effect⟩))
    | .ok (s₁, none) =>
      if step.autoAdvance && s₁.state.isActive then
        let (log, result) := performLogged { s₁ with state := s₁.state.leaveStep } rest
        (⟨s.state.session, step⟩ :: log, result)
      else ([⟨s.state.session, step⟩], s₁, .ok none)

/-- **Keeping a log changes nothing** of what is performed. -/
theorem performLogged_snd (s : Stage) (steps : List Step) :
    (s.performLogged steps).2 = s.perform steps := by
  induction steps generalizing s with
  | nil => rfl
  | cons step rest ih =>
    cases h : s.execute step with
    | error e => simp [performLogged, perform, h]
    | ok executed =>
      obtain ⟨s₁, effect⟩ := executed
      cases effect with
      | some effect => simp [performLogged, perform, h]
      | none =>
        simp only [performLogged, perform, h]
        split
        · exact ih _
        · rfl

/-- Does what is asked, with a log of the steps that are executed. -/
def applyLogged (s : Stage) (op : Operation) : List Entry × (Stage × Outcome) :=
  match s.start? op with
  | none => ([], s.apply op)
  | some s₀ =>
    match s₀.state.session with
    | none => ([], s₀, .ok none)
    | some session => s₀.performLogged (session.scene.steps.drop session.cursor)

/-- **Keeping a log changes nothing** of what is done. -/
theorem applyLogged_snd (s : Stage) (op : Operation) : (s.applyLogged op).2 = s.apply op := by
  unfold applyLogged
  split
  next => rfl
  next s₀ hstart =>
    rw [apply_of_start? hstart, performFromCursor]
    split
    next hsession => simp [hsession]
    next session hsession => simp [hsession, performLogged_snd]

/-- The steps that an operation executes. -/
def executed (s : Stage) (op : Operation) : List Entry := (s.applyLogged op).1

/-- An operation that performs executes what performing from its place executes. -/
lemma Starts.executed_eq (h : Starts s op scene c s₀) :
    s.executed op = (s₀.performLogged (scene.steps.drop c)).1 := by
  simp [executed, applyLogged, h.start?_eq, h.session_eq]

/-- An operation that starts nowhere executes nothing. -/
lemma executed_of_start?_eq_none (h : s.start? op = none) : s.executed op = [] := by
  simp [executed, applyLogged, h]

/-! ## What is executed -/

/-- The steps from a place on are the step there and those behind it. -/
lemma drop_eq_cons (h : scene.steps[c]? = some step) :
    scene.steps.drop c = step :: scene.steps.drop (c + 1) := by
  obtain ⟨hc, hstep⟩ := List.getElem?_eq_some_iff.1 h
  rw [List.drop_eq_getElem_cons hc, hstep]

/-- A step that is left at once is executed and leaves nothing to wait for. -/
lemma execute_of_passes (h : step.Passes s.settings) :
    ∃ s₁, s.execute step = .ok (s₁, none) := by
  cases hexec : s.execute step with
  | error e =>
    obtain ⟨-, millis, hpause, hlong⟩ := execute_error_iff.1 hexec
    have hfits := h.fits millis hpause
    rw [hlong] at hfits
    cases hfits
  | ok executed =>
    obtain ⟨s₁, effect⟩ := executed
    have heffect := (execution_of_execute hexec).effect_eq
    rw [h.atOnce] at heffect
    exact ⟨s₁, by rw [heffect]⟩

/-- A step at which a chain ends is executed as the last, unless it is refused. -/
lemma performLogged_of_not_passes (hs : StandsAt s scene k step) (hstop : ¬step.Passes s.settings)
    (rest : List Step) :
    (step.PauseFits s.settings →
        (s.performLogged (step :: rest)).1 = [⟨some ⟨scene, k⟩, step⟩]) ∧
      (¬step.PauseFits s.settings → (s.performLogged (step :: rest)).1 = []) := by
  cases hexec : s.execute step with
  | error e =>
    refine ⟨fun hfits => ?_, fun _ => by simp [performLogged, hexec]⟩
    obtain ⟨-, millis, hpause, hlong⟩ := execute_error_iff.1 hexec
    have hsome := hfits millis hpause
    rw [hlong] at hsome
    cases hsome
  | ok executed =>
    obtain ⟨s₁, effect⟩ := executed
    have hex := execution_of_execute hexec
    refine ⟨fun hfits => ?_, fun hlong => absurd hex.pauseFits hlong⟩
    cases effect with
    | some effect => simp [performLogged, hexec, hs.session]
    | none =>
      have hmanual : step.autoAdvance = false := by
        by_contra hauto
        exact hstop ⟨hex.effect_eq.symm, hfits, by simpa using hauto⟩
      simp [performLogged, hexec, hs.session, hmanual]

/-- **The log of performing a scene from some place** up to where the chain ends.

**Proof sketch.** Induction on the distance to the end of the chain. A step before the end is left
at once, and the log goes on with that of the next step. -/
theorem performLogged_of_leads (hsession : s.state.session = some ⟨scene, c⟩)
    (h : scene.Leads s.settings c k step) (hstop : ¬step.Passes s.settings) :
    (step.PauseFits s.settings →
        (s.performLogged (scene.steps.drop c)).1 = scene.stretch c (k + 1)) ∧
      (¬step.PauseFits s.settings →
        (s.performLogged (scene.steps.drop c)).1 = scene.stretch c k) := by
  induction hn : k - c generalizing s c with
  | zero =>
    obtain rfl : c = k := Nat.le_antisymm h.le (by omega)
    rw [drop_eq_cons h.current, Scene.stretch_succ h.current, Scene.stretch_self]
    exact performLogged_of_not_passes ⟨hsession, h.current⟩ hstop _
  | succ n ih =>
    have hck : c < k := by omega
    have hk : k < scene.steps.length := (List.getElem?_eq_some_iff.1 h.current).1
    obtain ⟨passing, hpassing⟩ : ∃ passing, scene.steps[c]? = some passing :=
      ⟨_, List.getElem?_eq_getElem (by omega)⟩
    have hpasses := h.passed c passing (Nat.le_refl c) hck hpassing
    have hs : StandsAt s scene c passing := ⟨hsession, hpassing⟩
    obtain ⟨s₁, hexec⟩ := execute_of_passes hpasses
    have hex := execution_of_execute hexec
    have hs₁ : s₁.state.session = some ⟨scene, c⟩ :=
      (hs.executed hex hpasses.isComplete_eq_false).session
    have hsettings : s₁.leave.settings = s.settings := by rw [settings_leave, hex.settings_eq]
    have hrest : (s.performLogged (scene.steps.drop c)).1 =
        ⟨some ⟨scene, c⟩, passing⟩ :: (s₁.leave.performLogged (scene.steps.drop (c + 1))).1 := by
      rw [drop_eq_cons hpassing]
      simp [performLogged, hexec, hsession, hpasses.auto, State.isActive_of_session hs₁, leave]
    have hleads : scene.Leads s₁.leave.settings (c + 1) k step := by
      rw [hsettings]
      exact ⟨hck, h.current, fun i step' hi => h.passed i step' (by omega)⟩
    have hnext := ih (session_leave hs₁) hleads (by rwa [hsettings]) (by omega)
    rw [hsettings] at hnext
    rw [hrest, Scene.stretch_eq_cons (by omega) hpassing, Scene.stretch_eq_cons hck hpassing]
    exact ⟨fun hfits => by rw [hnext.1 hfits], fun hlong => by rw [hnext.2 hlong]⟩

/-! ## Chains -/

/-- An operation executes a chain of steps, from some place on up to the first step that takes time
or does not advance by itself. That step is executed as the last, and its effect is handed out if it
has one; or it is a pause that is refused. -/
structure Chain (s : Stage) (op : Operation) (scene : Scene) (c k : ℕ) (step : Step) : Prop where
  /-- The chain ends at the first place where it can. -/
  halts : scene.Halts c k step
  /-- The steps from the one place up to the other are executed, in their order, each once. -/
  executed : step.PauseFits s.settings → s.executed op = scene.stretch c (k + 1)
  /-- What is handed out is what the last step leaves to wait for. -/
  outcome : step.PauseFits s.settings →
    ∃ pending, (s.apply op).2 = .ok pending ∧
      pending.map Pending.effect = step.effect? s.settings
  /-- The scene is over if the last step completes it, and stands there otherwise. -/
  session : step.PauseFits s.settings →
    (s.apply op).1.state.session = if step.isComplete then none else some ⟨scene, k⟩
  /-- A pause that is out of range is refused, after the steps before it. -/
  refused : ¬step.PauseFits s.settings →
    s.executed op = scene.stretch c k ∧ (s.apply op).2 = .error .pauseTooLong

/-- A chain does not end at a step that is left at once. -/
lemma Landed.not_passes {result : Stage × Outcome} (h : Landed settings scene k step result) :
    ¬step.Passes settings := by
  intro hpasses
  cases h with
  | refused _ hlong => exact hlong hpasses.fits
  | busy _ _ _ heffect =>
    rw [hpasses.atOnce] at heffect
    cases heffect
  | waiting _ _ _ _ hmanual =>
    rw [hpasses.auto] at hmanual
    cases hmanual
  | ended _ hcomplete =>
    rw [hpasses.isComplete_eq_false] at hcomplete
    cases hcomplete

/-- What comes of the step at which a chain ends, if it is not refused. -/
lemma Landed.of_fits {result : Stage × Outcome} (h : Landed settings scene k step result)
    (hfits : step.PauseFits settings) :
    (∃ pending, result.2 = .ok pending ∧ pending.map Pending.effect = step.effect? settings) ∧
      result.1.state.session = if step.isComplete then none else some ⟨scene, k⟩ := by
  cases h with
  | refused _ hlong => exact absurd hfits hlong
  | busy hs hcomplete _ heffect =>
    exact ⟨⟨_, rfl, heffect.symm⟩, by simp [hs.session, hcomplete]⟩
  | waiting hs hcomplete _ heffect =>
    exact ⟨⟨_, rfl, heffect.symm⟩, by simp [hs.session, hcomplete]⟩
  | ended hsession hcomplete =>
    exact ⟨⟨_, rfl, (Step.effect?_of_isComplete hcomplete).symm⟩, by simp [hsession, hcomplete]⟩

/-- **An operation that performs executes a chain.**

**Proof sketch.** It comes to a landing. The steps that are left at once are those that take no time
and advance by themselves (`Step.passes_iff`), so the landing is where the chain ends, and the log
is known up to there (`performLogged_of_leads`). -/
theorem Starts.chain (h : Starts s op scene c s₀) : ∃ k step, Chain s op scene c k step := by
  obtain ⟨k, step, hleads, hlanded⟩ := h.landing
  have hstop := hlanded.not_passes
  have hlog := performLogged_of_leads (s := s₀) h.session_eq (by rwa [h.settings_eq])
    (by rwa [h.settings_eq])
  rw [← h.executed_eq, h.settings_eq] at hlog
  refine ⟨k, step, ⟨hleads.le, hleads.current, ?_, ?_⟩, hlog.1,
    fun hfits => (hlanded.of_fits hfits).1, fun hfits => (hlanded.of_fits hfits).2,
    fun hlong => ⟨hlog.2 hlong, ?_⟩⟩
  · exact fun himmediate => hstop (Step.passes_iff.2 himmediate)
  · exact fun i passing hci hik hpassing =>
      Step.passes_iff.1 (hleads.passed i passing hci hik hpassing)
  · generalize s.apply op = result at hlanded ⊢
    cases hlanded with
    | refused => rfl
    | busy _ _ hfits | waiting _ _ hfits | ended _ _ hfits => exact absurd hfits hlong

/-! ## The log of a run -/

/-- Whether an operation puts a scene on. -/
def putsOn (s : Stage) (op : Operation) : Bool :=
  (op.isTrigger || op == .restart) && (s.start? op).isSome

/-- The steps that have been executed since a scene was put on last, after some that had been
before. -/
def played (s : Stage) (past : List Entry) : List Operation → List Entry
  | [] => past
  | op :: ops =>
    (s.apply op).1.played ((if s.putsOn op then [] else past) ++ s.executed op) ops

/-- The steps that have been executed since a scene was put on are those up to the cursor, or all of
them if the scene is over. -/
structure InOrder (s : Stage) (past : List Entry) : Prop where
  /-- During a scene. -/
  during : ∀ scene c, s.state.session = some ⟨scene, c⟩ → past = scene.stretch 0 (c + 1)
  /-- Between scenes. -/
  between : s.state.session = none →
    past = [] ∨ ∃ scene : Scene, past = scene.stretch 0 scene.steps.length

/-- An operation starts behind the cursor, or puts a scene on. -/
lemma Starts.place (h : Starts s op scene c s₀) :
    s.putsOn op = true ∧ c = 0 ∨
      s.putsOn op = false ∧ ∃ c', s.state.session = some ⟨scene, c'⟩ ∧ c = c' + 1 := by
  have hstart := h.start?_eq
  cases h with
  | trigger | restart => exact Or.inl ⟨by simp [putsOn, Operation.isTrigger, hstart], rfl⟩
  | proceed hs | confirm hs | resolve hs => exact Or.inr ⟨rfl, _, hs.session, rfl⟩

/-- **One more operation** goes on with the log where it has ended, or starts a new one.

**Proof sketch.** An operation that performs adds the stretch of its chain, from the place behind
the cursor on or from the start of a scene that it puts on. Any other leaves the scene where it
is. -/
theorem inOrder_apply (h : s.InOrder past) (hwithin : within.Holds s)
    (hok : (s.apply op).2 ≠ .error .pauseTooLong) :
    (s.apply op).1.InOrder ((if s.putsOn op then [] else past) ++ s.executed op) := by
  rcases starts_or_rests hwithin op with ⟨scene, c, s₀, hstarts⟩ | ⟨hstart, hrests⟩
  · obtain ⟨k, step, hchain⟩ := hstarts.chain
    have hfits : step.PauseFits s.settings := by
      by_contra hlong
      exact hok (hchain.refused hlong).2
    have hlog : (if s.putsOn op then [] else past) ++ s.executed op = scene.stretch 0 (k + 1) := by
      have hle := hchain.halts.le
      rw [hchain.executed hfits]
      rcases hstarts.place with ⟨hputs, rfl⟩ | ⟨hputs, c', hsession, rfl⟩
      · rw [if_pos hputs, List.nil_append]
      · rw [hputs, if_neg Bool.false_ne_true, h.during scene c' hsession,
          Scene.stretch_append (Nat.zero_le _) (by omega)]
    rw [hlog]
    cases hcomplete : step.isComplete with
    | true =>
      have hnone := hchain.session hfits
      rw [hcomplete, if_pos rfl] at hnone
      have hlength := (Scene.isComplete_iff hchain.halts.current).1 hcomplete
      exact ⟨fun scene' c' hsession => by simp [hnone] at hsession,
        fun _ => Or.inr ⟨scene, by rw [hlength]⟩⟩
    | false =>
      have hsome := hchain.session hfits
      rw [hcomplete, if_neg Bool.false_ne_true] at hsome
      refine ⟨fun scene' c' hsession => ?_, fun hnone => by simp [hsome] at hnone⟩
      cases hsome.symm.trans hsession
      rfl
  · have hputs : s.putsOn op = false := by simp [putsOn, hstart]
    have hsession : (s.apply op).1.state.session = s.state.session := by
      generalize s.apply op = result at hrests ⊢
      cases hrests with
      | stays hsession => exact hsession
      | ends => exact session_finish s _
    rw [hputs, if_neg Bool.false_ne_true, executed_of_start?_eq_none hstart, List.append_nil]
    exact ⟨fun scene c h' => h.during scene c (hsession ▸ h'),
      fun h' => h.between (hsession ▸ h')⟩

/-- The log of a run stays in order. -/
lemma inOrder_run (hreach : Reachable r settings s) (h : s.InOrder past)
    (hwell : s.goesWell ops = true) : (s.run ops).InOrder (s.played past ops) := by
  induction ops generalizing s past with
  | nil => exact h
  | cons op ops ih =>
    obtain ⟨hok, hwell⟩ := goesWell_cons.1 hwell
    exact ih (hreach.step op) (inOrder_apply h (holds_within hreach) hok) hwell

/-! ## Playing in order -/

/-- The operations execute chains, from the place that each starts from, and nothing else; and what
has been executed since a scene was put on is the scene up to the cursor. -/
structure PlaysInOrder (s : Stage) (past : List Entry) : Prop where
  /-- Proceeding executes a chain behind the current step. -/
  proceed : ∀ scene c, s.state.session = some ⟨scene, c⟩ →
    ∃ k step, Chain s .proceed scene (c + 1) k step
  /-- So does a confirmation, if the current step may be left. -/
  confirm : ∀ scene c step, StandsAt s scene c step → s.state.mayLeave step = true →
    ∃ k last, Chain s .confirm scene (c + 1) k last
  /-- So does the end of the running effect, if the current step advances by itself. -/
  resolve : ∀ scene c step ticket, StandsAt s scene c step → step.autoAdvance = true →
    s.state.isCurrent ticket = true → ∃ k last, Chain s (.resolve ticket) scene (c + 1) k last
  /-- Putting a scene on executes a chain from its start. -/
  trigger : ∀ name scene, s.state.session = none → s.repertoire.get? name = some scene →
    ∃ k step, Chain s (.trigger name) scene 0 k step
  /-- So does starting over. -/
  restart : ∀ scene c, s.state.session = some ⟨scene, c⟩ → ∃ k step, Chain s .restart scene 0 k step
  /-- Whatever is done executes no step and leaves the cursor where it is, or executes a chain
  behind the current step, or the chain at the start of a scene that it puts on. -/
  any : ∀ op, s.executed op = [] ∧ Rests s op (s.apply op) ∨
    ∃ scene c k step, Chain s op scene c k step ∧
      (s.putsOn op = true ∧ c = 0 ∨
        s.putsOn op = false ∧ ∃ c', s.state.session = some ⟨scene, c'⟩ ∧ c = c' + 1)
  /-- No step has been executed out of order, or twice, or left out. -/
  past : s.InOrder past

/-- The end of the running effect goes on with the scene if the step advances by itself, since the
books on the effect are those of the step. -/
lemma WaitsFor.chain_resolve (h : s.WaitsFor pending) (hwithin : within.Holds s) {ticket : Ticket}
    (hs : StandsAt s scene c step) (hauto : step.autoAdvance = true)
    (hcurrent : s.state.isCurrent ticket = true) :
    ∃ k last, Chain s (.resolve ticket) scene (c + 1) k last := by
  obtain ⟨-, step', hs', hcomplete, -⟩ := hwithin.during hs.session
  obtain ⟨-, rfl⟩ := hs.eq_of_standsAt hs'
  obtain ⟨effect, hrunning, rfl⟩ : ∃ effect, s.state.running = some effect ∧
      effect.ticket = ticket := by
    simpa [State.isCurrent, Option.any_eq_true] using hcurrent
  have hgo : effect.autoAdvance = true := (h.records hs hrunning).1.autoAdvance.trans hauto
  exact (Starts.resolve hs hcomplete hrunning hgo).chain

/-- **A stage plays in order** along every run that goes well.

**Proof sketch.** Each operation starts from where it should, and what performs from there executes
a chain (`Starts.chain`). Whether the end of an effect goes on is told from the books on the effect
(`WaitsFor.chain_resolve`), and what has been executed before follows by induction on the run. -/
theorem plays_in_order (r : Repertoire) (settings : Settings) (ids : Random.Source)
    (ops : List Operation) (hwell : (opening r settings ids).goesWell ops = true) :
    ((opening r settings ids).run ops).PlaysInOrder ((opening r settings ids).played [] ops) := by
  have hopening := reachable_opening r settings ids
  have hreach := hopening.run ops
  have hwithin := holds_within hreach
  have hempty : (opening r settings ids).InOrder [] :=
    ⟨fun _ _ hsession => (nomatch hsession), fun _ => Or.inl rfl⟩
  have hpast := inOrder_run hopening hempty hwell
  obtain ⟨pending, hwaits, -⟩ :=
    waitsFor_run hopening (.opening (s := opening r settings ids) rfl rfl) hwell
  generalize (opening r settings ids).run ops = s at hreach hwithin hpast hwaits ⊢
  refine ⟨?_, ?_, ?_, ?_, ?_, ?_, hpast⟩
  · intro scene c hsession
    obtain ⟨-, step, hs, hcomplete, -⟩ := hwithin.during hsession
    exact (Starts.proceed hs hcomplete).chain
  · intro scene c step hs hmay
    obtain ⟨-, step', hs', hcomplete, -⟩ := hwithin.during hs.session
    obtain ⟨-, rfl⟩ := hs.eq_of_standsAt hs'
    exact (Starts.confirm hs hcomplete hmay).chain
  · intro scene c step ticket hs hauto hcurrent
    exact hwaits.chain_resolve hwithin hs hauto hcurrent
  · intro name scene hsession hname
    exact (Starts.trigger hsession hname).chain
  · intro scene c hsession
    obtain ⟨hscene, step, hs, -, -⟩ := hwithin.during hsession
    exact (Starts.restart hs hscene).chain
  · intro op
    rcases starts_or_rests hwithin op with ⟨scene, c, s₀, hstarts⟩ | ⟨hstart, hrests⟩
    · obtain ⟨k, step, hchain⟩ := hstarts.chain
      exact Or.inr ⟨scene, c, k, step, hchain, hstarts.place⟩
    · exact Or.inl ⟨executed_of_start?_eq_none hstart, hrests⟩

/-- The rehearsal at its line, from where a proceed goes on to the reset behind an assignment. -/
theorem plays_in_order_rehearsing :
    rehearsing.goesWell [.trigger "rehearsal", .proceed] = true ∧
      ((rehearsing.run [.trigger "rehearsal", .proceed]).executed .proceed).length = 2 ∧
      (rehearsing.run [.trigger "rehearsal", .proceed]).PlaysInOrder
        (rehearsing.played [] [.trigger "rehearsal", .proceed]) :=
  ⟨by decide +kernel, by decide +kernel,
    plays_in_order (Repertoire.empty.add rehearsal) .standard _ [.trigger "rehearsal", .proceed]
      (by decide +kernel)⟩

end Stage

end Cutscene
