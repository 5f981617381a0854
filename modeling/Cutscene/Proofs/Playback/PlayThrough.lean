import Cutscene.Playback.PlayThrough
import Cutscene.Proofs.Playback.Course
import Cutscene.Proofs.Playback.Failure
import Cutscene.Proofs.Playback.Screen
import Cutscene.Proofs.Playback.Typing
import Cutscene.Proofs.Playback.Values

set_option relaxedAutoImplicit false
set_option autoImplicit false

/-!
# Scenes that are played through

A scene that is played through with nobody watching takes its course, whatever has been played
before: its lines are said in their order, each in full, the player is asked to proceed once for
each step that does not advance by itself, and every effect is waited for.

## Main definitions

* `Cutscene.Stage.PlaysOn` — the loop that plays on, without a bound on the number of its rounds.
* `Cutscene.Stage.PlayedOut` — a stage has been played on until nothing was ahead.
* `Cutscene.Stage.Ends` — the loop comes to its end and plays given cues.
* `Cutscene.Stage.playAll` — scenes played one after the other.
* `Cutscene.Stage.PlaysThrough` — all that can be told of a scene that has been played through.

## Main results

* `Cutscene.Stage.ends_of_ahead` — the loop comes to its end within its bound.
* `Cutscene.Stage.plays_through` — every scene of the repertoire is played through, and any other
  name is refused.

## Design

The number of rounds in `Cutscene.Stage.playOn` is bounded so that the definition can be read as it
stands, and nothing of that bound shows in its results. So that this is no assumption, the loop is
also given as a relation in which a round is followed by the next for as long as there is anything
to do, and the results are shown to be those of the relation. Each round takes a cue other than that
of a line from the course of the scene, which is why it ends.
-/

namespace Cutscene

/-- What happens, without the bubble in which a line was said. -/
def Happening.cue : Happening → Cue
  | .waited length => .waited length
  | .said bubble => .said bubble.line
  | .proceeded => .proceeded

/-- Whether a cue is the one of a round: each round waits for an effect or proceeds. -/
def Cue.isRound : Cue → Bool
  | .waited _ => true
  | .said _ => false
  | .proceeded => true

/-! ## What has happened, as cues -/

namespace PlayThrough

/-- The lines that were said are those among the cues. -/
lemma map_line_lines (p : PlayThrough) :
    p.lines.map Bubble.line = (p.map Happening.cue).filterMap Cue.line? := by
  rw [lines, List.map_filterMap, List.filterMap_map]
  congr 1
  funext happening
  cases happening <;> rfl

/-- How often was proceeded is told by the cues. -/
lemma proceeds_eq_count (p : PlayThrough) :
    p.proceeds = (p.map Happening.cue).count .proceeded := by
  rw [proceeds, List.count, List.countP_map]
  congr 1
  funext happening
  cases happening <;> rfl

/-- How long was waited is told by the cues. -/
lemma waits_eq_filterMap (p : PlayThrough) :
    p.waits = (p.map Happening.cue).filterMap Cue.length? := by
  rw [waits, List.filterMap_map]
  congr 1
  funext happening
  cases happening <;> rfl

end PlayThrough

/-- A step has two rounds at most: its effect, and a proceed. -/
lemma Step.countP_isRound_course_le (settings : Settings) (step : Step) :
    (step.course settings).countP Cue.isRound ≤ 2 := by
  rw [course, cues_eq, leaving]
  cases step.wait? settings <;> cases step.spoken? <;> cases step.isManual <;>
    simp [List.countP_cons, Cue.isRound]

/-- A scene has twice as many rounds as steps at most. -/
lemma Scene.countP_isRound_course_le (settings : Settings) (scene : Scene) :
    (scene.course settings).countP Cue.isRound ≤ 2 * scene.length := by
  rw [course, length]
  induction scene.steps with
  | nil => exact Nat.zero_le _
  | cons step steps ih =>
    have hstep := step.countP_isRound_course_le settings
    rw [List.flatMap_cons, List.countP_append, List.length_cons]
    omega

namespace Stage

variable {s s' : Stage} {scene : Scene} {pending : Option Pending} {cues : List Cue}

/-! ## Waiting for an effect -/

/-- Characters that are shown are reports. -/
lemma revealMany_eq_run (s : Stage) (ticket : Ticket) (n : ℕ) :
    s.revealMany ticket n = s.run (List.replicate n (.reveal ticket)) := by
  induction n generalizing s with
  | zero => rfl
  | succ n ih => exact ih (s.reveal ticket).1

/-- While an effect is waited for, what is ahead stays as it is. -/
lemma Ahead.revealMany (h : s.Ahead scene pending cues) (ticket : Ticket) (n : ℕ) :
    (s.revealMany ticket n).Ahead scene pending cues := by
  induction n generalizing s with
  | zero => exact h
  | succ n ih => exact ih (h.reveal ticket)

/-- Reports of characters leave the settings alone. -/
@[simp] lemma settings_revealMany (s : Stage) (ticket : Ticket) (n : ℕ) :
    (s.revealMany ticket n).settings = s.settings := by
  induction n generalizing s with
  | zero => rfl
  | succ n ih => exact (ih (s.reveal ticket).1).trans (settings_reveal s ticket)

/-- After as many reports a stage has come so many characters further. -/
lemma Types.revealMany {ticket : Ticket} {p : Passage} {n k : ℕ} (h : s.Types ticket p n)
    (hk : n + k ≤ p.line.length) : (s.revealMany ticket k).Types ticket p (n + k) := by
  induction k generalizing s n with
  | zero => exact h
  | succ k ih =>
    have hreveal : (s.reveal ticket).1 =
        { s with state := { s.state with bubbles := p.bubbles (n + 1) } } :=
      congrArg Prod.fst (h.reveal_eq (by omega))
    have hnext := ih h.succ (n := n + 1) (by omega)
    have hsum : n + 1 + k = n + (k + 1) := by omega
    rw [← hreveal, hsum] at hnext
    exact hnext

/-- The bubble of a passage that is shown to its end shows the whole text. -/
lemma visibleText_bubble (p : Passage) : (p.bubble p.line.length).visibleText = p.line.text := by
  change String.ofList (p.line.text.toList.take p.line.text.toList.length) = _
  rw [List.take_length, String.ofList_toList]

/-- An effect that types is at the start of its passage. -/
def AtStart (s : Stage) (pending : Option Pending) : Prop :=
  ∀ ticket chars, pending = some ⟨ticket, .typing chars⟩ →
    ∃ p : Passage, p.line.length = chars ∧ s.Types ticket p 0

/-- An operation that hands out an effect has come to the start of its passage, if the effect
types. -/
lemma atStart_apply (op : Operation) (h : (s.apply op).2 = .ok pending) :
    (s.apply op).1.AtStart pending := by
  rintro ticket chars rfl
  exact types_apply (by rw [h]; rfl)

/-- What happens while an effect is waited for are the cues of the effect, and a line that is said
then is shown in full. -/
lemma cues_await {p : Pending} (hstart : s.AtStart (some p)) :
    (s.await p).2.map Happening.cue =
        .waited (p.effect.duration s.settings.typeInterval) ::
          ((s.await p).1.typedBy p.effect).map .said ∧
      ∀ bubble, .said bubble ∈ (s.await p).2 → bubble.visibleText = bubble.line.text := by
  obtain ⟨ticket, effect⟩ := p
  cases effect with
  | pause length => exact ⟨rfl, fun bubble hbubble => by simp [await, Effect.isTyping] at hbubble⟩
  | settle length => exact ⟨rfl, fun bubble hbubble => by simp [await, Effect.isTyping] at hbubble⟩
  | typing chars =>
    obtain ⟨p, rfl, htypes⟩ := hstart ticket chars rfl
    have hdone := htypes.revealMany (k := p.line.length) (by omega)
    rw [Nat.zero_add] at hdone
    have hlast : (s.revealMany ticket p.line.length).state.bubbles.getLast? =
        some (p.bubble p.line.length) := by
      rw [hdone.bubbles, Passage.bubbles, List.getLast?_concat]
    have hline : (s.revealMany ticket p.line.length).state.step?.bind Step.line? = some p.line := by
      rw [State.step?, hdone.session, Option.bind_some, hdone.line]
    constructor
    · simp [await, Effect.chars, Effect.isTyping, hlast, typedBy, hline, Happening.cue,
        Passage.bubble, Bubble.start]
    · intro bubble hbubble
      obtain rfl : bubble = p.bubble p.line.length := by
        simpa [await, Effect.chars, Effect.isTyping, hlast] using hbubble
      exact visibleText_bubble p

/-! ## The loop -/

/-- The loop that plays on from an operation. A round waits for the effect that the operation has
handed out and reports its end, or proceeds; the loop ends where there is nothing to do. -/
inductive PlaysOn : PlayThrough → Stage × Outcome → Stage × Except PlayError PlayThrough → Prop
  /-- The operation has failed. -/
  | failed (past : PlayThrough) (s : Stage) (e : PlayError) :
    PlaysOn past (s, .error e) (s, .error e)
  /-- There is nothing to do. -/
  | done (past : PlayThrough) (s : Stage) (hwaiting : s.state.isWaiting = false) :
    PlaysOn past (s, .ok none) (s, .ok past)
  /-- An effect is waited for. -/
  | wait (past : PlayThrough) (s : Stage) (pending : Pending)
    (result : Stage × Except PlayError PlayThrough)
    (h : PlaysOn (past ++ (s.await pending).2) ((s.await pending).1.resolve pending.ticket)
      result) : PlaysOn past (s, .ok (some pending)) result
  /-- The player is waited for, and proceeds. -/
  | proceed (past : PlayThrough) (s : Stage) (result : Stage × Except PlayError PlayThrough)
    (hwaiting : s.state.isWaiting = true) (h : PlaysOn (past ++ [.proceeded]) s.proceed result) :
    PlaysOn past (s, .ok none) result

/-- A stage has been played on until nothing was ahead, and given cues have happened on the way. -/
structure PlayedOut (s : Stage) (cues : List Cue) (s' : Stage) (news : PlayThrough) : Prop where
  /-- Nothing was done but to report, to proceed and the like. -/
  run : ∃ ops : List Operation, (∀ op ∈ ops, op.isTrigger = false) ∧ s' = s.run ops
  /-- What has happened are the cues. -/
  cues : news.map Happening.cue = cues
  /-- Each line was said in full. -/
  whole : ∀ bubble, .said bubble ∈ news → bubble.visibleText = bubble.line.text
  /-- No scene is played any more. -/
  session : s'.state.session = none
  /-- No effect is running any more. -/
  running : s'.state.running = none

/-- A round in front of others. -/
lemma PlayedOut.cons {s₁ : Stage} {round : PlayThrough} {ops : List Operation} {news : PlayThrough}
    (h : s₁.PlayedOut cues s' news) (hops : ∀ op ∈ ops, op.isTrigger = false) (hs₁ : s₁ = s.run ops)
    (hround : ∀ bubble, .said bubble ∈ round → bubble.visibleText = bubble.line.text) :
    s.PlayedOut (round.map Happening.cue ++ cues) s' (round ++ news) := by
  obtain ⟨⟨more, hmore, rfl⟩, hcues, hwhole, hsession, hrunning⟩ := h
  refine ⟨⟨ops ++ more, ?_, by rw [run_append, ← hs₁]⟩, by rw [List.map_append, hcues], ?_,
    hsession, hrunning⟩
  · intro op hop
    rcases List.mem_append.1 hop with hop | hop
    · exact hops op hop
    · exact hmore op hop
  · intro bubble hbubble
    rcases List.mem_append.1 hbubble with hbubble | hbubble
    · exact hround bubble hbubble
    · exact hwhole bubble hbubble

/-- From an operation, the loop comes to its end within a bound on its rounds, and plays given
cues. -/
def Ends (fuel : ℕ) (cues : List Cue) (start : Stage × Outcome) : Prop :=
  ∀ past, ∃ s' news, playOn past fuel start = (s', .ok (past ++ news)) ∧
    PlaysOn past start (s', .ok (past ++ news)) ∧ start.1.PlayedOut cues s' news

/-- Where there is nothing to do, the loop has come to its end. -/
lemma ends_done (fuel : ℕ) (hsession : s.state.session = none) (hrunning : s.state.running = none) :
    Ends fuel [] (s, .ok none) := by
  intro past
  have hwaiting : s.state.isWaiting = false := by simp [State.isWaiting, hsession]
  refine ⟨s, [], ?_, ?_, ⟨⟨[], by simp, rfl⟩, rfl, by simp, hsession, hrunning⟩⟩
  · cases fuel <;> simp [playOn, hwaiting]
  · rw [List.append_nil]
    exact .done past s hwaiting

/-- A round that waits for an effect. -/
lemma Ends.wait {fuel : ℕ} {p : Pending} (hstart : s.AtStart (some p))
    (h : Ends fuel cues ((s.await p).1.resolve p.ticket)) :
    Ends (fuel + 1) (.waited (p.effect.duration s.settings.typeInterval) ::
      (((s.await p).1.typedBy p.effect).map .said ++ cues)) (s, .ok (some p)) := by
  intro past
  obtain ⟨s', news, hplay, hloop, hout⟩ := h (past ++ (s.await p).2)
  obtain ⟨hround, hwhole⟩ := cues_await hstart
  have hrun : ((s.await p).1.resolve p.ticket).1 =
      s.run (List.replicate p.effect.chars (.reveal p.ticket) ++ [.resolve p.ticket]) := by
    rw [run_append, ← revealMany_eq_run]
    rfl
  have hops : ∀ op ∈ List.replicate p.effect.chars (Operation.reveal p.ticket) ++
      [.resolve p.ticket], op.isTrigger = false := by
    intro op hop
    rcases List.mem_append.1 hop with hop | hop
    · rw [List.eq_of_mem_replicate hop]
      rfl
    · rw [List.mem_singleton.1 hop]
      rfl
  rw [List.append_assoc] at hplay hloop
  refine ⟨s', (s.await p).2 ++ news, hplay, .wait past s p _ hloop, ?_⟩
  rw [← List.cons_append, ← hround]
  exact hout.cons hops hrun hwhole

/-- A round that proceeds. -/
lemma Ends.proceed {fuel : ℕ} (hwaiting : s.state.isWaiting = true) (h : Ends fuel cues s.proceed) :
    Ends (fuel + 1) (.proceeded :: cues) (s, .ok none) := by
  intro past
  obtain ⟨s', news, hplay, hloop, hout⟩ := h (past ++ [.proceeded])
  have hops : ∀ op ∈ [Operation.proceed], op.isTrigger = false :=
    fun op hop => by rw [List.mem_singleton.1 hop]; rfl
  have hwhole : ∀ bubble, .said bubble ∈ [Happening.proceeded] →
      bubble.visibleText = bubble.line.text := fun bubble hbubble => by simp at hbubble
  have hall := hout.cons hops (s := s) rfl hwhole
  rw [List.append_assoc] at hplay hloop
  refine ⟨s', .proceeded :: news, ?_, .proceed past s _ hwaiting hloop, hall⟩
  simp only [playOn, hwaiting, if_true]
  exact hplay

/-- **The loop comes to its end** within a bound on its rounds, and plays what is ahead.

**Proof sketch.** Induction on the bound. What is waited for is the first of the cues ahead, and its
end takes the cues of the effect (`Ahead.resolve`); where nothing is waited for but the player, the
first cue is a proceed (`Ahead.proceed`). No pause is refused, so each round leads on. -/
theorem ends_of_ahead {fuel : ℕ} (h : s.Ahead scene pending cues) (hstart : s.AtStart pending)
    (hfits : ∀ step ∈ scene.steps, step.PauseFits s.settings)
    (hfuel : cues.countP Cue.isRound ≤ fuel) : Ends fuel cues (s, .ok pending) := by
  induction fuel generalizing s pending cues with
  | zero =>
    cases pending with
    | some p =>
      obtain ⟨rest, rfl, -⟩ := h.resolve
      simp [Cue.isRound] at hfuel
    | none =>
      cases hwaiting : s.state.isWaiting with
      | true =>
        obtain ⟨rest, rfl, -⟩ := h.proceed hwaiting
        simp [Cue.isRound] at hfuel
      | false =>
        obtain ⟨rfl, hsession, hrunning⟩ := h.over_of_not_isWaiting hwaiting
        exact ends_done 0 hsession hrunning
  | succ fuel ih =>
    have hnext : ∀ {s₁ : Stage} (op : Operation) {rest : List Cue}, s₁.settings = s.settings →
        LeadsTo scene rest (s₁.apply op) → rest.countP Cue.isRound ≤ fuel →
        Ends fuel rest (s₁.apply op) := by
      intro s₁ op rest hsettings hleads hrest
      have hfits' : ∀ step ∈ scene.steps, step.PauseFits (s₁.apply op).1.settings := by
        rwa [settings_apply, hsettings]
      obtain ⟨pending', hok, hahead⟩ := hleads.ok hfits'
      have hends := ih hahead (atStart_apply op hok) hfits' hrest
      rwa [← hok] at hends
    cases pending with
    | some p =>
      have hsettings : (s.await p).1.settings = s.settings := settings_revealMany s _ _
      obtain ⟨rest, hcues, hleads⟩ := (h.revealMany p.ticket p.effect.chars).resolve
      rw [settings_revealMany] at hcues
      have hrest : rest.countP Cue.isRound ≤ fuel := by
        rw [hcues, List.countP_cons, List.countP_append] at hfuel
        simp only [Cue.isRound, if_true] at hfuel
        omega
      rw [hcues]
      exact Ends.wait hstart (hnext (.resolve p.ticket) hsettings hleads hrest)
    | none =>
      cases hwaiting : s.state.isWaiting with
      | true =>
        obtain ⟨rest, rfl, hleads⟩ := h.proceed hwaiting
        have hrest : rest.countP Cue.isRound ≤ fuel := by
          rw [List.countP_cons] at hfuel
          simp only [Cue.isRound, if_true] at hfuel
          omega
        exact Ends.proceed hwaiting (hnext .proceed rfl hleads hrest)
      | false =>
        obtain ⟨rfl, hsession, hrunning⟩ := h.over_of_not_isWaiting hwaiting
        exact ends_done (fuel + 1) hsession hrunning

/-! ## Playing a scene through -/

/-- All that can be told of a scene that has been played through: what was said, how often the
player was asked, how long was waited, and what is left. -/
structure PlaysThrough (settings : Settings) (scene : Scene) (s s' : Stage) (p : PlayThrough) :
    Prop where
  /-- The loop has come to its end by itself. -/
  loop : PlaysOn [] (s.trigger scene.name) (s', .ok p)
  /-- No scene is played any more. -/
  session : s'.state.session = none
  /-- No effect is running. -/
  running : s'.state.running = none
  /-- There are no bubbles. -/
  bubbles : s'.state.bubbles = []
  /-- The lines that are not empty were said, in the order of the script. -/
  lines : p.lines.map Bubble.line = scene.steps.filterMap Step.spoken?
  /-- When a line was said, its whole text was shown. -/
  whole : ∀ bubble ∈ p.lines, bubble.visibleText = bubble.line.text
  /-- The player was asked once for each step but the last that does not advance by itself. -/
  proceeds : p.proceeds = scene.steps.countP Step.isManual
  /-- Each effect was waited for, in the order of the script. -/
  waits : p.waits = scene.steps.filterMap (Step.wait? settings)
  /-- The assignments of the scene were made, and no other. -/
  values : s'.state.values = s.state.values.overlayAll scene.assignments

/-- The bound on the rounds has room for what is ahead once a scene has been put on. -/
lemma Ahead.countP_isRound_le (h : s.Ahead scene pending cues)
    (hcount : cues.countP Cue.isRound ≤ 2 * scene.length) :
    cues.countP Cue.isRound ≤ s.operationsLeft := by
  unfold operationsLeft
  cases h with
  | busy hs | waiting hs =>
    simp only [hs.session]
    omega
  | settling hsession | ended hsession => simp [hsession, Cue.isRound]

/-- A scene of the repertoire that is put on between scenes is played through, if its pauses are in
range.

**Proof sketch.** The whole course of the scene is ahead once it is put on (`leadsTo_trigger`), and
its rounds are no more than the bound has room for. -/
lemma playsThrough_of_get? {r : Repertoire} {settings : Settings} (h : Reachable r settings s)
    (hsession : s.state.session = none) (hscene : r.get? scene.name = some scene)
    (hfits : ∀ step ∈ scene.steps, step.PauseFits settings) :
    ∃ s' p, s.playThrough scene.name = (s', .ok p) ∧ PlaysThrough settings scene s s' p ∧
      Reachable r settings s' := by
  have hscene' : s.repertoire.get? scene.name = some scene := by rwa [h.repertoire_eq]
  have hsettings : (s.trigger scene.name).1.settings = settings :=
    (settings_apply s (.trigger scene.name)).trans h.settings_eq
  rw [← hsettings] at hfits
  obtain ⟨pending, hok, hahead⟩ := (leadsTo_trigger hsession hscene').ok hfits
  have hfuel := hahead.countP_isRound_le (scene.countP_isRound_course_le s.settings)
  have hends := ends_of_ahead hahead (atStart_apply (.trigger scene.name) hok) hfits hfuel
  have hstart : ((s.trigger scene.name).1, (.ok pending : Outcome)) = s.trigger scene.name := by
    rw [← hok]
  rw [hstart] at hends
  obtain ⟨s', p, hplay, hloop, hout⟩ := hends []
  rw [List.nil_append] at hplay hloop
  obtain ⟨ops, hops, hrun⟩ := hout.run
  have hreachable : Reachable r settings s' := by
    rw [hrun]
    exact (h.step (.trigger scene.name)).run ops
  refine ⟨s', p, hplay, ⟨hloop, hout.session, hout.running,
    ((holds_screen hreachable).between hout.session).1, ?_, ?_, ?_, ?_, ?_⟩, hreachable⟩
  · rw [PlayThrough.map_line_lines, hout.cues, Scene.filterMap_line?_course]
  · intro bubble hbubble
    obtain ⟨happening, hmem, hsaid⟩ := List.mem_filterMap.1 hbubble
    cases happening with
    | said bubble' =>
      cases hsaid
      exact hout.whole bubble hmem
    | waited length => cases hsaid
    | proceeded => cases hsaid
  · rw [PlayThrough.proceeds_eq_count, hout.cues, Scene.count_proceeded_course]
  · rw [PlayThrough.waits_eq_filterMap, hout.cues, Scene.filterMap_length?_course, h.settings_eq]
  · rw [hrun]
    exact (holds_writing hsession hscene' hops).between (hrun ▸ hout.session)

/-- A name that is not in the repertoire is refused between scenes, and nothing changes. -/
lemma playThrough_of_get?_eq_none {name : String} (hsession : s.state.session = none)
    (hname : s.repertoire.get? name = none) :
    s.playThrough name = (s, .error (.sceneNotFound name)) := by
  rw [playThrough, trigger_of_get?_eq_none (State.isActive_of_session_eq_none hsession) hname]
  cases operationsLeft s <;> rfl

/-- Plays scenes one after the other, whatever comes of each. -/
def playAll (s : Stage) (names : List String) : Stage :=
  names.foldl (fun s name => (s.playThrough name).1) s

/-- Between scenes that are played through no scene is played.

**Proof sketch.** Induction on the scenes: each is played through, or refused. -/
lemma reachable_playAll {r : Repertoire} {settings : Settings} (hfit : r.PausesFit settings)
    (h : Reachable r settings s) (hsession : s.state.session = none) (names : List String) :
    Reachable r settings (s.playAll names) ∧ (s.playAll names).state.session = none := by
  induction names generalizing s with
  | nil => exact ⟨h, hsession⟩
  | cons name names ih =>
    cases hname : r.get? name with
    | none =>
      have hname' : s.repertoire.get? name = none := by rwa [h.repertoire_eq]
      have hfirst : (s.playThrough name).1 = s := by
        rw [playThrough_of_get?_eq_none hsession hname']
      rw [playAll, List.foldl_cons, hfirst]
      exact ih h hsession
    | some scene =>
      obtain rfl := r.name_of_get? hname
      obtain ⟨s', p, hplay, hthrough, hreachable⟩ := playsThrough_of_get? h hsession hname
        (hfit scene (Repertoire.mem_toList_of_get? hname))
      have hfirst : (s.playThrough scene.name).1 = s' := by rw [hplay]
      rw [playAll, List.foldl_cons, hfirst]
      exact ih hreachable hthrough.session

/-- **Every scene of the repertoire is played through, and any other name is refused**, whatever has
been played before. The pauses have to be in range once they are scaled.

**Proof sketch.** Whatever has been played before, no scene is played in between
(`reachable_playAll`), and a scene that is put on then takes its course
(`playsThrough_of_get?`). -/
theorem plays_through {r : Repertoire} {settings : Settings} (hfit : r.PausesFit settings)
    (ids : Random.Source) (names : List String) (name : String) :
    let s := playAll ⟨r, settings, ids, .idle⟩ names
    (r.get? name = none → s.playThrough name = (s, .error (.sceneNotFound name))) ∧
      ∀ scene, r.get? name = some scene →
        ∃ s' p, s.playThrough name = (s', .ok p) ∧ PlaysThrough settings scene s s' p := by
  obtain ⟨hreachable, hsession⟩ := reachable_playAll hfit (.opening ids) rfl names
  constructor
  · intro hname
    exact playThrough_of_get?_eq_none hsession (by rwa [hreachable.repertoire_eq])
  · intro scene hname
    obtain rfl := r.name_of_get? hname
    obtain ⟨s', p, hplay, hthrough, -⟩ := playsThrough_of_get? hreachable hsession hname
      (hfit scene (Repertoire.mem_toList_of_get? hname))
    exact ⟨s', p, hplay, hthrough⟩

/-- The rehearsal, after a scene that is not in the repertoire and a first time. -/
theorem plays_through_rehearsing :
    (Repertoire.empty.add rehearsal).PausesFit .standard ∧
      ∃ s' p, (playAll ⟨Repertoire.empty.add rehearsal, .standard, .ofSeed 7, .idle⟩
          ["encore", "rehearsal"]).playThrough "rehearsal" = (s', .ok p) ∧
        p.lines.map Bubble.line = [⟨"ENGINEER", "hi", .left⟩] ∧ p.proceeds = 1 ∧
        p.waits = [.ofMillis 500, .ofMillis 40, .ofMillis 300, .ofMillis 300] := by
  have hfit : (Repertoire.empty.add rehearsal).PausesFit .standard :=
    Repertoire.pausesFit_of_unscaled _ (by decide)
  obtain ⟨s', p, hplay, hthrough⟩ :=
    (plays_through hfit (.ofSeed 7) ["encore", "rehearsal"] "rehearsal").2 rehearsal
      (Dictionary.get?_insert_self ..)
  refine ⟨hfit, s', p, hplay, hthrough.lines.trans ?_, hthrough.proceeds.trans ?_,
    hthrough.waits.trans ?_⟩
  · decide +kernel
  · decide +kernel
  · decide +kernel

end Stage

end Cutscene
