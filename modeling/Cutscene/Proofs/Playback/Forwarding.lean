import Cutscene.Proofs.Playback.Desk

set_option relaxedAutoImplicit false
set_option autoImplicit false

/-!
# Triggers that are held back

A remote control holds triggers back while the snapshot that everybody sees says that a scene is
played. The stage would ignore such a trigger anyway. But a trigger that is sent may be handled
later than the look at the snapshot, so that it is not enough to compare the two on one stage: this
file shows that what can come about with the guard can come about without it, and the other way
round.

## Main definitions

* `Cutscene.Desk.Alike` — desks that differ in versions only.
* `Cutscene.Desk.Lags` — a desk without the guard that is behind one with it by a report.
* `Cutscene.Desk.Follows` — a desk with the guard that follows one without it.

## Main results

* `Cutscene.Desk.Alike.turn` — desks that are alike stay alike.
* `Cutscene.Desk.alike_atOnce_of_none` — an input that the guard holds back does nothing where it is
  sent and handled at once.
* `Cutscene.Desk.Lags.turn`, `Cutscene.Desk.Follows.turn` — one more turn on either side.
* `Cutscene.Desk.forwards_faithfully` — proceeds meet what was seen, and the guard makes no
  difference to what can come about.

## Design

A trigger may be held back behind a report that has ended the scene and has not been published. Sent
at that time it would start a scene, so without the guard it has to be sent before the report. That
is possible since nobody can tell a report before it is published: the desk without the guard is
kept behind by the report until then. The other way round, a trigger that has been sent and not been
handled is not made at all on the side of the guard until it is seen what becomes of it.

Where an engine has ended there is a difference: whoever holds a trigger back does not notice.
-/

namespace Cutscene

namespace Guard

variable {a : Snapshot} {input : Input} {c : Command}

/-- What is sent with the guard is sent without it. -/
lemma command?_lifted (h : input.command? a = some c) : Guard.lifted.command? a input = some c := by
  cases input with
  | trigger name =>
    simp only [Input.command?] at h
    split at h
    · cases h
    · exact h
  | proceed | confirm | restart | resize => exact h

/-- What is sent without the guard only is a trigger while a scene is played. -/
lemma of_held_back (h : Guard.lifted.command? a input ≠ input.command? a) :
    ∃ name, input = .trigger name ∧ Guard.lifted.command? a input = some (.trigger name) ∧
      input.command? a = none ∧ a.active = true := by
  cases input with
  | trigger name =>
    cases hactive : a.active with
    | true => exact ⟨name, rfl, rfl, if_pos hactive, rfl⟩
    | false =>
      have hinput : (Input.trigger name).command? a = some (.trigger name) :=
        if_neg (by simp [Snapshot.interactionDisabled, hactive])
      exact absurd (command?_lifted hinput ▸ hinput.symm) h
  | proceed | confirm | restart | resize => exact absurd rfl h

end Guard

namespace Loop

variable {l : Loop} {a : Act} {acts : List Act}

/-- Loops that differ in versions only still do after every run. -/
lemma plain_run_congr {l' : Loop} (h : l.Counted) (h' : l'.Counted) (hsame : l.plain = l'.plain)
    (acts : List Act) : (l.run acts).plain = (l'.run acts).plain := by
  induction acts generalizing l l' with
  | nil => exact hsame
  | cons a acts ih => exact ih (h.act a) (h'.act a) (plain_act_congr h h' hsame a)

/-- Loops that are at the same differ in versions only if their engines do. -/
lemma plain_eq {l' : Loop} (hengine : l'.engine.plain = l.engine.plain)
    (hphase : l'.phase = l.phase) : l'.plain = l.plain := by
  rw [plain, plain, hengine, hphase]

/-- Without publishing, what is published stays. -/
lemma published_run (hacts : Act.publish ∉ acts) :
    (l.run acts).engine.published = l.engine.published := by
  induction acts generalizing l with
  | nil => rfl
  | cons a acts ih =>
    obtain ⟨hne, hacts⟩ := not_or.1 (mt List.mem_cons.2 hacts)
    exact (ih hacts).trans (published_act (Ne.symm hne)).2

/-- Behind a publication nothing has been handled. -/
lemma phase_publish_ne (l : Loop) : (l.act .publish).phase ≠ .handled none := by
  cases hphase : l.phase with
  | handled answer => cases answer <;> simp [act, hphase]
  | idle | published | ended => simp [act, hphase]

end Loop

namespace Desk

variable {g : Guard} {d d' e : Desk} {r : Repertoire} {settings : Settings} {ids : Random.Source}
  {t : Turn} {turns : List Turn} {acts : List Act}

/-! ## Desks that differ in versions only -/

/-- Two desks differ in versions only: the engines are at the same and show the same, the same is
waited for, and the same inputs have got the same answers. -/
structure Alike (d d' : Desk) : Prop where
  /-- The loops. -/
  loop : d'.loop.plain = d.loop.plain
  /-- The holders of the remote controls. -/
  client : d'.client = d.client
  /-- The answers. -/
  answers : d'.answers = d.answers

namespace Alike

lemma refl (d : Desk) : d.Alike d := ⟨rfl, rfl, rfl⟩

lemma symm (h : d.Alike d') : d'.Alike d := ⟨h.loop.symm, h.client.symm, h.answers.symm⟩

lemma trans (h : d.Alike d') (h' : d'.Alike e) : d.Alike e :=
  ⟨h'.loop.trans h.loop, h'.client.trans h.client, h'.answers.trans h.answers⟩

/-- The engines are at the same. -/
lemma phase (h : d.Alike d') : d'.loop.phase = d.loop.phase := by
  show d'.loop.plain.phase = d.loop.plain.phase
  rw [h.loop]

/-- The same command is made of every input. -/
lemma command?_eq (h : d.Alike d') (g : Guard) (input : Input) :
    g.command? d'.loop.engine.published input = g.command? d.loop.engine.published input := by
  refine Guard.command?_congr ?_ ?_
  · show d'.loop.plain.engine.published.active = d.loop.plain.engine.published.active
    rw [h.loop]
  · show d'.loop.plain.engine.published.canProceed = d.loop.plain.engine.published.canProceed
    rw [h.loop]

/-- The same answer to the same input leaves desks alike. -/
lemma reply (h : d.Alike d') (input : Input) (answer : Except PlayError Unit) :
    (d.reply input answer).Alike (d'.reply input answer) :=
  ⟨h.loop, rfl, congrArg (· ++ [(input, answer)]) h.answers⟩

/-- **Desks that are alike stay alike.** -/
theorem turn (h : d.Alike d') (hd : d.loop.Counted) (hd' : d'.loop.Counted) (t : Turn) :
    (d.turn g t).Alike (d'.turn g t) := by
  have hact := fun a => Loop.plain_act_congr hd' hd h.loop a
  cases t with
  | input input =>
    simp only [Desk.turn, h.client, h.command?_eq g input]
    cases d.client with
    | free =>
      cases g.command? d.loop.engine.published input with
      | none => exact ⟨h.loop, rfl, by simp only [Desk.reply, h.answers]⟩
      | some c => exact ⟨h.loop, rfl, h.answers⟩
    | asked | served => exact h
  | serve now =>
    simp only [Desk.turn, h.client, h.phase]
    split
    · exact ⟨hact _, rfl, h.answers⟩
    · exact h
  | answer =>
    simp only [Desk.turn, h.client, h.phase]
    split
    · exact ⟨hact .answer, rfl, by simp only [Desk.reply, h.answers]⟩
    · exact h.reply _ _
    · exact h.reply _ _
    · exact h
  | alone a =>
    simp only [Desk.turn]
    split
    · exact ⟨hact a, h.client, h.answers⟩
    · exact h

end Alike

/-! ## Runs without inputs -/

/-- What the engine does by itself happens to the loop. -/
lemma run_alone (h : ∀ a ∈ acts, a.isAlone = true) :
    d.run g (acts.map .alone) = { d with loop := d.loop.run acts } := by
  induction acts generalizing d with
  | nil => rfl
  | cons a acts ih =>
    obtain ⟨ha, hacts⟩ := List.forall_mem_cons.1 h
    rw [List.map_cons, run_cons, ih hacts]
    simp [turn, ha]

/-- Once the engine has ended it does not go on. -/
lemma ended_turn (h : d.loop.phase = .ended) (t : Turn) : (d.turn g t).loop.phase = .ended := by
  cases t with
  | input input =>
    simp only [turn]
    split
    · split <;> exact h
    · exact h
  | serve now =>
    simp only [turn]
    split
    · exact Loop.ended_act h _
    · exact h
  | answer =>
    simp only [turn]
    split
    · exact Loop.ended_act h _
    · exact h
    · exact h
    · exact h
  | alone a =>
    simp only [turn]
    split
    · exact Loop.ended_act h _
    · exact h

/-- Once the engine has ended it does not go on. -/
lemma ended_run (h : d.loop.phase = .ended) (turns : List Turn) :
    (d.run g turns).loop.phase = .ended := by
  induction turns generalizing d with
  | nil => exact h
  | cons t turns ih => exact ih (ended_turn h t)

/-! ## Inputs that are held back -/

namespace Sound

/-- Between messages, what is published is up to date. -/
lemma shown (h : d.Sound r settings) (hidle : d.loop.phase = .idle) : d.loop.engine.Shown :=
  Engine.shown_of_reachable (h.loop.reachable hidle)

/-- Between messages, a trigger while a scene is played does nothing to the engine. -/
lemma take_trigger (h : d.Sound r settings) (hidle : d.loop.phase = .idle)
    (hactive : d.loop.engine.published.active = true) (now : ℕ) (name : String) :
    d.loop.engine.take now (.trigger name) = (d.loop.engine, .ok ()) := by
  have hsynced := Engine.synced_of_reachable (h.loop.reachable hidle)
  have hplayed : d.loop.engine.stage.state.isActive = true := by
    rw [← (h.shown hidle).depicts.active_eq, hactive]
  exact Engine.take_trigger_of_isActive hsynced.slot hplayed now name

end Sound

/-- **An input that the guard holds back does nothing** where it is sent and handled at once: it is
answered as if it had been held back. -/
theorem alike_atOnce_of_none (h : d.Sound r settings) (hfree : d.client = .free)
    (hidle : d.loop.phase = .idle) {input : Input}
    (hheld : input.command? d.loop.engine.published = none) (now : ℕ) :
    (d.run .lifted (atOnce input now)).Alike (d.reply input (.ok ())) := by
  by_cases hsame : Guard.lifted.command? d.loop.engine.published input =
      input.command? d.loop.engine.published
  · rw [run_atOnce_of_none hfree hidle (hsame.trans hheld)]
    exact ⟨rfl, rfl, rfl⟩
  · obtain ⟨name, rfl, hsent, -, hactive⟩ := Guard.of_held_back hsame
    have htake := h.take_trigger hidle hactive now name
    rw [run_atOnce_of_some hfree hidle hsent (by simp [htake]), htake]
    refine ⟨?_, rfl, rfl⟩
    simp only [reply, Loop.plain, (h.shown hidle).plain_publish h.loop.counted, hidle]

/-! ## Without the guard, behind by a report -/

/-- A desk without the guard lags behind one with it: some acts are still to be done until the two
are alike, none of which publishes. Where a trigger might be held back behind a report, the report
is among them. -/
structure Lags (d e : Desk) (acts : List Act) : Prop where
  /-- The engine does the acts by itself. -/
  alone : ∀ a ∈ acts, a.isAlone = true
  /-- None of them publishes. -/
  unpublished : .publish ∉ acts
  /-- Behind them the two are alike. -/
  alike : ({ e with loop := e.loop.run acts } : Desk).Alike d
  /-- Where nobody waits for an answer and a report has been handled, it is still to be handled. -/
  behind : d.client = .free → d.loop.phase = .handled none → e.loop.phase = .idle

namespace Lags

/-- The acts that are still to be done can be done. -/
lemma alike_run (h : d.Lags e acts) : (e.run g (acts.map .alone)).Alike d := by
  rw [run_alone h.alone]
  exact h.alike

/-- A desk that is alike lags by nothing, if no report has been handled for which somebody might not
wait. -/
lemma of_alike (h : e.Alike d) (hbehind : d.client = .free → d.loop.phase ≠ .handled none) :
    d.Lags e [] :=
  ⟨nofun, nofun, h, fun hfree hreported => absurd hreported (hbehind hfree)⟩

/-- One more act that does not publish can wait. -/
lemma wait (h : d.Lags e acts) (hd : d.Sound r settings) (he : e.Sound r settings) {a : Act}
    (ha : a.isAlone = true) (hpublish : a ≠ .publish)
    (hbehind : d.client = .free → (d.loop.act a).phase = .handled none → e.loop.phase = .idle) :
    (d.turn .kept (.alone a)).Lags e (acts ++ [a]) := by
  have hturn : d.turn .kept (.alone a) = { d with loop := d.loop.act a } := by simp [turn, ha]
  have hcounted := Loop.Counted.run he.loop.counted acts
  rw [hturn]
  refine ⟨?_, ?_, ⟨?_, h.alike.client, h.alike.answers⟩, hbehind⟩
  · intro b hb
    rcases List.mem_append.1 hb with hb | hb
    · exact h.alone b hb
    · rwa [List.mem_singleton.1 hb]
  · rw [List.mem_append, List.mem_singleton, not_or]
    exact ⟨h.unpublished, Ne.symm hpublish⟩
  · rw [Loop.run_append]
    exact Loop.plain_act_congr hd.loop.counted hcounted h.alike.loop a

/-- An input that is held back is made before what is still to be done. -/
lemma answered (h : d.Lags e acts) (he : e.Sound r settings) (hfree : d.client = .free)
    (hidle : e.loop.phase = .idle) {input : Input}
    (hheld : input.command? d.loop.engine.published = none) :
    (d.turn .kept (.input input)).Lags (e.run .lifted (atOnce input 0)) acts := by
  have hturn : d.turn .kept (.input input) =
      ({ d with seen := d.loop.engine.published }).reply input (.ok ()) := by
    simp only [turn, hfree, Guard.command?_kept, hheld]
  have hseen : input.command? e.loop.engine.published = none := by
    have hcommand := h.alike.command?_eq .kept input
    simp only [Loop.published_run h.unpublished] at hcommand
    exact hcommand.symm.trans hheld
  have hanswered := alike_atOnce_of_none he (h.alike.client.symm.trans hfree) hidle hseen 0
  have hcounted := (he.run (g := .lifted) (atOnce input 0)).loop.counted
  rw [hturn]
  refine ⟨h.alone, h.unpublished, ⟨?_, hanswered.client, ?_⟩, fun _ _ => ?_⟩
  · exact h.alike.loop.trans (Loop.plain_run_congr he.loop.counted hcounted hanswered.loop acts)
  · show d.answers ++ _ = _
    rw [h.alike.answers]
    exact hanswered.answers
  · exact hanswered.phase.symm.trans hidle

/-- Where both are between messages, what is still to be done can be done. -/
lemma caught_up (h : d.Lags e acts) (hidle : d.loop.phase = .idle) :
    d.Lags (e.run .lifted (acts.map .alone)) [] :=
  of_alike h.alike_run fun _ => by simp [hidle]

/-- A turn that is the same without the guard is made after what is still to be done. -/
lemma made (h : d.Lags e acts) (hd : d.Sound r settings) (he : e.Sound r settings)
    (hsame : d.turn .lifted t = d.turn .kept t)
    (hbehind : (d.turn .kept t).client = .free → (d.turn .kept t).loop.phase ≠ .handled none) :
    ∃ turns acts', (d.turn .kept t).Lags (e.run .lifted turns) acts' := by
  refine ⟨acts.map .alone ++ [t], [], of_alike ?_ hbehind⟩
  rw [run_append, run_cons, run_nil, ← hsame]
  exact h.alike_run.turn (he.run _).loop.counted hd.loop.counted t

/-- A turn that is not due needs nothing to be made. -/
lemma unmade (h : d.Lags e acts) (hsame : d.turn .kept t = d) :
    ∃ turns acts', (d.turn .kept t).Lags (e.run .lifted turns) acts' :=
  ⟨[], acts, by rwa [hsame, run_nil]⟩

/-- An input is made before a report that can wait if it is held back, and after it otherwise. -/
lemma input (h : d.Lags e acts) (hd : d.Sound r settings) (he : e.Sound r settings)
    (hgoing : d.loop.phase ≠ .ended) (input : Input) :
    ∃ turns acts', (d.turn .kept (.input input)).Lags (e.run .lifted turns) acts' := by
  cases hclient : d.client with
  | asked | served => exact h.unmade (by simp only [Desk.turn, hclient])
  | free =>
    cases hcommand : input.command? d.loop.engine.published with
    | some c =>
      have hkept : Guard.kept.command? d.loop.engine.published input = some c := hcommand
      have hlifted := Guard.command?_lifted hcommand
      refine h.made hd he ?_ ?_
      · simp only [Desk.turn, hclient, hkept, hlifted]
      · simp only [Desk.turn, hclient, hkept]
        intro hfree
        cases hfree
    | none =>
      rcases hd.phase_eq hgoing (by simp [hclient]) with hidle | hreported
      · have hlevel := h.caught_up hidle
        have he' := he.run (g := .lifted) (acts.map .alone)
        have hidle' := hlevel.alike.phase.symm.trans hidle
        refine ⟨acts.map .alone ++ atOnce input 0, [], ?_⟩
        rw [run_append]
        exact hlevel.answered he' hclient hidle' hcommand
      · exact ⟨_, acts, h.answered he hclient (h.behind hclient hreported) hcommand⟩

/-- What the engine does by itself can wait unless it publishes. -/
lemma act (h : d.Lags e acts) (hd : d.Sound r settings) (he : e.Sound r settings) (a : Act)
    (hgoing : (d.turn .kept (.alone a)).loop.phase ≠ .ended) :
    ∃ turns acts', (d.turn .kept (.alone a)).Lags (e.run .lifted turns) acts' := by
  cases a with
  | command | answer => exact h.unmade rfl
  | stop =>
    cases hphase : d.loop.phase with
    | idle =>
      refine absurd ?_ hgoing
      simp [Desk.turn, Act.isAlone, Loop.act, hphase]
    | handled | published | ended =>
      refine h.unmade ?_
      simp [Desk.turn, Act.isAlone, Loop.act, hphase]
  | publish => exact h.made hd he rfl fun _ => Loop.phase_publish_ne d.loop
  | tick | quit => exact ⟨[], _, h.wait hd he rfl (by simp) h.behind⟩
  | report now =>
    cases hphase : d.loop.phase with
    | idle =>
      have hlevel := h.caught_up hphase
      have hidle := hlevel.alike.phase.symm.trans hphase
      exact ⟨_, _, hlevel.wait hd (he.run _) rfl (by simp) fun _ _ => hidle⟩
    | handled | published | ended =>
      refine h.unmade ?_
      simp [Desk.turn, Act.isAlone, Loop.act, hphase]

/-- **One more turn with the guard** is made without it, though perhaps later.

**Proof sketch.** A report can wait until it is published. Until then the desk without the guard is
between messages, and an input that is held back is sent, handled and answered there
(`Lags.answered`). Any other turn is made on both sides, after what is still to be done. -/
theorem turn (h : d.Lags e acts) (hd : d.Sound r settings) (he : e.Sound r settings) (t : Turn)
    (hgoing : (d.turn .kept t).loop.phase ≠ .ended) :
    ∃ turns acts', (d.turn .kept t).Lags (e.run .lifted turns) acts' := by
  have hbefore : d.loop.phase ≠ .ended := fun hended => hgoing (ended_turn hended t)
  cases t with
  | input input => exact h.input hd he hbefore input
  | alone a => exact h.act hd he a hgoing
  | serve now =>
    cases hclient : d.client with
    | free | served => exact h.unmade (by simp only [Desk.turn, hclient])
    | asked input c =>
      cases hphase : d.loop.phase with
      | idle =>
        refine h.made hd he rfl ?_
        simp only [Desk.turn, hclient, hphase]
        intro hfree
        cases hfree
      | handled | published | ended => exact h.unmade (by simp only [Desk.turn, hclient, hphase])
  | answer =>
    cases hclient : d.client with
    | free => exact h.unmade (by simp only [Desk.turn, hclient])
    | asked input c =>
      cases hphase : d.loop.phase with
      | ended => exact absurd hphase hbefore
      | idle | handled | published => exact h.unmade (by simp only [Desk.turn, hclient, hphase])
    | served input =>
      cases hphase : d.loop.phase with
      | ended => exact absurd hphase hbefore
      | idle | handled => exact h.unmade (by simp only [Desk.turn, hclient, hphase])
      | published answer =>
        refine h.made hd he rfl fun _ => ?_
        simp [Desk.turn, hclient, hphase, reply, Loop.act]

/-- A run with the guard is made without it. -/
theorem run (h : d.Lags e acts) (hd : d.Sound r settings) (he : e.Sound r settings)
    (hgoing : (d.run .kept turns).loop.phase ≠ .ended) :
    ∃ turns' acts', (d.run .kept turns).Lags (e.run .lifted turns') acts' := by
  induction turns generalizing d e acts with
  | nil => exact ⟨[], acts, h⟩
  | cons t turns ih =>
    have hnext : (d.turn .kept t).loop.phase ≠ .ended :=
      fun hended => hgoing (ended_run hended turns)
    obtain ⟨first, acts₁, hturn⟩ := h.turn hd he t hnext
    obtain ⟨others, acts₂, hrun⟩ := ih hturn (hd.turn t) (he.run first) hgoing
    exact ⟨first ++ others, acts₂, by rwa [run_append]⟩

end Lags

/-! ## With the guard, following a trigger that has been sent -/

/-- A desk with the guard follows one without it: the two are alike, or a trigger has been sent that
might be held back, and has not been handled, or has been handled where it does nothing. -/
inductive Follows (d e : Desk) : Prop
  /-- The two are alike. -/
  | alike (h : d.Alike e)
  /-- A trigger has been sent and has not been handled. The other has not made it yet. -/
  | sent (name : String) (hsent : d.client = .asked (.trigger name) (.trigger name))
    (hfree : e.client = .free) (hloop : e.loop.plain = d.loop.plain)
    (hanswers : e.answers = d.answers)
  /-- A trigger has been handled where it does nothing, and has not been answered. The other has not
  made it yet, and is between messages. -/
  | ignored (name : String) (hserved : d.client = .served (.trigger name))
    (hphase : d.loop.phase = .handled (some (.ok ())) ∨ d.loop.phase = .published (.ok ()))
    (hshown : d.loop.engine.Shown) (hactive : d.loop.engine.published.active = true)
    (hfree : e.client = .free) (hidle : e.loop.phase = .idle)
    (hengine : e.loop.engine.plain = d.loop.engine.plain) (hanswers : e.answers = d.answers)

namespace Follows

/-- The engines are at the same, but for versions, and the same inputs have got the same answers. -/
lemma engine_eq (h : d.Follows e) :
    e.loop.engine.plain = d.loop.engine.plain ∧ e.answers = d.answers := by
  cases h with
  | alike h => exact ⟨congrArg Loop.engine h.loop, h.answers⟩
  | sent _ _ _ hloop hanswers => exact ⟨congrArg Loop.engine hloop, hanswers⟩
  | ignored _ _ _ _ _ _ _ hengine hanswers => exact ⟨hengine, hanswers⟩

/-- Where nobody waits for an answer, the two are alike. -/
lemma alike_of_free (h : d.Follows e) (hfree : d.client = .free) : d.Alike e := by
  cases h with
  | alike h => exact h
  | sent _ hsent => simp [hsent] at hfree
  | ignored _ hserved => simp [hserved] at hfree

/-- A turn that is not due needs nothing to be made. -/
lemma unmade (h : d.Follows e) (hsame : d.turn .lifted t = d) :
    ∃ turns, (d.turn .lifted t).Follows (e.run .kept turns) :=
  ⟨[], by rwa [hsame, run_nil]⟩

/-- A turn where the two are alike is made on both sides, unless it is a trigger that the guard
would hold back. -/
lemma of_alike (h : d.Alike e) (hd : d.Sound r settings) (he : e.Sound r settings) (t : Turn) :
    ∃ turns, (d.turn .lifted t).Follows (e.run .kept turns) := by
  by_cases hsame : d.turn .lifted t = d.turn .kept t
  · refine ⟨[t], .alike ?_⟩
    rw [hsame]
    exact h.turn hd.loop.counted he.loop.counted t
  · cases t with
    | serve | answer | alone => exact absurd rfl hsame
    | input input =>
      cases hclient : d.client with
      | asked | served => exact absurd (by simp only [turn, hclient]) hsame
      | free =>
        have hheld : Guard.lifted.command? d.loop.engine.published input ≠
            input.command? d.loop.engine.published := by
          intro heq
          refine hsame ?_
          simp only [Desk.turn, hclient, heq, Guard.command?_kept]
        obtain ⟨name, rfl, hsent, -, -⟩ := Guard.of_held_back hheld
        have hturn : d.turn .lifted (.input (.trigger name)) =
            { d with
              seen := d.loop.engine.published
              client := .asked (.trigger name) (.trigger name) } := by
          simp only [Desk.turn, hclient, hsent]
        refine ⟨[], ?_⟩
        rw [hturn]
        exact .sent name rfl (h.client.trans hclient) h.loop h.answers

/-- A trigger that has been sent is handled where it does nothing, or made with the guard, too. -/
lemma serve_sent (hd : d.Sound r settings) (he : e.Sound r settings) {name : String}
    (hsent : d.client = .asked (.trigger name) (.trigger name)) (hfree : e.client = .free)
    (hloop : e.loop.plain = d.loop.plain) (hanswers : e.answers = d.answers)
    (hidle : d.loop.phase = .idle) (now : ℕ) :
    ∃ turns, (d.turn .lifted (.serve now)).Follows (e.run .kept turns) := by
  have hphase : e.loop.phase = .idle := (congrArg Loop.phase hloop).trans hidle
  cases hactive : d.loop.engine.published.active with
  | true =>
    have hturn : d.turn .lifted (.serve now) =
        { d with
          loop := ⟨d.loop.engine, .handled (some (.ok ()))⟩
          client := .served (.trigger name) } := by
      rw [serve_eq hsent hidle, hd.take_trigger hidle hactive]
      rfl
    refine ⟨[], ?_⟩
    rw [hturn]
    exact .ignored name rfl (Or.inl rfl) (hd.shown hidle) hactive hfree hphase
      (congrArg Loop.engine hloop) hanswers
  | false =>
    -- the guard lets the trigger pass, so that both sides are where it has been sent
    have hwaiting : ({ d with client := .free } : Desk).Alike e := ⟨hloop, hfree, hanswers⟩
    have hpasses : Guard.kept.command? e.loop.engine.published (.trigger name) =
        some (.trigger name) := by
      rw [hwaiting.command?_eq .kept]
      exact if_neg (by simp [Snapshot.interactionDisabled, hactive])
    have hmade : d.Alike (e.turn .kept (.input (.trigger name))) := by
      simp only [turn, hfree, hpasses]
      exact ⟨hloop, hsent.symm, hanswers⟩
    refine ⟨[.input (.trigger name), .serve now], .alike ?_⟩
    exact hmade.turn hd.loop.counted (he.turn _).loop.counted (.serve now)

/-- One more turn where a trigger has been sent and has not been handled. -/
lemma of_sent (hd : d.Sound r settings) (he : e.Sound r settings) {name : String}
    (hsent : d.client = .asked (.trigger name) (.trigger name)) (hfree : e.client = .free)
    (hloop : e.loop.plain = d.loop.plain) (hanswers : e.answers = d.answers)
    (hgoing : d.loop.phase ≠ .ended) (t : Turn) :
    ∃ turns, (d.turn .lifted t).Follows (e.run .kept turns) := by
  have hfollows : d.Follows e := .sent name hsent hfree hloop hanswers
  cases t with
  | input input => exact hfollows.unmade (by simp only [turn, hsent])
  | serve now =>
    cases hphase : d.loop.phase with
    | idle => exact serve_sent hd he hsent hfree hloop hanswers hphase now
    | handled | published | ended => exact hfollows.unmade (by simp only [turn, hsent, hphase])
  | answer =>
    cases hphase : d.loop.phase with
    | ended => exact absurd hphase hgoing
    | idle | handled | published => exact hfollows.unmade (by simp only [turn, hsent, hphase])
  | alone a =>
    cases ha : a.isAlone with
    | false => exact hfollows.unmade (by simp [turn, ha])
    | true =>
      refine ⟨[.alone a], ?_⟩
      rw [run_cons, run_nil]
      simp only [turn, ha, if_true]
      have hact := Loop.plain_act_congr he.loop.counted hd.loop.counted hloop a
      exact .sent name hsent hfree hact hanswers

/-- One more act of the engine where a trigger has been handled that does nothing. -/
lemma act_ignored (hd : d.Sound r settings) {name : String}
    (hserved : d.client = .served (.trigger name))
    (hphase : d.loop.phase = .handled (some (.ok ())) ∨ d.loop.phase = .published (.ok ()))
    (hshown : d.loop.engine.Shown) (hactive : d.loop.engine.published.active = true)
    (hfree : e.client = .free) (hidle : e.loop.phase = .idle)
    (hengine : e.loop.engine.plain = d.loop.engine.plain) (hanswers : e.answers = d.answers)
    (a : Act) : ∃ turns, (d.turn .lifted (.alone a)).Follows (e.run .kept turns) := by
  have hfollows : d.Follows e :=
    .ignored name hserved hphase hshown hactive hfree hidle hengine hanswers
  cases a with
  | command | answer => exact hfollows.unmade rfl
  | report | stop =>
    refine hfollows.unmade ?_
    rcases hphase with hphase | hphase <;> simp [turn, Act.isAlone, Loop.act, hphase]
  | publish =>
    rcases hphase with hphase | hphase
    · refine ⟨[], ?_⟩
      simp only [turn, Act.isAlone, if_true, Loop.act, hphase, run_nil]
      have hplain := hshown.plain_publish hd.loop.counted
      refine .ignored name hserved (Or.inr rfl) (Engine.shown_publish _) ?_ hfree hidle
        (hengine.trans hplain.symm) hanswers
      show d.loop.engine.publish.plain.published.active = true
      rw [hplain]
      exact hactive
    · refine hfollows.unmade ?_
      simp [turn, Act.isAlone, Loop.act, hphase]
  | tick ticket =>
    have hsame := Engine.sameShow_tick d.loop.engine ticket
    refine ⟨[.alone (.tick ticket)], .ignored name hserved hphase (hshown.of_same hsame) ?_ hfree
      hidle ?_ hanswers⟩
    · show (d.loop.engine.tick ticket).published.active = true
      rw [hsame.published, hactive]
    · show (e.loop.engine.tick ticket).plain = (d.loop.engine.tick ticket).plain
      rw [← Engine.tick_plain, hengine, Engine.tick_plain]
  | quit ticket =>
    have hsame := Engine.sameShow_quit d.loop.engine ticket
    refine ⟨[.alone (.quit ticket)], .ignored name hserved hphase (hshown.of_same hsame) hactive
      hfree hidle ?_ hanswers⟩
    show e.loop.engine.plain.quit ticket = d.loop.engine.plain.quit ticket
    rw [hengine]

/-- One more turn where a trigger has been handled that does nothing. It is answered when the other
holds it back. -/
lemma of_ignored (hd : d.Sound r settings) {name : String}
    (hserved : d.client = .served (.trigger name))
    (hphase : d.loop.phase = .handled (some (.ok ())) ∨ d.loop.phase = .published (.ok ()))
    (hshown : d.loop.engine.Shown) (hactive : d.loop.engine.published.active = true)
    (hfree : e.client = .free) (hidle : e.loop.phase = .idle)
    (hengine : e.loop.engine.plain = d.loop.engine.plain) (hanswers : e.answers = d.answers)
    (t : Turn) : ∃ turns, (d.turn .lifted t).Follows (e.run .kept turns) := by
  have hfollows : d.Follows e :=
    .ignored name hserved hphase hshown hactive hfree hidle hengine hanswers
  cases t with
  | input | serve => exact hfollows.unmade (by simp only [turn, hserved])
  | alone a => exact act_ignored hd hserved hphase hshown hactive hfree hidle hengine hanswers a
  | answer =>
    rcases hphase with hphase | hphase
    · exact hfollows.unmade (by simp only [turn, hserved, hphase])
    · have hheld : Guard.kept.command? e.loop.engine.published (.trigger name) = none := by
        refine if_pos ?_
        show e.loop.engine.plain.published.active = true
        rw [hengine]
        exact hactive
      have hmade : e.turn .kept (.input (.trigger name)) =
          ({ e with seen := e.loop.engine.published }).reply (.trigger name) (.ok ()) := by
        simp only [turn, hfree, hheld]
      refine ⟨[.input (.trigger name)], .alike ?_⟩
      rw [run_cons, run_nil, hmade]
      simp only [turn, hserved, hphase, Loop.act]
      exact ⟨Loop.plain_eq hengine hidle, rfl, by simp only [reply, hanswers]⟩

/-- **One more turn without the guard** is followed with it. -/
theorem turn (h : d.Follows e) (hd : d.Sound r settings) (he : e.Sound r settings) (t : Turn)
    (hgoing : (d.turn .lifted t).loop.phase ≠ .ended) :
    ∃ turns, (d.turn .lifted t).Follows (e.run .kept turns) := by
  have hbefore : d.loop.phase ≠ .ended := fun hended => hgoing (ended_turn hended t)
  cases h with
  | alike h => exact of_alike h hd he t
  | sent name hsent hfree hloop hanswers =>
    exact of_sent hd he hsent hfree hloop hanswers hbefore t
  | ignored name hserved hphase hshown hactive hfree hidle hengine hanswers =>
    exact of_ignored hd hserved hphase hshown hactive hfree hidle hengine hanswers t

/-- A run without the guard is followed with it. -/
theorem run (h : d.Follows e) (hd : d.Sound r settings) (he : e.Sound r settings)
    (hgoing : (d.run .lifted turns).loop.phase ≠ .ended) :
    ∃ turns', (d.run .lifted turns).Follows (e.run .kept turns') := by
  induction turns generalizing d e with
  | nil => exact ⟨[], h⟩
  | cons t turns ih =>
    have hnext : (d.turn .lifted t).loop.phase ≠ .ended :=
      fun hended => hgoing (ended_run hended turns)
    obtain ⟨first, hturn⟩ := h.turn hd he t hnext
    obtain ⟨others, hrun⟩ := ih hturn (hd.turn t) (he.run first) hgoing
    exact ⟨first ++ others, by rwa [run_append]⟩

end Follows

/-! ## Faithful forwarding -/

/-- A desk comes about, with the guard or without it. -/
def ComesAbout (g : Guard) (r : Repertoire) (settings : Settings) (ids : Random.Source)
    (d : Desk) : Prop :=
  ∃ turns, (opening r settings ids).run g turns = d

/-- What is sent with the guard, and what difference the guard makes. -/
structure ForwardsFaithfully (r : Repertoire) (settings : Settings) (ids : Random.Source) :
    Prop where
  /-- A proceed that has been sent meets what was seen, and is done when the engine comes to it. -/
  proceeds : ∀ d, ComesAbout .kept r settings ids d → ∀ input, d.client = .asked input .proceed →
    d.loop.phase ≠ .ended →
    input = .proceed ∧ (∃ scene c step, d.Meets scene c step) ∧ ∀ now, d.loop.phase = .idle →
      (d.turn .kept (.serve now)).loop.engine.stage = d.loop.engine.stage.proceed.1
  /-- What comes about with the guard comes about without it. -/
  guarded : ∀ d, ComesAbout .kept r settings ids d → d.loop.phase ≠ .ended →
    ∃ d', ComesAbout .lifted r settings ids d' ∧ d.Alike d'
  /-- What comes about without the guard comes about with it, but that a trigger that has not been
  answered may not have been made. -/
  unguarded : ∀ d, ComesAbout .lifted r settings ids d → d.loop.phase ≠ .ended →
    ∃ d', ComesAbout .kept r settings ids d' ∧ d'.loop.engine.plain = d.loop.engine.plain ∧
      d'.answers = d.answers ∧ (d.client = .free → d.Alike d')
  /-- A trigger to which nothing comes in between is the same with the guard and without it. -/
  undisturbed : ∀ d, ComesAbout .kept r settings ids d → d.client = .free → d.loop.phase = .idle →
    ∀ name now, (d.run .lifted (atOnce (.trigger name) now)).Alike
      (d.run .kept (atOnce (.trigger name) now))
  /-- Where the engine has ended a trigger does nothing. Whoever holds it back does not notice. -/
  ended : ∀ d, ComesAbout .kept r settings ids d → d.client = .free → d.loop.phase = .ended →
    ∀ g name now, (d.run g (atOnce (.trigger name) now)).loop = d.loop ∧
      (d.run g (atOnce (.trigger name) now)).answers = d.answers ++ [(.trigger name,
        if g = .kept ∧ d.loop.engine.published.active = true then .ok ()
        else .error .unavailable)]

/-- A trigger to which nothing comes in between is the same with the guard and without it. -/
lemma Sound.alike_atOnce (h : d.Sound r settings) (hfree : d.client = .free)
    (hidle : d.loop.phase = .idle) (name : String) (now : ℕ) :
    (d.run .lifted (atOnce (.trigger name) now)).Alike
      (d.run .kept (atOnce (.trigger name) now)) := by
  cases hactive : d.loop.engine.published.active with
  | true =>
    have hheld : (Input.trigger name).command? d.loop.engine.published = none := if_pos hactive
    have hkept : Guard.kept.command? d.loop.engine.published (.trigger name) = none := hheld
    rw [run_atOnce_of_none hfree hidle hkept]
    exact (alike_atOnce_of_none h hfree hidle hheld now).trans ⟨rfl, rfl, rfl⟩
  | false =>
    have hsent : Guard.kept.command? d.loop.engine.published (.trigger name) =
        some (.trigger name) := if_neg (by simp [Snapshot.interactionDisabled, hactive])
    have hsame : d.run .lifted (atOnce (.trigger name) now) =
        d.run .kept (atOnce (.trigger name) now) := by
      by_cases hlong : (d.loop.engine.take now (.trigger name)).2 = .error .pauseTooLong
      · rw [run_atOnce_of_fatal (g := .kept) hfree hidle hsent hlong,
          run_atOnce_of_fatal (g := .lifted) hfree hidle rfl hlong]
      · rw [run_atOnce_of_some (g := .kept) hfree hidle hsent hlong,
          run_atOnce_of_some (g := .lifted) hfree hidle rfl hlong]
    rw [hsame]
    exact .refl _

/-- In front of an engine that has ended, a trigger does nothing and is answered by the guard or by
nobody. -/
lemma answers_of_ended (hfree : d.client = .free) (hended : d.loop.phase = .ended) (name : String)
    (now : ℕ) (g : Guard) :
    (d.run g (atOnce (.trigger name) now)).loop = d.loop ∧
      (d.run g (atOnce (.trigger name) now)).answers = d.answers ++ [(.trigger name,
        if g = .kept ∧ d.loop.engine.published.active = true then .ok ()
        else .error .unavailable)] := by
  rw [run_atOnce_of_ended hfree hended]
  refine ⟨rfl, ?_⟩
  cases g with
  | lifted => rfl
  | kept =>
    cases hactive : d.loop.engine.published.active <;>
      simp [reply, Guard.command?, Input.command?, Snapshot.interactionDisabled, hactive]

/-- **Proceeds meet what was seen, and the guard makes no difference to what can come about**, for
as long as the engine goes on. A proceed that has been sent meets the scene, the place and the
bubbles that were seen, at a line with nothing typed and no effect running. Whatever comes about
with the guard comes about without it, with the same answers, and the other way round. An engine
that has ended does nothing any more, and all that the guard does then is to answer triggers that
nobody else would.

**Proof sketch.** What was seen depicts the stage for as long as the command is not come to, since a
report does nothing there (`Sound.meets`). A run with the guard is made without it by keeping back a
report until it is published (`Lags.run`), and a run without the guard is followed with it by
keeping back a trigger until it is seen what becomes of it (`Follows.run`). -/
theorem forwards_faithfully (r : Repertoire) (settings : Settings) (ids : Random.Source) :
    ForwardsFaithfully r settings ids := by
  have hopening := sound_opening r settings ids
  refine ⟨?_, ?_, ?_, ?_, ?_⟩
  · rintro d ⟨turns, rfl⟩ input hasked hgoing
    have hsound := hopening.run (g := .kept) turns
    refine ⟨(hsound.proceed input hasked hgoing).1, hsound.meets hasked hgoing,
      fun now hidle => ?_⟩
    rw [serve_eq hasked hidle]
    exact Engine.stage_take _ _ _
  · rintro d ⟨turns, rfl⟩ hgoing
    have hlags : (opening r settings ids).Lags (opening r settings ids) [] :=
      .of_alike (.refl _) fun _ => nofun
    obtain ⟨turns', acts, hrun⟩ := hlags.run hopening hopening hgoing
    exact ⟨_, ⟨turns' ++ acts.map .alone, run_append _ _ _ _⟩, hrun.alike_run.symm⟩
  · rintro d ⟨turns, rfl⟩ hgoing
    have hfollows : (opening r settings ids).Follows (opening r settings ids) := .alike (.refl _)
    obtain ⟨turns', hrun⟩ := hfollows.run hopening hopening hgoing
    exact ⟨_, ⟨turns', rfl⟩, hrun.engine_eq.1, hrun.engine_eq.2, hrun.alike_of_free⟩
  · rintro d ⟨turns, rfl⟩ hfree hidle name now
    exact (hopening.run turns).alike_atOnce hfree hidle name now
  · rintro d ⟨turns, rfl⟩ hfree hended g name now
    exact answers_of_ended hfree hended name now g

/-- The turns of the rehearsal up to a click on the mark of its line: the scene is triggered, the
timer of its pause reports the end, the one of the line reports two characters and the end, and the
mark is clicked on. -/
def clicking : List Turn :=
  atOnce (.trigger "rehearsal") 0 ++
    [.alone (.tick ⟨1⟩), .alone (.report 1), .alone .publish, .alone (.tick ⟨2⟩),
      .alone (.tick ⟨2⟩), .alone (.tick ⟨2⟩), .alone (.report 2), .alone .publish,
      .alone (.report 2), .alone .publish, .alone (.report 2), .alone .publish,
      .input .proceed]

/-- A click on the mark of the line of the rehearsal meets that line. -/
theorem forwards_faithfully_rehearsing :
    ((opening (Repertoire.empty.add rehearsal) .standard (.ofSeed 7)).run .kept clicking).client =
        .asked .proceed .proceed ∧
      ((opening (Repertoire.empty.add rehearsal) .standard (.ofSeed 7)).run .kept
        clicking).loop.phase = .idle ∧
      ∃ scene c step, ((opening (Repertoire.empty.add rehearsal) .standard (.ofSeed 7)).run .kept
        clicking).Meets scene c step := by
  have hasked : ((opening (Repertoire.empty.add rehearsal) .standard (.ofSeed 7)).run .kept
      clicking).client = .asked .proceed .proceed := by decide +kernel
  have hidle : ((opening (Repertoire.empty.add rehearsal) .standard (.ofSeed 7)).run .kept
      clicking).loop.phase = .idle := by decide +kernel
  have hforwards := forwards_faithfully (Repertoire.empty.add rehearsal) .standard (.ofSeed 7)
  obtain ⟨-, hmeets, -⟩ :=
    hforwards.proceeds _ ⟨clicking, rfl⟩ .proceed hasked (by rw [hidle]; exact nofun)
  exact ⟨hasked, hidle, hmeets⟩

/-- A scene that waits for the player first, and ends after a pause. The pause is out of range where
pauses are made long. -/
def vault : Scene where
  name := "vault"
  steps := [⟨.assign (.ofList [("isMonitorOn", .flag true)]), false, true⟩,
    ⟨.pause 1000, true, true⟩, ⟨.complete, false, false⟩]
  closed := by
    refine ⟨[⟨.assign (.ofList [("isMonitorOn", .flag true)]), false, true⟩,
      ⟨.pause 1000, true, true⟩], ⟨.complete, false, false⟩, rfl, rfl, ?_⟩
    simp [Step.isComplete, Step.kind, Action.kind]

/-- The scene has been triggered, and the engine has been stopped. -/
def stopped : Desk :=
  (opening (Repertoire.empty.add vault) .standard (.ofSeed 0)).run .kept
    (atOnce (.trigger "vault") 0 ++ [.alone .stop])

/-- The scene has been triggered where pauses are made long, and its pause has ended the engine. -/
def brokenDown : Desk :=
  (opening (Repertoire.empty.add vault) { Settings.standard with delayScale := 1e300 }
    (.ofSeed 0)).run .kept (atOnce (.trigger "vault") 0 ++ atOnce .confirm 0)

/-- The scene has been triggered, and its pause is over, but the engine does not know yet. -/
def ending : Desk :=
  (opening (Repertoire.empty.add vault) .standard (.ofSeed 0)).run .kept
    (atOnce (.trigger "vault") 0 ++ atOnce .confirm 0 ++ [.alone (.tick ⟨1⟩)])

/-- The scene is triggered again, and the report is handled first. -/
def overtaken : List Turn :=
  [.input (.trigger "vault"), .alone (.report 1), .alone .publish, .serve 1, .alone .publish,
    .answer]

/-- The guard can be noticed. Where an engine has ended in the middle of a scene, that scene is
still seen, and a trigger is held back and answered, while one that is sent in any case finds that
the engine has stopped. Where a report overtakes a trigger that is sent in any case, the scene
starts again, while one that is held back is gone. -/
theorem guard_is_noticed :
    ((stopped.run .kept (atOnce (.trigger "vault") 0)).answers =
        stopped.answers ++ [(.trigger "vault", .ok ())] ∧
      (stopped.run .lifted (atOnce (.trigger "vault") 0)).answers =
        stopped.answers ++ [(.trigger "vault", .error .unavailable)]) ∧
    ((brokenDown.run .kept (atOnce (.trigger "vault") 0)).answers =
        brokenDown.answers ++ [(.trigger "vault", .ok ())] ∧
      (brokenDown.run .lifted (atOnce (.trigger "vault") 0)).answers =
        brokenDown.answers ++ [(.trigger "vault", .error .unavailable)]) ∧
    ((ending.run .kept overtaken).loop.engine.stage.state.isActive = false ∧
      (ending.run .lifted overtaken).loop.engine.stage.state.isActive = true ∧
      (ending.run .kept overtaken).answers = (ending.run .lifted overtaken).answers) := by
  decide +kernel

end Desk

end Cutscene
