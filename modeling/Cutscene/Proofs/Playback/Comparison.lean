import Cutscene.Proofs.Decimal.Finite
import Cutscene.Proofs.Playback.Moves
import Cutscene.Proofs.Playback.Values
import Cutscene.Proofs.Script.Definitions
import Cutscene.Proofs.Script.RoundTrip
import Cutscene.Proofs.Script.Scenes

set_option relaxedAutoImplicit false
set_option autoImplicit false

/-!
# Snapshots that compare

Snapshots are compared field by field, and floats by their value. Not-a-number has none and compares
to nothing, not even to itself. Where no variable is not-a-number, a snapshot compares to itself;
and none can be where the scenes were read from texts, since decimals are of numbers.

## Main definitions

* `Cutscene.Variables.NanFree` — no variable is not-a-number.
* `Cutscene.Repertoire.NanFree` — no scene assigns not-a-number.
* `Cutscene.Stage.nanFree` — the discipline of variables that compare.

## Main results

* `Cutscene.Snapshot.beq_self` — without not-a-number, a snapshot compares to itself.
* `Cutscene.Repertoire.nanFree_ofDrafts` — scenes that were read from texts assign numbers only.
* `Cutscene.Stage.nanFree_of_reachable` — then no variable is ever not-a-number.
-/

namespace Cutscene

/-! ## Comparing -/

/-- A float that is a number compares to itself. -/
lemma beq_self_of_isNaN_eq_false {x : Float} (h : x.isNaN = false) : (x == x) = true := by
  change x.toModel.unpack.isNaN = false at h
  change x.toModel.unpack.beq x.toModel.unpack = true
  cases hx : x.toModel.unpack with
  | notANumber =>
    rw [hx] at h
    cases h
  | infinity sign => cases sign <;> rfl
  | zero sign => rfl
  | finite sign mantissa exponent hmantissa =>
    cases sign <;> simp [Float.Model.UnpackedFloat.beq, Float.Model.UnpackedFloat.compare]

/-- No variable is not-a-number. -/
def Variables.NanFree (values : Variables) : Prop := ∀ x ∈ values.floats, x.isNaN = false

/-- A value compares to itself unless it is not-a-number. -/
lemma Value.beq_self {v : Value} (h : ∀ x ∈ v.float?, x.isNaN = false) : (v == v) = true := by
  cases v with
  | flag b => exact beq_self_eq_true b
  | whole n => exact beq_self_eq_true n
  | real x => exact beq_self_of_isNaN_eq_false (h x rfl)
  | text s => exact beq_self_eq_true s

/-- Variables compare to themselves if none is not-a-number. -/
lemma Variables.beq_self {values : Variables} (h : values.NanFree) : (values == values) = true := by
  suffices hentries : ∀ entries : List (String × Value),
      (∀ e ∈ entries, (e.2 == e.2) = true) → (entries == entries) = true by
    refine hentries values.entries fun e he => Value.beq_self fun x hx => h x ?_
    exact List.mem_filterMap.2 ⟨e, he, hx⟩
  intro entries hvalues
  induction entries with
  | nil => rfl
  | cons e entries ih =>
    obtain ⟨he, hrest⟩ := List.forall_mem_cons.1 hvalues
    have hpair : (e == e) = true := Bool.and_eq_true_iff.2 ⟨beq_self_eq_true e.1, he⟩
    rw [List.cons_beq_cons, hpair, ih hrest, Bool.and_self]

/-- Without not-a-number, a snapshot compares to itself. -/
lemma Snapshot.beq_self {a : Snapshot} (h : a.values.NanFree) : (a == a) = true :=
  beq_iff.2 ⟨rfl, rfl, rfl, rfl, rfl, rfl, rfl, Variables.beq_self h, rfl⟩

/-! ## Scenes that assign numbers -/

/-- Numbers that are written over numbers leave numbers. -/
lemma Variables.NanFree.overlay {values other : Variables} (h : values.NanFree)
    (hother : other.NanFree) : NanFree (Dictionary.overlay values other) := by
  intro x hx
  obtain ⟨e, he, hfloat⟩ := List.mem_filterMap.1 hx
  rcases Dictionary.mem_entries_insertMany he with he | he
  · exact hother x (List.mem_filterMap.2 ⟨e, he, hfloat⟩)
  · exact h x (List.mem_filterMap.2 ⟨e, he, hfloat⟩)

/-- No step of a scene assigns not-a-number. -/
def Scene.NanFree (scene : Scene) : Prop := ∀ x ∈ scene.floats, x.isNaN = false

/-- The floats of a scene are those of its steps. -/
lemma Scene.NanFree.step {scene : Scene} (h : scene.NanFree) {i : ℕ} {step : Step}
    (hstep : scene.steps[i]? = some step) : ∀ x ∈ step.floats, x.isNaN = false :=
  fun x hx => h x (List.mem_flatMap.2 ⟨step, List.mem_of_getElem? hstep, hx⟩)

/-- No scene that can be found assigns not-a-number. -/
def Repertoire.NanFree (r : Repertoire) : Prop :=
  ∀ name scene, r.get? name = some scene → scene.NanFree

/-- The floats of a step are those of the draft it was compiled from. -/
lemma StepDraft.floats_subset_of_compile {d : StepDraft} {name : String} {index : ℕ} {step : Step}
    (h : d.compile name index = .ok step) : step.floats ⊆ d.floats := by
  have haction : ∃ kind, d.action kind = .ok step.action := by
    unfold compile at h
    split at h
    next => cases h
    next kind _ =>
      refine ⟨kind, ?_⟩
      split at h
      next action haction =>
        cases h
        exact haction
      next => cases h
  obtain ⟨kind, haction⟩ := haction
  intro x hx
  unfold Step.floats at hx
  split at hx
  next values hassign =>
    rw [hassign] at haction
    cases kind with
    | assign =>
      cases hvalues : d.values with
      | none =>
        simp only [action, field, hvalues] at haction
        cases haction
      | some written =>
        simp only [action, field, hvalues] at haction
        cases haction
        simpa [floats, hvalues] using hx
    | say =>
      obtain ⟨speaker, -, haction⟩ := Json.exists_of_bind_eq_ok haction
      obtain ⟨text, -, haction⟩ := Json.exists_of_bind_eq_ok haction
      cases haction
    | pause =>
      obtain ⟨millis, -, haction⟩ := Json.exists_of_bind_eq_ok haction
      cases haction
    | reset | complete => cases haction
  all_goals cases hx

/-- **Scenes that were read from texts assign numbers only.**

**Proof sketch.** A scene that is found is that of a definition in one of the drafts, its steps are
compiled from those of the definition, and the floats in a draft that has been read are finite. -/
theorem Repertoire.nanFree_ofDrafts {drafts : List (Option String × Draft)}
    (h : ∀ d ∈ drafts, ∃ text, Draft.ofText text = .ok d.2) :
    (Compilation.ofDrafts drafts).repertoire.NanFree := by
  intro name scene hscene x hx
  obtain ⟨step, hstep, hx⟩ := List.mem_flatMap.1 hx
  obtain ⟨-, before, d, after, hsplit, -, hcompiles, -⟩ :=
    (Compilation.get?_ofDrafts_iff drafts name scene).1 hscene
  have hd : d ∈ definitions drafts := hsplit ▸ List.mem_append_right _ List.mem_cons_self
  obtain ⟨draft, hdraft, hd⟩ := List.mem_flatMap.1 hd
  obtain ⟨e, he, rfl⟩ := List.mem_map.1 hd
  obtain ⟨text, htext⟩ := h draft hdraft
  have hresult : Except.ok step ∈ Definition.results ⟨draft.1, e.1, e.2⟩ := by
    rw [hcompiles]
    exact List.mem_map_of_mem hstep
  obtain ⟨i, hi, hcompile⟩ := List.mem_mapIdx.1 hresult
  have hfloat : x ∈ draft.2.floats := List.mem_flatMap.2 ⟨e, he,
    List.mem_flatMap.2 ⟨_, List.getElem_mem hi, StepDraft.floats_subset_of_compile hcompile hx⟩⟩
  have hfinite := Draft.isFinite_of_ofText htext x hfloat
  exact Decimal.isNaN_of_isFinite (u := x.toModel.unpack) hfinite

namespace Stage

/-! ## Variables along runs -/

variable {r : Repertoire} {settings : Settings} {s s₁ : Stage} {scene : Scene} {step : Step}
  {effect : Option Effect}

/-- A step that assigns numbers only leaves numbers. -/
lemma Execution.nanFree (h : Execution s step s₁ effect)
    (hstep : ∀ x ∈ step.floats, x.isNaN = false) (hvalues : s.state.values.NanFree) :
    (s₁.awaiting step effect).state.values.NanFree := by
  rw [h.values_eq]
  cases haction : step.action with
  | assign values =>
    simp only [Step.floats, haction] at hstep
    simp only [Step.values?, haction, Option.toList_some, Dictionary.overlayAll_cons,
      Dictionary.overlayAll_nil]
    exact hvalues.overlay hstep
  | say | pause | reset | complete => simpa [Step.values?, haction] using hvalues

/-- **The discipline of variables that compare.** -/
def nanFree : Discipline where
  Before scene _ s := scene.NanFree ∧ s.state.values.NanFree
  At scene _ s := scene.NanFree ∧ s.state.values.NanFree
  Over s := s.state.values.NanFree
  perform := by
    rintro scene c s step s₁ effect hs ⟨hscene, hvalues⟩ hex -
    exact ⟨hscene, hex.nanFree (hscene.step hs.current) hvalues⟩
  complete := by
    rintro scene c s step s₁ effect hs ⟨hscene, hvalues⟩ hex -
    exact hex.nanFree (hscene.step hs.current) hvalues
  refuse _ hbefore _ := hbefore
  leave _ hat := ⟨hat.1, by rw [values_leave]; exact hat.2⟩
  rewind _ hat := ⟨hat.1, by rw [values_rewind]; exact hat.2⟩
  reveal _ hat := ⟨hat.1, by rw [values_reveal]; exact hat.2⟩
  finish _ hat := ⟨hat.1, by rw [values_finish]; exact hat.2⟩
  reveal_over _ hover := by rwa [values_reveal]
  finish_over _ hover := by rwa [values_finish]

/-- **Where the scenes assign numbers only, no variable is ever not-a-number.** -/
theorem nanFree_of_reachable (hr : r.NanFree) (h : Reachable r settings s) :
    s.state.values.NanFree := by
  have hholds : nanFree.Holds s := by
    induction h with
    | opening ids => exact .of_over rfl (fun x hx => nomatch hx)
    | @step s hreach op ih =>
      cases op with
      | trigger name =>
        refine Discipline.holds_trigger ih name fun {scene} _ hname hover => ?_
        rw [hreach.repertoire_eq] at hname
        exact ⟨hr name scene hname, by rw [values_enter]; exact hover⟩
      | proceed | confirm | restart | reveal | resolve => exact Discipline.holds_apply ih _ rfl
  cases hsession : s.state.session with
  | none => exact hholds.between hsession
  | some session =>
    obtain ⟨-, -, -, -, hat⟩ := hholds.during hsession
    exact hat.2

end Stage

end Cutscene
