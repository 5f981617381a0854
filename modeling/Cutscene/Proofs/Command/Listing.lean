import Mathlib.Algebra.GroupWithZero.Nat
import Cutscene.Command.Answer
import Cutscene.Proofs.Script.Scenes

set_option relaxedAutoImplicit false
set_option autoImplicit false

/-!
# How long the scenes of a list are

A list of scenes says of each how long its pauses are together. Each pause is a duration, but so
many of them can be written down that their sum is none, and then there is no list. Up to a thousand
pauses always have a sum, and more of them have none if they are long enough.

## Main definitions

* `Cutscene.Scene.millis`, `Cutscene.Scene.pauseCount` — the milliseconds of all pauses, and how
  many pauses there are.
* `Cutscene.Scene.AddsUp` — when the pauses of a scene have a sum, and which.
* `Cutscene.Command.Lists` — when scripts can be listed.
* `Cutscene.Scene.vigil` — a scene of the longest pauses.

## Main results

* `Cutscene.Duration.sum?_eq_none_iff` — durations have no sum exactly if their total is too long.
* `Cutscene.Scene.addsUp` — the sum of the pauses of a scene.
* `Cutscene.Command.lists` — the scripts that can be listed.
* `Cutscene.Command.lists_up_to_thousand_pauses` — all of this, and for each number of pauses above
  a thousand a script that loads and cannot be listed.

## Design

Sums are compared in milliseconds, in which pauses are written down: a pause is shorter than
`2 ^ 64` of them, and a duration ends short of a thousand times as many.
-/

namespace Cutscene

/-! ## Sums of durations -/

namespace Duration

variable {ds : List Duration}

/-- Durations have a sum exactly if their total is not too long. -/
lemma isSome_sum?_iff : (sum? ds).isSome = true ↔ total ds ≤ limit := by
  rw [Option.isSome_iff_exists]
  constructor
  · rintro ⟨d, hd⟩
    rw [← sum?_eq_some_iff.1 hd]
    exact d.bounded
  · intro h
    exact ⟨⟨total ds, h⟩, sum?_eq_some_iff.2 rfl⟩

lemma sum?_eq_none_iff : sum? ds = none ↔ limit < total ds := by
  rw [← Option.not_isSome_iff_eq_none, isSome_sum?_iff, Nat.not_le]

end Duration

/-! ## The pauses of a scene -/

/-- The milliseconds for which a step pauses. -/
def Step.millis (step : Step) : ℕ :=
  match step.action with
  | .pause millis => millis.toNat
  | _ => 0

/-- Whether a step is a pause. -/
def Step.isPause (step : Step) : Bool := step.kind == .pause

/-- The pause of a step, if it is one, lasts as long as the step pauses. -/
lemma Step.pause_cases (step : Step) :
    (step.isPause = false ∧ step.pause? = none ∧ step.millis = 0) ∨
      ∃ d, step.isPause = true ∧ step.pause? = some d ∧ d.nanos = 1000000 * step.millis ∧
        step.millis < UInt64.size := by
  obtain ⟨action, auto, skip⟩ := step
  cases action with
  | pause millis => exact .inr ⟨.ofMillis millis, rfl, rfl, Nat.mul_comm _ _, millis.toNat_lt⟩
  | say | assign | reset | complete => exact .inl ⟨rfl, rfl, rfl⟩

/-- The pauses of some steps last together as long as the steps pause. -/
lemma total_pauses (steps : List Step) :
    Duration.total (steps.filterMap Step.pause?) = 1000000 * (steps.map Step.millis).sum := by
  induction steps with
  | nil => rfl
  | cons step steps ih =>
    rw [List.map_cons, List.sum_cons, Nat.mul_add, ← ih]
    rcases step.pause_cases with ⟨-, hnone, hzero⟩ | ⟨d, -, hd, hnanos, -⟩
    · rw [List.filterMap_cons_none hnone, hzero, Nat.mul_zero, Nat.zero_add]
    · rw [List.filterMap_cons_some hd, ← hnanos]
      rfl

/-- Each pause is a number of milliseconds of 64 bits. -/
lemma sum_millis_le (steps : List Step) :
    (steps.map Step.millis).sum ≤ steps.countP Step.isPause * (UInt64.size - 1) := by
  induction steps with
  | nil => exact Nat.le_refl _
  | cons step steps ih =>
    rw [List.map_cons, List.sum_cons, List.countP_cons]
    rcases step.pause_cases with ⟨hpause, -, hzero⟩ | ⟨d, hpause, -, -, hlt⟩
    · simpa [hpause, hzero] using ih
    · rw [if_pos hpause, Nat.add_mul, Nat.one_mul]
      omega

namespace Scene

variable {scene : Scene} {d : Duration}

/-- The milliseconds for which the steps of a scene pause. -/
def millis (scene : Scene) : ℕ := (scene.steps.map Step.millis).sum

/-- The number of pauses in a scene. -/
def pauseCount (scene : Scene) : ℕ := scene.steps.countP Step.isPause

/-- The sum of the pauses, if there is one, is as long as the steps pause. -/
lemma scriptedDelay?_eq_some_iff :
    scene.scriptedDelay? = some d ↔ d.nanos = 1000000 * scene.millis := by
  rw [scriptedDelay?, Duration.sum?_eq_some_iff, total_pauses, millis]

/-- There is no sum exactly if the steps pause for a thousand times `2 ^ 64` milliseconds. -/
lemma scriptedDelay?_eq_none_iff :
    scene.scriptedDelay? = none ↔ 1000 * UInt64.size ≤ scene.millis := by
  rw [scriptedDelay?, Duration.sum?_eq_none_iff, total_pauses, millis, Duration.limit,
    Duration.perSecond, UInt64.size]
  omega

/-- Up to a thousand pauses do not last that long. -/
lemma millis_lt (h : scene.pauseCount ≤ 1000) : scene.millis < 1000 * UInt64.size := by
  have hle : scene.millis ≤ scene.pauseCount * (UInt64.size - 1) := sum_millis_le scene.steps
  have hmul := Nat.mul_le_mul_right (UInt64.size - 1) h
  unfold UInt64.size at *
  omega

/-- When the pauses of a scene have a sum, and which. -/
structure AddsUp (scene : Scene) : Prop where
  /-- The sum is the exact one. -/
  exact_iff : ∀ d, scene.scriptedDelay? = some d ↔ d.nanos = 1000000 * scene.millis
  /-- There is none exactly if the pauses last for a thousand times `2 ^ 64` milliseconds. -/
  none_iff : scene.scriptedDelay? = none ↔ 1000 * UInt64.size ≤ scene.millis
  /-- Up to a thousand pauses have a sum, however long they are. -/
  few : scene.pauseCount ≤ 1000 → ∃ d, scene.scriptedDelay? = some d

/-- **When the pauses of a scene have a sum, and which.** -/
theorem addsUp (scene : Scene) : scene.AddsUp where
  exact_iff _ := scriptedDelay?_eq_some_iff
  none_iff := scriptedDelay?_eq_none_iff
  few h := by
    rw [← Option.isSome_iff_exists, ← Option.ne_none_iff_isSome, ne_eq, scriptedDelay?_eq_none_iff]
    exact Nat.not_le.2 (millis_lt h)

end Scene

/-! ## Lists of scenes -/

namespace Command

variable {r : Repertoire} {c : Compilation} {loaded : Except LoadError Compilation}

/-- A list has no results for all its items exactly if it has none for one of them. -/
lemma mapM_eq_none_iff {α β : Type} {f : α → Option β} {l : List α} :
    l.mapM f = none ↔ ∃ a ∈ l, f a = none := by
  induction l with
  | nil => simp
  | cons a l ih =>
    rw [List.mapM_cons]
    cases hf : f a with
    | none => simp [hf]
    | some b => cases hl : l.mapM f <;> simp_all

/-- What becomes of scripts that compile without errors is printed behind what there is to say about
them. -/
lemma withScenes_of_hasErrors_eq_false (h : c.hasErrors = false) (f : Repertoire → Answer) :
    withScenes (.ok c) f = (f c.repertoire).after (report c) := by
  simp only [withScenes, h, Bool.false_eq_true, if_false]

/-- A list of scenes is printed if the pauses of each have a sum. -/
lemma listAnswer_of_forall (h : ∀ scene ∈ r.toList, scene.scriptedDelay? ≠ none) :
    (listAnswer r).code = 0 := by
  unfold listAnswer
  split
  · rfl
  · split
    next hnone =>
      obtain ⟨scene, hmem, hscene⟩ := mapM_eq_none_iff.1 hnone
      exact absurd hscene (h scene hmem)
    next => rfl

/-- It is fatal for the list if the pauses of one scene have none, and nothing is printed then. -/
lemma listAnswer_of_exists (h : ∃ scene ∈ r.toList, scene.scriptedDelay? = none) :
    listAnswer r = ⟨101, [], "", none⟩ := by
  have hne : r.isEmpty = false := by
    obtain ⟨scene, hmem, -⟩ := h
    refine Bool.eq_false_iff.2 fun hempty => ?_
    have hentries : r.scenes.entries = [] := List.isEmpty_iff.1 hempty
    simp [Repertoire.toList, Dictionary.values, hentries] at hmem
  rw [listAnswer, if_neg (by simp [hne]), mapM_eq_none_iff.2 h]

section

variable (scripts : Option Path) (log : Except ReadError Unit)

/-- Of scripts with a scene whose pauses have no sum, nothing but what there is to say about them is
printed. -/
lemma answer_list_of_exists (herrors : c.hasErrors = false)
    (h : ∃ scene ∈ c.repertoire.toList, scene.scriptedDelay? = none) :
    (Request.list scripts).answer log (.ok c) = Answer.after ⟨101, [], "", none⟩ (report c) := by
  change withScenes (.ok c) listAnswer = _
  rw [withScenes_of_hasErrors_eq_false herrors, listAnswer_of_exists h]

/-- **The scripts that cannot be listed** are those that load and have a scene whose pauses have no
sum. -/
theorem answer_list_code_eq_iff : ((Request.list scripts).answer log loaded).code = 101 ↔
    ∃ c, loaded = .ok c ∧ c.hasErrors = false ∧
      ∃ scene ∈ c.repertoire.toList, scene.scriptedDelay? = none := by
  constructor
  · intro hcode
    change (withScenes loaded listAnswer).code = 101 at hcode
    cases loaded with
    | error e => cases hcode
    | ok c =>
      refine ⟨c, rfl, ?_⟩
      cases herrors : c.hasErrors with
      | true =>
        simp only [withScenes, herrors, if_true] at hcode
        cases hcode
      | false =>
        refine ⟨rfl, Classical.byContradiction fun hnone => ?_⟩
        have hlisted : (listAnswer c.repertoire).code = 0 :=
          listAnswer_of_forall fun scene hmem hscene => hnone ⟨scene, hmem, hscene⟩
        rw [withScenes_of_hasErrors_eq_false herrors, Answer.after, hlisted] at hcode
        cases hcode
  · rintro ⟨c, rfl, herrors, h⟩
    rw [answer_list_of_exists scripts log herrors h]
    rfl

end

/-- Which scripts can be listed, once they have been looked for. -/
structure Lists (scripts : Option Path) (log : Except ReadError Unit)
    (loaded : Except LoadError Compilation) : Prop where
  /-- Those cannot that load and have a scene whose pauses have no sum. -/
  fatal_iff : ((Request.list scripts).answer log loaded).code = 101 ↔
    ∃ c, loaded = .ok c ∧ c.hasErrors = false ∧
      ∃ scene ∈ c.repertoire.toList, scene.scriptedDelay? = none
  /-- Nothing is listed then. -/
  silent : ((Request.list scripts).answer log loaded).code = 101 →
    ((Request.list scripts).answer log loaded).output = []
  /-- With at most a thousand pauses in each scene, this does not happen. -/
  few : (∀ c, loaded = .ok c → ∀ scene ∈ c.repertoire.toList, scene.pauseCount ≤ 1000) →
    ((Request.list scripts).answer log loaded).code ≠ 101

/-- **Which scripts can be listed.** -/
theorem lists (scripts : Option Path) (log : Except ReadError Unit)
    (loaded : Except LoadError Compilation) : Lists scripts log loaded where
  fatal_iff := answer_list_code_eq_iff scripts log
  silent hcode := by
    obtain ⟨c, rfl, herrors, h⟩ := (answer_list_code_eq_iff scripts log).1 hcode
    rw [answer_list_of_exists scripts log herrors h]
    rfl
  few hfew hcode := by
    obtain ⟨c, hc, -, scene, hmem, hnone⟩ := (answer_list_code_eq_iff scripts log).1 hcode
    obtain ⟨d, hd⟩ := scene.addsUp.few (hfew c hc scene hmem)
    simp [hd] at hnone

end Command

/-! ## Scripts that cannot be listed -/

namespace Scene

/-- A scene with a number of pauses, each as long as can be. -/
def vigil (n : ℕ) : Scene where
  name := "vigil"
  steps := List.replicate n ⟨.pause (.ofNat (UInt64.size - 1)), false, false⟩ ++
    [⟨.complete, false, false⟩]
  closed := by
    refine ⟨_, _, rfl, rfl, fun step hstep => ?_⟩
    rw [List.eq_of_mem_replicate hstep]
    rfl

lemma pauseCount_vigil (n : ℕ) : (vigil n).pauseCount = n := by
  rw [pauseCount, vigil, List.countP_append, List.countP_replicate]
  rfl

lemma millis_vigil (n : ℕ) : (vigil n).millis = n * (UInt64.size - 1) := by
  simp [millis, vigil, Step.millis]

/-- No value of the scene is a float, so its script can be written down. -/
lemma readsBack_vigil (n : ℕ) : (vigil n).script.ReadsBack := by
  have hfloats : (vigil n).floats = [] := by
    rw [floats, vigil, List.flatMap_append, List.flatMap_replicate]
    simp [Step.floats]
  rw [← toJson_draft]
  refine Draft.readsBack_toJson ?_
  rw [floats_draft, hfloats]
  exact nofun

end Scene

/-- A file that spells the script of a scene compiles to the scene alone, without errors. -/
lemma Compilation.ofFile_of_spells {text : String} {scene : Scene}
    (h : Json.Spells text scene.script) (path : Path) :
    ∃ c, ofFile path (.ok text) = .ok c ∧ c.repertoire = Repertoire.empty.add scene ∧
      c.hasErrors = false := by
  rw [← scene.toJson_draft] at h
  rw [ofFile, Draft.ofText_of_spells h]
  exact ⟨_, rfl, addScene_drafts (c := empty) rfl path.fileName?⟩

namespace Command

/-- **When the pauses of a scene have a sum, and what becomes of a list of scenes if they have
none.** For each number of pauses above a thousand there is a file that passes all checks and cannot
be listed.

**Proof sketch.** The sum of pauses is exact if it is a duration at all, and it is none from a
thousand times `2 ^ 64` milliseconds on (`scriptedDelay?_eq_none_iff`). A pause is shorter than
`2 ^ 64` milliseconds, so a thousand of them stay below (`millis_lt`), and one more of the longest
do not. The file is the script of such a scene, which loads as the scene alone
(`Compilation.ofFile_of_spells`). -/
theorem lists_up_to_thousand_pauses (scene : Scene) (scripts : Option Path)
    (log : Except ReadError Unit) (loaded : Except LoadError Compilation) :
    scene.AddsUp ∧ Lists scripts log loaded ∧
      ∀ path n, 1000 < n → ∃ text c long,
        (Request.list (some path)).load (fun _ => .file (.ok text)) = .ok c ∧
          c.repertoire.toList = [long] ∧ long.pauseCount = n ∧ long.scriptedDelay? = none ∧
          ((Request.check (some path)).answer log (.ok c)).code = 0 ∧
          ((Request.list (some path)).answer log (.ok c)).code = 101 := by
  refine ⟨scene.addsUp, lists scripts log loaded, fun path n hn => ?_⟩
  have hspells := Json.spells_write .compact (Scene.readsBack_vigil n)
  obtain ⟨c, hload, hrepertoire, herrors⟩ := Compilation.ofFile_of_spells hspells path
  have hscenes : c.repertoire.toList = [Scene.vigil n] := by
    rw [hrepertoire]
    rfl
  have hnone : (Scene.vigil n).scriptedDelay? = none := by
    rw [Scene.scriptedDelay?_eq_none_iff, Scene.millis_vigil]
    unfold UInt64.size
    omega
  refine ⟨_, c, .vigil n, hload, hscenes, Scene.pauseCount_vigil n, hnone, ?_, ?_⟩
  · change (withScenes (.ok c) checkAnswer).code = 0
    rw [withScenes_of_hasErrors_eq_false herrors]
    rfl
  · refine (answer_list_code_eq_iff _ log).2 ⟨c, rfl, herrors, _, ?_, hnone⟩
    rw [hscenes]
    exact List.mem_singleton_self _

/-- A thousand of the longest pauses last almost `2 ^ 64` seconds, and with one more there is no sum
and no list. -/
theorem lists_up_to_thousand_pauses_vigil :
    (∃ d, (Scene.vigil 1000).scriptedDelay? = some d ∧
      d.nanos = 1000000 * (1000 * 18446744073709551615)) ∧
    1000 < 1001 ∧ ∃ text c long,
      (Request.list (some "vigil.json")).load (fun _ => .file (.ok text)) = .ok c ∧
        c.repertoire.toList = [long] ∧ long.pauseCount = 1001 ∧ long.scriptedDelay? = none ∧
        ((Request.check (some "vigil.json")).answer (.ok ()) (.ok c)).code = 0 ∧
        ((Request.list (some "vigil.json")).answer (.ok ()) (.ok c)).code = 101 := by
  obtain ⟨hsums, -, hscripts⟩ :=
    lists_up_to_thousand_pauses (.vigil 1000) none (.ok ()) (.ok Builtin.compilation)
  obtain ⟨d, hd⟩ := hsums.few (Nat.le_of_eq (Scene.pauseCount_vigil 1000))
  refine ⟨⟨d, hd, ?_⟩, by decide, hscripts "vigil.json" 1001 (by decide)⟩
  rw [(hsums.exact_iff d).1 hd, Scene.millis_vigil]
  rfl

end Command

end Cutscene
