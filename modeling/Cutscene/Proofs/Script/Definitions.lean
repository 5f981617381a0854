import Mathlib.Algebra.GroupWithZero.Nat
import Mathlib.Data.List.Basic
import Mathlib.Data.List.Induction
import Mathlib.Data.Nat.Notation
import Cutscene.Proofs.Scene.Repertoire
import Cutscene.Proofs.Script.Scenes

set_option relaxedAutoImplicit false
set_option autoImplicit false

/-!
# What a compilation makes of its drafts

A draft *defines* scenes: it puts a list of steps under a name. A definition is valid if all its
steps compile and the steps they compile to complete at their end and nowhere before. Of the valid
definitions of a name the first is registered, whatever came before or after it; each definition
that is not registered is reported.

## Main definitions

* `Cutscene.Definition` — a name with the steps a draft puts under it; `Definition.CompilesTo` and
  `Definition.Valid` say what its steps compile to and whether they are a scene.
* `Cutscene.Definition.faults` — the number of errors there are about a definition.
* `Cutscene.Compilation.ofDrafts` — the compilation of drafts one after the other.
* `Cutscene.Compilation.Specified` — what it holds, in terms of the definitions alone.

## Main results

* `Cutscene.Compilation.get?_define` — a definition is registered unless its name is taken.
* `Cutscene.Compilation.errors_define` — the errors that a definition adds.
* `Cutscene.Compilation.specified_ofDrafts` — compilations do what they are specified to do.

## Design

The definitions of many drafts are one list, in the order in which they are compiled. What is
registered and what is reported is proved for one more definition, and then for the list by
induction from its end, so that "earlier" is what comes before in the list.
-/

namespace Cutscene

/-! ## Definitions -/

/-- A name with the steps that a draft puts under it. -/
structure Definition where
  /-- The file of the draft, if it has one. -/
  file : Option String
  /-- The name of the scene. -/
  name : String
  /-- The steps as they are written. -/
  drafts : List StepDraft

namespace Definition

/-- What compiling the steps gives, each at its place. -/
def results (d : Definition) : List (Except StepError Step) :=
  d.drafts.mapIdx (StepDraft.compile d.name)

/-- Every step compiles, and these are the steps they compile to. -/
def CompilesTo (d : Definition) (steps : List Step) : Prop := d.results = steps.map Except.ok

/-- The steps compile and are those of a scene. -/
def Valid (d : Definition) : Prop := ∃ steps, d.CompilesTo steps ∧ Closed steps

/-- The number of steps that do not compile. -/
def failing (d : Definition) : ℕ := d.results.countP fun result => !result.isOk

/-- The scene that is defined, if the definition is valid. -/
def scene? (d : Definition) : Option Scene :=
  (d.results.mapM Except.toOption).bind fun steps => (Scene.build d.name steps).toOption

end Definition

/-- The scenes that a draft defines, in the order of their names. -/
def Draft.definitions (file : Option String) (d : Draft) : List Definition :=
  d.scenes.entries.map fun entry => ⟨file, entry.1, entry.2⟩

/-- The scenes that drafts define, in the order in which they are compiled. -/
def definitions (drafts : List (Option String × Draft)) : List Definition :=
  drafts.flatMap fun d => d.2.definitions d.1

/-! ## Valid definitions -/

namespace Compilation

/-- All results are values exactly if the list of values is found. -/
lemma mapM_toOption_eq_some_iff {α ε : Type} {results : List (Except ε α)} {values : List α} :
    results.mapM Except.toOption = some values ↔ results = values.map Except.ok := by
  constructor
  · intro h
    induction results generalizing values with
    | nil =>
      cases h
      rfl
    | cons result results ih =>
      rw [List.mapM_cons] at h
      obtain ⟨a, ha, h⟩ := Option.bind_eq_some_iff.1 h
      obtain ⟨rest, hrest, h⟩ := Option.bind_eq_some_iff.1 h
      cases h
      cases result with
      | error e => cases ha
      | ok b =>
        cases ha
        rw [ih hrest, List.map_cons]
  · rintro rfl
    exact mapM_toOption_ok values

end Compilation

namespace Definition

variable {d : Definition} {scene : Scene}

lemma mapM_results_eq_some_iff {steps : List Step} :
    d.results.mapM Except.toOption = some steps ↔ d.CompilesTo steps :=
  Compilation.mapM_toOption_eq_some_iff

/-- A definition gives the scene of its name whose steps are those that its drafts compile to. -/
lemma scene?_eq_some_iff :
    d.scene? = some scene ↔ scene.name = d.name ∧ d.CompilesTo scene.steps := by
  have hbuild : ∀ steps, (Scene.build d.name steps).toOption = some scene ↔
      Scene.build d.name steps = .ok scene := by
    intro steps
    cases Scene.build d.name steps <;> simp [Except.toOption]
  simp only [scene?, Option.bind_eq_some_iff, mapM_results_eq_some_iff, hbuild,
    Scene.build_eq_ok_iff]
  constructor
  · rintro ⟨steps, hsteps, hname, rfl⟩
    exact ⟨hname, hsteps⟩
  · rintro ⟨hname, hsteps⟩
    exact ⟨scene.steps, hsteps, hname, rfl⟩

/-- The definitions that give a scene are the valid ones. -/
lemma valid_iff : d.Valid ↔ d.scene?.isSome = true := by
  rw [Option.isSome_iff_exists]
  constructor
  · rintro ⟨steps, hsteps, hclosed⟩
    exact ⟨⟨d.name, steps, hclosed⟩, scene?_eq_some_iff.2 ⟨rfl, hsteps⟩⟩
  · rintro ⟨scene, hscene⟩
    exact ⟨scene.steps, (scene?_eq_some_iff.1 hscene).2, scene.closed⟩

instance : DecidablePred Valid := fun _ => decidable_of_iff _ valid_iff.symm

lemma scene?_eq_none_iff : d.scene? = none ↔ ¬d.Valid := by
  rw [valid_iff, Option.not_isSome_iff_eq_none]

/-- No step fails exactly if all of them compile. -/
lemma failing_eq_zero_iff : d.failing = 0 ↔ ∃ steps, d.CompilesTo steps := by
  rw [failing, List.countP_eq_zero]
  constructor
  · intro h
    suffices hvalues : ∀ results : List (Except StepError Step),
        (∀ result ∈ results, ¬(!result.isOk) = true) →
        ∃ steps : List Step, results = steps.map Except.ok from hvalues _ h
    intro results hok
    induction results with
    | nil => exact ⟨[], rfl⟩
    | cons result results ih =>
      obtain ⟨steps, rfl⟩ := ih fun r hr => hok r (List.mem_cons_of_mem _ hr)
      cases result with
      | error e => exact absurd rfl (hok _ List.mem_cons_self)
      | ok s => exact ⟨s :: steps, rfl⟩
  · rintro ⟨steps, hsteps⟩ result hresult
    rw [hsteps] at hresult
    obtain ⟨s, -, rfl⟩ := List.mem_map.1 hresult
    exact fun h => Bool.noConfusion h

/-- The number of errors about a definition: one for each step that does not compile; otherwise
one if the steps are not those of a scene; otherwise one if a valid definition of the name came
before. -/
def faults (earlier : List Definition) (d : Definition) : ℕ :=
  if d.failing ≠ 0 then d.failing
  else if ¬d.Valid then 1
  else if ∃ e ∈ earlier, e.name = d.name ∧ e.Valid then 1
  else 0

/-- There is no error about a definition exactly if it is valid and the first of its name. -/
lemma faults_eq_zero_iff {earlier : List Definition} :
    d.faults earlier = 0 ↔ d.Valid ∧ ∀ e ∈ earlier, e.Valid → e.name ≠ d.name := by
  unfold faults
  split
  next hfailing =>
    have hinvalid : ¬d.Valid := fun ⟨steps, hsteps, _⟩ =>
      hfailing (failing_eq_zero_iff.2 ⟨steps, hsteps⟩)
    exact ⟨fun h => absurd h hfailing, fun h => absurd h.1 hinvalid⟩
  next =>
    split
    next hinvalid => exact ⟨fun h => absurd h Nat.one_ne_zero, fun h => absurd h.1 hinvalid⟩
    next hvalid =>
      have hvalid : d.Valid := not_not.1 hvalid
      split
      next htaken =>
        obtain ⟨e, he, hname, hevalid⟩ := htaken
        exact ⟨fun h => absurd h Nat.one_ne_zero, fun h => absurd hname (h.2 e he hevalid)⟩
      next hfree =>
        exact ⟨fun _ => ⟨hvalid, fun e he hevalid hname => hfree ⟨e, he, hname, hevalid⟩⟩,
          fun _ => rfl⟩

end Definition

namespace Compilation

/-! ## One more definition -/

variable (c : Compilation) (d : Definition)

/-- Compiles one more definition. -/
def define : Compilation := c.addScene d.file d.name d.drafts

/-- Adds diagnostics. -/
def noteAll (ds : List Diagnostic) : Compilation := { c with diagnostics := c.diagnostics ++ ds }

@[simp] lemma repertoire_note (n : Diagnostic) : (c.note n).repertoire = c.repertoire := rfl

@[simp] lemma repertoire_noteAll (ds : List Diagnostic) :
    (c.noteAll ds).repertoire = c.repertoire := rfl

lemma errors_length_note (file : Option String) (message : String) :
    (c.note ⟨.error, file, message⟩).errors.length = c.errors.length + 1 := by
  rw [errors, note, List.filter_append, List.length_append]
  rfl

lemma errors_length_noteAll (ds : List Diagnostic) :
    (c.noteAll ds).errors.length = c.errors.length + ds.countP Diagnostic.isError := by
  rw [errors, noteAll, List.filter_append, List.length_append, List.countP_eq_length_filter]
  rfl

/-- What there is to say about the steps of a definition. -/
def remarks (d : Definition) : List Diagnostic :=
  (d.results.mapIdx (stepDiagnostic d.file d.name)).filterMap id

/-- The errors among the remarks are those about steps that do not compile. -/
lemma countP_remarks : (remarks d).countP Diagnostic.isError = d.failing := by
  suffices hresults : ∀ (results : List (Except StepError Step)) (f : ℕ → ℕ),
      ((results.mapIdx fun i => stepDiagnostic d.file d.name (f i)).filterMap id).countP
        Diagnostic.isError = results.countP fun result => !result.isOk from hresults _ id
  intro results
  induction results with
  | nil => exact fun f => rfl
  | cons result results ih =>
    intro f
    rw [List.mapIdx_cons, List.countP_cons, ← ih fun i => f (i + 1)]
    cases result with
    | error e =>
      rw [stepDiagnostic, List.filterMap_cons_some (f := id) rfl, List.countP_cons]
      rfl
    | ok s =>
      cases hnote : stepDiagnostic d.file d.name (f 0) (.ok s) with
      | none => rw [List.filterMap_cons_none (f := id) rfl]; rfl
      | some note =>
        rw [List.filterMap_cons_some (f := id) rfl, List.countP_cons, isError_stepDiagnostic hnote]
        rfl

lemma define_of_compilesTo {steps : List Step} (h : d.CompilesTo steps) :
    c.define d = (c.noteAll (remarks d)).register d.file d.name steps := by
  have hsteps := Definition.mapM_results_eq_some_iff.2 h
  simp only [Definition.results] at hsteps
  simp only [define, addScene, hsteps, noteAll, remarks, Definition.results]

lemma define_of_failing (h : d.failing ≠ 0) :
    c.define d = c.noteAll (remarks d) := by
  have hnone : d.results.mapM Except.toOption = none := by
    rw [Option.eq_none_iff_forall_ne_some]
    intro steps hsteps
    exact h (Definition.failing_eq_zero_iff.2 ⟨steps, Definition.mapM_results_eq_some_iff.1 hsteps⟩)
  simp only [Definition.results] at hnone
  simp only [define, addScene, hnone, noteAll, remarks, Definition.results]

section Registering

variable {file : Option String} {name : String} {steps : List Step} {scene : Scene}

lemma register_of_build_error {e : SceneError} (h : Scene.build name steps = .error e) :
    c.register file name steps = c.note ⟨.error, file, e.message⟩ := by
  rw [register, h]
  rfl

lemma register_of_contains (h : Scene.build name steps = .ok scene)
    (htaken : c.repertoire.contains name = true) :
    c.register file name steps = c.note ⟨.error, file, (SceneError.duplicate name).message⟩ := by
  obtain ⟨rfl, rfl⟩ := Scene.build_eq_ok_iff.1 h
  have hinsert : (Scene.build scene.name scene.steps >>= c.repertoire.insert) =
      .error (.duplicate scene.name) := by
    rw [h]
    exact if_pos htaken
  rw [register, hinsert]

end Registering

/-- What a compilation does with a definition. -/
inductive Defined (c : Compilation) (d : Definition) : Compilation → Prop
  /-- Some steps do not compile. -/
  | failing (hfailing : d.failing ≠ 0) :
    Defined c d (c.noteAll (remarks d))
  /-- The steps are not those of a scene. -/
  | unclosed {steps : List Step} (hsteps : d.CompilesTo steps) (hinvalid : ¬d.Valid)
    (message : String) :
    Defined c d ((c.noteAll (remarks d)).note ⟨.error, d.file, message⟩)
  /-- The name is taken. -/
  | taken {scene : Scene} (hscene : d.scene? = some scene)
    (htaken : c.repertoire.contains d.name = true) (message : String) :
    Defined c d ((c.noteAll (remarks d)).note ⟨.error, d.file, message⟩)
  /-- The scene is registered. -/
  | registered {scene : Scene} (hscene : d.scene? = some scene)
    (hfree : c.repertoire.contains d.name = false) :
    Defined c d ⟨c.repertoire.add scene, c.diagnostics ++ remarks d⟩

/-- A definition fails, is no scene, comes too late, or is registered. -/
lemma defined_define : Defined c d (c.define d) := by
  by_cases hfailing : d.failing = 0
  · obtain ⟨steps, hsteps⟩ := Definition.failing_eq_zero_iff.1 hfailing
    rw [define_of_compilesTo c d hsteps]
    cases hbuild : Scene.build d.name steps with
    | error e =>
      have hinvalid : ¬d.Valid := by
        rintro ⟨steps', hsteps', hclosed⟩
        have hsame : steps' = steps :=
          List.map_injective_iff.2 (fun a b h => Except.ok.inj h) (hsteps'.symm.trans hsteps)
        have hok : Scene.build d.name steps = .ok ⟨d.name, steps', hclosed⟩ :=
          Scene.build_eq_ok_iff.2 ⟨rfl, hsame⟩
        rw [hbuild] at hok
        cases hok
      rw [register_of_build_error _ hbuild]
      exact Defined.unclosed hsteps hinvalid _
    | ok scene =>
      obtain ⟨hname, rfl⟩ := Scene.build_eq_ok_iff.1 hbuild
      have hscene : d.scene? = some scene := Definition.scene?_eq_some_iff.2 ⟨hname, hsteps⟩
      cases hcontains : c.repertoire.contains d.name with
      | true =>
        rw [register_of_contains (c.noteAll (remarks d)) hbuild hcontains]
        exact Defined.taken hscene hcontains _
      | false =>
        rw [← hname, register_steps (by rwa [hname])]
        exact Defined.registered hscene hcontains
  · rw [define_of_failing c d hfailing]
    exact Defined.failing hfailing

/-- **A definition is registered if it is valid and its name is not taken; nothing else
changes.** -/
theorem get?_define (name : String) : (c.define d).repertoire.get? name =
    (c.repertoire.get? name).or (if d.name = name then d.scene? else none) := by
  have hdefined := defined_define c d
  generalize c.define d = c' at hdefined ⊢
  cases hdefined with
  | failing hfailing =>
    have hnone : d.scene? = none := Definition.scene?_eq_none_iff.2 fun ⟨steps, hsteps, _⟩ =>
      hfailing (Definition.failing_eq_zero_iff.2 ⟨steps, hsteps⟩)
    simp [hnone]
  | unclosed hsteps hinvalid message => simp [Definition.scene?_eq_none_iff.2 hinvalid]
  | taken hscene htaken message =>
    split
    next hname =>
      rw [← hname]
      obtain ⟨scene, hfound⟩ := Option.isSome_iff_exists.1 htaken
      change c.repertoire.get? d.name = some scene at hfound
      rw [repertoire_note, repertoire_noteAll, hfound, Option.some_or]
    next => rw [repertoire_note, repertoire_noteAll, Option.or_none]
  | registered hscene hfree =>
    obtain ⟨hown, -⟩ := Definition.scene?_eq_some_iff.1 hscene
    change (c.repertoire.scenes.insert _ _).get? name = _
    rw [Dictionary.get?_insert, hown, hscene]
    split
    next hname =>
      rw [← hname, Repertoire.contains_eq_false_iff.1 hfree, Option.none_or]
    next => rw [Option.or_none]; rfl

/-- **The errors that a definition adds**, told from what is registered before it. -/
theorem errors_define : (c.define d).errors.length = c.errors.length +
    (if d.failing ≠ 0 then d.failing
      else if ¬d.Valid then 1
      else if c.repertoire.contains d.name then 1
      else 0) := by
  have hremarks : (c.noteAll (remarks d)).errors.length = c.errors.length + d.failing := by
    rw [errors_length_noteAll, countP_remarks]
  have hdefined := defined_define c d
  generalize c.define d = c' at hdefined ⊢
  cases hdefined with
  | failing hfailing => rw [hremarks, if_pos hfailing]
  | unclosed hsteps hinvalid message =>
    have hzero : d.failing = 0 := Definition.failing_eq_zero_iff.2 ⟨_, hsteps⟩
    rw [errors_length_note, hremarks, if_neg (not_not.2 hzero), if_pos hinvalid, hzero]
  | taken hscene htaken message =>
    have hvalid : d.Valid := Definition.valid_iff.2 (by rw [hscene]; rfl)
    have hzero : d.failing = 0 :=
      Definition.failing_eq_zero_iff.2 ⟨_, (Definition.scene?_eq_some_iff.1 hscene).2⟩
    rw [errors_length_note, hremarks, if_neg (not_not.2 hzero), if_neg (not_not.2 hvalid),
      if_pos htaken, hzero]
  | registered hscene hfree =>
    have hvalid : d.Valid := Definition.valid_iff.2 (by rw [hscene]; rfl)
    have hzero : d.failing = 0 :=
      Definition.failing_eq_zero_iff.2 ⟨_, (Definition.scene?_eq_some_iff.1 hscene).2⟩
    have hfree : ¬c.repertoire.contains d.name = true := by rw [hfree]; exact Bool.false_ne_true
    rw [if_neg (not_not.2 hzero), if_neg (not_not.2 hvalid), if_neg hfree]
    rw [hzero] at hremarks
    exact hremarks

/-! ## Many definitions -/

section Runs

variable {c : Compilation} {d : Definition} {name : String} {scene : Scene}

/-- Compiles drafts, each with the file it comes from. -/
def addDrafts (c : Compilation) (drafts : List (Option String × Draft)) : Compilation :=
  drafts.foldl (fun c d => c.addDraft d.1 d.2) c

/-- The compilation of drafts one after the other. -/
def ofDrafts (drafts : List (Option String × Draft)) : Compilation := empty.addDrafts drafts

/-- To compile drafts is to compile their definitions one by one. -/
lemma addDrafts_eq_foldl (c : Compilation) (drafts : List (Option String × Draft)) :
    c.addDrafts drafts = (definitions drafts).foldl define c := by
  rw [definitions, List.foldl_flatMap, addDrafts]
  congr 1
  funext c d
  rw [Draft.definitions, List.foldl_map]
  rfl

/-- The scene found under a name was there before, or is that of the first valid definition. -/
lemma get?_foldl_define (c : Compilation) (ds : List Definition) (name : String) :
    (ds.foldl define c).repertoire.get? name =
      (c.repertoire.get? name).or
        (ds.findSome? fun d => if d.name = name then d.scene? else none) := by
  induction ds generalizing c with
  | nil => simp
  | cons d ds ih =>
    rw [List.foldl_cons, ih, get?_define, Option.or_assoc, List.findSome?_cons]
    cases (if d.name = name then d.scene? else none) <;> rfl

/-- A name is taken exactly if it was before, or has a valid definition. -/
lemma contains_foldl_define (c : Compilation) (ds : List Definition) (name : String) :
    (ds.foldl define c).repertoire.contains name = true ↔
      c.repertoire.contains name = true ∨ ∃ d ∈ ds, d.name = name ∧ d.Valid := by
  have hcontains : ∀ r : Repertoire, r.contains name = (r.get? name).isSome := fun _ => rfl
  rw [hcontains, hcontains, get?_foldl_define, Option.isSome_or, Bool.or_eq_true,
    List.findSome?_isSome_iff]
  refine or_congr_right (exists_congr fun d => and_congr_right fun _ => ?_)
  split
  next hname => rw [← Definition.valid_iff]; exact (and_iff_right hname).symm
  next hname => exact ⟨fun h => Bool.noConfusion h, fun h => absurd h.1 hname⟩

/-- The errors there are after definitions, each counted with the ones before it in view. -/
lemma errors_foldl_define (ds : List Definition) :
    (ds.foldl define empty).errors.length =
      (ds.mapIdx fun i d => d.faults (ds.take i)).sum := by
  induction ds using List.reverseRecOn with
  | nil => rfl
  | append_singleton ds d ih =>
    have hearlier : ∀ i < ds.length, (ds ++ [d]).take i = ds.take i :=
      fun i hi => List.take_append_of_le_length hi.le
    have hinit : ds.mapIdx (fun i d' => d'.faults ((ds ++ [d]).take i)) =
        ds.mapIdx fun i d' => d'.faults (ds.take i) :=
      List.mapIdx_eq_mapIdx_iff.2 fun i hi => by rw [hearlier i hi]
    have htaken : (ds.foldl define empty).repertoire.contains d.name = true ↔
        ∃ e ∈ ds, e.name = d.name ∧ e.Valid := by
      rw [contains_foldl_define]
      exact or_iff_right Bool.false_ne_true
    rw [List.foldl_append, List.foldl_cons, List.foldl_nil, errors_define, ih, List.mapIdx_append,
      hinit, List.sum_append]
    simp only [List.mapIdx_cons, List.mapIdx_nil, List.sum_singleton, Nat.zero_add,
      List.take_left, Definition.faults, htaken]

end Runs

/-! ## Names in two drafts -/

/-- No name is defined in two of the drafts. -/
def Apart (drafts : List (Option String × Draft)) : Prop :=
  drafts.Pairwise fun d e =>
    ∀ name, ¬(d.2.scenes.contains name = true ∧ e.2.scenes.contains name = true)

/-- Definitions have different names exactly if no name is defined in two of the drafts. -/
lemma pairwise_definitions_iff {drafts : List (Option String × Draft)} :
    (definitions drafts).Pairwise (fun d e => d.name ≠ e.name) ↔ Apart drafts := by
  have hwithin : ∀ d ∈ drafts, (d.2.definitions d.1).Pairwise fun e e' => e.name ≠ e'.name := by
    intro d _
    refine List.pairwise_map.2 (d.2.scenes.sorted.imp fun {e e'} hlt hsame => ?_)
    have hsame : e.1 = e'.1 := hsame
    rw [hsame] at hlt
    exact String.lt_irrefl _ hlt
  rw [definitions, List.pairwise_flatMap, and_iff_right hwithin, Apart]
  refine List.Pairwise.iff fun d e => ?_
  simp only [Draft.definitions, List.forall_mem_map, Dictionary.contains_iff]
  constructor
  · rintro h name ⟨⟨entry, hentry, rfl⟩, entry', hentry', hsame⟩
    exact h entry hentry entry' hentry' hsame.symm
  · intro h entry hentry entry' hentry' hsame
    exact h entry.1 ⟨⟨entry, hentry, rfl⟩, entry', hentry', hsame.symm⟩

/-- There is no error about any of the definitions exactly if all are valid and no two have one
name. -/
lemma sum_faults_eq_zero_iff {ds : List Definition} :
    (ds.mapIdx fun i d => d.faults (ds.take i)).sum = 0 ↔
      (∀ d ∈ ds, d.Valid) ∧ ds.Pairwise fun d e => d.name ≠ e.name := by
  rw [List.sum_eq_zero_iff_forall_eq_nat, List.forall_mem_iff_getElem]
  simp only [List.length_mapIdx, List.getElem_mapIdx, Definition.faults_eq_zero_iff]
  rw [List.forall_mem_iff_getElem, List.pairwise_iff_getElem]
  constructor
  · intro h
    refine ⟨fun i hi => (h i hi).1, fun i j hi hj hij => ?_⟩
    have hearlier : ds[i] ∈ ds.take j := List.mem_take_iff_getElem.2 ⟨i, by omega, rfl⟩
    exact (h j hj).2 ds[i] hearlier (h i hi).1
  · rintro ⟨hvalid, hnames⟩ j hj
    refine ⟨hvalid j hj, fun e he _ => ?_⟩
    obtain ⟨i, hi, rfl⟩ := List.mem_take_iff_getElem.1 he
    exact hnames i j (by omega) hj (by omega)

/-! ## Warnings -/

/-- What a compilation registers and adds to what there is to say depends on nothing that was said
before. -/
lemma foldl_define_append (r : Repertoire) (ds : List Definition) :
    ∃ r' notes, ∀ said, ds.foldl define ⟨r, said⟩ = ⟨r', said ++ notes⟩ := by
  induction ds generalizing r with
  | nil => exact ⟨r, [], fun said => by rw [List.append_nil]; rfl⟩
  | cons d ds ih =>
    have hdefine : ∃ r' notes, ∀ said, define ⟨r, said⟩ d = ⟨r', said ++ notes⟩ := by
      by_cases hfailing : d.failing = 0
      · obtain ⟨steps, hsteps⟩ := Definition.failing_eq_zero_iff.1 hfailing
        simp only [define_of_compilesTo _ _ hsteps, register, note, noteAll]
        cases hinsert : Scene.build d.name steps >>= r.insert with
        | error e =>
          exact ⟨r, remarks d ++ [⟨.error, d.file, e.message⟩], fun said => by
            rw [← List.append_assoc]⟩
        | ok r' => exact ⟨r', remarks d, fun said => rfl⟩
      · exact ⟨r, remarks d, fun said => define_of_failing _ _ hfailing⟩
    obtain ⟨r₁, notes, hdefine⟩ := hdefine
    obtain ⟨r₂, rest, hrest⟩ := ih r₁
    exact ⟨r₂, notes ++ rest, fun said => by
      rw [List.foldl_cons, hdefine, hrest, List.append_assoc]⟩

/-- There are no errors exactly if the list of errors is empty. -/
lemma hasErrors_eq_false_iff {c : Compilation} : c.hasErrors = false ↔ c.errors.length = 0 := by
  rw [errors, ← List.countP_eq_length_filter, List.countP_eq_zero, hasErrors, List.any_eq_false]

/-- What a compilation comes to is told from what is registered and the errors. -/
lemma finished_congr {c c' : Compilation} (hrepertoire : c.repertoire = c'.repertoire)
    (herrors : c.errors = c'.errors) : c.finished = c'.finished := by
  have hclean : c.hasErrors = c'.hasErrors := by
    rw [Bool.eq_iff_iff, ← not_iff_not, Bool.not_eq_true, Bool.not_eq_true, hasErrors_eq_false_iff,
      hasErrors_eq_false_iff, herrors]
  simp only [finished, hclean, herrors, hrepertoire]

/-- Warnings that are there already change neither what drafts register nor what a compilation
comes to. -/
lemma addDrafts_of_warnings (c : Compilation) (drafts : List (Option String × Draft))
    {warnings : List Diagnostic} (h : ∀ w ∈ warnings, w.isError = false) :
    ((c.noteAll warnings).addDrafts drafts).repertoire = (c.addDrafts drafts).repertoire ∧
      ((c.noteAll warnings).addDrafts drafts).finished = (c.addDrafts drafts).finished := by
  obtain ⟨r, notes, hnotes⟩ := foldl_define_append c.repertoire (definitions drafts)
  have hnone : warnings.filter Diagnostic.isError = [] :=
    List.filter_eq_nil_iff.2 fun w hw => by simp [h w hw]
  have hbefore : c.addDrafts drafts = ⟨r, c.diagnostics ++ notes⟩ := by
    rw [addDrafts_eq_foldl]
    exact hnotes c.diagnostics
  have hbehind : (c.noteAll warnings).addDrafts drafts =
      ⟨r, c.diagnostics ++ warnings ++ notes⟩ := by
    rw [addDrafts_eq_foldl]
    exact hnotes (c.diagnostics ++ warnings)
  rw [hbefore, hbehind]
  refine ⟨rfl, finished_congr rfl ?_⟩
  simp only [errors, List.filter_append, hnone, List.append_nil]

/-! ## The specification -/

/-- What the compilation of drafts holds, in terms of the scenes that they define. -/
structure Specified (drafts : List (Option String × Draft)) (c : Compilation) : Prop where
  /-- The names that are taken are those with a valid definition. -/
  contains_iff : ∀ name, c.repertoire.contains name = true ↔
    ∃ d ∈ definitions drafts, d.name = name ∧ d.Valid
  /-- The scene under a name has the steps of the first valid definition of the name. -/
  get?_iff : ∀ name scene, c.repertoire.get? name = some scene ↔ scene.name = name ∧
    ∃ before d after, definitions drafts = before ++ d :: after ∧ d.name = name ∧
      d.CompilesTo scene.steps ∧ ∀ e ∈ before, e.name = name → ¬e.Valid
  /-- Each definition has its own number of errors. -/
  errors_length : c.errors.length =
    ((definitions drafts).mapIdx fun i d => d.faults ((definitions drafts).take i)).sum
  /-- There is no error exactly if all definitions are valid and no name is defined in two
  drafts. -/
  hasErrors_iff : c.hasErrors = false ↔ (∀ d ∈ definitions drafts, d.Valid) ∧ Apart drafts
  /-- Without errors the compilation comes to what is registered, and with errors to none. -/
  finished_iff : ∀ r, c.finished = .ok r ↔ c.hasErrors = false ∧ r = c.repertoire
  /-- Without errors every definition is registered. -/
  registered : c.hasErrors = false → ∀ d ∈ definitions drafts,
    ∃ scene, c.repertoire.get? d.name = some scene ∧ d.CompilesTo scene.steps
  /-- Warnings change nothing: drafts that are compiled behind them register the same, and come to
  the same. -/
  warned : ∀ (before : Compilation) (warnings : List Diagnostic),
    (∀ w ∈ warnings, w.isError = false) →
    ((before.noteAll warnings).addDrafts drafts).repertoire = (before.addDrafts drafts).repertoire ∧
      ((before.noteAll warnings).addDrafts drafts).finished = (before.addDrafts drafts).finished

/-- The scene under a name is that of the first valid definition of the name. -/
lemma get?_ofDrafts_iff (drafts : List (Option String × Draft)) (name : String) (scene : Scene) :
    (ofDrafts drafts).repertoire.get? name = some scene ↔ scene.name = name ∧
      ∃ before d after, definitions drafts = before ++ d :: after ∧ d.name = name ∧
        d.CompilesTo scene.steps ∧ ∀ e ∈ before, e.name = name → ¬e.Valid := by
  have hopening : (empty.repertoire.get? name).or ((definitions drafts).findSome? fun d =>
      if d.name = name then d.scene? else none) =
        (definitions drafts).findSome? fun d => if d.name = name then d.scene? else none := rfl
  have hother : ∀ e : Definition, (if e.name = name then e.scene? else none) = none ↔
      (e.name = name → ¬e.Valid) := by
    intro e
    rw [ite_eq_right_iff, Definition.scene?_eq_none_iff]
  rw [ofDrafts, addDrafts_eq_foldl, get?_foldl_define, hopening, List.findSome?_eq_some_iff]
  simp only [hother, Option.ite_none_right_eq_some, Definition.scene?_eq_some_iff]
  constructor
  · rintro ⟨before, d, after, hsplit, ⟨hname, hown, hsteps⟩, hbefore⟩
    exact ⟨hown.trans hname, before, d, after, hsplit, hname, hsteps, hbefore⟩
  · rintro ⟨hown, before, d, after, hsplit, hname, hsteps, hbefore⟩
    exact ⟨before, d, after, hsplit, ⟨hname, hown.trans hname.symm, hsteps⟩, hbefore⟩

/-- **Compilations do what they are specified to do.**

**Proof sketch.** To compile drafts is to compile their definitions one by one. A definition is
registered if it is valid and its name free, so the scene under a name is that of the first valid
definition; the errors it adds are told from the names that are taken, which are those of the valid
definitions before it. Without errors all are valid and no two share a name, so each is the first
of its name. -/
theorem specified_ofDrafts (drafts : List (Option String × Draft)) :
    Specified drafts (ofDrafts drafts) := by
  have hcontains : ∀ name, (ofDrafts drafts).repertoire.contains name = true ↔
      ∃ d ∈ definitions drafts, d.name = name ∧ d.Valid := by
    intro name
    rw [ofDrafts, addDrafts_eq_foldl, contains_foldl_define]
    exact or_iff_right Bool.false_ne_true
  have herrors : (ofDrafts drafts).errors.length =
      ((definitions drafts).mapIdx fun i d => d.faults ((definitions drafts).take i)).sum := by
    rw [ofDrafts, addDrafts_eq_foldl, errors_foldl_define]
  have hclean : (ofDrafts drafts).hasErrors = false ↔
      (∀ d ∈ definitions drafts, d.Valid) ∧ Apart drafts := by
    rw [hasErrors_eq_false_iff, herrors, sum_faults_eq_zero_iff, pairwise_definitions_iff]
  refine ⟨hcontains, get?_ofDrafts_iff drafts, herrors, hclean, fun r => ?_, fun h d hd => ?_,
    fun before warnings h => addDrafts_of_warnings before drafts h⟩
  · rw [finished]
    cases (ofDrafts drafts).hasErrors <;> simp [eq_comm]
  · obtain ⟨hvalid, hapart⟩ := hclean.1 h
    obtain ⟨before, after, hsplit⟩ := List.append_of_mem hd
    obtain ⟨steps, hsteps, hclosed⟩ := hvalid d hd
    have hnames := pairwise_definitions_iff.2 hapart
    rw [hsplit, List.pairwise_append] at hnames
    have hfirst : ∀ e ∈ before, e.name = d.name → ¬e.Valid := fun e he hname =>
      absurd hname (hnames.2.2 e he d List.mem_cons_self)
    refine ⟨⟨d.name, steps, hclosed⟩, (get?_ofDrafts_iff drafts _ _).2 ⟨rfl, ?_⟩, hsteps⟩
    exact ⟨before, d, after, hsplit, rfl, hsteps, hfirst⟩

end Compilation

end Cutscene
