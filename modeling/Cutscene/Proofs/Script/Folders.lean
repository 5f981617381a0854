import Mathlib.Data.List.Basic
import Mathlib.Data.List.Nodup
import Mathlib.Data.Nat.Notation
import Mathlib.Tactic.Lemma
import Cutscene.Proofs.Script.FileNames
import Cutscene.Proofs.Script.Repetitions

set_option relaxedAutoImplicit false
set_option autoImplicit false

/-!
# Loading a folder

A folder lists its entries in any order. The script files among them are sorted by their names and
then added one by one, so what comes of them cannot depend on how they are listed. A file that
cannot be read ends the loading, and it is the first of them that is reported. A file that can be
read but holds no script is reported and passed over. Of the valid definitions of a name, the one in
the first file is registered, and each later one is reported with its own file.

## Main definitions

* `Cutscene.Definition.verdict?` — the error about a definition as a whole.
* `Cutscene.reading?`, `Cutscene.entryScene?` — the draft in a file of a folder, and the scene that
  it validly defines under a name.
* `Cutscene.Compilation.addEntry` — adds the scenes of a file that can be read.
* `Cutscene.Defines` — a script file of a folder holds a valid definition of a scene.
* `Cutscene.Diagnostic.repeated` — the error that a name is defined again in a file.
* `Cutscene.LoadsInOrder` — what a folder loads to, in terms of its entries.

## Main results

* `Cutscene.Compilation.diagnostics_define` — what a definition adds to what there is to say.
* `Cutscene.Compilation.count_foldl_addEntry` — how often a name is reported for a file.
* `Cutscene.loads_in_order` — folders load in the order of their names.

## Design

Sorting is writing into a dictionary, and with distinct names a dictionary has the entries of its
list. So everything about the files follows from their being sorted and being the script files of
the folder. Files before a file are those whose names are less, in the order of their bytes.
-/

namespace Cutscene

/-! ## What is said about a definition -/

/-- Texts that begin differently are different, whatever follows. -/
lemma append_ne_append {s s' : String} (i : ℕ) (hs : i < s.toList.length)
    (hs' : i < s'.toList.length) (h : s.toList[i]? ≠ s'.toList[i]?) (t t' : String) :
    s ++ t ≠ s' ++ t' := by
  intro heq
  have hchars := congrArg (fun s => s.toList[i]?) heq
  simp only [String.toList_append, List.getElem?_append_left hs,
    List.getElem?_append_left hs'] at hchars
  exact h hchars

/-- No other error about a scene reads like the one that its name is taken. -/
lemma SceneError.message_eq_duplicate_iff {e : SceneError} {name : String} :
    e.message = (SceneError.duplicate name).message ↔ e = .duplicate name := by
  refine ⟨fun h => ?_, fun h => h ▸ rfl⟩
  cases e with
  | duplicate other =>
    dsimp only [message] at h
    rw [String.append_assoc, String.append_assoc] at h
    simp only [String.append_right_inj, String.append_left_inj] at h
    rw [h]
  | notFound other | empty other | missingComplete other =>
    dsimp only [message] at h
    rw [String.append_assoc, String.append_assoc] at h
    exact absurd h (append_ne_append 6 (by decide) (by decide) (by decide) _ _)
  | afterComplete other index =>
    dsimp only [message] at h
    rw [String.append_assoc, String.append_assoc, String.append_assoc] at h
    exact absurd h (append_ne_append 6 (by decide) (by decide) (by decide) _ _)

/-- No message about a step does either. -/
lemma stepAddress_append_ne {scene name rest : String} {index : ℕ} :
    stepAddress scene index ++ rest ≠ (SceneError.duplicate name).message := by
  dsimp only [stepAddress, SceneError.message]
  rw [String.append_assoc, String.append_assoc, String.append_assoc, String.append_assoc,
    String.append_assoc]
  exact append_ne_append 6 (by decide) (by decide) (by decide) _ _

namespace Definition

/-- The error about a definition as a whole: its steps are not those of a scene, or its name is
taken. Nothing more is said of a definition with steps that do not compile. -/
def verdict? (taken : Bool) (d : Definition) : Option SceneError :=
  (d.results.mapM Except.toOption).bind fun steps =>
    match Scene.build d.name steps with
    | .error e => some e
    | .ok _ => if taken then some (.duplicate d.name) else none

/-- A name is said to be taken if it is, and the definition would be valid otherwise. -/
lemma verdict?_eq_duplicate_iff {taken : Bool} {d : Definition} {name : String} :
    d.verdict? taken = some (.duplicate name) ↔ d.name = name ∧ d.Valid ∧ taken = true := by
  rw [valid_iff, scene?, verdict?]
  cases d.results.mapM Except.toOption with
  | none => simp
  | some steps =>
    simp only [Option.bind_some]
    cases hbuild : Scene.build d.name steps with
    | error e =>
      have hne : e ≠ .duplicate name := fun he => Scene.build_ne_duplicate (he ▸ hbuild)
      simp [hne, Except.toOption]
    | ok scene => cases taken <;> simp [Except.toOption]

end Definition

/-- The error that a name is defined again in a file. -/
def Diagnostic.repeated (file : Option String) (name : String) : Diagnostic :=
  ⟨.error, file, (SceneError.duplicate name).message⟩

namespace Compilation

open Diagnostic (repeated)

variable (c : Compilation) (d : Definition) {file : Option String} {name : String} {scene : Scene}

/-- **What a definition adds to what there is to say**: the remarks about its steps, and the error
about the whole if there is one. -/
theorem diagnostics_define : (c.define d).diagnostics = c.diagnostics ++ remarks d ++
    ((d.verdict? (c.repertoire.contains d.name)).map fun e =>
      ⟨.error, d.file, e.message⟩).toList := by
  by_cases hfailing : d.failing = 0
  · obtain ⟨steps, hsteps⟩ := Definition.failing_eq_zero_iff.1 hfailing
    rw [define_of_compilesTo c d hsteps, Definition.verdict?,
      Definition.mapM_results_eq_some_iff.2 hsteps, Option.bind_some]
    cases hbuild : Scene.build d.name steps with
    | error e => rw [register_of_build_error _ hbuild]; rfl
    | ok scene =>
      obtain ⟨hname, rfl⟩ := Scene.build_eq_ok_iff.1 hbuild
      cases htaken : c.repertoire.contains d.name with
      | true => rw [register_of_contains (c.noteAll (remarks d)) hbuild htaken]; rfl
      | false =>
        rw [← hname, register_steps (by rwa [hname])]
        exact (List.append_nil _).symm
  · have hnone : d.results.mapM Except.toOption = none := by
      rw [Option.eq_none_iff_forall_ne_some]
      intro steps hsteps
      exact hfailing (Definition.failing_eq_zero_iff.2
        ⟨steps, Definition.mapM_results_eq_some_iff.1 hsteps⟩)
    rw [define_of_failing c d hfailing, Definition.verdict?, hnone]
    exact (List.append_nil _).symm

/-- No remark about a step says that a name is defined again. -/
lemma repeated_not_mem_remarks : repeated file name ∉ remarks d := by
  intro h
  obtain ⟨remark, hremark, hsome⟩ := List.mem_filterMap.1 h
  obtain ⟨i, hi, rfl⟩ := List.mem_mapIdx.1 hremark
  cases hresult : d.results[i] with
  | error e =>
    rw [hresult] at hsome
    have hmessage : e.message = (SceneError.duplicate name).message :=
      congrArg Diagnostic.message (Option.some.inj hsome)
    cases e <;> simp only [StepError.message, String.append_assoc] at hmessage <;>
      exact stepAddress_append_ne hmessage
  | ok step =>
    rw [hresult] at hsome
    obtain ⟨oddity, -, hnote⟩ := Option.map_eq_some_iff.1 hsome
    exact stepAddress_append_ne (congrArg Diagnostic.message hnote)

/-- A definition is reported once if it is valid and its name is taken, and otherwise never. -/
lemma count_define : (c.define d).diagnostics.count (repeated file name) =
    c.diagnostics.count (repeated file name) +
      if d.file = file ∧ d.name = name ∧ d.Valid ∧ c.repertoire.contains name = true
        then 1 else 0 := by
  rw [diagnostics_define, List.count_append, List.count_append,
    List.count_eq_zero_of_not_mem (repeated_not_mem_remarks d), Nat.add_zero]
  congr 1
  cases hverdict : d.verdict? (c.repertoire.contains d.name) with
  | none =>
    refine (if_neg ?_).symm
    rintro ⟨-, rfl, hvalid, htaken⟩
    rw [Definition.verdict?_eq_duplicate_iff.2 ⟨rfl, hvalid, htaken⟩] at hverdict
    cases hverdict
  | some e =>
    rw [Option.map_some, Option.toList_some, List.count_singleton]
    refine if_congr ?_ rfl rfl
    rw [beq_iff_eq, repeated, Diagnostic.mk.injEq, SceneError.message_eq_duplicate_iff]
    constructor
    · rintro ⟨-, hfile, rfl⟩
      obtain ⟨rfl, hvalid, htaken⟩ := Definition.verdict?_eq_duplicate_iff.1 hverdict
      exact ⟨hfile, rfl, hvalid, htaken⟩
    · rintro ⟨hfile, rfl, hvalid, htaken⟩
      rw [Definition.verdict?_eq_duplicate_iff.2 ⟨rfl, hvalid, htaken⟩] at hverdict
      exact ⟨rfl, hfile, (Option.some.inj hverdict).symm⟩

variable {c}

/-- Of definitions with distinct names, one at most is reported.

**Proof sketch.** Induction on the definitions. Behind the one of the name the name may be taken,
but it is not defined again. -/
lemma count_foldl_define {ds : List Definition} (h : ds.Pairwise fun d e => d.name ≠ e.name) :
    (ds.foldl define c).diagnostics.count (repeated file name) =
      c.diagnostics.count (repeated file name) +
        if (∃ d ∈ ds, d.file = file ∧ d.name = name ∧ d.Valid) ∧ c.repertoire.contains name = true
          then 1 else 0 := by
  induction ds generalizing c with
  | nil => simp
  | cons d ds ih =>
    obtain ⟨hd, hds⟩ := List.pairwise_cons.1 h
    rw [List.foldl_cons, ih hds, count_define, Nat.add_assoc]
    congr 1
    by_cases hname : d.name = name
    · have hnone : ¬∃ e ∈ ds, e.file = file ∧ e.name = name ∧ e.Valid := by
        rintro ⟨e, he, -, rfl, -⟩
        exact hd e he hname
      simp [hname, hnone, and_assoc]
    · have hsame : (c.define d).repertoire.contains name = c.repertoire.contains name := by
        change ((c.define d).repertoire.get? name).isSome = (c.repertoire.get? name).isSome
        rw [get?_define, if_neg hname, Option.or_none]
      simp [hname, hsame]

end Compilation

/-! ## Scenes of a draft -/

namespace Draft

variable {d : Draft} {name : String}

/-- The scene that a draft in a file validly defines under a name. -/
def scene? (file : Option String) (name : String) (d : Draft) : Option Scene :=
  (d.scenes.get? name).bind fun drafts => Definition.scene? ⟨file, name, drafts⟩

/-- Definitions of a draft have distinct names. -/
lemma pairwise_definitions (file : Option String) (d : Draft) :
    (d.definitions file).Pairwise fun d e => d.name ≠ e.name := by
  refine List.pairwise_map.2 (d.scenes.sorted.imp fun {e e'} hlt hsame => ?_)
  have hsame : e.1 = e'.1 := hsame
  exact String.lt_irrefl _ (hsame ▸ hlt)

/-- So the first valid definition of a name is the only one. -/
lemma findSome?_definitions (file : Option String) (name : String) (d : Draft) :
    ((d.definitions file).findSome? fun e => if e.name = name then e.scene? else none) =
      d.scene? file name := by
  suffices hentries : ∀ entries : List (String × List StepDraft),
      entries.Pairwise (·.1 < ·.1) →
      ((entries.map fun e => (⟨file, e.1, e.2⟩ : Definition)).findSome? fun e =>
        if e.name = name then e.scene? else none) =
      (Dictionary.lookup name entries).bind fun drafts => Definition.scene? ⟨file, name, drafts⟩
    from hentries d.scenes.entries d.scenes.sorted
  intro entries hsorted
  induction entries with
  | nil => rfl
  | cons entry entries ih =>
    obtain ⟨key, drafts⟩ := entry
    obtain ⟨hlt, hsorted⟩ := List.pairwise_cons.1 hsorted
    rw [List.map_cons, List.findSome?_cons, ih hsorted, Dictionary.lookup]
    by_cases hkey : key = name
    · subst hkey
      rw [Dictionary.lookup_eq_none hlt]
      cases hscene : Definition.scene? ⟨file, key, drafts⟩ <;> simp [hscene]
    · simp [hkey]

/-- A draft validly defines a name if one of its definitions is that of a scene. -/
lemma isSome_scene?_iff {file file' : Option String} :
    (∃ e ∈ d.definitions file', e.file = file ∧ e.name = name ∧ e.Valid) ↔
      file' = file ∧ (d.scene? file' name).isSome = true := by
  rw [← findSome?_definitions, List.findSome?_isSome_iff]
  constructor
  · rintro ⟨e, he, hfile, hname, hvalid⟩
    obtain ⟨entry, -, rfl⟩ := List.mem_map.1 he
    exact ⟨hfile, _, he, by rw [if_pos hname]; exact Definition.valid_iff.1 hvalid⟩
  · rintro ⟨rfl, e, he, hsome⟩
    obtain ⟨entry, hentry, rfl⟩ := List.mem_map.1 he
    split at hsome
    next hname => exact ⟨_, he, rfl, hname, Definition.valid_iff.2 hsome⟩
    next => cases hsome

end Draft

/-! ## Files of a folder -/

/-- What reading a file of a folder as a script gives, if the file can be read. -/
def reading? (entry : String × Content) : Option (Except Json.Problem Draft) :=
  entry.2.toOption.map Draft.ofText

lemma reading?_eq_some_iff {entry : String × Content} {result : Except Json.Problem Draft} :
    reading? entry = some result ↔ ∃ text, entry.2 = .ok text ∧ Draft.ofText text = result := by
  unfold reading?
  cases entry.2 <;> simp [Except.toOption]

/-- The scene that a file of a folder validly defines under a name. -/
def entryScene? (name : String) (entry : String × Content) : Option Scene :=
  match reading? entry with
  | some (.ok d) => d.scene? (some entry.1) name
  | some (.error _) => none
  | none => none

lemma entryScene?_eq_some_iff {name : String} {entry : String × Content} {scene : Scene} :
    entryScene? name entry = some scene ↔
      ∃ d, reading? entry = some (.ok d) ∧ d.scene? (some entry.1) name = some scene := by
  unfold entryScene?
  split <;> simp_all

namespace Compilation

open Diagnostic (repeated)

/-- Adds the scenes of a file that can be read. A file that holds no script is reported. -/
def addEntry (c : Compilation) (entry : String × Content) : Compilation :=
  match reading? entry with
  | some (.ok d) => c.addDraft (some entry.1) d
  | some (.error problem) =>
    c.note ⟨.error, some entry.1, (LoadError.notAScript problem).message⟩
  | none => c

variable {path : Path} {c : Compilation} {files before after : List (String × Content)}
  {entry : String × Content} {name : String} {file : Option String}

lemma addFile_of_ok {text : String} (h : entry.2 = .ok text) :
    addFile path c entry = .ok (c.addEntry entry) := by
  have hreading : reading? entry = some (Draft.ofText text) :=
    reading?_eq_some_iff.2 ⟨text, h, rfl⟩
  unfold addFile addEntry
  rw [h, hreading]
  dsimp only
  cases Draft.ofText text <;> rfl

/-- Files that can be read are added one by one. -/
lemma foldlM_addFile_of_readable (h : ∀ e ∈ files, ∃ text, e.2 = .ok text) :
    files.foldlM (addFile path) c = .ok (files.foldl addEntry c) := by
  induction files generalizing c with
  | nil => rfl
  | cons entry files ih =>
    obtain ⟨⟨text, htext⟩, hfiles⟩ := List.forall_mem_cons.1 h
    rw [List.foldlM_cons, addFile_of_ok htext]
    exact ih hfiles

/-- The first file that cannot be read ends the loading. -/
lemma foldlM_addFile_of_unreadable {cause : ReadError} (h : ∀ e ∈ before, ∃ text, e.2 = .ok text)
    (hentry : entry.2 = .error cause) :
    (before ++ entry :: after).foldlM (addFile path) c =
      .error (.unreadable (path.join entry.1) cause) := by
  have hrefused : ∀ c, addFile path c entry = .error (.unreadable (path.join entry.1) cause) := by
    intro c
    unfold addFile
    simp only [hentry]
  rw [List.foldlM_append, foldlM_addFile_of_readable h]
  change (entry :: after).foldlM (addFile path) _ = _
  rw [List.foldlM_cons, hrefused]
  rfl

lemma addDraft_eq_foldl (c : Compilation) (file : Option String) (d : Draft) :
    c.addDraft file d = (d.definitions file).foldl define c := by
  rw [Draft.definitions, List.foldl_map]
  rfl

/-- A file registers its scenes whose names are free. -/
lemma get?_addEntry (c : Compilation) (entry : String × Content) (name : String) :
    (c.addEntry entry).repertoire.get? name =
      (c.repertoire.get? name).or (entryScene? name entry) := by
  unfold addEntry entryScene?
  split
  next d _ => rw [addDraft_eq_foldl, get?_foldl_define, Draft.findSome?_definitions]
  next => exact (Option.or_none ..).symm
  next => exact (Option.or_none ..).symm

/-- The scene under a name was there before, or is that of the first file that defines it. -/
lemma get?_foldl_addEntry (c : Compilation) (files : List (String × Content)) (name : String) :
    (files.foldl addEntry c).repertoire.get? name =
      (c.repertoire.get? name).or (files.findSome? (entryScene? name)) := by
  induction files generalizing c with
  | nil => exact (Option.or_none ..).symm
  | cons entry files ih =>
    rw [List.foldl_cons, ih, get?_addEntry, Option.or_assoc, List.findSome?_cons]
    cases entryScene? name entry <;> rfl

/-- A file is reported once if it defines a name that is taken, and otherwise never. -/
lemma count_addEntry (c : Compilation) (entry : String × Content) :
    (c.addEntry entry).diagnostics.count (repeated file name) =
      c.diagnostics.count (repeated file name) +
        if (some entry.1 = file ∧ (entryScene? name entry).isSome = true) ∧
          c.repertoire.contains name = true then 1 else 0 := by
  cases hreading : reading? entry with
  | none => simp [addEntry, entryScene?, hreading]
  | some result =>
    cases result with
    | error problem =>
      have hother : (⟨.error, some entry.1, (LoadError.notAScript problem).message⟩ : Diagnostic) ≠
          repeated file name := by
        intro h
        have hmessage := congrArg Diagnostic.message h
        dsimp only [repeated, SceneError.message, LoadError.message] at hmessage
        rw [String.append_assoc] at hmessage
        exact append_ne_append 0 (by decide) (by decide) (by decide) _ _ hmessage
      have hcount : [(⟨.error, some entry.1, (LoadError.notAScript problem).message⟩ :
          Diagnostic)].count (repeated file name) = 0 :=
        List.count_eq_zero_of_not_mem fun h => hother (List.mem_singleton.1 h).symm
      simp [addEntry, entryScene?, hreading, note, hcount]
    | ok d =>
      have hscene : entryScene? name entry = d.scene? (some entry.1) name := by
        simp only [entryScene?, hreading]
      simp only [addEntry, hreading]
      rw [addDraft_eq_foldl, count_foldl_define (d.pairwise_definitions _), hscene]
      exact congrArg _ (if_congr (and_congr_left' Draft.isSome_scene?_iff) rfl rfl)

/-- A name is taken if it was before, or a file defines it. -/
lemma contains_foldl_addEntry (c : Compilation) (files : List (String × Content)) (name : String) :
    (files.foldl addEntry c).repertoire.contains name = true ↔
      c.repertoire.contains name = true ∨ ∃ e ∈ files, (entryScene? name e).isSome = true := by
  change ((files.foldl addEntry c).repertoire.get? name).isSome = true ↔
    (c.repertoire.get? name).isSome = true ∨ _
  rw [get?_foldl_addEntry, Option.isSome_or, Bool.or_eq_true, List.findSome?_isSome_iff]

/-- Files that do not define a name, or are other files, do not report it for a file. -/
lemma count_foldl_addEntry_of_forall
    (h : ∀ e ∈ files, ¬(some e.1 = file ∧ (entryScene? name e).isSome = true)) :
    (files.foldl addEntry c).diagnostics.count (repeated file name) =
      c.diagnostics.count (repeated file name) := by
  induction files generalizing c with
  | nil => rfl
  | cons entry files ih =>
    obtain ⟨hentry, hfiles⟩ := List.forall_mem_cons.1 h
    rw [List.foldl_cons, ih hfiles, count_addEntry, if_neg fun hboth => hentry hboth.1,
      Nat.add_zero]

/-- **How often a name is reported for a file**: once if the file defines it and a file before it
does, and otherwise never. -/
theorem count_foldl_addEntry (hbefore : ∀ e ∈ before, e.1 ≠ entry.1)
    (hafter : ∀ e ∈ after, e.1 ≠ entry.1) :
    ((before ++ entry :: after).foldl addEntry c).diagnostics.count (repeated (some entry.1) name) =
      c.diagnostics.count (repeated (some entry.1) name) +
        if (entryScene? name entry).isSome = true ∧ (c.repertoire.contains name = true ∨
          ∃ e ∈ before, (entryScene? name e).isSome = true) then 1 else 0 := by
  have hothers : ∀ {l : List (String × Content)}, (∀ e ∈ l, e.1 ≠ entry.1) →
      ∀ e ∈ l, ¬(some e.1 = some entry.1 ∧ (entryScene? name e).isSome = true) :=
    fun h e he hboth => h e he (Option.some.inj hboth.1)
  rw [List.foldl_append, List.foldl_cons, count_foldl_addEntry_of_forall (hothers hafter),
    count_addEntry, count_foldl_addEntry_of_forall (hothers hbefore)]
  refine congrArg _ (if_congr ?_ rfl rfl)
  rw [contains_foldl_addEntry, and_iff_right rfl]

/-- What has been said stays said. -/
lemma mem_diagnostics_foldl_addEntry {n : Diagnostic} (h : n ∈ c.diagnostics) :
    n ∈ (files.foldl addEntry c).diagnostics := by
  induction files generalizing c with
  | nil => exact h
  | cons entry files ih =>
    refine ih ?_
    unfold addEntry
    split
    next d _ =>
      obtain ⟨r, notes, hnotes⟩ := foldl_define_append c.repertoire (d.definitions (some entry.1))
      rw [addDraft_eq_foldl]
      exact hnotes c.diagnostics ▸ List.mem_append_left notes h
    next => exact List.mem_append_left _ h
    next => exact h

end Compilation

/-! ## The script files -/

section Files

open Compilation (scriptFiles)

variable {entries : List (String × Content)} {entry other : String × Content}

/-- The script files of a folder are its entries with the extension `json`. -/
lemma mem_scriptFiles (h : (entries.map Prod.fst).Nodup) :
    entry ∈ scriptFiles entries ↔ entry ∈ entries ∧ Path.extension? entry.1 = some "json" := by
  rw [scriptFiles, Dictionary.mem_entries_ofList (h.sublist (List.filter_sublist.map _)),
    List.mem_filter, Path.isScript_iff]

/-- They are sorted by their names. -/
lemma pairwise_scriptFiles (entries : List (String × Content)) :
    (scriptFiles entries).Pairwise (·.1 < ·.1) := Dictionary.sorted _

/-- What stands before a file are the files whose names have lesser bytes. -/
lemma mem_before_iff {before after : List (String × Content)}
    (h : (before ++ entry :: after).Pairwise (·.1 < ·.1)) :
    other ∈ before ↔ other ∈ before ++ entry :: after ∧
      Path.bytes other.1 < Path.bytes entry.1 := by
  obtain ⟨-, hafter, hbefore⟩ := List.pairwise_append.1 h
  rw [Path.bytes_lt_bytes_iff]
  constructor
  · intro hother
    exact ⟨List.mem_append_left _ hother, hbefore other hother entry List.mem_cons_self⟩
  · rintro ⟨hother, hlt⟩
    rcases List.mem_append.1 hother with hother | hother
    · exact hother
    · rcases List.mem_cons.1 hother with rfl | hother
      · exact absurd hlt (String.lt_irrefl _)
      · exact absurd hlt (String.lt_asymm ((List.pairwise_cons.1 hafter).1 other hother))

/-- Files can all be read, or there is a first one that cannot. -/
lemma readable_or_exists_first (files : List (String × Content)) :
    (∀ e ∈ files, ∃ text, e.2 = .ok text) ∨
      ∃ before entry after cause, files = before ++ entry :: after ∧
        (∀ e ∈ before, ∃ text, e.2 = .ok text) ∧ entry.2 = .error cause := by
  induction files with
  | nil => exact Or.inl fun e he => absurd he List.not_mem_nil
  | cons entry files ih =>
    cases hcontent : entry.2 with
    | error cause =>
      exact Or.inr ⟨[], entry, files, cause, rfl, fun e he => absurd he List.not_mem_nil, hcontent⟩
    | ok text =>
      rcases ih with hall | ⟨before, first, after, cause, rfl, hbefore, hfirst⟩
      · exact Or.inl (List.forall_mem_cons.2 ⟨⟨text, hcontent⟩, hall⟩)
      · exact Or.inr ⟨entry :: before, first, after, cause, rfl,
          List.forall_mem_cons.2 ⟨⟨text, hcontent⟩, hbefore⟩, hfirst⟩

end Files

namespace Compilation

/-- What the loading of a folder starts from: where there are no script files, this is said. -/
def opening (path : Path) (files : List (String × Content)) : Compilation :=
  if files.isEmpty then empty.note ⟨.error, none, "no .json files found in " ++ path⟩ else empty

variable {path : Path} {entries files : List (String × Content)} {name : String}

lemma ofPlace_folder (path : Path) (entries : List (String × Content)) :
    ofPlace path (.folder entries) =
      (scriptFiles entries).foldlM (addFile path) (opening path (scriptFiles entries)) := rfl

/-- A folder compiles if all its script files can be read. -/
lemma ofPlace_folder_eq_ok_iff {c : Compilation} : ofPlace path (.folder entries) = .ok c ↔
    (∀ e ∈ scriptFiles entries, ∃ text, e.2 = .ok text) ∧
      c = (scriptFiles entries).foldl addEntry (opening path (scriptFiles entries)) := by
  rw [ofPlace_folder]
  rcases readable_or_exists_first (scriptFiles entries) with
    hall | ⟨before, entry, after, cause, hsplit, hbefore, hentry⟩
  · rw [foldlM_addFile_of_readable hall, Except.ok.injEq]
    exact ⟨fun h => ⟨hall, h.symm⟩, fun h => h.2.symm⟩
  · constructor
    · intro h
      rw [hsplit, foldlM_addFile_of_unreadable hbefore hentry] at h
      cases h
    · rintro ⟨hall, -⟩
      obtain ⟨text, htext⟩ := hall entry (hsplit ▸ List.mem_append_right _ List.mem_cons_self)
      rw [hentry] at htext
      cases htext

/-- Nothing is registered at the start. -/
lemma get?_opening : (opening path files).repertoire.get? name = none := by
  unfold opening
  split <;> rfl

/-- Nothing is said to be defined again at the start. -/
lemma repeated_not_mem_opening {file : Option String} :
    Diagnostic.repeated file name ∉ (opening path files).diagnostics := by
  unfold opening
  split
  · intro h
    have hmessage := congrArg Diagnostic.message (List.mem_singleton.1 h)
    dsimp only [Diagnostic.repeated, SceneError.message] at hmessage
    rw [String.append_assoc] at hmessage
    exact append_ne_append 0 (by decide) (by decide) (by decide) _ _ hmessage
  · exact List.not_mem_nil

end Compilation

/-! ## Folders -/

/-- A script file of a folder holds a valid definition of a scene under a name: it has the extension
`json` and can be read, the text is a script, and the steps that the script puts under the name
compile to those of the scene. -/
structure Defines (entry : String × Content) (name : String) (scene : Scene) : Prop where
  /-- The file is a script file. -/
  extension : Path.extension? entry.1 = some "json"
  /-- Its text is a script with steps under the name, and they compile. -/
  compiles : ∃ text d drafts, entry.2 = .ok text ∧ Draft.ofText text = .ok d ∧
    d.scenes.get? name = some drafts ∧
    (⟨some entry.1, name, drafts⟩ : Definition).CompilesTo scene.steps
  /-- The scene has the name. -/
  name_eq : scene.name = name

lemma defines_iff {entry : String × Content} {name : String} {scene : Scene} :
    Defines entry name scene ↔
      Path.extension? entry.1 = some "json" ∧ entryScene? name entry = some scene := by
  simp only [entryScene?_eq_some_iff, reading?_eq_some_iff, Draft.scene?, Option.bind_eq_some_iff,
    Definition.scene?_eq_some_iff]
  constructor
  · rintro ⟨hextension, ⟨text, d, drafts, htext, hd, hdrafts, hsteps⟩, hname⟩
    exact ⟨hextension, d, ⟨text, htext, hd⟩, drafts, hdrafts, hname, hsteps⟩
  · rintro ⟨hextension, d, ⟨text, htext, hd⟩, drafts, hdrafts, hname, hsteps⟩
    exact ⟨hextension, ⟨text, d, drafts, htext, hd, hdrafts, hsteps⟩, hname⟩

/-- What a folder loads to, in terms of its entries. A file comes before another if the bytes of its
name do. -/
structure LoadsInOrder (path : Path) (entries : List (String × Content)) : Prop where
  /-- The order in which the folder lists its entries does not matter. -/
  listing : ∀ other, entries.Perm other →
    Compilation.ofPlace path (.folder other) = Compilation.ofPlace path (.folder entries)
  /-- Only entries with the extension `json` take part. -/
  scripts : Compilation.ofPlace path (.folder (entries.filter fun e =>
    Path.extension? e.1 = some "json")) = Compilation.ofPlace path (.folder entries)
  /-- Loading fails with the first of them that cannot be read, and otherwise never. -/
  unreadable : ∀ e, Compilation.ofPlace path (.folder entries) = .error e ↔
    ∃ entry ∈ entries, Path.extension? entry.1 = some "json" ∧
      (∃ cause, entry.2 = .error cause ∧ e = .unreadable (path.join entry.1) cause) ∧
      ∀ other ∈ entries, Path.extension? other.1 = some "json" →
        Path.bytes other.1 < Path.bytes entry.1 → ∃ text, other.2 = .ok text
  /-- The scene of a name is that of the first file that validly defines it. -/
  registered : ∀ c, Compilation.ofPlace path (.folder entries) = .ok c → ∀ name scene,
    c.repertoire.get? name = some scene ↔
      ∃ entry ∈ entries, Defines entry name scene ∧
        ∀ other ∈ entries, Path.bytes other.1 < Path.bytes entry.1 →
          ∀ scene', ¬Defines other name scene'
  /-- Every later file that validly defines it is reported once. -/
  reported : ∀ c, Compilation.ofPlace path (.folder entries) = .ok c → ∀ name,
    ∀ entry ∈ entries, ∀ scene, Defines entry name scene →
    (∃ other ∈ entries, Path.bytes other.1 < Path.bytes entry.1 ∧
      ∃ scene', Defines other name scene') →
    c.diagnostics.count (.repeated (some entry.1) name) = 1
  /-- Nothing else is reported to be defined again. -/
  only : ∀ c, Compilation.ofPlace path (.folder entries) = .ok c → ∀ file name,
    Diagnostic.repeated file name ∈ c.diagnostics →
    ∃ entry ∈ entries, file = some entry.1 ∧ (∃ scene, Defines entry name scene) ∧
      ∃ other ∈ entries, Path.bytes other.1 < Path.bytes entry.1 ∧
        ∃ scene', Defines other name scene'
  /-- A file that holds no script is reported, and the others are still compiled. -/
  passed : ∀ c, Compilation.ofPlace path (.folder entries) = .ok c → ∀ entry ∈ entries,
    Path.extension? entry.1 = some "json" → ∀ text problem, entry.2 = .ok text →
    Draft.ofText text = .error problem →
    ⟨.error, some entry.1, (LoadError.notAScript problem).message⟩ ∈ c.diagnostics

namespace LoadsInOrder

open Compilation (scriptFiles addEntry opening)

variable {path : Path} {entries before after : List (String × Content)}
  {entry : String × Content} {name : String}

/-- A script file stands behind those whose names have lesser bytes, and before the others. -/
lemma exists_split (h : (entries.map Prod.fst).Nodup) (hentry : entry ∈ entries)
    (hextension : Path.extension? entry.1 = some "json") :
    ∃ before after, scriptFiles entries = before ++ entry :: after ∧
      (∀ other, other ∈ before ↔ (other ∈ entries ∧ Path.extension? other.1 = some "json") ∧
        Path.bytes other.1 < Path.bytes entry.1) ∧
      (∀ e ∈ before, e.1 ≠ entry.1) ∧ ∀ e ∈ after, e.1 ≠ entry.1 := by
  obtain ⟨before, after, hsplit⟩ :=
    List.append_of_mem ((mem_scriptFiles h).2 ⟨hentry, hextension⟩)
  have hsorted := pairwise_scriptFiles entries
  rw [hsplit] at hsorted
  refine ⟨before, after, hsplit, fun other => ?_, ?_, ?_⟩
  · rw [mem_before_iff hsorted, ← hsplit, mem_scriptFiles h]
  · intro e he heq
    have hlt := ((mem_before_iff hsorted).1 he).2
    rw [heq] at hlt
    exact List.lt_irrefl _ hlt
  · intro e he heq
    have hlt := (List.pairwise_cons.1 (List.pairwise_append.1 hsorted).2.1).1 e he
    rw [heq] at hlt
    exact String.lt_irrefl _ hlt

/-- A file before a script file defines a name if and only if some file with lesser bytes does. -/
lemma exists_before_iff
    (h : ∀ other, other ∈ before ↔ (other ∈ entries ∧ Path.extension? other.1 = some "json") ∧
      Path.bytes other.1 < Path.bytes entry.1) :
    (∃ other ∈ before, (entryScene? name other).isSome = true) ↔
      ∃ other ∈ entries, Path.bytes other.1 < Path.bytes entry.1 ∧
        ∃ scene, Defines other name scene := by
  simp only [h, defines_iff, Option.isSome_iff_exists]
  constructor
  · rintro ⟨other, ⟨⟨hother, hextension⟩, hlt⟩, scene, hscene⟩
    exact ⟨other, hother, hlt, scene, hextension, hscene⟩
  · rintro ⟨other, hother, hlt, scene, hextension, hscene⟩
    exact ⟨other, ⟨⟨hother, hextension⟩, hlt⟩, scene, hscene⟩

/-- A name is reported once for a script file if the file defines it and one before it does, and
otherwise never. -/
lemma count_repeated (hsplit : scriptFiles entries = before ++ entry :: after)
    (hbefore : ∀ e ∈ before, e.1 ≠ entry.1) (hafter : ∀ e ∈ after, e.1 ≠ entry.1) :
    ((scriptFiles entries).foldl addEntry
        (opening path (scriptFiles entries))).diagnostics.count (.repeated (some entry.1) name) =
      if (entryScene? name entry).isSome = true ∧
          ∃ e ∈ before, (entryScene? name e).isSome = true then 1 else 0 := by
  have hfree : ¬(opening path (before ++ entry :: after)).repertoire.contains name = true := by
    change ¬((opening path (before ++ entry :: after)).repertoire.get? name).isSome = true
    rw [Compilation.get?_opening]
    exact Bool.false_ne_true
  rw [hsplit, Compilation.count_foldl_addEntry hbefore hafter,
    List.count_eq_zero_of_not_mem Compilation.repeated_not_mem_opening, Nat.zero_add]
  exact if_congr (and_congr_right' (or_iff_right hfree)) rfl rfl

/-- The first file that defines a name gives its scene. -/
lemma registered_iff (h : (entries.map Prod.fst).Nodup) {scene : Scene} :
    ((scriptFiles entries).foldl addEntry
        (opening path (scriptFiles entries))).repertoire.get? name = some scene ↔
      ∃ entry ∈ entries, Defines entry name scene ∧
        ∀ other ∈ entries, Path.bytes other.1 < Path.bytes entry.1 →
          ∀ scene', ¬Defines other name scene' := by
  rw [Compilation.get?_foldl_addEntry, Compilation.get?_opening, Option.none_or]
  constructor
  · intro hscene
    obtain ⟨before, entry, after, hsplit, hentry, hnone⟩ := List.findSome?_eq_some_iff.1 hscene
    have hmem : entry ∈ scriptFiles entries := hsplit ▸ List.mem_append_right _ List.mem_cons_self
    obtain ⟨hlisted, hextension⟩ := (mem_scriptFiles h).1 hmem
    have hsorted := pairwise_scriptFiles entries
    rw [hsplit] at hsorted
    refine ⟨entry, hlisted, defines_iff.2 ⟨hextension, hentry⟩,
      fun other hother hlt scene' hscene' => ?_⟩
    obtain ⟨hextension', hscene'⟩ := defines_iff.1 hscene'
    have hearlier : other ∈ before :=
      (mem_before_iff hsorted).2 ⟨hsplit ▸ (mem_scriptFiles h).2 ⟨hother, hextension'⟩, hlt⟩
    rw [hnone other hearlier] at hscene'
    cases hscene'
  · rintro ⟨entry, hlisted, hdefines, hfirst⟩
    obtain ⟨hextension, hentry⟩ := defines_iff.1 hdefines
    obtain ⟨before, after, hsplit, hmem, -, -⟩ := exists_split h hlisted hextension
    refine List.findSome?_eq_some_iff.2
      ⟨before, entry, after, hsplit, hentry, fun other hother => ?_⟩
    obtain ⟨⟨hother, hextension'⟩, hlt⟩ := (hmem other).1 hother
    rw [Option.eq_none_iff_forall_ne_some]
    intro scene' hscene'
    exact hfirst other hother hlt scene' (defines_iff.2 ⟨hextension', hscene'⟩)

/-- Loading fails with the first script file that cannot be read. -/
lemma unreadable_iff (h : (entries.map Prod.fst).Nodup) {e : LoadError} :
    Compilation.ofPlace path (.folder entries) = .error e ↔
      ∃ entry ∈ entries, Path.extension? entry.1 = some "json" ∧
        (∃ cause, entry.2 = .error cause ∧ e = .unreadable (path.join entry.1) cause) ∧
        ∀ other ∈ entries, Path.extension? other.1 = some "json" →
          Path.bytes other.1 < Path.bytes entry.1 → ∃ text, other.2 = .ok text := by
  rw [Compilation.ofPlace_folder]
  constructor
  · intro herror
    rcases readable_or_exists_first (scriptFiles entries) with
      hall | ⟨before, entry, after, cause, hsplit, hbefore, hentry⟩
    · rw [Compilation.foldlM_addFile_of_readable hall] at herror
      cases herror
    · rw [hsplit, Compilation.foldlM_addFile_of_unreadable hbefore hentry, Except.error.injEq]
        at herror
      have hmem : entry ∈ scriptFiles entries := hsplit ▸ List.mem_append_right _ List.mem_cons_self
      obtain ⟨hlisted, hextension⟩ := (mem_scriptFiles h).1 hmem
      have hsorted := pairwise_scriptFiles entries
      rw [hsplit] at hsorted
      refine ⟨entry, hlisted, hextension, ⟨cause, hentry, herror.symm⟩,
        fun other hother hextension' hlt => hbefore other ?_⟩
      exact (mem_before_iff hsorted).2
        ⟨hsplit ▸ (mem_scriptFiles h).2 ⟨hother, hextension'⟩, hlt⟩
  · rintro ⟨entry, hlisted, hextension, ⟨cause, hentry, rfl⟩, hfirst⟩
    obtain ⟨before, after, hsplit, hmem, -, -⟩ := exists_split h hlisted hextension
    rw [hsplit]
    refine Compilation.foldlM_addFile_of_unreadable (fun other hother => ?_) hentry
    obtain ⟨⟨hother, hextension'⟩, hlt⟩ := (hmem other).1 hother
    exact hfirst other hother hextension' hlt

end LoadsInOrder

open Compilation (scriptFiles) in
/-- **Folders load in the order of their names**, however they list their entries: entries that are
no script files are passed over, the first that cannot be read ends the loading, and of the valid
definitions of a name the first is registered and each later one is reported once.

**Proof sketch.** The script files are sorted into a dictionary, which has the entries of the list
in whatever order (`Dictionary.ofList_perm`), and the order of names is that of their bytes
(`Path.bytes_lt_bytes_iff`). A file registers the scenes whose names are free, so the first counts
(`Compilation.get?_foldl_addEntry`), and is reported for those that are taken
(`Compilation.count_foldl_addEntry`). -/
theorem loads_in_order (path : Path) {entries : List (String × Content)}
    (h : (entries.map Prod.fst).Nodup) : LoadsInOrder path entries where
  listing other hperm := by
    have hfiles : scriptFiles other = scriptFiles entries := by
      have hnames : ((entries.filter (Path.isScript ·.1)).map Prod.fst).Nodup :=
        h.sublist (List.filter_sublist.map _)
      rw [scriptFiles, scriptFiles, Dictionary.ofList_perm (hperm.filter _) hnames]
    rw [Compilation.ofPlace_folder, Compilation.ofPlace_folder, hfiles]
  scripts := by
    have hfiles : scriptFiles (entries.filter fun e => Path.extension? e.1 = some "json") =
        scriptFiles entries := by
      rw [scriptFiles, scriptFiles, List.filter_filter]
      congr 2
      refine List.filter_congr fun e _ => ?_
      rw [Bool.eq_iff_iff, Bool.and_eq_true, decide_eq_true_eq, Path.isScript_iff, and_self]
    rw [Compilation.ofPlace_folder, Compilation.ofPlace_folder, hfiles]
  unreadable _ := LoadsInOrder.unreadable_iff h
  registered c hc name scene := by
    obtain ⟨-, rfl⟩ := Compilation.ofPlace_folder_eq_ok_iff.1 hc
    exact LoadsInOrder.registered_iff h
  reported c hc name entry hentry scene hdefines hearlier := by
    obtain ⟨-, rfl⟩ := Compilation.ofPlace_folder_eq_ok_iff.1 hc
    obtain ⟨hextension, hscene⟩ := defines_iff.1 hdefines
    obtain ⟨before, after, hsplit, hmem, hbefore, hafter⟩ :=
      LoadsInOrder.exists_split h hentry hextension
    rw [LoadsInOrder.count_repeated hsplit hbefore hafter]
    exact if_pos ⟨Option.isSome_of_eq_some hscene, (LoadsInOrder.exists_before_iff hmem).2 hearlier⟩
  only c hc file name hmem := by
    obtain ⟨-, rfl⟩ := Compilation.ofPlace_folder_eq_ok_iff.1 hc
    have hcount := List.count_pos_iff.2 hmem
    by_cases hfile : ∃ e ∈ scriptFiles entries,
        some e.1 = file ∧ (entryScene? name e).isSome = true
    · obtain ⟨entry, hentry, rfl, hscene⟩ := hfile
      obtain ⟨hlisted, hextension⟩ := (mem_scriptFiles h).1 hentry
      obtain ⟨before, after, hsplit, hmem, hbefore, hafter⟩ :=
        LoadsInOrder.exists_split h hlisted hextension
      rw [LoadsInOrder.count_repeated hsplit hbefore hafter] at hcount
      split at hcount
      next hboth =>
        obtain ⟨scene, hscene⟩ := Option.isSome_iff_exists.1 hscene
        exact ⟨entry, hlisted, rfl, ⟨scene, defines_iff.2 ⟨hextension, hscene⟩⟩,
          (LoadsInOrder.exists_before_iff hmem).1 hboth.2⟩
      next => exact absurd hcount (Nat.lt_irrefl 0)
    · rw [Compilation.count_foldl_addEntry_of_forall fun e he hboth => hfile ⟨e, he, hboth⟩,
        List.count_eq_zero_of_not_mem Compilation.repeated_not_mem_opening] at hcount
      exact absurd hcount (Nat.lt_irrefl 0)
  passed c hc entry hentry hextension text problem htext hproblem := by
    obtain ⟨-, rfl⟩ := Compilation.ofPlace_folder_eq_ok_iff.1 hc
    obtain ⟨before, after, hsplit, -⟩ := LoadsInOrder.exists_split h hentry hextension
    have hreading : reading? entry = some (.error problem) :=
      reading?_eq_some_iff.2 ⟨text, htext, hproblem⟩
    rw [hsplit, List.foldl_append, List.foldl_cons]
    refine Compilation.mem_diagnostics_foldl_addEntry ?_
    simp only [Compilation.addEntry, hreading]
    exact List.mem_append_right _ List.mem_cons_self

/-- A folder with a note and two script files that define the same scene, not in their order. -/
def drawer : List (String × Content) :=
  [("b.json", .ok (Json.write .compact Repertoire.greetings)), ("notes.txt", .ok ""),
    ("a.json", .ok (Json.write .compact Repertoire.greetings))]

theorem loads_in_order_drawer : (drawer.map Prod.fst).Nodup ∧ LoadsInOrder "scripts" drawer :=
  ⟨by decide, loads_in_order "scripts" (by decide)⟩

end Cutscene
