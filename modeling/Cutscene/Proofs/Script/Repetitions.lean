import Mathlib.Data.List.Basic
import Mathlib.Data.List.Nodup
import Cutscene.Proofs.Json.Fields
import Cutscene.Proofs.Scene.Merging
import Cutscene.Proofs.Script.Definitions
import Cutscene.Script.Loading

set_option relaxedAutoImplicit false
set_option autoImplicit false

/-!
# Scenes that are defined twice

The scenes of a script are the members of one record, and a record may have two members of one name.
They are read into a dictionary, where the later takes the place of the earlier, so the compilation
meets only the last definition of each name: the others are lost, and nothing is said about them.
Between two scripts of a folder nothing is lost that way. There the second definition of a name
meets the first one in the repertoire, and is reported.

## Main definitions

* `Cutscene.Draft.sceneMembers` — the members of the record of scenes, with repetitions.
* `Cutscene.Draft.listing` — the definitions in a script, one for each member.
* `Cutscene.Repertoire.TakesLast` — what becomes of the definitions in a script that is accepted.

## Main results

* `Cutscene.Draft.exists_listing` — a draft that is read holds the definitions that are listed.
* `Cutscene.Compilation.mem_diagnostics_of_repeated` — a second valid definition of a name is
  reported.
* `Cutscene.Repertoire.takes_last` — of the definitions of a name in one script the last counts, and
  in two scripts neither does.
-/

namespace Cutscene

open Json (Outline Member Document Slot Filled valuesOf)

/-! ## The definitions in a script -/

namespace Draft

variable {o : Outline} {members : List Member} {d : Draft}

/-- The members of the record of scenes in a script, in order and with repetitions. A script is a
record with that record as its one field, or the list of its one field. -/
def sceneMembers : Outline → List Member
  | .record members _ =>
    match valuesOf "scenes" members with
    | [.record scenes _] => scenes
    | _ => []
  | .list [.record scenes _] _ => scenes
  | _ => []

/-- The definitions in a script: the name and the steps of each member, in order and with
repetitions. -/
def listing (o : Outline) : Except Json.Problem (List (String × List StepDraft)) :=
  Json.readNamed (Json.readList (StepDraft.read 3)) (sceneMembers o)

lemma slot_scenes :
    Slot schema.fields "scenes" id (Json.readDictionary (Json.readList (StepDraft.read 3))) := by
  refine .of_put (fun a _ => some a) rfl (fun _ => rfl) (fun _ _ => rfl) (fun _ _ => rfl)
    fun field hfield hname => ?_
  obtain rfl := List.mem_singleton.1 hfield
  exact absurd rfl hname

/-- **A draft that is read holds the definitions that are listed**, the last of each name. -/
theorem exists_listing (h : read o = .ok d) :
    ∃ entries, listing o = .ok entries ∧ d.scenes = Dictionary.ofList entries := by
  cases o with
  | record members fault =>
    obtain ⟨-, p, hp, hd⟩ := Json.Schema.read_record_eq_ok_iff.1 h
    have hfilled := slot_scenes.filled hp
    cases p with
    | none => cases hd
    | some scenes =>
      cases hd
      obtain ⟨o, ho, hread⟩ := Json.filled_some_iff.1 hfilled
      obtain ⟨scenes, entries, rfl, hentries, hscenes⟩ := Json.exists_of_readDictionary hread
      refine ⟨entries, ?_, hscenes⟩
      rw [listing, sceneMembers, ho]
      exact hentries
  | list items fault =>
    obtain ⟨p, hp, h⟩ := Json.exists_of_bind_eq_ok h
    obtain ⟨_, -, h⟩ := Json.exists_of_bind_eq_ok h
    match items with
    | [] =>
      cases hp
      cases h
    | [item] =>
      obtain ⟨q, hq, hp⟩ := Json.exists_of_bind_eq_ok hp
      cases hp
      obtain ⟨scenes, hread, hq⟩ := Json.exists_of_bind_eq_ok hq
      cases hq
      cases h
      obtain ⟨members, entries, rfl, hentries, hscenes⟩ := Json.exists_of_readDictionary hread
      exact ⟨entries, hentries, hscenes⟩
    | _ :: _ :: _ =>
      obtain ⟨q, -, hp⟩ := Json.exists_of_bind_eq_ok hp
      cases hp
  | null | flag | number | text | broken => cases h

end Draft

/-! ## Definitions in one draft and in two -/

namespace Compilation

variable {name : String} {scene : Scene} {d : Draft}

/-- There is no error exactly if all definitions are valid and no name is defined in two drafts. -/
lemma hasErrors_ofDrafts_iff (drafts : List (Option String × Draft)) :
    (ofDrafts drafts).hasErrors = false ↔
      (∀ d ∈ definitions drafts, d.Valid) ∧ Apart drafts := by
  rw [hasErrors_eq_false_iff, ofDrafts, addDrafts_eq_foldl, errors_foldl_define,
    sum_faults_eq_zero_iff, pairwise_definitions_iff]

/-- **A second valid definition of a name is reported**, with the file that it is in. -/
theorem mem_diagnostics_of_repeated {drafts : List (Option String × Draft)}
    {before after : List Definition} {d e : Definition}
    (hsplit : definitions drafts = before ++ d :: after) (hd : d.Valid) (he : e ∈ before)
    (hname : e.name = d.name) (hevalid : e.Valid) :
    ⟨.error, d.file, (SceneError.duplicate d.name).message⟩ ∈ (ofDrafts drafts).diagnostics := by
  obtain ⟨steps, hsteps, hclosed⟩ := hd
  have htaken : (before.foldl define empty).repertoire.contains d.name = true :=
    (contains_foldl_define empty before d.name).2 (Or.inr ⟨e, he, hname, hevalid⟩)
  have hbuild : Scene.build d.name steps = .ok ⟨d.name, steps, hclosed⟩ :=
    Scene.build_eq_ok_iff.2 ⟨rfl, rfl⟩
  rw [ofDrafts, addDrafts_eq_foldl, hsplit, List.foldl_append, List.foldl_cons]
  generalize before.foldl define empty = c at htaken
  rw [define_of_compilesTo c d hsteps,
    register_of_contains (c.noteAll (remarks d)) hbuild htaken]
  -- What is said once is not taken back by the definitions that follow.
  obtain ⟨r, notes, hnotes⟩ := foldl_define_append c.repertoire after
  have hlast := congrArg Compilation.diagnostics (hnotes (c.diagnostics ++ remarks d ++
    [⟨.error, d.file, (SceneError.duplicate d.name).message⟩]))
  exact hlast ▸ List.mem_append_left notes (List.mem_append_right _ List.mem_cons_self)

/-- A draft on its own registers what its valid definitions compile to. -/
lemma get?_ofDraft_iff : (ofDraft d).repertoire.get? name = some scene ↔ scene.name = name ∧
    ∃ drafts, d.scenes.get? name = some drafts ∧
      (⟨none, name, drafts⟩ : Definition).CompilesTo scene.steps := by
  refine (get?_ofDrafts_iff [(none, d)] name scene).trans (and_congr_right fun hname => ?_)
  have hdefinitions : definitions [(none, d)] = d.definitions none := List.append_nil _
  rw [hdefinitions]
  constructor
  · rintro ⟨before, e, after, hsplit, rfl, hsteps, -⟩
    have he : e ∈ d.definitions none := by rw [hsplit]; simp
    obtain ⟨entry, hentry, rfl⟩ := List.mem_map.1 he
    exact ⟨entry.2, Dictionary.get?_of_mem hentry, hsteps⟩
  · rintro ⟨drafts, hdrafts, hsteps⟩
    have hentry : (⟨none, name, drafts⟩ : Definition) ∈ d.definitions none :=
      List.mem_map.2 ⟨_, Dictionary.mem_of_lookup hdrafts, rfl⟩
    obtain ⟨before, after, hsplit⟩ := List.append_of_mem hentry
    refine ⟨before, _, after, hsplit, rfl, hsteps, fun e he hsame => ?_⟩
    have hnames := (@pairwise_definitions_iff [(none, d)]).2 (List.pairwise_singleton ..)
    rw [hdefinitions, hsplit, List.pairwise_append] at hnames
    exact absurd hsame (hnames.2.2 e he _ List.mem_cons_self)

/-- Two script files of a folder are compiled in the order of their names, however they are
listed. -/
lemma ofFolder_pair (path : String) {f f' text text' : String} {d' : Draft}
    (hf : Path.isScript f = true) (hf' : Path.isScript f' = true) (hlt : f < f')
    (hd : Draft.ofText text = .ok d) (hd' : Draft.ofText text' = .ok d') :
    ofFolder path [(f, .ok text), (f', .ok text')] = .ok (ofDrafts [(some f, d), (some f', d')]) ∧
    ofFolder path [(f', .ok text'), (f, .ok text)] =
      .ok (ofDrafts [(some f, d), (some f', d')]) := by
  have hgt : ¬f' < f := fun h => String.lt_irrefl _ (String.lt_trans hlt h)
  have hne : f' ≠ f := fun h => String.lt_irrefl _ (h ▸ hlt)
  have hfiles : scriptFiles [(f, .ok text), (f', .ok text')] =
      [(f, .ok text), (f', .ok text')] := by
    simp [scriptFiles, hf, hf', Dictionary.ofList, Dictionary.insertMany, Dictionary.insert,
      Dictionary.put, Dictionary.empty, hgt, hne]
  have hfiles' : scriptFiles [(f', .ok text'), (f, .ok text)] =
      [(f, .ok text), (f', .ok text')] := by
    simp [scriptFiles, hf, hf', Dictionary.ofList, Dictionary.insertMany, Dictionary.insert,
      Dictionary.put, Dictionary.empty, hlt]
  have hboth : [(f, Except.ok text), (f', Except.ok text')].foldlM (addFile path) empty =
      .ok (ofDrafts [(some f, d), (some f', d')]) := by
    simp only [List.foldlM_cons, List.foldlM_nil, addFile, hd, hd']
    rfl
  simp only [ofFolder, hfiles, hfiles']
  exact ⟨hboth, hboth⟩

end Compilation

/-! ## Scripts that are accepted -/

namespace Repertoire

variable {text : String} {r : Repertoire} {d : Draft}

/-- A script is accepted if it is read and compiles without errors. -/
lemma ofText_eq_ok_iff : ofText text = .ok r ↔ ∃ d, Draft.ofText text = .ok d ∧
    (Compilation.ofDraft d).hasErrors = false ∧ r = (Compilation.ofDraft d).repertoire := by
  rw [ofText, Compilation.ofText]
  cases hd : Draft.ofText text with
  | error problem =>
    constructor
    · intro h
      cases h
    · rintro ⟨_, h, -⟩
      cases h
  | ok d =>
    change Compilation.load (.ofDraft d) = _ ↔ _
    rw [Compilation.load, Compilation.finished]
    cases herrors : (Compilation.ofDraft d).hasErrors with
    | true =>
      constructor
      · intro h
        cases h
      · rintro ⟨_, hd', h, -⟩
        cases hd'
        exact Bool.noConfusion (herrors.symm.trans h)
    | false =>
      constructor
      · intro h
        cases h
        exact ⟨d, rfl, herrors, rfl⟩
      · rintro ⟨_, hd', -, rfl⟩
        cases hd'
        rfl

/-- A script that is accepted registers each of the names in its draft. -/
lemma contains_ofDraft_iff (h : (Compilation.ofDraft d).hasErrors = false) (name : String) :
    (Compilation.ofDraft d).repertoire.contains name = true ↔ d.scenes.contains name = true := by
  rw [contains, Dictionary.contains, Dictionary.contains, Option.isSome_iff_exists,
    Option.isSome_iff_exists]
  constructor
  · rintro ⟨scene, hscene⟩
    obtain ⟨-, drafts, hdrafts, -⟩ := Compilation.get?_ofDraft_iff.1 hscene
    exact ⟨drafts, hdrafts⟩
  · rintro ⟨drafts, hdrafts⟩
    obtain ⟨hvalid, -⟩ := (Compilation.hasErrors_ofDrafts_iff [(none, d)]).1 h
    have hentry : (⟨none, name, drafts⟩ : Definition) ∈ definitions [(none, d)] :=
      List.mem_flatMap.2 ⟨(none, d), List.mem_cons_self,
        List.mem_map.2 ⟨_, Dictionary.mem_of_lookup hdrafts, rfl⟩⟩
    obtain ⟨steps, hsteps, hclosed⟩ := hvalid _ hentry
    exact ⟨⟨name, steps, hclosed⟩, Compilation.get?_ofDraft_iff.2 ⟨rfl, drafts, hdrafts, hsteps⟩⟩

/-- What is registered of a draft is a valid definition in any file. -/
lemma exists_valid_of_contains {name : String}
    (h : (Compilation.ofDraft d).repertoire.contains name = true) (file : Option String) :
    ∃ e ∈ d.definitions file, e.name = name ∧ e.file = file ∧ e.Valid := by
  obtain ⟨scene, hscene⟩ := Option.isSome_iff_exists.1 h
  obtain ⟨-, drafts, hdrafts, hsteps⟩ := Compilation.get?_ofDraft_iff.1 hscene
  exact ⟨⟨file, name, drafts⟩, List.mem_map.2 ⟨_, Dictionary.mem_of_lookup hdrafts, rfl⟩, rfl, rfl,
    scene.steps, hsteps, scene.closed⟩

/-- A name that two drafts register is reported with the file of the second. -/
lemma reported_of_contains {d' : Draft} {name : String} (f f' : Option String)
    (h : (Compilation.ofDraft d).repertoire.contains name = true)
    (h' : (Compilation.ofDraft d').repertoire.contains name = true) :
    ⟨.error, f', (SceneError.duplicate name).message⟩ ∈
      (Compilation.ofDrafts [(f, d), (f', d')]).diagnostics := by
  obtain ⟨e, he, hename, -, hevalid⟩ := exists_valid_of_contains h f
  obtain ⟨e', he', rfl, rfl, hevalid'⟩ := exists_valid_of_contains h' f'
  obtain ⟨before, after, hsplit⟩ := List.append_of_mem he'
  have hdefinitions : definitions [(f, d), (e'.file, d')] =
      (d.definitions f ++ before) ++ e' :: after := by
    simp [definitions, hsplit]
  exact Compilation.mem_diagnostics_of_repeated hdefinitions hevalid'
    (List.mem_append_left before he) hename hevalid

/-- What is registered under a name of a list of definitions is the last one of the name. -/
lemma get?_ofDraft_ofList_iff {entries : List (String × List StepDraft)} {name : String}
    {scene : Scene} (h : d.scenes = .ofList entries) :
    (Compilation.ofDraft d).repertoire.get? name = some scene ↔ scene.name = name ∧
      ∃ before drafts after, entries = before ++ (name, drafts) :: after ∧
        (∀ e ∈ after, e.1 ≠ name) ∧
        (⟨none, name, drafts⟩ : Definition).CompilesTo scene.steps := by
  rw [Compilation.get?_ofDraft_iff, h]
  simp only [Dictionary.get?_ofList_eq_some_iff]
  refine and_congr_right fun _ => ⟨?_, ?_⟩
  · rintro ⟨drafts, ⟨before, after, hsplit, hafter⟩, hsteps⟩
    exact ⟨before, drafts, after, hsplit, hafter, hsteps⟩
  · rintro ⟨before, drafts, after, hsplit, hafter, hsteps⟩
    exact ⟨drafts, ⟨before, after, hsplit, hafter⟩, hsteps⟩

/-- What becomes of the definitions in a script that is accepted. -/
structure TakesLast (text : String) (entries : List (String × List StepDraft)) (r : Repertoire) :
    Prop where
  /-- These are the definitions in the script, with repetitions. -/
  listed : Draft.listing (Document.ofText text).root = .ok entries
  /-- Their names are registered. -/
  contains_iff : ∀ name, r.contains name = true ↔ name ∈ entries.map Prod.fst
  /-- The scene of a name is what the last definition of the name compiles to. -/
  get?_iff : ∀ name scene, r.get? name = some scene ↔ scene.name = name ∧
    ∃ before drafts after, entries = before ++ (name, drafts) :: after ∧
      (∀ e ∈ after, e.1 ≠ name) ∧ (⟨none, name, drafts⟩ : Definition).CompilesTo scene.steps
  /-- Where no name is repeated, each definition is that of a scene. -/
  registered : (entries.map Prod.fst).Nodup → ∀ e ∈ entries, ∃ scene, r.get? e.1 = some scene ∧
    (⟨none, e.1, e.2⟩ : Definition).CompilesTo scene.steps
  /-- There are as many scenes as definitions exactly if no name is repeated; otherwise there are
  fewer. -/
  size : r.size ≤ entries.length ∧ (r.size = entries.length ↔ (entries.map Prod.fst).Nodup)
  /-- A definition that is followed by one of its name leaves no trace: the compilation of the
  script is that of the others, with nothing said about it. -/
  silent : ∀ before e after, entries = before ++ e :: after → (∃ e' ∈ after, e'.1 = e.1) →
    Compilation.ofText text = .ok (.ofDraft ⟨.ofList (before ++ after)⟩)
  /-- In a folder with a second script that is accepted by itself, a name that both define is
  reported with the file that comes later. -/
  reported : ∀ (path f f' text' : String) (r' : Repertoire) (name : String),
    Path.isScript f = true → Path.isScript f' = true → f < f' → ofText text' = .ok r' →
    r.contains name = true → r'.contains name = true →
    ∃ c, Compilation.ofFolder path [(f, .ok text), (f', .ok text')] = .ok c ∧
      Compilation.ofFolder path [(f', .ok text'), (f, .ok text)] = .ok c ∧ c.hasErrors = true ∧
      ⟨.error, some f', (SceneError.duplicate name).message⟩ ∈ c.diagnostics

/-- **Of the definitions of a name in one script the last counts**, and no other is mentioned. In
two scripts of a folder neither does: the name is reported.

**Proof sketch.** The members of the record of scenes are written into a dictionary one by one
(`Draft.exists_listing`), and the compilation is told from the dictionary, in which the last value
of each key is found (`Dictionary.get?_ofList`). Of two dictionaries the second meets the names of
the first in the repertoire (`Compilation.mem_diagnostics_of_repeated`). -/
theorem takes_last (h : ofText text = .ok r) : ∃ entries, TakesLast text entries r := by
  obtain ⟨d, hd, herrors, rfl⟩ := ofText_eq_ok_iff.1 h
  obtain ⟨hroot, -⟩ := Json.readText_eq_ok_iff.1 hd
  obtain ⟨entries, hlisted, hscenes⟩ := Draft.exists_listing hroot
  have hcontains : ∀ name, (Compilation.ofDraft d).repertoire.contains name = true ↔
      name ∈ entries.map Prod.fst := fun name => by
    rw [contains_ofDraft_iff herrors, hscenes, Dictionary.contains_ofList_iff]
  have hsize : (Compilation.ofDraft d).repertoire.size = (Dictionary.ofList entries).size :=
    Dictionary.size_eq_of_contains fun name =>
      (hcontains name).trans Dictionary.contains_ofList_iff.symm
  refine ⟨entries, hlisted, hcontains, fun name scene => get?_ofDraft_ofList_iff hscenes, ?_,
    hsize ▸ Dictionary.size_ofList entries, ?_, ?_⟩
  · intro hnodup e he
    obtain ⟨before, after, rfl⟩ := List.append_of_mem he
    obtain ⟨scene, hscene⟩ := Option.isSome_iff_exists.1
      ((hcontains e.1).2 (List.mem_map_of_mem he))
    obtain ⟨-, before', drafts, after', hsplit, hafter', hsteps⟩ :=
      (get?_ofDraft_ofList_iff hscenes).1 hscene
    -- With its name only once in the list, the last definition is this one.
    have hmem : (e.1, drafts) ∈ before ++ e :: after := by rw [hsplit]; simp
    have hsame : (e.1, drafts) = e := List.inj_on_of_nodup_map hnodup hmem he rfl
    exact ⟨scene, hscene, by rwa [← congrArg Prod.snd hsame]⟩
  · intro before e after hsplit hlater
    rw [← Dictionary.ofList_erase hlater, ← hsplit, ← hscenes, Compilation.ofText, hd]
  · intro path f f' text' r' name hf hf' hlt h' hname hname'
    obtain ⟨d', hd', -, rfl⟩ := ofText_eq_ok_iff.1 h'
    obtain ⟨hfirst, hsecond⟩ := Compilation.ofFolder_pair path hf hf' hlt hd hd'
    have hreported := reported_of_contains (some f) (some f') hname hname'
    exact ⟨_, hfirst, hsecond, List.any_eq_true.2 ⟨_, hreported, rfl⟩, hreported⟩

/-- A script in which a greeting is defined twice, first with two steps and then with one. -/
def greetings : Json :=
  .record [("scenes", .record [
    ("greet", .list [.record [("type", .text "RESET")], .record [("type", .text "COMPLETE")]]),
    ("greet", .list [.record [("type", .text "COMPLETE")]])])]

theorem takes_last_greetings : ∃ entries r,
    ofText (Json.write .compact greetings) = .ok r ∧ r.size = 1 ∧ entries.length = 2 ∧
      TakesLast (Json.write .compact greetings) entries r := by
  have hspells : Json.Spells (Json.write .compact greetings) greetings :=
    Json.spells_write .compact fun n hn => absurd hn List.not_mem_nil
  have hroot : (Document.ofText (Json.write .compact greetings)).root = .ofValue greetings :=
    congrArg Document.root (Json.ofText_of_spells hspells)
  have hd : Draft.ofText (Json.write .compact greetings) =
      .ok ⟨.ofList [("greet", [⟨"RESET", none, none, none, none, none, false, false⟩,
        ⟨"COMPLETE", none, none, none, none, none, false, false⟩]),
        ("greet", [⟨"COMPLETE", none, none, none, none, none, false, false⟩])]⟩ :=
    (Json.readText_of_spells hspells _).trans rfl
  have hr := ofText_eq_ok_iff.2 ⟨_, hd, rfl, rfl⟩
  obtain ⟨entries, hentries⟩ := takes_last hr
  have hlisted := hentries.listed
  rw [hroot] at hlisted
  cases hlisted
  exact ⟨_, _, hr, rfl, rfl, hentries⟩

end Repertoire

end Cutscene
