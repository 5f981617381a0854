import Cutscene.Proofs.Scene.Admission
import Cutscene.Proofs.Script.Steps
import Cutscene.Script.Loading

set_option relaxedAutoImplicit false
set_option autoImplicit false

/-!
# Scenes as scripts

A scene is shown in the form that scripts have: put under its name, its steps are a script, which
loads as that scene and nothing else.

## Main definitions

* `Cutscene.Scene.draft`, `Cutscene.Scene.script` — the script of a scene, as a draft and in JSON.
* `Cutscene.Scene.spliced` — the text of the steps, cut out of the text of the scene and put under
  its name.
* `Cutscene.Scene.IsSource` — the text of a scene is a script of it.

## Main results

* `Cutscene.Compilation.addScene_drafts` — the drafts of a scene's steps compile to the scene.
* `Cutscene.Repertoire.ofText_of_spells` — a text that spells the script of a scene loads as it.
* `Cutscene.Scene.is_source` — scenes are valid scripts.
-/

namespace Cutscene

open Json (Style)

/-! ## Scripts of scenes -/

namespace Scene

/-- The floats among the values that a scene writes. -/
def floats (scene : Scene) : List Float := scene.steps.flatMap Step.floats

/-- The draft that holds the steps of a scene under its name, and nothing else. -/
def draft (scene : Scene) : Draft :=
  ⟨Dictionary.empty.insert scene.name (scene.steps.map Step.draft)⟩

/-- The script that holds the steps of a scene under its name, in JSON. -/
def script (scene : Scene) : Json :=
  .record [("scenes", .record [(scene.name, .list (scene.steps.map Step.toJson))])]

lemma toJson_draft (scene : Scene) : scene.draft.toJson = scene.script := by
  have hsteps : (scene.steps.map Step.draft).map StepDraft.toJson =
      scene.steps.map Step.toJson := by
    rw [List.map_map]
    exact List.map_congr_left fun s _ => s.toJson_draft
  simp only [Draft.toJson, draft, script, Dictionary.insert, Dictionary.empty, Dictionary.put,
    List.map_cons, List.map_nil, hsteps]

lemma floats_draft (scene : Scene) : scene.draft.floats = scene.floats := by
  have hsteps : (scene.steps.map Step.draft).flatMap StepDraft.floats = scene.floats := by
    rw [List.flatMap_map]
    exact congrArg (scene.steps.flatMap ·) (funext Step.floats_draft)
  simp only [Draft.floats, draft, Dictionary.insert, Dictionary.empty, Dictionary.put,
    List.flatMap_cons, List.flatMap_nil, List.append_nil, hsteps]

end Scene

/-! ## Loading -/

namespace Compilation

/-- What is said about a step that compiles is no error. -/
lemma isError_stepDiagnostic {file : Option String} {name : String} {index : ℕ} {s : Step}
    {d : Diagnostic} (h : stepDiagnostic file name index (.ok s) = some d) : d.isError = false := by
  obtain ⟨oddity, -, rfl⟩ := Option.map_eq_some_iff.1 h
  rfl

lemma mapM_toOption_ok {α ε : Type} (l : List α) :
    (l.map (Except.ok (ε := ε))).mapM Except.toOption = some l := by
  induction l with
  | nil => rfl
  | cons a l ih =>
    rw [List.map_cons, List.mapM_cons, ih]
    rfl

section Scenes

variable {c : Compilation} {scene : Scene}

/-- A scene whose name is free is registered. -/
lemma register_steps (h : c.repertoire.contains scene.name = false) (file : Option String) :
    c.register file scene.name scene.steps = { c with repertoire := c.repertoire.add scene } := by
  have hinsert : Scene.build scene.name scene.steps >>= c.repertoire.insert =
      .ok (c.repertoire.add scene) := by
    rw [scene.build_steps]
    exact if_neg (by simp [h])
  rw [register, hinsert]

/-- The steps of a scene compile to it, without errors.

**Proof sketch.** Each step compiles to the one it is the draft of, so whatever is said about the
steps is a warning; together they are the steps of a scene. -/
theorem addScene_drafts (h : c.repertoire.contains scene.name = false) (file : Option String) :
    (c.addScene file scene.name (scene.steps.map Step.draft)).repertoire = c.repertoire.add scene ∧
      (c.addScene file scene.name (scene.steps.map Step.draft)).hasErrors = c.hasErrors := by
  have hcompiled : (scene.steps.map Step.draft).mapIdx (StepDraft.compile scene.name) =
      scene.steps.map Except.ok := by
    refine List.ext_getElem (by simp) fun i hi hi' => ?_
    simp [Step.compile_draft]
  have hnotes : (((scene.steps.map (Except.ok (ε := StepError))).mapIdx
      (stepDiagnostic file scene.name)).filterMap id).any Diagnostic.isError = false := by
    rw [List.any_eq_false]
    intro d hd
    obtain ⟨note, hnote, hd⟩ := List.mem_filterMap.1 hd
    obtain ⟨i, hi, rfl⟩ := List.mem_mapIdx.1 hnote
    rw [List.getElem_map] at hd
    rw [isError_stepDiagnostic hd]
    exact Bool.false_ne_true
  simp only [addScene, hcompiled, mapM_toOption_ok]
  rw [register_steps (c := ⟨c.repertoire, c.diagnostics ++ _⟩) h]
  refine ⟨rfl, ?_⟩
  simp only [hasErrors, List.any_append, hnotes, Bool.or_false]

/-- The draft of a scene compiles to the scene alone, without errors. -/
lemma ofDraft_draft (scene : Scene) :
    (ofDraft scene.draft).repertoire = Repertoire.empty.add scene ∧
      (ofDraft scene.draft).hasErrors = false :=
  addScene_drafts (c := empty) rfl none

end Scenes

end Compilation

/-- **A text that spells the script of a scene loads as the scene alone.** -/
theorem Repertoire.ofText_of_spells {text : String} {scene : Scene}
    (h : Json.Spells text scene.script) : ofText text = .ok (empty.add scene) := by
  rw [← scene.toJson_draft] at h
  obtain ⟨hrepertoire, herrors⟩ := Compilation.ofDraft_draft scene
  rw [ofText, Compilation.ofText, Draft.ofText_of_spells h]
  change (Compilation.ofDraft scene.draft).load = _
  rw [Compilation.load, Compilation.finished, herrors, hrepertoire]
  rfl

/-! ## The text of a scene as a script -/

namespace Scene

/-- The text of the steps, as it stands in the text of the scene. -/
def stepsChars (style : Style) (scene : Scene) : List Char :=
  (Json.list (scene.steps.map Step.toJson)).chars style 1

/-- The text of the steps, put under the name of the scene. -/
def spliced (style : Style) (scene : Scene) : String :=
  String.ofList ('\x7b' :: Json.textChars "scenes" ++ ':' :: '\x7b' :: Json.textChars scene.name ++
    ':' :: scene.stepsChars style ++ ['\x7d', '\x7d'])

/-- The text of a scene is a script of it. -/
structure IsSource (scene : Scene) : Prop where
  /-- The text of the scene holds the text of the steps. -/
  shown : ∀ style, scene.stepsChars style <:+: scene.toJson.chars style 0
  /-- Put under the name of the scene, the text of the steps loads as the scene alone. -/
  spliced : ∀ style, Repertoire.ofText (scene.spliced style) = .ok (Repertoire.empty.add scene)
  /-- So does the script of the scene, on one line or over many. -/
  written : ∀ style, Repertoire.ofText (Json.write style scene.script) =
    .ok (Repertoire.empty.add scene)
  /-- There is no other scene then. -/
  alone : (Repertoire.empty.add scene).toList = [scene]
  /-- Each item of the steps is read as the step by itself, however far it is indented. -/
  items : ∀ step ∈ scene.steps, ∀ style depth,
    Json.readText Step.read (String.ofList (step.toJson.chars style depth)) = .ok step

variable {scene : Scene}

lemma isInfix_stepsChars (style : Style) (scene : Scene) :
    scene.stepsChars style <:+: scene.toJson.chars style 0 := by
  refine ⟨'\x7b' :: style.gap 1 ++ Json.textChars "name" ++ style.afterName ++
    Json.textChars scene.name ++ ',' :: style.gap 1 ++ Json.textChars "steps" ++ style.afterName,
    style.gap 0 ++ ['\x7d'], ?_⟩
  simp [stepsChars, toJson, Json.chars, Json.membersChars]

/-- The text that is put together has the tokens of the script. -/
lemma spells_spliced {style : Style} (h : scene.script.ReadsBack) :
    Json.Spells (scene.spliced style) scene.script := by
  have hsteps : (Json.list (scene.steps.map Step.toJson)).ReadsBack := by
    intro n hn
    exact h n (by simpa [script, Json.numbers, Json.membersNumbers] using hn)
  have hopen : ∀ cs, Json.tokens ('\x7b' :: cs) = .recordOpen :: Json.tokens cs :=
    fun cs => Json.tokens_cons rfl cs
  have hcolon : ∀ cs, Json.tokens (':' :: cs) = .colon :: Json.tokens cs :=
    fun cs => Json.tokens_cons rfl cs
  have hclose : ∀ cs, Json.tokens ('\x7d' :: cs) = .recordClose :: Json.tokens cs :=
    fun cs => Json.tokens_cons rfl cs
  have htokens : Json.tokens ((Json.list (scene.steps.map Step.toJson)).chars style 1 ++
      ['\x7d', '\x7d']) = _ := Json.tokens_chars style 1 _ hsteps (Json.endsNumber_cons rfl)
  rw [Json.Spells, spliced, String.toList_ofList, stepsChars]
  simp only [List.cons_append, List.append_assoc]
  rw [hopen, Json.tokens_textChars, hcolon, hopen, Json.tokens_textChars, hcolon, htokens, hclose,
    hclose]
  simp [script, Json.toTokens, Json.membersTokens, Json.tokens]

/-- **Scenes are valid scripts.** -/
theorem is_source (scene : Scene) (hfloats : ∀ x ∈ scene.floats, (Json.Number.real x).ReadsBack) :
    scene.IsSource := by
  have hscript : scene.script.ReadsBack := by
    rw [← scene.toJson_draft]
    refine Draft.readsBack_toJson ?_
    rwa [scene.floats_draft]
  refine ⟨fun style => isInfix_stepsChars style scene, fun style => ?_, fun style => ?_, rfl, ?_⟩
  · exact Repertoire.ofText_of_spells (spells_spliced hscript)
  · exact Repertoire.ofText_of_spells (Json.spells_write style hscript)
  · intro step hstep style depth
    have hnumbers : step.toJson.ReadsBack :=
      Step.readsBack_toJson fun x hx => hfloats x (List.mem_flatMap.2 ⟨step, hstep, hx⟩)
    rw [Json.readText_of_spells (Json.spells_chars style depth hnumbers), step.read_toJson]

/-- A scene whose texts need escapes, with a count and values at their limits. -/
def overture : Scene where
  name := "over\"ture"
  steps := [⟨.say ⟨"Q\\", "a\tb\u0001", .right⟩, true, false⟩,
    ⟨.pause 18446744073709551615, false, true⟩,
    ⟨.assign (.ofList [("half", .real 1.5), ("least", .whole Int64.minValue), ("on", .flag true),
      ("word", .text "1")]), true, false⟩, ⟨.complete, false, false⟩]
  closed := by
    refine ⟨[⟨.say ⟨"Q\\", "a\tb\u0001", .right⟩, true, false⟩,
      ⟨.pause 18446744073709551615, false, true⟩,
      ⟨.assign (.ofList [("half", .real 1.5), ("least", .whole Int64.minValue), ("on", .flag true),
        ("word", .text "1")]), true, false⟩], ⟨.complete, false, false⟩, rfl, rfl, ?_⟩
    simp [Step.isComplete, Step.kind, Action.kind]

/-- The text of that scene is a script of it. -/
theorem is_source_overture : overture.IsSource := by
  have hfloats : overture.floats = [1.5] := by decide +kernel
  refine is_source overture fun x hx => ?_
  rw [hfloats] at hx
  rw [List.mem_singleton.1 hx]
  exact Json.readsBack_half

end Scene

end Cutscene
