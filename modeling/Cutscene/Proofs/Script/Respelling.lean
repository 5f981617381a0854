import Mathlib.Logic.Relation
import Cutscene.Proofs.Json.Changes
import Cutscene.Proofs.Script.Repetitions
import Cutscene.Proofs.Script.StepFields

set_option relaxedAutoImplicit false
set_option autoImplicit false

/-!
# What reading a script pays no attention to

A script can be written in many ways. Blanks between its tokens do not matter, nor how numbers and
texts are spelled, nor the order of the fields of a step. Fields that nobody knows are skipped, and
what belongs to a kind of step may be left out or be `null`, as a flag may be left out or be false.
Whatever of this is changed in a script that is read, and however often, it is read as the same
draft.

## Main definitions

* `Cutscene.StepDraft.idle` — the values of fields that stand for nothing.
* `Cutscene.Draft.Change` — one change to the outline of a script.
* `Cutscene.Draft.Respelled` — any number of changes, made or taken back.
* `Cutscene.Draft.IgnoresSpelling` — what becomes of a text that is read when it is respelled.

## Main results

* `Cutscene.StepDraft.ignores_edit`, `Cutscene.Draft.ignores_edit` — a step and a script are read
  alike when their members are changed.
* `Cutscene.Draft.ignores_spelling` — a script is read alike however it is respelled.
-/

namespace Cutscene

open Json (Outline Member Document Reader Filled Given Marked Legible Edit InRecord InValue InItem
  KeepsForm valuesOf filled_some_iff)

/-! ## Values that stand for nothing -/

namespace Json

section Idle

variable {α : Type} {r : Reader α} {os os' : List Outline} {x : Option α} {b : Bool}

/-- Left out is as good as `null`. -/
lemma given_iff_of_idle
    (h : os.Perm os' ∨ os = [] ∧ os' = [.null]) : Given r os x ↔ Given r os' x := by
  rcases h with hperm | ⟨rfl, rfl⟩
  · simp only [given_iff, filled_iff_of_perm hperm]
  · constructor
    · rintro ⟨⟩
      exact .null
    · intro h
      obtain rfl := (h.eq_none_iff).2 (by simp)
      exact .absent

/-- Left out is as good as false. -/
lemma marked_iff_of_idle
    (h : os.Perm os' ∨ os = [] ∧ os' = [.flag false]) : Marked os b ↔ Marked os' b := by
  rcases h with hperm | ⟨rfl, rfl⟩
  · simp only [Marked, filled_iff_of_perm hperm]
  · have habsent : Marked [] false := ⟨none, .kept none, rfl⟩
    have hoff : Marked [.flag false] false := ⟨some false, .read rfl, rfl⟩
    constructor
    · intro h
      rwa [h.unique habsent]
    · intro h
      rwa [h.unique hoff]

end Idle

end Json

/-! ## Steps -/

namespace StepDraft

variable {depth : ℕ} {members members' : List Member} {d : StepDraft}

/-- The values that stand for nothing: `null` for what belongs to a kind of step, and false for a
flag. -/
def idle : List (String × Outline) :=
  [("speaker", .null), ("text", .null), ("align", .null), ("duration", .null), ("values", .null),
    ("autoAdvance", .flag false), ("skippable", .flag false)]

lemma readFrom_iff : d.ReadFrom depth members ↔
    Filled Json.readString none (valuesOf "type" members) (some d.tag) ∧
    Given Json.readString (valuesOf "speaker" members) d.speaker ∧
    Given Json.readString (valuesOf "text" members) d.text ∧
    Given (Json.readChoice Side.choices) (valuesOf "align" members) d.side ∧
    Given (Json.readCount "u64") (valuesOf "duration" members) d.millis ∧
    Given (Variables.read (depth + 1)) (valuesOf "values" members) d.values ∧
    Marked (valuesOf "autoAdvance" members) d.autoAdvance ∧
    Marked (valuesOf "skippable" members) d.skippable :=
  ⟨fun ⟨h₁, h₂, h₃, h₄, h₅, h₆, h₇, h₈⟩ => ⟨h₁, h₂, h₃, h₄, h₅, h₆, h₇, h₈⟩,
    fun ⟨h₁, h₂, h₃, h₄, h₅, h₆, h₇, h₈⟩ => ⟨h₁, h₂, h₃, h₄, h₅, h₆, h₇, h₈⟩⟩

/-- A change keeps what is given: values that stand for nothing come and go where there is no
other. -/
lemma readFrom_iff_of_edit (h : Edit fieldNames idle members members') :
    d.ReadFrom depth members ↔ d.ReadFrom depth members' := by
  have htag : (valuesOf "type" members).Perm (valuesOf "type" members') :=
    h.values_perm (by decide) (by simp [idle])
  have hnull : ∀ name ∈ ["speaker", "text", "align", "duration", "values"],
      (valuesOf name members).Perm (valuesOf name members') ∨
        valuesOf name members = [] ∧ valuesOf name members' = [.null] := by
    intro name hname
    refine h.values_of_idle ?_ ?_
    · revert name
      decide
    · revert name
      simp [idle]
  have hoff : ∀ name ∈ ["autoAdvance", "skippable"],
      (valuesOf name members).Perm (valuesOf name members') ∨
        valuesOf name members = [] ∧ valuesOf name members' = [.flag false] := by
    intro name hname
    refine h.values_of_idle ?_ ?_
    · revert name
      decide
    · revert name
      simp [idle]
  simp only [readFrom_iff, Json.filled_iff_of_perm htag,
    Json.given_iff_of_idle (hnull "speaker" (by decide)),
    Json.given_iff_of_idle (hnull "text" (by decide)),
    Json.given_iff_of_idle (hnull "align" (by decide)),
    Json.given_iff_of_idle (hnull "duration" (by decide)),
    Json.given_iff_of_idle (hnull "values" (by decide)),
    Json.marked_iff_of_idle (hoff "autoAdvance" (by decide)),
    Json.marked_iff_of_idle (hoff "skippable" (by decide))]

/-- **A step is read alike when its members are changed.** -/
theorem ignores_edit (depth : ℕ) : (read depth).Ignores (InRecord (Edit fieldNames idle)) := by
  rintro _ _ ⟨h⟩ d
  have hnames : (schema depth).fields.map (·.name) = fieldNames := rfl
  have hlegible := h.legible_iff hnames (by decide)
  rw [read_record_iff, read_record_iff, hlegible, readFrom_iff_of_edit h]

/-- A step is read only of what does not break off. -/
lemma thorough_read (depth : ℕ) : (read depth).Thorough := by
  have hvalue : (Value.read (depth + 2)).Thorough := by
    intro o value h
    obtain ⟨v, hv, h⟩ := Json.exists_of_bind_eq_ok h
    replace hv := Json.eq_ok_of_orFault hv
    cases o with
    | null | flag | number | text => rfl
    | list | record =>
      -- What is read of a container is a container, which has no form of a value.
      rw [Outline.value] at hv
      split at hv
      · cases hv
      · obtain ⟨vs, -, hv⟩ := Json.exists_of_bind_eq_ok hv
        obtain ⟨_, -, hv⟩ := Json.exists_of_bind_eq_ok hv
        cases hv
        cases h
    | broken => cases hv
  refine Json.thorough_schema fun field hfield o s s' h => ?_
  simp only [schema, List.mem_cons, List.not_mem_nil, or_false] at hfield
  rcases hfield with rfl | rfl | rfl | rfl | rfl | rfl | rfl | rfl <;>
    obtain ⟨a, ha, -⟩ := Json.exists_of_bind_eq_ok h
  · exact Json.thorough_readString o a ha
  · exact Json.thorough_readOptional Json.thorough_readString o a ha
  · exact Json.thorough_readOptional Json.thorough_readString o a ha
  · exact Json.thorough_readOptional (Json.thorough_readChoice _) o a ha
  · exact Json.thorough_readOptional (Json.thorough_readCount _) o a ha
  · exact Json.thorough_readOptional (Json.thorough_readDictionary hvalue) o a ha
  · exact Json.thorough_readFlag o a ha
  · exact Json.thorough_readFlag o a ha

end StepDraft

/-! ## Scripts -/

namespace Draft

variable {members : List Member} {fault : Option Json.Fault} {d : Draft} {text : String}

/-- **What a draft is read from**: a closed record with names that can be read, and with one record
of scenes. -/
theorem read_record_iff : read (.record members fault) = .ok d ↔
    fault = none ∧ Legible schema.fields members ∧
      Filled (Json.readDictionary (Json.readList (StepDraft.read 3))) none
        (valuesOf "scenes" members) (some d.scenes) := by
  rw [read, Json.Schema.read_record_eq_ok_iff]
  refine and_congr_right fun _ => ⟨?_, ?_⟩
  · rintro ⟨p, hp, hd⟩
    have hfilled := slot_scenes.filled hp
    cases p with
    | none => cases hd
    | some scenes =>
      cases hd
      exact ⟨Json.legible_of_readFields hp, hfilled⟩
  · rintro ⟨hlegible, h⟩
    have hfits : ∀ field ∈ schema.fields,
        Json.Fits schema.fields members schema.start field.name := by
      intro field hfield
      obtain rfl := List.mem_singleton.1 hfield
      exact slot_scenes.fits h
    obtain ⟨p, hp⟩ := Json.exists_readFields hlegible hfits
    refine ⟨p, hp, ?_⟩
    obtain rfl : p = some d.scenes := (slot_scenes.filled hp).unique h
    rfl

/-- A draft is read only of what does not break off. -/
lemma thorough_read : Reader.Thorough read := by
  refine Json.thorough_schema fun field hfield o s s' h => ?_
  obtain rfl := List.mem_singleton.1 hfield
  obtain ⟨a, ha, -⟩ := Json.exists_of_bind_eq_ok h
  exact Json.thorough_readDictionary (Json.thorough_readList (StepDraft.thorough_read 3)) o a ha

/-- **A script is read alike when its members are changed.** -/
theorem ignores_edit : Reader.Ignores read (InRecord (Edit ["scenes"] [])) := by
  rintro _ _ ⟨h⟩ d
  have hscenes := h.values_perm List.mem_cons_self fun _ => List.not_mem_nil
  rw [read_record_iff, read_record_iff, h.legible_iff rfl nofun, Json.filled_iff_of_perm hscenes]

/-- A script is read alike when its scenes are changed in a way that is ignored. -/
lemma ignores_scenes {R : Outline → Outline → Prop}
    (h : Reader.Ignores (Json.readDictionary (Json.readList (StepDraft.read 3))) R) :
    Reader.Ignores read (InValue (· = "scenes") R) := by
  rintro _ _ ⟨rfl, hR⟩ d
  rename_i before after o o'
  have hvalues : ∀ v : Outline, valuesOf "scenes" (before ++ (.ok "scenes", v) :: after) =
      valuesOf "scenes" before ++ v :: valuesOf "scenes" after := by
    intro v
    rw [Json.valuesOf_append, Json.valuesOf_cons_self]
  have hlegible : ∀ v : Outline, Legible schema.fields (before ++ (.ok "scenes", v) :: after) ↔
      Legible schema.fields before ∧ Legible schema.fields after := by
    intro v
    rw [Legible, List.forall_mem_append, List.forall_mem_cons]
    exact and_congr_right' (and_iff_right ⟨"scenes", rfl, nofun⟩)
  simp only [read_record_iff, hvalues, hlegible, Json.filled_middle_iff, h _ _ hR]

/-- One change to the outline of a script: to its own members, or to those of a step. -/
inductive Change : Outline → Outline → Prop where
  /-- The members of the script are changed. -/
  | script {o o' : Outline} (h : InRecord (Edit ["scenes"] []) o o') : Change o o'
  /-- The members of a step are changed, in a list of steps in the record of scenes. -/
  | step {o o' : Outline} (h : InValue (· = "scenes") (InValue (fun _ => True)
      (InItem (InRecord (Edit StepDraft.fieldNames StepDraft.idle)))) o o') : Change o o'

/-- A script is changed any number of times, or changes are taken back. -/
def Respelled : Outline → Outline → Prop := Relation.EqvGen Change

/-- **A script is read alike when it is changed.** -/
theorem ignores_change : Reader.Ignores read Change := by
  rintro o o' (h | h)
  · exact ignores_edit o o' h
  · exact ignores_scenes (Json.ignores_readDictionary (Json.ignores_readList
      (StepDraft.ignores_edit 3))) o o' h

lemma wellFormed_null : Outline.null.WellFormed :=
  Outline.wellFormed_iff.2 (List.forall_mem_singleton.2 ⟨_, .null⟩)

lemma keepsForm_change : KeepsForm Change := by
  have hidle : ∀ e ∈ StepDraft.idle, e.2.WellFormed := by
    have hoff : (Outline.flag false).WellFormed :=
      Outline.wellFormed_iff.2 (List.forall_mem_singleton.2 ⟨_, .no⟩)
    simp [StepDraft.idle, wellFormed_null, hoff]
  rintro o o' (h | h)
  · exact Json.keepsForm_inRecord (fun _ he => absurd he List.not_mem_nil) o o' h
  · exact Json.keepsForm_inValue (Json.keepsForm_inValue (Json.keepsForm_inItem
      (Json.keepsForm_inRecord hidle))) o o' h

/-- **A script is read alike however often it is changed.** -/
theorem ignores_respelled : Reader.Ignores read Respelled := by
  intro o o' h d
  induction h with
  | rel o o' h => exact ignores_change o o' h d
  | refl o => exact Iff.rfl
  | symm o o' _ ih => exact ih.symm
  | trans o o' o'' _ _ ih ih' => exact ih.trans ih'

lemma keepsForm_respelled : KeepsForm Respelled := by
  intro o o' h
  induction h with
  | rel o o' h => exact keepsForm_change o o' h
  | refl o => exact Iff.rfl
  | symm o o' _ ih => exact ih.symm
  | trans o o' o'' _ _ ih ih' => exact ih.trans ih'

/-- What becomes of a text that is read as a draft when it is respelled. -/
structure IgnoresSpelling (text : String) (d : Draft) : Prop where
  /-- The text is a spelling of one outline, and of no other. -/
  spelled : ∃! o : Outline, o.SpelledBy text
  /-- However the outline is changed, there are spellings of it. -/
  writable : ∀ {o o' : Outline}, o.SpelledBy text → Respelled o o' → ∃ text', o'.SpelledBy text'
  /-- All of them are read as the same draft. -/
  same : ∀ {o o' : Outline} {text' : String}, o.SpelledBy text → Respelled o o' →
    o'.SpelledBy text' → ofText text' = .ok d

/-- **A script is read alike however it is respelled.**

**Proof sketch.** What is read does not break off (`Draft.thorough_read`), so the text spells its
outline and nothing else (`Json.Outline.spelledBy_iff`), and a text of another outline is read as
that outline is. One change leaves alone what is given under the names that are read
(`StepDraft.ignores_edit`, `Draft.ignores_edit`), and no number of changes does more. -/
theorem ignores_spelling (h : ofText text = .ok d) : IgnoresSpelling text d := by
  obtain ⟨hread, htrailing⟩ := Json.readText_eq_ok_iff.1 h
  have hspelled : (Document.ofText text).root.SpelledBy text :=
    Outline.spelledBy_iff.2 ⟨by rw [← htrailing], thorough_read _ d hread⟩
  have hroot : ∀ o : Outline, o.SpelledBy text → o = (Document.ofText text).root :=
    fun o ho => (congrArg Document.root (Outline.spelledBy_iff.1 ho).1).symm
  refine ⟨⟨_, hspelled, hroot⟩, fun {o o'} ho hrespelled => ?_,
    fun {o o' text'} ho hrespelled ho' => ?_⟩
  · exact (keepsForm_respelled o o' hrespelled).1 ⟨text, ho⟩
  · have hdocument := (Outline.spelledBy_iff.1 ho').1
    have hread' : read o' = .ok d :=
      (ignores_respelled o o' hrespelled d).1 ((hroot o ho).symm ▸ hread)
    exact Json.readText_eq_ok_iff.2 (by rw [hdocument]; exact ⟨hread', rfl⟩)

/-- The script of one scene with one step. -/
def greetingWith (step : List (String × Json)) : Json :=
  .record [("scenes", .record [("greet", .list [.record step])])]

/-- A step as it is usually written. -/
def greetingStep : List (String × Json) :=
  [("type", .text "DIALOGUE"), ("speaker", .text "ENGINEER"), ("text", .text "hi")]

/-- The step in another order, with a field that nobody knows and two that stand for nothing. -/
def ornateStep : List (String × Json) :=
  [("skippable", .flag false), ("align", .null), ("note", .list [.null]), ("text", .text "hi"),
    ("type", .text "DIALOGUE"), ("speaker", .text "ENGINEER")]

/-- A change to the step is one to the script. -/
lemma change_greetingWith (step step' : List (String × Json))
    (h : Edit StepDraft.fieldNames StepDraft.idle (Json.ofMembers step) (Json.ofMembers step')) :
    Change (.ofValue (greetingWith step)) (.ofValue (greetingWith step')) :=
  .step (@InValue.mk _ _ [] [] "scenes" _ _ rfl
    (@InValue.mk _ _ [] [] "greet" _ _ trivial (@InItem.mk _ [] [] _ _ (.mk h))))

theorem ignores_spelling_greeting : ∃ d,
    ofText (Json.write .compact (greetingWith greetingStep)) = .ok d ∧
      ofText (Json.write .indented (greetingWith ornateStep)) = .ok d ∧
      IgnoresSpelling (Json.write .compact (greetingWith greetingStep)) d := by
  have hspells : ∀ style step, (greetingWith step).numbers = [] →
      Json.Spells (Json.write style (greetingWith step)) (greetingWith step) :=
    fun style step hnone => Json.spells_write style fun n hn => by
      rw [hnone] at hn
      cases hn
  have hplain := hspells .compact greetingStep rfl
  have hornate := hspells .indented ornateStep rfl
  have hread : ofText (Json.write .compact (greetingWith greetingStep)) =
      .ok ⟨.ofList [("greet", [
        ⟨"DIALOGUE", some "ENGINEER", some "hi", none, none, none, false, false⟩])]⟩ :=
    (Json.readText_of_spells hplain _).trans rfl
  have hignores := ignores_spelling hread
  have hnote : (Outline.list [.null] none).WellFormed :=
    Outline.wellFormed_list_iff.2 ⟨List.forall_mem_singleton.2 wellFormed_null, rfl⟩
  have hreorder := change_greetingWith greetingStep (ornateStep.drop 3)
    (.reorder (@List.perm_append_comm _ [_, _] [_]))
  have hunread := change_greetingWith (ornateStep.drop 3) (ornateStep.drop 2)
    (.unread (by decide) hnote)
  have halign := change_greetingWith (ornateStep.drop 2) (ornateStep.drop 1)
    (.idle (by simp [StepDraft.idle, Outline.ofValue]) (by simp [ornateStep, Json.ofMembers]))
  have hskippable := change_greetingWith (ornateStep.drop 1) ornateStep
    (.idle (by simp [StepDraft.idle, Outline.ofValue]) (by simp [ornateStep, Json.ofMembers]))
  have hrespelled : Respelled (.ofValue (greetingWith greetingStep))
      (.ofValue (greetingWith ornateStep)) :=
    .trans _ _ _ (.rel _ _ hreorder) (.trans _ _ _ (.rel _ _ hunread)
      (.trans _ _ _ (.rel _ _ halign) (.rel _ _ hskippable)))
  exact ⟨_, hread, hignores.same (Outline.spelledBy_of_spells hplain) hrespelled
    (Outline.spelledBy_of_spells hornate), hignores⟩

end Draft

end Cutscene
