import Cutscene.Proofs.Json.Fields
import Cutscene.Scene.StepReader
import Cutscene.Script.Draft

set_option relaxedAutoImplicit false
set_option autoImplicit false

/-!
# The fields of a step

What is read of a step, as a draft or of its kind, is told by the values under each of the names,
one name at a time.

## Main definitions

* `Cutscene.Json.Given` — what is given of a field that may be missing: nothing, if it is left out
  or `null`.
* `Cutscene.Json.Marked` — what is given of a flag: false, if it is left out.
* `Cutscene.StepDraft.fieldNames` — the names of the fields of a step draft.
* `Cutscene.StepDraft.ReadFrom` — a step draft holds what is given under the names of its fields.

## Main results

* `Cutscene.StepDraft.read_record_iff` — a step draft is read from a record iff the record is closed
  and legible and the draft holds what is given.
* `Cutscene.Line.read_record_iff`, `Cutscene.Step.single_read_record_iff` — the same of a line and
  of a kind with one field.
-/

namespace Cutscene

open Json (Outline Member Fault Reader Filled Slot Legible valuesOf filled_some_iff)

namespace Json

section Optional

variable {α : Type} {r : Reader α} {o : Outline} {os : List Outline} {x : Option α} {a : α}

/-- What may be missing is there if it is read, -/
lemma eq_ok_of_readOptional (h : readOptional r o = .ok (some a)) : r o = .ok a := by
  unfold readOptional at h
  split at h
  · cases h
  · cases h
  · cases ho : r o with
    | error e => rw [ho] at h; cases h
    | ok b => rw [ho] at h; cases h; rfl

/-- and is missing only where there is `null`. -/
lemma readOptional_eq_none_iff : readOptional r o = .ok none ↔ o = .null := by
  constructor
  · intro h
    unfold readOptional at h
    split at h
    · rfl
    · cases h
    · cases ho : r o <;> rw [ho] at h <;> cases h
  · rintro rfl
    rfl

/-- What is given of a field that may be missing. -/
inductive Given (r : Reader α) : List Outline → Option α → Prop where
  /-- The field is left out. -/
  | absent : Given r [] none
  /-- The field is there, and `null`. -/
  | null : Given r [.null] none
  /-- The field is there, and something is read. -/
  | value {o : Outline} {a : α} (h : readOptional r o = .ok (some a)) : Given r [o] (some a)

/-- Given is what the reader of what may be missing reads, left out or not. -/
lemma given_iff : Given r os x ↔ ∃ y, Filled (readOptional r) none os y ∧ y.join = x := by
  constructor
  · intro h
    cases h with
    | absent => exact ⟨none, .kept none, rfl⟩
    | null => exact ⟨some none, .read rfl, rfl⟩
    | value h => exact ⟨some (some _), .read h, rfl⟩
  · rintro ⟨y, h, rfl⟩
    cases h with
    | kept => exact .absent
    | @read o z h =>
      cases z with
      | none =>
        rw [readOptional_eq_none_iff.1 h]
        exact .null
      | some a => exact .value h

/-- What is given is read of the one value there is. -/
lemma Given.filled (h : Given r os (some a)) : Filled r none os (some a) := by
  cases h with
  | value h => exact .read (eq_ok_of_readOptional h)

/-- Nothing is given iff there is no value but `null`. -/
lemma Given.eq_none_iff (h : Given r os x) : x = none ↔ ∀ o ∈ os, o = .null := by
  cases h with
  | absent => simp
  | null => simp
  | @value o a h =>
    have hne : o ≠ .null := by
      rintro rfl
      cases readOptional_eq_none_iff.2 rfl ▸ h
    simp [hne]

/-- What is given of a flag. -/
def Marked (os : List Outline) (b : Bool) : Prop :=
  ∃ y, Filled readFlag none os y ∧ y.getD false = b

lemma Marked.unique {b b' : Bool} (h : Marked os b) (h' : Marked os b') : b = b' := by
  obtain ⟨y, hy, rfl⟩ := h
  obtain ⟨z, hz, rfl⟩ := h'
  rw [hy.unique hz]

end Optional

end Json

open Json (Given Marked given_iff)

/-! ## Drafts -/

namespace StepDraft

variable {depth : ℕ} {members : List Member} {fault : Option Fault} {d : StepDraft}

/-- The names of the fields of a step draft. -/
def fieldNames : List String := (schema 0).fields.map fun field => field.name

/-- A step draft holds what is given under the names of its fields. -/
structure ReadFrom (depth : ℕ) (members : List Member) (d : StepDraft) : Prop where
  /-- There is a tag. -/
  tag : Filled Json.readString none (valuesOf "type" members) (some d.tag)
  /-- The speaker. -/
  speaker : Given Json.readString (valuesOf "speaker" members) d.speaker
  /-- The text. -/
  text : Given Json.readString (valuesOf "text" members) d.text
  /-- The side. -/
  side : Given (Json.readChoice Side.choices) (valuesOf "align" members) d.side
  /-- The length of a pause. -/
  millis : Given (Json.readCount "u64") (valuesOf "duration" members) d.millis
  /-- The variables. -/
  values : Given (Variables.read (depth + 1)) (valuesOf "values" members) d.values
  /-- The flag for going on. -/
  autoAdvance : Marked (valuesOf "autoAdvance" members) d.autoAdvance
  /-- The flag for being left early. -/
  skippable : Marked (valuesOf "skippable" members) d.skippable

/-- Two drafts that are being read hold the same but for one field. -/
structure SameBut (name : String) (p q : Parts) : Prop where
  /-- The tag. -/
  tag : name ≠ "type" → q.tag = p.tag
  /-- The speaker. -/
  speaker : name ≠ "speaker" → q.speaker = p.speaker
  /-- The text. -/
  text : name ≠ "text" → q.text = p.text
  /-- The side. -/
  side : name ≠ "align" → q.side = p.side
  /-- The length of a pause. -/
  millis : name ≠ "duration" → q.millis = p.millis
  /-- The variables. -/
  values : name ≠ "values" → q.values = p.values
  /-- The flag for going on. -/
  autoAdvance : name ≠ "autoAdvance" → q.autoAdvance = p.autoAdvance
  /-- The flag for being left early. -/
  skippable : name ≠ "skippable" → q.skippable = p.skippable

/-- A field of a step draft changes nothing but what it reads. -/
lemma sameBut_of_read {field : Json.Field Parts} {o : Outline} {p q : Parts}
    (hfield : field ∈ (schema depth).fields) (h : field.read o p = .ok q) :
    SameBut field.name p q := by
  simp only [schema, List.mem_cons, List.not_mem_nil, or_false] at hfield
  rcases hfield with rfl | rfl | rfl | rfl | rfl | rfl | rfl | rfl <;>
  · obtain ⟨a, -, hq⟩ := Json.exists_of_bind_eq_ok h
    cases hq
    constructor <;> simp

section Slots

variable (depth)

lemma slot_tag : Slot (schema depth).fields "type" Parts.tag Json.readString :=
  .of_put (fun a p => { p with tag := some a }) rfl (fun _ => rfl) (fun _ _ => rfl) (fun _ _ => rfl)
    fun _ hfield hname _ _ _ h => (sameBut_of_read hfield h).tag hname

lemma slot_speaker :
    Slot (schema depth).fields "speaker" Parts.speaker (Json.readOptional Json.readString) :=
  .of_put (fun a p => { p with speaker := some a }) rfl (fun _ => rfl) (fun _ _ => rfl)
    (fun _ _ => rfl) fun _ hfield hname _ _ _ h => (sameBut_of_read hfield h).speaker hname

lemma slot_text :
    Slot (schema depth).fields "text" Parts.text (Json.readOptional Json.readString) :=
  .of_put (fun a p => { p with text := some a }) rfl (fun _ => rfl) (fun _ _ => rfl)
    (fun _ _ => rfl) fun _ hfield hname _ _ _ h => (sameBut_of_read hfield h).text hname

lemma slot_side :
    Slot (schema depth).fields "align" Parts.side
      (Json.readOptional (Json.readChoice Side.choices)) :=
  .of_put (fun a p => { p with side := some a }) rfl (fun _ => rfl) (fun _ _ => rfl)
    (fun _ _ => rfl) fun _ hfield hname _ _ _ h => (sameBut_of_read hfield h).side hname

lemma slot_millis :
    Slot (schema depth).fields "duration" Parts.millis
      (Json.readOptional (Json.readCount "u64")) :=
  .of_put (fun a p => { p with millis := some a }) rfl (fun _ => rfl) (fun _ _ => rfl)
    (fun _ _ => rfl) fun _ hfield hname _ _ _ h => (sameBut_of_read hfield h).millis hname

lemma slot_values :
    Slot (schema depth).fields "values" Parts.values
      (Json.readOptional (Variables.read (depth + 1))) :=
  .of_put (fun a p => { p with values := some a }) rfl (fun _ => rfl) (fun _ _ => rfl)
    (fun _ _ => rfl) fun _ hfield hname _ _ _ h => (sameBut_of_read hfield h).values hname

lemma slot_autoAdvance :
    Slot (schema depth).fields "autoAdvance" Parts.autoAdvance Json.readFlag :=
  .of_put (fun a p => { p with autoAdvance := some a }) rfl (fun _ => rfl) (fun _ _ => rfl)
    (fun _ _ => rfl) fun _ hfield hname _ _ _ h => (sameBut_of_read hfield h).autoAdvance hname

lemma slot_skippable : Slot (schema depth).fields "skippable" Parts.skippable Json.readFlag :=
  .of_put (fun a p => { p with skippable := some a }) rfl (fun _ => rfl) (fun _ _ => rfl)
    (fun _ _ => rfl) fun _ hfield hname _ _ _ h => (sameBut_of_read hfield h).skippable hname

end Slots

/-- **What a step draft is read from**: a closed record with names that can be read, where the draft
holds what is given under the names of its fields. -/
theorem read_record_iff : read depth (.record members fault) = .ok d ↔
    fault = none ∧ Legible (schema depth).fields members ∧ d.ReadFrom depth members := by
  rw [read, Json.Schema.read_record_eq_ok_iff]
  refine and_congr_right fun _ => ⟨?_, ?_⟩
  · rintro ⟨p, hp, hd⟩
    obtain ⟨tag, htag, hd⟩ := Json.exists_of_bind_eq_ok hd
    have htag' : p.tag = some tag := by
      cases hp' : p.tag with
      | none => rw [hp'] at htag; cases htag
      | some t => rw [hp'] at htag; cases htag; rfl
    cases hd
    refine ⟨Json.legible_of_readFields hp, ?_⟩
    exact {
      tag := htag' ▸ (slot_tag depth).filled hp
      speaker := given_iff.2 ⟨_, (slot_speaker depth).filled hp, rfl⟩
      text := given_iff.2 ⟨_, (slot_text depth).filled hp, rfl⟩
      side := given_iff.2 ⟨_, (slot_side depth).filled hp, rfl⟩
      millis := given_iff.2 ⟨_, (slot_millis depth).filled hp, rfl⟩
      values := given_iff.2 ⟨_, (slot_values depth).filled hp, rfl⟩
      autoAdvance := ⟨_, (slot_autoAdvance depth).filled hp, rfl⟩
      skippable := ⟨_, (slot_skippable depth).filled hp, rfl⟩ }
  · rintro ⟨hlegible, h⟩
    obtain ⟨speaker, hspeaker, hspeaker'⟩ := given_iff.1 h.speaker
    obtain ⟨text, htext, htext'⟩ := given_iff.1 h.text
    obtain ⟨side, hside, hside'⟩ := given_iff.1 h.side
    obtain ⟨millis, hmillis, hmillis'⟩ := given_iff.1 h.millis
    obtain ⟨values, hvalues, hvalues'⟩ := given_iff.1 h.values
    obtain ⟨autoAdvance, hauto, hauto'⟩ := h.autoAdvance
    obtain ⟨skippable, hskip, hskip'⟩ := h.skippable
    have hfits : ∀ field ∈ (schema depth).fields,
        Json.Fits (schema depth).fields members (schema depth).start field.name := by
      simp only [schema, List.forall_mem_cons]
      exact ⟨(slot_tag depth).fits h.tag, (slot_speaker depth).fits hspeaker,
        (slot_text depth).fits htext, (slot_side depth).fits hside,
        (slot_millis depth).fits hmillis, (slot_values depth).fits hvalues,
        (slot_autoAdvance depth).fits hauto, (slot_skippable depth).fits hskip, nofun⟩
    obtain ⟨p, hp⟩ := Json.exists_readFields hlegible hfits
    refine ⟨p, hp, ?_⟩
    obtain rfl : p = ⟨some d.tag, speaker, text, side, millis, values, autoAdvance, skippable⟩ := by
      obtain ⟨t, sp, te, si, mi, va, au, sk⟩ := p
      congr 1
      · exact ((slot_tag depth).filled hp).unique h.tag
      · exact ((slot_speaker depth).filled hp).unique hspeaker
      · exact ((slot_text depth).filled hp).unique htext
      · exact ((slot_side depth).filled hp).unique hside
      · exact ((slot_millis depth).filled hp).unique hmillis
      · exact ((slot_values depth).filled hp).unique hvalues
      · exact ((slot_autoAdvance depth).filled hp).unique hauto
      · exact ((slot_skippable depth).filled hp).unique hskip
    obtain ⟨tag, _, _, _, _, _, _, _⟩ := d
    simp only at hspeaker' htext' hside' hmillis' hvalues' hauto' hskip'
    subst hspeaker' htext' hside' hmillis' hvalues' hauto' hskip'
    rfl

end StepDraft

/-! ## Kinds of steps -/

namespace Line

variable {r : Reader Side} {members : List Member} {line : Line}

/-- A field of a line changes nothing but what it reads. -/
lemma alone_of_read {field : Json.Field Parts} {o : Outline} {p q : Parts}
    (hfield : field ∈ (schema r).fields) (h : field.read o p = .ok q) :
    (field.name ≠ "speaker" → q.speaker = p.speaker) ∧ (field.name ≠ "text" → q.text = p.text) ∧
      (field.name ≠ "align" → q.side = p.side) := by
  simp only [schema, List.mem_cons, List.not_mem_nil, or_false] at hfield
  rcases hfield with rfl | rfl | rfl <;>
  · obtain ⟨a, -, hq⟩ := Json.exists_of_bind_eq_ok h
    cases hq
    simp

lemma slot_speaker (r : Reader Side) :
    Slot (schema r).fields "speaker" Parts.speaker Json.readString :=
  .of_put (fun a p => { p with speaker := some a }) rfl (fun _ => rfl) (fun _ _ => rfl)
    (fun _ _ => rfl) fun _ hfield hname _ _ _ h => (alone_of_read hfield h).1 hname

lemma slot_text (r : Reader Side) : Slot (schema r).fields "text" Parts.text Json.readString :=
  .of_put (fun a p => { p with text := some a }) rfl (fun _ => rfl) (fun _ _ => rfl)
    (fun _ _ => rfl) fun _ hfield hname _ _ _ h => (alone_of_read hfield h).2.1 hname

lemma slot_side (r : Reader Side) : Slot (schema r).fields "align" Parts.side r :=
  .of_put (fun a p => { p with side := some a }) rfl (fun _ => rfl) (fun _ _ => rfl)
    (fun _ _ => rfl) fun _ hfield hname _ _ _ h => (alone_of_read hfield h).2.2 hname

/-- **What a line is read from**: all three fields have to be there. -/
theorem read_record_iff (hlegible : Legible (schema r).fields members) :
    (schema r).read (.record members none) = .ok line ↔
      Filled Json.readString none (valuesOf "speaker" members) (some line.speaker) ∧
      Filled Json.readString none (valuesOf "text" members) (some line.text) ∧
      Filled r none (valuesOf "align" members) (some line.side) := by
  rw [Json.Schema.read_record_eq_ok_iff, and_iff_right rfl]
  constructor
  · rintro ⟨⟨speaker, text, side⟩, hp, hline⟩
    have hspeaker := (slot_speaker r).filled hp
    have htext := (slot_text r).filled hp
    have hside := (slot_side r).filled hp
    cases speaker <;> cases text <;> cases side <;> cases hline
    exact ⟨hspeaker, htext, hside⟩
  · rintro ⟨hspeaker, htext, hside⟩
    have hfits : ∀ field ∈ (schema r).fields,
        Json.Fits (schema r).fields members (schema r).start field.name := by
      simp only [schema, List.forall_mem_cons]
      exact ⟨(slot_speaker r).fits hspeaker, (slot_text r).fits htext, (slot_side r).fits hside,
        nofun⟩
    obtain ⟨p, hp⟩ := Json.exists_readFields hlegible hfits
    refine ⟨p, hp, ?_⟩
    obtain rfl : p = ⟨some line.speaker, some line.text, some line.side⟩ := by
      obtain ⟨sp, te, si⟩ := p
      congr 1
      · exact ((slot_speaker r).filled hp).unique hspeaker
      · exact ((slot_text r).filled hp).unique htext
      · exact ((slot_side r).filled hp).unique hside
    rfl

end Line

namespace Step

variable {α : Type} {r : Reader α} {title name : String} {members : List Member} {a : α}

lemma slot_single (title name : String) (r : Reader α) :
    Slot (single title name r).fields name id r := by
  have hfind : (single title name r).fields.find? (·.name == name) =
      some ⟨name, Option.isSome, fun o _ => return some (← r o)⟩ := by simp [single]
  refine .of_put (fun a _ => some a) hfind (fun _ => rfl) (fun _ _ => rfl) (fun _ _ => rfl)
    fun field hfield hname => ?_
  obtain rfl := List.mem_singleton.1 hfield
  exact absurd rfl hname

/-- **What a kind with one field is read from**: the field has to be there. -/
theorem single_read_record_iff (hlegible : Legible (single title name r).fields members) :
    (single title name r).read (.record members none) = .ok a ↔
      Filled r none (valuesOf name members) (some a) := by
  rw [Json.Schema.read_record_eq_ok_iff, and_iff_right rfl]
  constructor
  · rintro ⟨p, hp, ha⟩
    have hfilled := (slot_single title name r).filled hp
    cases p with
    | none => cases ha
    | some b => cases ha; exact hfilled
  · intro h
    have hfits : ∀ field ∈ (single title name r).fields,
        Json.Fits (single title name r).fields members (single title name r).start field.name := by
      intro field hfield
      obtain rfl := List.mem_singleton.1 hfield
      exact (slot_single title name r).fits h
    obtain ⟨p, hp⟩ := Json.exists_readFields hlegible hfits
    refine ⟨p, hp, ?_⟩
    obtain rfl : p = some a := ((slot_single title name r).filled hp).unique h
    rfl

end Step

end Cutscene
