import Cutscene.Proofs.Json.Finite
import Cutscene.Proofs.Script.Drafts

set_option relaxedAutoImplicit false
set_option autoImplicit false

/-!
# Drafts come back

Whatever a draft holds, its text on one line or over many is read as the draft again: every string
with its quotes and control characters, every tag, also one that no step has, fields that are left
out, counts and whole numbers up to their limits. The one thing taken for granted is that the
decimals that floats are written as are read as the same floats.

A draft that has been read has only finite floats in it, so all that can be read can be written and
read again.

## Main definitions

* `Cutscene.Draft.RoundTrips` — reading undoes writing, for a draft and after any text.

## Main results

* `Cutscene.Draft.isFinite_of_ofText` — the floats in a draft that has been read are finite.
* `Cutscene.Draft.round_trips` — drafts come back.
-/

namespace Cutscene

open Json (Outline)

/-! ## What is read is finite -/

/-- The values that are read are finite. -/
lemma Value.yields_read (depth : ℕ) :
    Json.Reader.Yields Json.Number.IsFinite (read depth) fun v => ∀ x ∈ v.float?,
      x.isFinite = true := by
  intro o v hdraws hread
  obtain ⟨json, hjson, hread⟩ := Json.exists_of_bind_eq_ok hread
  cases json with
  | null | list | record => cases hread
  | flag | text =>
    cases hread
    exact nofun
  | number n =>
    rw [Json.eq_number_of_value (Json.eq_ok_of_orFault hjson), Json.draws_number] at hdraws
    cases n with
    | real x =>
      cases hread
      intro y hy
      cases hy
      exact hdraws
    | whole n =>
      cases hread
      unfold ofInt
      split
      · exact nofun
      split
      · intro y hy
        cases hy
        exact Decimal.isFinite_neg (Decimal.isFinite_toFloat _)
      · intro y hy
        cases hy
        exact Decimal.isFinite_toFloat _

/-- The variables that are read are finite. -/
lemma Variables.yields_read (depth : ℕ) :
    Json.Reader.Yields Json.Number.IsFinite (read depth) fun vars => ∀ x ∈ vars.floats,
      x.isFinite = true := by
  intro o vars hdraws hread x hx
  obtain ⟨e, he, hfloat⟩ := List.mem_filterMap.1 hx
  exact Json.yields_readDictionary (Value.yields_read (depth + 1)) o vars hdraws hread e he x hfloat

/-- The floats in a step draft that is read are finite. -/
lemma StepDraft.yields_read (depth : ℕ) :
    Json.Reader.Yields Json.Number.IsFinite (read depth) fun d => ∀ x ∈ d.floats,
      x.isFinite = true := by
  refine Json.yields_schema (I := fun parts => ∀ vars, parts.values.join = some vars →
    ∀ x ∈ vars.floats, x.isFinite = true) nofun ?_ ?_
  · intro field hfield o s s' hdraws hs hread
    simp only [schema, List.mem_cons, List.not_mem_nil, or_false] at hfield
    rcases hfield with rfl | rfl | rfl | rfl | rfl | rfl | rfl | rfl
    -- Only the field of the values writes what the invariant speaks of.
    case inr.inr.inr.inr.inr.inl =>
      obtain ⟨vars, hvars, hread⟩ := Json.exists_of_bind_eq_ok hread
      cases hread
      exact fun vars' hvars' => Json.yields_readOptional (Variables.yields_read (depth + 1)) o vars
        hdraws hvars vars' hvars'
    all_goals
      obtain ⟨a, -, hread⟩ := Json.exists_of_bind_eq_ok hread
      cases hread
      exact hs
  · intro missing s d hs hfinish
    obtain ⟨tag, -, hfinish⟩ := Json.exists_of_bind_eq_ok hfinish
    cases hfinish
    intro x hx
    cases hvalues : s.values.join with
    | none => simp [floats, hvalues] at hx
    | some vars =>
      rw [floats, hvalues] at hx
      exact hs vars hvalues x hx

namespace Draft

/-- **The floats in a draft that has been read are finite.** -/
theorem isFinite_of_ofText {text : String} {d : Draft} (h : ofText text = .ok d) :
    ∀ x ∈ d.floats, x.isFinite = true := by
  refine Json.yields_readText (Q := fun d => ∀ x ∈ floats d, x.isFinite = true) ?_ h
  refine Json.yields_schema (I := fun scenes => ∀ steps, scenes = some steps →
    ∀ e ∈ steps.entries, ∀ step ∈ e.2, ∀ x ∈ step.floats, x.isFinite = true) nofun ?_ ?_
  · intro field hfield o s s' hdraws hs hread
    cases List.mem_singleton.1 hfield
    obtain ⟨scenes, hscenes, hread⟩ := Json.exists_of_bind_eq_ok hread
    cases hread
    intro steps hsteps
    cases hsteps
    exact Json.yields_readDictionary (Json.yields_readList (StepDraft.yields_read 3)) o scenes
      hdraws hscenes
  · intro missing s d hs hfinish x hx
    obtain ⟨scenes, hscenes, hfinish⟩ := Json.exists_of_bind_eq_ok hfinish
    cases hfinish
    obtain ⟨e, he, hx⟩ := List.mem_flatMap.1 hx
    obtain ⟨step, hstep, hx⟩ := List.mem_flatMap.1 hx
    cases s with
    | none => cases hscenes
    | some steps =>
      cases hscenes
      exact hs scenes rfl e he step hstep x hx

/-! ## Round trips -/

/-- Reading undoes writing: for the draft itself, and after any text that is read as it. -/
structure RoundTrips (d : Draft) : Prop where
  /-- The text of the draft, on one line or over many, is read as the draft. -/
  written : (∀ x ∈ d.floats, x.isFinite = true) →
    ∀ style, ofText (Json.write style d.toJson) = .ok d
  /-- What a text has been read as is written and read again as the same. -/
  rewritten : ∀ source, ofText source = .ok d →
    ∀ style, ofText (Json.write style d.toJson) = .ok d

/-- **Drafts come back.**

**Proof sketch.** The numbers in the text are counts, whole numbers and floats: the first two read
back by their digits, the floats as is taken for granted. So the text spells the draft, and what
spells a draft is read as it. After a text the floats are finite to begin with. -/
theorem round_trips (d : Draft)
    (hfloats : ∀ x ∈ d.floats, x.isFinite = true → (Json.Number.real x).ReadsBack) :
    d.RoundTrips := by
  have hwritten : (∀ x ∈ d.floats, x.isFinite = true) →
      ∀ style, ofText (Json.write style d.toJson) = .ok d := by
    intro hfinite style
    have hnumbers : d.toJson.ReadsBack := readsBack_toJson fun x hx => hfloats x hx (hfinite x hx)
    exact ofText_of_spells (Json.spells_write style hnumbers)
  exact ⟨hwritten, fun source hsource => hwritten (isFinite_of_ofText hsource)⟩

/-- A draft with a line, with a tag that no step has, and with values of every kind. -/
def sketch : Draft where
  scenes := .ofList [("odd", [⟨"WAVE", none, none, none, none, some (.ofList [("half", .real 1.5),
      ("least", .whole Int64.minValue), ("one", .whole 1), ("on", .flag true)]), false, true⟩]),
    ("quote", [⟨"DIALOGUE", some "\"Q\"", some "a\tb\u0001", some .right, some 18446744073709551615,
      none, true, false⟩])]

/-- The sketch comes back on one line. -/
theorem round_trips_sketch :
    sketch.RoundTrips ∧ ofText (Json.write .compact sketch.toJson) = .ok sketch := by
  have hfloats : sketch.floats = [1.5] := by decide +kernel
  have hround : sketch.RoundTrips := by
    refine round_trips sketch fun x hx _ => ?_
    rw [hfloats] at hx
    rw [List.mem_singleton.1 hx]
    exact Json.readsBack_half
  refine ⟨hround, hround.written (fun x hx => ?_) .compact⟩
  rw [hfloats] at hx
  rw [List.mem_singleton.1 hx]
  decide +kernel

end Draft

end Cutscene
