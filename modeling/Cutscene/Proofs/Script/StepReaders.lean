import Mathlib.Data.List.Forall2
import Cutscene.Proofs.Script.StepFields
import Cutscene.Script.Compilation

set_option relaxedAutoImplicit false
set_option autoImplicit false

/-!
# The two readings of a step

As a part of a script a step is read into a draft, whose fields are all optional, and compiled
afterwards. By itself it is read by a reader that keeps whatever it meets up to the end of the
record, and then reads again what its tag asks for. The two share no code: one looks at the text,
the other mostly at values that it has read already; `null` counts as nothing for the one, and for
the other as a value of the wrong kind. Where both give a step, they give the same; and of a record
that has no fields but those of steps, the second gives a step wherever the first does, but for a
line whose side is left open.

## Main definitions

* `Cutscene.Json.Rereads` — what a reader takes from an outline, another takes from its value.
* `Cutscene.Step.Kept` — the members that are kept while a record is read.
* `Cutscene.Step.Agreed` — the readings of a text agree.

## Main results

* `Cutscene.Step.read_record_iff` — what a step is read from, by itself.
* `Cutscene.Step.readings_agree` — the two readings agree.

## Design

Both sides are brought into the same form, which says for each name what its values have to be. A
value that was kept is compared with its outline under `Rereads`, one lemma for each kind of field.
-/

namespace Cutscene

open Json (Outline Member Fault Reader Filled Legible Given Marked Document valuesOf ofMembers
  filled_some_iff)

namespace Json

/-! ## Reading values again -/

section Rereading

variable {α : Type} {r r' : Reader α} {depth : ℕ}

/-- What a reader takes from an outline, another takes from the value that the outline has for one
who reads the whole of it, inside `depth` containers. -/
def Rereads (depth : ℕ) (r r' : Reader α) : Prop :=
  ∀ ⦃o a⦄, r o = .ok a → ∃ v, o.value depth = .ok v ∧ r' (.ofValue v) = .ok a

lemma rereads_readString (depth : ℕ) : Rereads depth readString readString := by
  intro o s h
  unfold readString at h
  split at h
  · cases h
    exact ⟨.text s, rfl, rfl⟩
  · cases h

lemma rereads_readCount (depth : ℕ) (wanted : String) :
    Rereads depth (readCount wanted) (readCount wanted) := by
  intro o n h
  match o with
  | .number (.ok (.whole m)) => exact ⟨.number (.whole m), rfl, h⟩
  | .null | .flag _ | .text _ | .list _ _ | .record _ _ | .broken _ _ _
  | .number (.ok (.real _)) | .number (.error _) => cases h

/-- A choice is made again: of a text, or of the name of the one member, whose value is `null`. -/
lemma rereads_readChoice {depth : ℕ} (hdepth : depth < depthLimit) (choices : List (String × α)) :
    Rereads depth (readChoice choices) (readChoiceAgain choices) := by
  intro o a h
  unfold readChoice at h
  split at h
  · obtain ⟨name, hname, h⟩ := exists_of_bind_eq_ok h
    cases eq_ok_of_orFault hname
    exact ⟨.text name, rfl, h⟩
  · cases h
  · cases h
  next name value members fault =>
    obtain ⟨choice, hchoice, h⟩ := exists_of_bind_eq_ok h
    obtain ⟨_, hnull, h⟩ := exists_of_bind_eq_ok h
    obtain rfl : value = .null := by
      unfold readNothing at hnull
      split at hnull
      · rfl
      · cases hnull
    cases members with
    | cons => cases h
    | nil =>
      cases fault with
      | some f => cases h
      | none =>
        cases h
        refine ⟨.record [(name, .null)], ?_, ?_⟩
        · rw [Outline.value, if_neg (Nat.not_le.2 hdepth)]
          rfl
        · exact congrArg (· >>= _) hchoice
  · cases h
  · cases h
  · cases h

/-- The members of a dictionary are read as a whole, and then again one by one. -/
lemma readNamed_ofMembers (h : Rereads depth r r') {members : List Member} {as : List (String × α)}
    (has : readNamed r members = .ok as) :
    ∃ vs, readMembers depth members = .ok vs ∧ readNamed r' (ofMembers vs) = .ok as := by
  induction members generalizing as with
  | nil =>
    cases has
    exact ⟨[], rfl, rfl⟩
  | cons member members ih =>
    obtain ⟨name, o⟩ := member
    obtain ⟨key, hkey, has⟩ := exists_of_bind_eq_ok has
    obtain ⟨a, ha, has⟩ := exists_of_bind_eq_ok has
    obtain ⟨rest, hrest, has⟩ := exists_of_bind_eq_ok has
    cases has
    cases eq_ok_of_orFault hkey
    obtain ⟨v, hv, hva⟩ := h ha
    obtain ⟨vs, hvs, hvas⟩ := ih hrest
    refine ⟨(key, v) :: vs, ?_, ?_⟩
    · rw [readMembers, hv, hvs]
      rfl
    · rw [ofMembers, readNamed, hva, hvas]
      rfl

lemma rereads_readDictionary (hdepth : depth < depthLimit) (h : Rereads (depth + 1) r r') :
    Rereads depth (readDictionary r) (readDictionary r') := by
  intro o d hd
  obtain ⟨members, as, rfl, has, rfl⟩ := exists_of_readDictionary hd
  obtain ⟨vs, hvs, hvas⟩ := readNamed_ofMembers h has
  refine ⟨.record vs, ?_, readDictionary_eq_ok_iff.2 ⟨⟨as, hvas, rfl⟩, rfl⟩⟩
  rw [Outline.value, if_neg (Nat.not_le.2 hdepth), hvs]
  rfl

/-- A list has a list as its value, -/
lemma value_list_eq_ok {items : List Outline} {fault : Option Fault} {v : Json}
    (h : (Outline.list items fault).value depth = .ok v) : ∃ vs, v = .list vs := by
  rw [Outline.value] at h
  split at h
  · cases h
  · obtain ⟨vs, -, h⟩ := exists_of_bind_eq_ok h
    obtain ⟨_, _, h⟩ := exists_of_bind_eq_ok h
    cases h
    exact ⟨vs, rfl⟩

/-- and a record has a record. -/
lemma value_record_eq_ok {members : List Member} {fault : Option Fault} {v : Json}
    (h : (Outline.record members fault).value depth = .ok v) : ∃ vs, v = .record vs := by
  rw [Outline.value] at h
  split at h
  · cases h
  · obtain ⟨vs, -, h⟩ := exists_of_bind_eq_ok h
    obtain ⟨_, _, h⟩ := exists_of_bind_eq_ok h
    cases h
    exact ⟨vs, rfl⟩

/-- What is given under a name has a value. -/
lemma exists_value_of_given {os : List Outline} {x : Option α} {o : Outline}
    (hreader : Rereads depth r r') (h : Given r os x) (ho : o ∈ os) :
    ∃ v, o.value depth = .ok v := by
  cases h with
  | absent => cases ho
  | null =>
    cases List.mem_singleton.1 ho
    exact ⟨.null, rfl⟩
  | value ha =>
    cases List.mem_singleton.1 ho
    obtain ⟨v, hv, -⟩ := hreader (eq_ok_of_readOptional ha)
    exact ⟨v, hv⟩

/-- What is given under a name is read again from the value that has been kept. -/
lemma Filled.reread {os : List Outline} {vs : List Json} {a : α} (hreader : Rereads depth r r')
    (hvalues : List.Forall₂ (fun o v => o.value depth = .ok v) os vs)
    (h : Filled r none os (some a)) : Filled r' none (vs.map .ofValue) (some a) := by
  obtain ⟨o, rfl, ha⟩ := filled_some_iff.1 h
  obtain ⟨w, hw, hwa⟩ := hreader ha
  cases hvalues with
  | cons hv hnil =>
    cases hnil
    cases hv.symm.trans hw
    exact .read hwa

end Rereading

end Json

/-- A value is read again at any depth. -/
lemma Value.rereads (depth i j : ℕ) : Json.Rereads depth (Value.read i) (Value.read j) := by
  intro o v h
  obtain ⟨w, hw, h⟩ := Json.exists_of_bind_eq_ok h
  have hw := Json.eq_ok_of_orFault hw
  -- Only what holds nothing else has a form, and its value is the same at all depths.
  have hsame : o.value depth = .ok w ∧ (Outline.ofValue w).value j = .ok w := by
    cases w with
    | null | list | record => cases h
    | flag | number | text =>
      cases o with
      | null => cases hw
      | flag | number | text => exact ⟨hw, rfl⟩
      | broken => cases hw
      | list => cases (Json.value_list_eq_ok hw).choose_spec
      | record => cases (Json.value_record_eq_ok hw).choose_spec
  refine ⟨w, hsame.1, ?_⟩
  rw [read, hsame.2]
  exact h

/-- Variables are read again. -/
lemma Variables.rereads (i j : ℕ) : Json.Rereads 1 (Variables.read i) (Variables.read j) :=
  Json.rereads_readDictionary (by decide) (Value.rereads 2 (i + 1) (j + 1))

namespace Step

variable {members : List Member} {kept : List (String × Json)} {name : String}

/-! ## What is kept -/

/-- The members that are kept while a record is read: all but the flags, with their values. -/
inductive Kept : List Member → List (String × Json) → Prop where
  /-- There are no members. -/
  | nil : Kept [] []
  /-- A flag is not kept. -/
  | flag {name : String} {o : Outline} {members : List Member} {kept : List (String × Json)}
    (hname : name = "autoAdvance" ∨ name = "skippable") (h : Kept members kept) :
    Kept ((.ok name, o) :: members) kept
  /-- Anything else is kept. -/
  | other {name : String} {o : Outline} {v : Json} {members : List Member}
    {kept : List (String × Json)} (hauto : name ≠ "autoAdvance") (hskip : name ≠ "skippable")
    (hv : o.value 1 = .ok v) (h : Kept members kept) :
    Kept ((.ok name, o) :: members) ((name, v) :: kept)

/-- The values that are kept under a name. -/
def valuesAt (name : String) (kept : List (String × Json)) : List Json :=
  kept.filterMap fun m => if m.1 = name then some m.2 else none

lemma valuesOf_ofMembers : valuesOf name (ofMembers kept) = (valuesAt name kept).map .ofValue := by
  induction kept with
  | nil => rfl
  | cons m kept ih =>
    obtain ⟨key, v⟩ := m
    by_cases hkey : key = name
    · subst hkey
      rw [ofMembers, Json.valuesOf_cons_self, ih]
      simp [valuesAt]
    · rw [ofMembers, Json.valuesOf_cons_of_ne hkey, ih]
      simp [valuesAt, hkey]

lemma valuesAt_filter (h : name ≠ "type") :
    valuesAt name (kept.filter (·.1 != "type")) = valuesAt name kept := by
  rw [valuesAt, List.filterMap_filter, valuesAt]
  congr 1
  funext m
  by_cases hm : m.1 = name
  · simp [hm, h]
  · simp [hm]

/-- What is kept under a name that is no flag are the values under the name. -/
lemma Kept.forall₂ (h : Kept members kept) (hauto : name ≠ "autoAdvance")
    (hskip : name ≠ "skippable") :
    List.Forall₂ (fun o v => o.value 1 = .ok v) (valuesOf name members) (valuesAt name kept) := by
  induction h with
  | nil => exact .nil
  | @flag key o members kept hkey _ ih =>
    have hne : key ≠ name := by rcases hkey with rfl | rfl <;> exact Ne.symm ‹_›
    rwa [Json.valuesOf_cons_of_ne hne]
  | @other key o v members kept _ _ hv _ ih =>
    by_cases hkey : key = name
    · subst hkey
      simpa [valuesAt] using ⟨hv, ih⟩
    · rw [Json.valuesOf_cons_of_ne hkey]
      simpa [valuesAt, hkey] using ih

/-- Members are kept if their names can be read, and their values too unless they are flags. -/
lemma exists_kept (h : ∀ m ∈ members, ∃ key, m.1 = .ok key ∧
      (key = "autoAdvance" ∨ key = "skippable" ∨ ∃ v, m.2.value 1 = .ok v)) :
    ∃ kept, Kept members kept := by
  induction members with
  | nil => exact ⟨[], .nil⟩
  | cons m members ih =>
    obtain ⟨⟨key, hname, hvalue⟩, hrest⟩ := List.forall_mem_cons.1 h
    obtain ⟨kept, hkept⟩ := ih hrest
    obtain ⟨n, o⟩ := m
    obtain rfl : n = .ok key := hname
    by_cases hflag : key = "autoAdvance" ∨ key = "skippable"
    · exact ⟨kept, .flag hflag hkept⟩
    · obtain ⟨hauto, hskip⟩ := not_or.1 hflag
      obtain ⟨v, hv⟩ := (hvalue.resolve_left hauto).resolve_left hskip
      exact ⟨(key, v) :: kept, .other hauto hskip hv hkept⟩

section Parts

variable {p q : Parts} {o : Outline}

/-- A flag is read into its place, which has to be empty, and anything else is kept behind what has
been kept before. -/
lemma readParts_cons_eq_ok_iff {n : Except Fault String} :
    readParts ((n, o) :: members) p = .ok q ↔ ∃ key, n = .ok key ∧
      ((key = "autoAdvance" ∧ p.autoAdvance = none ∧ ∃ b, Json.readFlag o = .ok b ∧
          readParts members { p with autoAdvance := some b } = .ok q) ∨
        (key = "skippable" ∧ p.skippable = none ∧ ∃ b, Json.readFlag o = .ok b ∧
          readParts members { p with skippable := some b } = .ok q) ∨
        (key ≠ "autoAdvance" ∧ key ≠ "skippable" ∧ ∃ v, o.value 1 = .ok v ∧
          readParts members { p with others := p.others ++ [(key, v)] } = .ok q)) := by
  constructor
  · intro h
    obtain ⟨key, hkey, h⟩ := Json.exists_of_bind_eq_ok h
    refine ⟨key, Json.eq_ok_of_orFault hkey, ?_⟩
    split at h
    next hauto =>
      split at h
      · cases h
      next hempty =>
        obtain ⟨b, hb, h⟩ := Json.exists_of_bind_eq_ok h
        exact Or.inl ⟨hauto, by simpa using hempty, b, hb, h⟩
    next hauto =>
      split at h
      next hskip =>
        split at h
        · cases h
        next hempty =>
          obtain ⟨b, hb, h⟩ := Json.exists_of_bind_eq_ok h
          exact Or.inr (Or.inl ⟨hskip, by simpa using hempty, b, hb, h⟩)
      next hskip =>
        obtain ⟨v, hv, h⟩ := Json.exists_of_bind_eq_ok h
        exact Or.inr (Or.inr ⟨hauto, hskip, v, Json.eq_ok_of_orFault hv, h⟩)
  · rintro ⟨key, rfl, ⟨rfl, hempty, b, hb, h⟩ | ⟨rfl, hempty, b, hb, h⟩ |
      ⟨hauto, hskip, v, hv, h⟩⟩
    · simpa [readParts, Json.orFault, Except.mapError, bind, Except.bind, hempty, hb] using h
    · simpa [readParts, Json.orFault, Except.mapError, bind, Except.bind, hempty, hb] using h
    · simpa [readParts, Json.orFault, Except.mapError, bind, Except.bind, hauto, hskip, hv] using h

/-- **The members of a record are read** into the two flags and what is kept.

**Proof sketch.** By the members, as they are read in one direction and as they are kept in the
other. -/
theorem readParts_eq_ok_iff : readParts members p = .ok q ↔
    Filled Json.readFlag p.autoAdvance (valuesOf "autoAdvance" members) q.autoAdvance ∧
      Filled Json.readFlag p.skippable (valuesOf "skippable" members) q.skippable ∧
      ∃ kept, Kept members kept ∧ q.others = p.others ++ kept := by
  constructor
  · intro h
    induction members generalizing p with
    | nil =>
      cases h
      exact ⟨.kept _, .kept _, [], .nil, (List.append_nil _).symm⟩
    | cons m members ih =>
      obtain ⟨key, hkey, ⟨rfl, hempty, b, hb, h⟩ | ⟨rfl, hempty, b, hb, h⟩ |
        ⟨hne, hne', v, hv, h⟩⟩ := readParts_cons_eq_ok_iff.1 h
      · obtain ⟨hauto, hskip, kept, hkept, hothers⟩ := ih h
        obtain ⟨n, o⟩ := m
        obtain rfl : n = .ok "autoAdvance" := hkey
        rw [Json.valuesOf_cons_self, Json.valuesOf_cons_of_ne (by decide), hempty]
        exact ⟨Json.filled_cons_iff.2 ⟨rfl, b, hb, hauto⟩, hskip, kept, .flag (Or.inl rfl) hkept,
          hothers⟩
      · obtain ⟨hauto, hskip, kept, hkept, hothers⟩ := ih h
        obtain ⟨n, o⟩ := m
        obtain rfl : n = .ok "skippable" := hkey
        rw [Json.valuesOf_cons_of_ne (by decide), Json.valuesOf_cons_self, hempty]
        exact ⟨hauto, Json.filled_cons_iff.2 ⟨rfl, b, hb, hskip⟩, kept, .flag (Or.inr rfl) hkept,
          hothers⟩
      · obtain ⟨hauto, hskip, kept, hkept, hothers⟩ := ih h
        obtain ⟨n, o⟩ := m
        obtain rfl : n = .ok key := hkey
        rw [Json.valuesOf_cons_of_ne hne, Json.valuesOf_cons_of_ne hne']
        exact ⟨hauto, hskip, (key, v) :: kept, .other hne hne' hv hkept, by simp [hothers]⟩
  · rintro ⟨hauto, hskip, kept, hkept, hothers⟩
    induction hkept generalizing p with
    | nil =>
      rw [List.append_nil] at hothers
      obtain ⟨auto, skip, others⟩ := q
      cases Json.filled_nil_iff.1 hauto
      cases Json.filled_nil_iff.1 hskip
      cases hothers
      rfl
    | flag hkey _ ih =>
      rcases hkey with rfl | rfl
      · rw [Json.valuesOf_cons_self] at hauto
        rw [Json.valuesOf_cons_of_ne (by decide)] at hskip
        obtain ⟨hempty, b, hb, hauto⟩ := Json.filled_cons_iff.1 hauto
        exact readParts_cons_eq_ok_iff.2
          ⟨_, rfl, Or.inl ⟨rfl, hempty, b, hb, ih hauto hskip hothers⟩⟩
      · rw [Json.valuesOf_cons_of_ne (by decide)] at hauto
        rw [Json.valuesOf_cons_self] at hskip
        obtain ⟨hempty, b, hb, hskip⟩ := Json.filled_cons_iff.1 hskip
        exact readParts_cons_eq_ok_iff.2
          ⟨_, rfl, Or.inr (Or.inl ⟨rfl, hempty, b, hb, ih hauto hskip hothers⟩)⟩
    | other hne hne' hv _ ih =>
      rw [Json.valuesOf_cons_of_ne hne] at hauto
      rw [Json.valuesOf_cons_of_ne hne'] at hskip
      refine readParts_cons_eq_ok_iff.2 ⟨_, rfl, Or.inr (Or.inr ⟨hne, hne', _, hv, ?_⟩)⟩
      exact ih hauto hskip (by simp [hothers])

end Parts

/-- The tag is read of what has been kept under its name. -/
lemma readTag_eq_ok_iff {k k' : Option Kind} :
    readTag kept k = .ok k' ↔ Filled readKind k (valuesAt "type" kept) k' := by
  induction kept generalizing k with
  | nil => exact ⟨fun h => by cases h; exact .kept _, fun h => by cases h; rfl⟩
  | cons m kept ih =>
    obtain ⟨name, v⟩ := m
    by_cases hname : name = "type"
    · have hvalues : valuesAt "type" ((name, v) :: kept) = v :: valuesAt "type" kept := by
        simp [valuesAt, hname]
      rw [hvalues, Json.filled_cons_iff, readTag, if_pos hname]
      constructor
      · intro h
        split at h
        · cases h
        next hempty =>
          obtain ⟨kind, hkind, h⟩ := Json.exists_of_bind_eq_ok h
          exact ⟨by simpa using hempty, kind, hkind, ih.1 h⟩
      · rintro ⟨rfl, kind, hkind, h⟩
        rw [hkind]
        exact ih.2 h
    · have hvalues : valuesAt "type" ((name, v) :: kept) = valuesAt "type" kept := by
        simp [valuesAt, hname]
      rw [hvalues, readTag, if_neg hname, ih]

/-- A tag names the kind that has it. -/
lemma readKind_text_eq_ok_iff {tag : String} {kind : Kind} :
    readKind (.text tag) = .ok kind ↔ Kind.ofTag? tag = some kind := by
  have hfind : (Kind.all.map fun k => (k.tag, k)).find? (·.1 == tag) =
      (Kind.ofTag? tag).map fun k => (k.tag, k) := by
    rw [List.find?_map]
    rfl
  rw [readKind, Json.choose, hfind]
  cases Kind.ofTag? tag <;> simp

end Step

/-! ## What a step is read from -/

namespace Action

variable {kept : List (String × Json)} {action action' : Action}

/-- The action is what is read of the values that have been kept under the names of its fields. -/
def HeldBy (kept : List (String × Json)) : Action → Prop
  | .say line =>
    Filled Json.readString none ((Step.valuesAt "speaker" kept).map .ofValue) (some line.speaker) ∧
    Filled Json.readString none ((Step.valuesAt "text" kept).map .ofValue) (some line.text) ∧
    Filled (Json.readChoiceAgain Side.choices) none ((Step.valuesAt "align" kept).map .ofValue)
      (some line.side)
  | .pause millis =>
    Filled (Json.readCount "u64") none ((Step.valuesAt "duration" kept).map .ofValue) (some millis)
  | .assign values =>
    Filled (Variables.read 0) none ((Step.valuesAt "values" kept).map .ofValue) (some values)
  | .reset | .complete => True

/-- What has been kept holds one action of a kind at most. -/
lemma HeldBy.unique (hkind : action.kind = action'.kind) (h : action.HeldBy kept)
    (h' : action'.HeldBy kept) : action = action' := by
  cases action <;> cases action' <;> cases hkind
  case say.say line line' =>
    obtain ⟨hspeaker, htext, hside⟩ := h
    obtain ⟨hspeaker', htext', hside'⟩ := h'
    obtain ⟨speaker, text, side⟩ := line
    cases hspeaker.unique hspeaker'
    cases htext.unique htext'
    cases hside.unique hside'
    rfl
  case pause.pause => cases Filled.unique h h'; rfl
  case assign.assign => cases Filled.unique h h'; rfl
  case reset.reset => rfl
  case complete.complete => rfl

end Action

namespace Step

variable {members : List Member} {fault : Option Fault} {kept : List (String × Json)} {s : Step}

/-- Where one value belongs to a kind, the action is read if the value is. -/
lemma bind_eq_ok_iff_heldBy {α : Type} {x : Except Json.Problem α} {kind : Kind} {action : Action}
    (make : α → Action) (hmake : ∀ {action : Action}, action.kind = kind ↔ ∃ a, make a = action)
    (hx : ∀ a, x = .ok a ↔ (make a).HeldBy kept) :
    (x >>= fun a => .ok (make a)) = .ok action ↔ action.kind = kind ∧ action.HeldBy kept := by
  constructor
  · intro h
    obtain ⟨a, ha, h⟩ := Json.exists_of_bind_eq_ok h
    cases h
    exact ⟨hmake.2 ⟨a, rfl⟩, (hx a).1 ha⟩
  · rintro ⟨hkind, h⟩
    obtain ⟨a, rfl⟩ := hmake.1 hkind
    rw [(hx a).2 h]
    rfl

/-- What belongs to a kind is read of what has been kept. -/
lemma readAction_eq_ok_iff {kind : Kind} {action : Action} :
    readAction kind (kept.filter (·.1 != "type")) = .ok action ↔
      action.kind = kind ∧ action.HeldBy kept := by
  have hvalues : ∀ {name : String}, name ≠ "type" →
      valuesOf name (ofMembers (kept.filter (·.1 != "type"))) =
        (valuesAt name kept).map .ofValue := fun hname => by
    rw [valuesOf_ofMembers, valuesAt_filter hname]
  cases kind with
  | say =>
    refine bind_eq_ok_iff_heldBy Action.say ?_ fun line => ?_
    · intro action
      cases action <;> simp [Action.kind]
    · rw [Outline.ofValue, Line.read_record_iff (Json.legible_ofMembers _ _), hvalues (by decide),
        hvalues (by decide), hvalues (by decide)]
      rfl
  | pause =>
    refine bind_eq_ok_iff_heldBy Action.pause ?_ fun millis => ?_
    · intro action
      cases action <;> simp [Action.kind]
    · rw [Outline.ofValue, single_read_record_iff (Json.legible_ofMembers _ _), hvalues (by decide)]
      rfl
  | assign =>
    refine bind_eq_ok_iff_heldBy Action.assign ?_ fun values => ?_
    · intro action
      cases action <;> simp [Action.kind]
    · rw [Outline.ofValue, single_read_record_iff (Json.legible_ofMembers _ _), hvalues (by decide)]
      rfl
  | reset | complete =>
    constructor
    · intro h
      cases h
      exact ⟨rfl, trivial⟩
    · rintro ⟨hkind, -⟩
      cases action <;> cases hkind
      rfl

/-- A step is told by the flags of a record and by what is kept of it. -/
structure ReadFrom (members : List Member) (kept : List (String × Json)) (s : Step) : Prop where
  /-- This is what is kept. -/
  keeps : Kept members kept
  /-- The flag for going on. -/
  autoAdvance : Marked (valuesOf "autoAdvance" members) s.autoAdvance
  /-- The flag for being left early. -/
  skippable : Marked (valuesOf "skippable" members) s.skippable
  /-- The tag is that of the kind. -/
  kind : Filled readKind none (valuesAt "type" kept) (some s.kind)
  /-- What belongs to the kind. -/
  action : s.action.HeldBy kept

/-- **What a step is read from, by itself.** -/
theorem read_record_iff :
    read (.record members fault) = .ok s ↔ fault = none ∧ ∃ kept, s.ReadFrom members kept := by
  constructor
  · intro h
    obtain ⟨p, hp, h⟩ := Json.exists_of_bind_eq_ok h
    obtain rfl : fault = none := by
      cases fault with
      | none => rfl
      | some f => cases h
    obtain ⟨_, _, h⟩ := Json.exists_of_bind_eq_ok h
    obtain ⟨k, htag, h⟩ := Json.exists_of_bind_eq_ok h
    cases k with
    | none => cases h
    | some kind =>
      obtain ⟨action, haction, h⟩ := Json.exists_of_bind_eq_ok h
      cases h
      obtain ⟨hauto, hskip, kept, hkept, hothers⟩ := readParts_eq_ok_iff.1 hp
      rw [List.nil_append] at hothers
      rw [hothers] at htag haction
      obtain ⟨rfl, hheld⟩ := readAction_eq_ok_iff.1 haction
      exact ⟨rfl, kept, hkept, ⟨_, hauto, rfl⟩, ⟨_, hskip, rfl⟩, readTag_eq_ok_iff.1 htag, hheld⟩
  · rintro ⟨rfl, kept, hkept, ⟨auto, hauto, hauto'⟩, ⟨skip, hskip, hskip'⟩, hkind, hheld⟩
    have hp : readParts members ⟨none, none, []⟩ = .ok ⟨auto, skip, kept⟩ :=
      readParts_eq_ok_iff.2 ⟨hauto, hskip, kept, hkept, rfl⟩
    have haction : readAction s.kind (kept.filter (·.1 != "type")) = .ok s.action :=
      readAction_eq_ok_iff.2 ⟨rfl, hheld⟩
    rw [read, hp]
    change (readTag kept none >>= _) = _
    rw [readTag_eq_ok_iff.2 hkind]
    change (readAction s.kind (kept.filter _) >>= _) = _
    rw [haction]
    obtain ⟨action, autoAdvance, skippable⟩ := s
    cases hauto'
    cases hskip'
    rfl

end Step

/-! ## The two readings -/

namespace StepDraft

variable {members : List Member} {kept : List (String × Json)} {d : StepDraft} {s : Step}

/-- A draft holds what an action needs; a line without a side is on the left. -/
def Supplies (d : StepDraft) : Action → Prop
  | .say line =>
    d.speaker = some line.speaker ∧ d.text = some line.text ∧ d.side.getD .left = line.side
  | .pause millis => d.millis = some millis
  | .assign values => d.values = some values
  | .reset | .complete => True

/-- **What a draft compiles to**: a step of the kind that its tag names, with its flags, and an
action that it holds all that is needed for. -/
lemma supplies_of_compile {scene : String} {index : ℕ} (h : d.compile scene index = .ok s) :
    Kind.ofTag? d.tag = some s.kind ∧ d.Supplies s.action ∧ s.autoAdvance = d.autoAdvance ∧
      s.skippable = d.skippable := by
  unfold compile at h
  split at h
  · cases h
  next kind hkind =>
    split at h
    next action haction =>
      cases h
      suffices haction : action.kind = kind ∧ d.Supplies action from
        ⟨hkind.trans (congrArg some haction.1.symm), haction.2, rfl, rfl⟩
      cases kind with
      | say =>
        cases hspeaker : d.speaker <;> cases htext : d.text <;>
          simp only [StepDraft.action, field, hspeaker, htext, bind, Except.bind] at haction <;>
          cases haction
        exact ⟨rfl, hspeaker, htext, rfl⟩
      | pause =>
        cases hmillis : d.millis <;>
          simp only [StepDraft.action, field, hmillis, bind, Except.bind] at haction <;>
          cases haction
        exact ⟨rfl, hmillis⟩
      | assign =>
        cases hvalues : d.values <;>
          simp only [StepDraft.action, field, hvalues, bind, Except.bind] at haction <;>
          cases haction
        exact ⟨rfl, hvalues⟩
      | reset => cases haction; exact ⟨rfl, trivial⟩
      | complete => cases haction; exact ⟨rfl, trivial⟩
    · cases h

namespace ReadFrom

/-- The tag is kept, and names the kind. -/
lemma filled_kind_iff (hd : d.ReadFrom 0 members) (hkept : Step.Kept members kept) {kind : Kind} :
    Filled Step.readKind none (Step.valuesAt "type" kept) (some kind) ↔
      Kind.ofTag? d.tag = some kind := by
  have htag := hd.tag.reread (Json.rereads_readString 1) (hkept.forall₂ (by decide) (by decide))
  obtain ⟨o, ho, hread⟩ := filled_some_iff.1 htag
  obtain ⟨v, hv, rfl⟩ := List.map_eq_singleton_iff.1 ho
  obtain rfl : v = .text d.tag := by
    cases v with
    | text t => cases hread; rfl
    | null | flag | number | list | record => cases hread
  rw [hv, filled_some_iff, ← Step.readKind_text_eq_ok_iff]
  exact ⟨fun ⟨_, hw, h⟩ => by cases hw; exact h, fun h => ⟨_, rfl, h⟩⟩

/-- **What a draft supplies has been kept**, if a line has a side. -/
lemma heldBy (hd : d.ReadFrom 0 members) (hkept : Step.Kept members kept) {action : Action}
    (h : d.Supplies action) (hside : action.kind = .say → d.side ≠ none) :
    action.HeldBy kept := by
  cases action with
  | say line =>
    obtain ⟨hspeaker, htext, hline⟩ := h
    obtain ⟨side, hd_side⟩ := Option.ne_none_iff_exists'.1 (hside rfl)
    obtain rfl : side = line.side := by rw [← hline, hd_side]; rfl
    exact ⟨(hspeaker ▸ hd.speaker).filled.reread (Json.rereads_readString 1)
        (hkept.forall₂ (by decide) (by decide)),
      (htext ▸ hd.text).filled.reread (Json.rereads_readString 1)
        (hkept.forall₂ (by decide) (by decide)),
      (hd_side ▸ hd.side).filled.reread (Json.rereads_readChoice (by decide) Side.choices)
        (hkept.forall₂ (by decide) (by decide))⟩
  | pause millis =>
    have hmillis : d.millis = some millis := h
    exact (hmillis ▸ hd.millis).filled.reread (Json.rereads_readCount 1 "u64")
      (hkept.forall₂ (by decide) (by decide))
  | assign values =>
    have hvalues : d.values = some values := h
    exact (hvalues ▸ hd.values).filled.reread (Variables.rereads 1 0)
      (hkept.forall₂ (by decide) (by decide))
  | reset | complete => trivial

/-- A line that has been kept has a side. -/
lemma side_ne_none (hd : d.ReadFrom 0 members) (hkept : Step.Kept members kept) {line : Line}
    (h : (Action.say line).HeldBy kept) : d.side ≠ none := by
  intro hnone
  obtain ⟨o', ho', hread⟩ := filled_some_iff.1 h.2.2
  obtain ⟨v, hv, rfl⟩ := List.map_eq_singleton_iff.1 ho'
  have hvalues : List.Forall₂ _ (valuesOf "align" members) _ :=
    hkept.forall₂ (by decide) (by decide)
  rw [hv] at hvalues
  obtain ⟨o, os, hov, -, hos⟩ := List.forall₂_cons_right_iff.1 hvalues
  -- The one value would be `null`, which is no side.
  obtain rfl : o = .null := hd.side.eq_none_iff.1 hnone o (by rw [hos]; exact List.mem_cons_self)
  cases hov
  cases hread

/-- A record with no fields but those of steps can be kept. -/
lemma exists_kept (hd : d.ReadFrom 0 members)
    (hnames : ∀ m ∈ members, ∃ name ∈ fieldNames, m.1 = .ok name) :
    ∃ kept, Step.Kept members kept := by
  refine Step.exists_kept fun m hm => ?_
  obtain ⟨name, hname, hkey⟩ := hnames m hm
  obtain ⟨n, o⟩ := m
  obtain rfl : n = .ok name := hkey
  refine ⟨name, rfl, ?_⟩
  have ho : o ∈ valuesOf name members := Json.mem_valuesOf_iff.2 hm
  simp only [fieldNames, schema, List.map_cons, List.map_nil, List.mem_cons, List.not_mem_nil,
    or_false] at hname
  rcases hname with rfl | rfl | rfl | rfl | rfl | rfl | rfl | rfl
  · obtain ⟨o', ho', hread⟩ := filled_some_iff.1 hd.tag
    rw [ho', List.mem_singleton] at ho
    subst ho
    obtain ⟨v, hv, -⟩ := Json.rereads_readString 1 hread
    exact Or.inr (Or.inr ⟨v, hv⟩)
  · exact Or.inr (Or.inr
      (Json.exists_value_of_given (Json.rereads_readString 1) hd.speaker ho))
  · exact Or.inr (Or.inr (Json.exists_value_of_given (Json.rereads_readString 1) hd.text ho))
  · exact Or.inr (Or.inr (Json.exists_value_of_given
      (Json.rereads_readChoice (by decide) Side.choices) hd.side ho))
  · exact Or.inr (Or.inr
      (Json.exists_value_of_given (Json.rereads_readCount 1 "u64") hd.millis ho))
  · exact Or.inr (Or.inr (Json.exists_value_of_given (Variables.rereads 1 0) hd.values ho))
  · exact Or.inl rfl
  · exact Or.inr (Or.inl rfl)

end ReadFrom

end StepDraft

namespace Step

variable {members : List Member} {kept : List (String × Json)} {d : StepDraft} {s s' : Step}
  {scene : String} {index : ℕ}

/-- **A step that a draft compiles to is read from what has been kept**, if a line has a side. -/
lemma readFrom_of_compile (hd : d.ReadFrom 0 members) (hs : d.compile scene index = .ok s)
    (hkept : Kept members kept) (hside : s.kind = .say → d.side ≠ none) :
    s.ReadFrom members kept := by
  obtain ⟨hkind, haction, hauto, hskip⟩ := StepDraft.supplies_of_compile hs
  exact {
    keeps := hkept
    autoAdvance := hauto ▸ hd.autoAdvance
    skippable := hskip ▸ hd.skippable
    kind := (hd.filled_kind_iff hkept).2 hkind
    action := hd.heldBy hkept haction hside }

/-- **What is read from what has been kept** is the step that a draft compiles to, and a line has a
side.

**Proof sketch.** The tag has been kept, so both are of one kind. A line could not have been read
without a side. So what the draft supplies has been kept as well, and holds one action of a kind. -/
lemma eq_of_readFrom (hd : d.ReadFrom 0 members) (hs : d.compile scene index = .ok s)
    (h : s'.ReadFrom members kept) : s' = s ∧ (s.kind = .say → d.side ≠ none) := by
  obtain ⟨hkind, haction, hauto, hskip⟩ := StepDraft.supplies_of_compile hs
  have hkinds : s'.kind = s.kind :=
    Option.some.inj (((hd.filled_kind_iff h.keeps).1 h.kind).symm.trans hkind)
  have hside : s.kind = .say → d.side ≠ none := by
    intro hsay
    have hkind' : s'.action.kind = .say := hkinds.trans hsay
    have hheld := h.action
    cases haction' : s'.action <;> rw [haction'] at hkind' hheld <;> cases hkind'
    exact hd.side_ne_none h.keeps hheld
  have hactions : s'.action = s.action :=
    h.action.unique hkinds (hd.heldBy h.keeps haction hside)
  refine ⟨?_, hside⟩
  have hauto' : s'.autoAdvance = s.autoAdvance := h.autoAdvance.unique (hauto ▸ hd.autoAdvance)
  have hskip' : s'.skippable = s.skippable := h.skippable.unique (hskip ▸ hd.skippable)
  obtain ⟨_, _, _⟩ := s'
  cases hactions
  cases hauto'
  cases hskip'
  rfl

/-- The readings of a text agree, of which one gives the step `s` by way of a draft. -/
structure Agreed (text : String) (s : Step) : Prop where
  /-- If the other gives a step, it gives the same. -/
  same : ∀ s', Json.readText read text = .ok s' → s' = s
  /-- Of a record that has no fields but those of steps the other gives a step, unless it is a line
  whose side is left out or `null`. -/
  reads : ∀ members fault, (Document.ofText text).root = .record members fault →
    (∀ m ∈ members, ∃ name ∈ StepDraft.fieldNames, m.1 = .ok name) →
      ((∃ s', Json.readText read text = .ok s') ↔
        ¬(s.kind = .say ∧ ∀ o ∈ valuesOf "align" members, o = .null))

/-- **The two readings of a step agree.** If a text is read as a draft and the draft compiles,
wherever it stands in whatever scene, then no other step is read from the text by itself; and one is
read, if the text is a record with no fields but those of steps, unless it is a line without a side.

**Proof sketch.** Both readings look at one outline, and both are told from the values under each
name (`StepDraft.read_record_iff`, `read_record_iff`). What the draft holds is read again from what
has been kept (`readFrom_of_compile`), and nothing else is (`eq_of_readFrom`). -/
theorem readings_agree {text : String} (hread : Json.readText (StepDraft.read 0) text = .ok d)
    (hcompile : d.compile scene index = .ok s) : Agreed text s := by
  obtain ⟨hroot, htrailing⟩ := Json.readText_eq_ok_iff.1 hread
  constructor
  · intro s' hs'
    obtain ⟨hs', -⟩ := Json.readText_eq_ok_iff.1 hs'
    cases hrecord : (Document.ofText text).root with
    | record members fault =>
      rw [hrecord] at hroot hs'
      obtain ⟨-, -, hd⟩ := StepDraft.read_record_iff.1 hroot
      obtain ⟨-, kept, h⟩ := read_record_iff.1 hs'
      exact (eq_of_readFrom hd hcompile h).1
    | null | flag | number | text | list | broken =>
      rw [hrecord] at hs'
      cases hs'
  · intro members fault hrecord hnames
    rw [hrecord] at hroot
    obtain ⟨rfl, -, hd⟩ := StepDraft.read_record_iff.1 hroot
    simp only [Json.readText_eq_ok_iff, htrailing, and_true, hrecord, read_record_iff, true_and]
    rw [← hd.side.eq_none_iff, not_and]
    constructor
    · rintro ⟨s', kept, h⟩
      exact (eq_of_readFrom hd hcompile h).2
    · intro hside
      obtain ⟨kept, hkept⟩ := hd.exists_kept hnames
      exact ⟨s, kept, readFrom_of_compile hd hcompile hkept hside⟩

/-- A line with its fields out of order, its side as a record, and a pause that is `null`. -/
def whisper : Json :=
  .record [("skippable", .flag true), ("align", .record [("right", .null)]),
    ("text", .text "This way."), ("duration", .null), ("speaker", .text "GUIDE"),
    ("type", .text "DIALOGUE")]

theorem readings_agree_whisper :
    ∃ d s, Json.readText (StepDraft.read 0) (Json.write .indented whisper) = .ok d ∧
      d.compile "lobby" 0 = .ok s ∧ s.kind = .say ∧ d.side = some .right ∧
      Agreed (Json.write .indented whisper) s := by
  have hread : Json.readText (StepDraft.read 0) (Json.write .indented whisper) =
      .ok ⟨"DIALOGUE", some "GUIDE", some "This way.", some .right, none, none, false, true⟩ :=
    (Json.readText_write .indented (fun n hn => absurd hn List.not_mem_nil) _).trans rfl
  have hcompile : StepDraft.compile "lobby" 0
      ⟨"DIALOGUE", some "GUIDE", some "This way.", some .right, none, none, false, true⟩ =
        .ok ⟨.say ⟨"GUIDE", "This way.", .right⟩, false, true⟩ := rfl
  exact ⟨_, _, hread, hcompile, rfl, rfl, readings_agree hread hcompile⟩

end Step

end Cutscene
