import Cutscene.Proofs.Decimal.Finite
import Cutscene.Proofs.Json.Cursors
import Cutscene.Proofs.Json.Reading

set_option relaxedAutoImplicit false
set_option autoImplicit false

/-!
# Finite numbers in what is read

A text has no number for infinity, and one that is too large is refused. So whatever a reader takes
from a text, there is no infinite number in it.

## Main definitions

* `Cutscene.Json.Number.IsFinite` — whole numbers and finite floats.
* `Cutscene.Json.Reader.Yields` — a reader that makes only some things from outlines of some
  numbers.

## Main results

* `Cutscene.Json.draws_ofText` — the numbers in the outline of a text are finite.
* `Cutscene.Json.yields_readList`, `Cutscene.Json.yields_readDictionary`,
  `Cutscene.Json.yields_schema` — what readers make is carried through lists, dictionaries and
  fields.
-/

namespace Cutscene

/-! ## Numbers of a text -/

namespace Json

/-- A whole number or a finite float. -/
def Number.IsFinite : Number → Prop
  | .whole _ => True
  | .real x => x.isFinite = true

section Scanning

variable {negative : Bool} {whole fraction cs rest : List Char} {n : Number}

lemma isFinite_signed {m : ℕ} {e : ℤ} (h : signed negative (Decimal.toFloat? m e) = .ok n) :
    n.IsFinite := by
  cases hx : Decimal.toFloat? m e with
  | none =>
    rw [hx] at h
    cases h
  | some x =>
    have hfinite := Decimal.isFinite_of_toFloat? hx
    rw [hx] at h
    cases h
    cases negative
    · exact hfinite
    · exact Decimal.isFinite_neg hfinite

lemma isFinite_wholeValue {m : ℕ} (h : wholeValue negative m = .ok n) : n.IsFinite := by
  unfold wholeValue at h
  split at h <;> split at h
  · cases h
    trivial
  · exact isFinite_signed h
  · cases h
    trivial
  · exact isFinite_signed h

lemma isFinite_scanPower {sign : ℤ}
    (h : scanPower negative whole fraction sign cs = (.number (.ok n), rest)) : n.IsFinite := by
  unfold scanPower at h
  simp only at h
  split at h
  · cases h
  · exact isFinite_signed (Token.number.inj (congrArg Prod.fst h))

lemma isFinite_scanExponent
    (h : scanExponent negative whole fraction cs = (.number (.ok n), rest)) : n.IsFinite := by
  unfold scanExponent at h
  split at h
  case h_7 => exact isFinite_signed (Token.number.inj (congrArg Prod.fst h))
  all_goals exact isFinite_scanPower h

/-- A number that is cut out of a text is finite. -/
lemma isFinite_scanNumber (h : scanNumber negative cs = (.number (.ok n), rest)) : n.IsFinite := by
  unfold scanNumber at h
  simp only at h
  split at h
  · cases h
  · cases h
  · split at h
    · split at h
      · cases h
      · exact isFinite_scanExponent h
    · exact isFinite_scanExponent h
    · exact isFinite_scanExponent h
    · exact isFinite_wholeValue (Token.number.inj (congrArg Prod.fst h))

/-- The numbers among the tokens of a text are finite. -/
lemma isFinite_of_mem_tokens (h : .number (.ok n) ∈ tokens cs) : n.IsFinite := by
  induction cs using tokens.induct with
  | case1 => simp [tokens] at h
  | case2 c cs hblank ih =>
    rw [tokens_blank hblank] at h
    exact ih h
  | case3 c cs hblank ih =>
    rw [tokens_cons (Bool.eq_false_iff.2 hblank)] at h
    rcases List.mem_cons.1 h with hnumber | h
    -- Only what starts with a sign or a digit is a number.
    · have hscan : scanToken c cs = (.number (.ok n), (scanToken c cs).2) :=
        Prod.ext hnumber.symm rfl
      rcases scanToken_eq_number_iff.1 hscan with ⟨_, hscan⟩ | ⟨_, hscan⟩
      · exact isFinite_scanNumber hscan
      · exact isFinite_scanNumber hscan
    · exact ih h

/-- **The numbers in the outline of a text are finite.** -/
theorem draws_ofText (text : String) : (Document.ofText text).root.Draws Number.IsFinite :=
  fun n hn => isFinite_of_mem_tokens (draws_ofTokens _ n hn)

end Scanning

/-! ## Readers -/

/-- A reader that makes only some things from outlines whose numbers are all of some kind. -/
def Reader.Yields {α : Type} (P : Number → Prop) (r : Reader α) (Q : α → Prop) : Prop :=
  ∀ o a, o.Draws P → r o = .ok a → Q a

section Readers

variable {α σ : Type} {P : Number → Prop} {Q : α → Prop} {r : Reader α}

lemma yields_readOptional (h : r.Yields P Q) :
    Reader.Yields P (readOptional r) fun o => ∀ a ∈ o, Q a := by
  intro o v hdraws hread
  unfold readOptional at hread
  split at hread
  · cases hread
    exact nofun
  · cases hread
  · cases hr : r o with
    | error problem =>
      rw [hr] at hread
      cases hread
    | ok a =>
      rw [hr] at hread
      cases hread
      intro b hb
      cases hb
      exact h o a hdraws hr

/-- **A list holds what its items can be.** -/
theorem yields_readList (h : r.Yields P Q) :
    Reader.Yields P (readList r) fun as => ∀ a ∈ as, Q a := by
  intro o as hdraws hread
  obtain ⟨items, rfl, heach⟩ := exists_of_readList hread
  have hboth := (List.forall₂_and_left _ _).2 ⟨draws_list.1 hdraws, readEach_eq_ok_iff.1 heach⟩
  exact forall_of_forall₂ hboth.flip fun a item hitem => h item a hitem.1 hitem.2

/-- **A dictionary holds what its values can be.** -/
theorem yields_readDictionary (h : r.Yields P Q) :
    Reader.Yields P (readDictionary r) fun d => ∀ e ∈ d.entries, Q e.2 := by
  intro o d hdraws hread
  obtain ⟨members, as, rfl, hnamed, rfl⟩ := exists_of_readDictionary hread
  have hboth := (List.forall₂_and_left _ _).2 ⟨draws_record.1 hdraws, readNamed_eq_ok_iff.1 hnamed⟩
  have hall : ∀ e ∈ as, Q e.2 :=
    forall_of_forall₂ hboth.flip fun e m hm => h m.2 e.2 hm.1 hm.2.2
  exact fun e he => hall e (Dictionary.mem_of_mem_ofList he)

section Schemas

variable {I : σ → Prop}

/-- The members of a record keep what each field keeps. -/
lemma keeps_readFields {fields : List (Field σ)} {members : List Member} {s s' : σ}
    (hfields : ∀ field ∈ fields, ∀ o s s', o.Draws P → I s → field.read o s = .ok s' → I s')
    (hdraws : ∀ m ∈ members, m.2.Draws P) (hs : I s) (h : readFields fields members s = .ok s') :
    I s' := by
  induction members generalizing s with
  | nil =>
    cases h
    exact hs
  | cons member members ih =>
    obtain ⟨hmember, hmembers⟩ := List.forall_mem_cons.1 hdraws
    rw [readFields] at h
    obtain ⟨name, -, h⟩ := exists_of_bind_eq_ok h
    split at h
    · rename_i field hfind
      split at h
      · cases h
      · obtain ⟨s₁, hread, h⟩ := exists_of_bind_eq_ok h
        have hs₁ := hfields field (List.mem_of_find?_eq_some hfind) _ s s₁ hmember hs hread
        exact ih hmembers hs₁ h
    · obtain ⟨-, -, h⟩ := exists_of_bind_eq_ok h
      exact ih hmembers hs h

/-- The items of a list keep what each field keeps. -/
lemma keeps_readPositions {fields : List (Field σ)} {items : List Outline} {s s' : σ}
    (hfields : ∀ field ∈ fields, ∀ o s s', o.Draws P → I s → field.read o s = .ok s' → I s')
    (hdraws : ∀ item ∈ items, item.Draws P) (hs : I s)
    (h : readPositions fields items s = .ok s') : I s' := by
  induction fields generalizing items s with
  | nil =>
    cases items <;> cases h
    exact hs
  | cons field fields ih =>
    obtain ⟨hfield, htail⟩ := List.forall_mem_cons.1 hfields
    cases items with
    | nil =>
      cases h
      exact hs
    | cons item items =>
      obtain ⟨hitem, hitems⟩ := List.forall_mem_cons.1 hdraws
      obtain ⟨s₁, hread, h⟩ := exists_of_bind_eq_ok h
      exact ih htail hitems (hfield item s s₁ hitem hs hread) h

/-- **A type with named fields is what its fields can make of it.** -/
theorem yields_schema {schema : Schema σ α} (hstart : I schema.start)
    (hfields : ∀ field ∈ schema.fields, ∀ o s s', o.Draws P → I s → field.read o s = .ok s' → I s')
    (hfinish : ∀ missing s a, I s → schema.finish missing s = .ok a → Q a) :
    Reader.Yields P schema.read Q := by
  intro o a hdraws hread
  unfold Schema.read at hread
  split at hread
  · obtain ⟨s, hs, hread⟩ := exists_of_bind_eq_ok hread
    obtain ⟨-, -, hread⟩ := exists_of_bind_eq_ok hread
    exact hfinish _ s a (keeps_readFields hfields (draws_record.1 hdraws) hstart hs) hread
  · obtain ⟨s, hs, hread⟩ := exists_of_bind_eq_ok hread
    obtain ⟨-, -, hread⟩ := exists_of_bind_eq_ok hread
    exact hfinish _ s a (keeps_readPositions hfields (draws_list.1 hdraws) hstart hs) hread
  · cases hread

end Schemas

/-- **What is read from a text is made from finite numbers.** -/
theorem yields_readText {text : String} {a : α} (h : r.Yields Number.IsFinite Q)
    (hread : readText r text = .ok a) : Q a := by
  obtain ⟨b, hb, hread⟩ := exists_of_bind_eq_ok hread
  split at hread
  · cases hread
  · cases hread
    exact h _ a (draws_ofText text) hb

end Readers

end Json

end Cutscene
