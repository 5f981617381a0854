import Cutscene.Json.Reader
import Cutscene.Proofs.Json.Writing

set_option relaxedAutoImplicit false
set_option autoImplicit false

/-!
# The tokens of an outline

The tokens of an outline that does not break off lead through all its containers and back to where
they started, with the outline as the only thing that is left. So a reader that is given a text of
a value reads the value, and nothing else about the text.

## Main definitions

* `Cutscene.Json.Move.run` — what is read on after a token.
* `Cutscene.Json.Outline.toTokens` — the tokens that an outline is made of.
* `Cutscene.Json.Outline.Settles` — that these tokens lead to the outline, wherever it stands.

## Main results

* `Cutscene.Json.Outline.nestedInduction` — induction over what lies in an outline.
* `Cutscene.Json.Outline.skip_list_iff`, `Cutscene.Json.Outline.skip_record_iff` — an outline can be
  skipped if it does not break off.
* `Cutscene.Json.Outline.run_toTokens` — the tokens of an outline settle it.
* `Cutscene.Json.readText_of_spells` — a text that spells a value is read as the value.
-/

namespace Cutscene.Json

/-- Reads tokens on after one that has led somewhere. -/
def Move.run (m : Move) (ts : List Token) : Document :=
  match m with
  | .go next => next.run ts
  | .complete root => ⟨root, !ts.isEmpty⟩
  | .stop root => ⟨root, false⟩

lemma run_cons (c : Cursor) (t : Token) (ts : List Token) :
    c.run (t :: ts) = (c.move t).run ts := by
  rw [Cursor.run]
  rfl

/-- What has been made of a result needed the result. -/
lemma exists_of_bind_eq_ok {α β ε : Type} {x : Except ε α} {f : α → Except ε β} {b : β}
    (h : (x >>= f) = .ok b) : ∃ a, x = .ok a ∧ f a = .ok b := by
  cases x with
  | error e => cases h
  | ok a => exact ⟨a, rfl, h⟩

/-- Of a fault there is no result. -/
lemma eq_ok_of_orFault {α : Type} {r : Except Fault α} {a : α} (h : orFault r = .ok a) :
    r = .ok a := by
  cases r with
  | error f => cases h
  | ok b =>
    cases h
    rfl

/-! ## Outlines and what lies in them -/

namespace Outline

/-- **Induction over what lies in an outline.** -/
@[elab_as_elim]
theorem nestedInduction {motive : Outline → Prop} (null : motive .null)
    (flag : ∀ b, motive (.flag b)) (number : ∀ v, motive (.number v)) (text : ∀ v, motive (.text v))
    (list : ∀ items fault, (∀ item ∈ items, motive item) → motive (.list items fault))
    (record : ∀ members fault, (∀ m ∈ members, motive m.2) → motive (.record members fault))
    (broken : ∀ shape onRead onSkip, motive (.broken shape onRead onSkip)) (o : Outline) :
    motive o :=
  @Outline.rec motive (fun items => ∀ item ∈ items, motive item)
    (fun members => ∀ m ∈ members, motive m.2) (fun m => motive m.2)
    null flag number text list record broken
    nofun (fun _ _ hitem hitems => List.forall_mem_cons.2 ⟨hitem, hitems⟩)
    nofun (fun _ _ hmember hmembers => List.forall_mem_cons.2 ⟨hmember, hmembers⟩)
    (fun _ _ hvalue => hvalue) o

/-! ## Outlines that do not break off -/

section Skipping

variable {items : List Outline} {members : List Member} {fault : Option Fault}

/-- A list can be skipped if it is closed and its items can be. -/
lemma skip_list_iff :
    (list items fault).skip = .ok () ↔ (∀ item ∈ items, item.skip = .ok ()) ∧ fault = none := by
  have hitems : skipItems items = .ok () ↔ ∀ item ∈ items, item.skip = .ok () := by
    induction items with
    | nil => simp [skipItems]
    | cons item items ih =>
      rw [skipItems, List.forall_mem_cons, ← ih]
      cases item.skip <;> simp [bind, Except.bind]
  rw [skip, ← hitems]
  cases skipItems items <;> cases fault <;> simp [bind, Except.bind, ending]

/-- A record can be skipped if it is closed and its values can be. -/
lemma skip_record_iff :
    (record members fault).skip = .ok () ↔ (∀ m ∈ members, m.2.skip = .ok ()) ∧ fault = none := by
  have hmembers : skipMembers members = .ok () ↔ ∀ m ∈ members, m.2.skip = .ok () := by
    induction members with
    | nil => simp [skipMembers]
    | cons member members ih =>
      obtain ⟨name, value⟩ := member
      rw [skipMembers, List.forall_mem_cons, ← ih]
      cases value.skip <;> simp [bind, Except.bind]
  rw [skip, ← hmembers]
  cases skipMembers members <;> cases fault <;> simp [bind, Except.bind, ending]

end Skipping

/-! ## The tokens of an outline -/

/-- The end of a container: its bracket, or the fault where it breaks off. -/
def closing (bracket : Token) (fault : Option Fault) : Token :=
  fault.elim bracket fun f => .broken .other f f

mutual

/-- The tokens that an outline is made of. Where it breaks off the token is broken. -/
def toTokens : Outline → List Token
  | .null => [.null]
  | .flag b => [.flag b]
  | .number v => [.number v]
  | .text v => [.text v]
  | .list [] fault => [.listOpen, closing .listClose fault]
  | .list (item :: items) fault =>
    .listOpen :: (item.toTokens ++ (itemsTokens items ++ [closing .listClose fault]))
  | .record [] fault => [.recordOpen, closing .recordClose fault]
  | .record ((name, value) :: members) fault =>
    .recordOpen :: .text name :: .colon ::
      (value.toTokens ++ (membersTokens members ++ [closing .recordClose fault]))
  | .broken shape onRead onSkip => [.broken shape onRead onSkip]

/-- The tokens of the items after the first. -/
def itemsTokens : List Outline → List Token
  | [] => []
  | item :: items => .comma :: (item.toTokens ++ itemsTokens items)

/-- The tokens of the members after the first. -/
def membersTokens : List Member → List Token
  | [] => []
  | (name, value) :: members =>
    .comma :: .text name :: .colon :: (value.toTokens ++ membersTokens members)

end

section Running

variable {frames : List Frame} {o : Outline} {items : List Outline} {members : List Member}

/-- What an outline starts with is no bracket that ends a list, so the first item of a list is read
like any other. -/
lemma run_firstItem (o : Outline) (frames : List Frame) (ts : List Token) :
    Cursor.run ⟨frames, .firstItem⟩ (o.toTokens ++ ts) =
      Cursor.run ⟨frames, .value⟩ (o.toTokens ++ ts) := by
  match o with
  | .null | .flag _ | .number _ | .text _ | .broken _ _ _ | .list [] _ | .list (_ :: _) _
  | .record [] _ =>
    simp only [toTokens, List.cons_append, List.nil_append, run_cons]
    rfl
  | .record ((_, _) :: _) _ =>
    simp only [toTokens, List.cons_append, run_cons]
    rfl

/-- The tokens of an outline settle it, wherever it stands. -/
def Settles (o : Outline) : Prop := ∀ frames ts,
  Cursor.run ⟨frames, .value⟩ (o.toTokens ++ ts) = (settle o frames).run ts

/-- The tokens of the items after the first complete their list. -/
lemma run_items (h : ∀ item ∈ items, item.Settles) (before : List Outline) (frames : List Frame)
    (ts : List Token) :
    Cursor.run ⟨.list before :: frames, .separator⟩ (itemsTokens items ++ .listClose :: ts) =
      (settle (.list (before.reverse ++ items) none) frames).run ts := by
  induction items generalizing before with
  | nil =>
    simp only [itemsTokens, List.nil_append, run_cons, List.append_nil]
    rfl
  | cons item items ih =>
    obtain ⟨hitem, hitems⟩ := List.forall_mem_cons.1 h
    simp only [itemsTokens, List.cons_append, List.append_assoc, run_cons]
    refine (hitem (.list before :: frames) _).trans ?_
    refine (ih hitems (item :: before)).trans ?_
    simp

/-- The tokens of the members after the first complete their record. -/
lemma run_members (h : ∀ m ∈ members, m.2.Settles) (before : List Member) (frames : List Frame)
    (ts : List Token) :
    Cursor.run ⟨.record before :: frames, .separator⟩
        (membersTokens members ++ .recordClose :: ts) =
      (settle (.record (before.reverse ++ members) none) frames).run ts := by
  induction members generalizing before with
  | nil =>
    simp only [membersTokens, List.nil_append, run_cons, List.append_nil]
    rfl
  | cons member members ih =>
    obtain ⟨name, value⟩ := member
    obtain ⟨hvalue, hmembers⟩ := List.forall_mem_cons.1 h
    simp only [membersTokens, List.cons_append, List.append_assoc, run_cons]
    refine (hvalue (.named before name :: frames) _).trans ?_
    refine (ih hmembers ((name, value) :: before)).trans ?_
    simp

/-- **The tokens of an outline settle it**, if it does not break off.

**Proof sketch.** By what lies in the outline. Between two items of a container the cursor stands at
the separator, with the items so far in the innermost frame. -/
theorem run_toTokens (h : o.skip = .ok ()) : o.Settles := by
  induction o using nestedInduction with
  | null | flag | number | text =>
    intro frames ts
    simp only [toTokens, List.cons_append, List.nil_append, run_cons]
    rfl
  | list items fault ih =>
    intro frames ts
    obtain ⟨hitems, rfl⟩ := skip_list_iff.1 h
    have hsettles : ∀ item ∈ items, item.Settles := fun item hmem => ih item hmem (hitems item hmem)
    cases items with
    | nil =>
      simp only [toTokens, List.cons_append, List.nil_append, run_cons]
      rfl
    | cons item items =>
      obtain ⟨hitem, hmore⟩ := List.forall_mem_cons.1 hsettles
      simp only [toTokens, List.cons_append, List.append_assoc, List.nil_append, run_cons]
      refine (run_firstItem item (.list [] :: frames) _).trans ?_
      rw [hitem]
      exact run_items hmore [item] frames ts
  | record members fault ih =>
    intro frames ts
    obtain ⟨hmembers, rfl⟩ := skip_record_iff.1 h
    have hsettles : ∀ m ∈ members, m.2.Settles := fun m hmem => ih m hmem (hmembers m hmem)
    cases members with
    | nil =>
      simp only [toTokens, List.cons_append, List.nil_append, run_cons]
      rfl
    | cons member members =>
      obtain ⟨name, value⟩ := member
      obtain ⟨hvalue, hmore⟩ := List.forall_mem_cons.1 hsettles
      simp only [toTokens, List.cons_append, List.append_assoc, List.nil_append, run_cons]
      refine (hvalue (.named [] name :: frames) _).trans ?_
      exact run_members hmore [(name, value)] frames ts
  | broken => cases h

/-- The tokens of an outline are a whole document. -/
lemma ofTokens_toTokens (h : o.skip = .ok ()) : Document.ofTokens o.toTokens = ⟨o, false⟩ := by
  have hrun := run_toTokens h [] []
  rwa [List.append_nil] at hrun

end Running

end Outline

/-! ## Values -/

mutual

/-- **A value that has been read can be skipped.** -/
theorem skip_ofValue (v : Json) : (Outline.ofValue v).skip = .ok () := by
  match v with
  | .null | .flag _ | .number _ | .text _ => rfl
  | .list items =>
    rw [Outline.ofValue, Outline.skip, skipItems_ofItems items]
    rfl
  | .record members =>
    rw [Outline.ofValue, Outline.skip, skipMembers_ofMembers members]
    rfl

/-- The same of items. -/
theorem skipItems_ofItems (items : List Json) : skipItems (ofItems items) = .ok () := by
  match items with
  | [] => rfl
  | item :: items =>
    rw [ofItems, skipItems, skip_ofValue item]
    exact skipItems_ofItems items

/-- The same of members. -/
theorem skipMembers_ofMembers (members : List (String × Json)) :
    skipMembers (ofMembers members) = .ok () := by
  match members with
  | [] => rfl
  | (_, value) :: members =>
    rw [ofMembers, skipMembers, skip_ofValue value]
    exact skipMembers_ofMembers members

end

mutual

/-- The outline of a value is made of the tokens of the value. -/
theorem toTokens_ofValue (v : Json) : (Outline.ofValue v).toTokens = v.toTokens := by
  match v with
  | .null | .flag _ | .number _ | .text _ | .list [] | .record [] => rfl
  | .list (item :: items) =>
    simp only [Outline.ofValue, ofItems, Outline.toTokens, toTokens, toTokens_ofValue item,
      itemsTokens_ofItems items]
    rfl
  | .record ((name, value) :: members) =>
    simp only [Outline.ofValue, ofMembers, Outline.toTokens, toTokens, toTokens_ofValue value,
      membersTokens_ofMembers members]
    rfl

/-- The same of items. -/
theorem itemsTokens_ofItems (items : List Json) :
    Outline.itemsTokens (ofItems items) = itemsTokens items := by
  match items with
  | [] => rfl
  | item :: items =>
    simp only [ofItems, Outline.itemsTokens, itemsTokens, toTokens_ofValue item,
      itemsTokens_ofItems items]

/-- The same of members. -/
theorem membersTokens_ofMembers (members : List (String × Json)) :
    Outline.membersTokens (ofMembers members) = membersTokens members := by
  match members with
  | [] => rfl
  | (name, value) :: members =>
    simp only [ofMembers, Outline.membersTokens, membersTokens, toTokens_ofValue value,
      membersTokens_ofMembers members]

end

section Reading

variable {α : Type} {text : String} {v : Json}

/-- A text that spells a value has the outline of the value. -/
lemma ofText_of_spells (h : Spells text v) : Document.ofText text = ⟨.ofValue v, false⟩ := by
  rw [Document.ofText, h, ← toTokens_ofValue]
  exact Outline.ofTokens_toTokens (skip_ofValue v)

/-- **A text that spells a value is read as the value**, by any reader. -/
theorem readText_of_spells (h : Spells text v) (r : Reader α) :
    readText r text = r (.ofValue v) := by
  rw [readText, ofText_of_spells h]
  cases r (.ofValue v) <;> rfl

/-- **What has been written is read as it was**, if its numbers read back. -/
theorem readText_write (style : Style) (h : v.ReadsBack) (r : Reader α) :
    readText r (write style v) = r (.ofValue v) := readText_of_spells (spells_write style h) r

end Reading

end Cutscene.Json
