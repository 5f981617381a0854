import Cutscene.Proofs.Json.Outlines

set_option relaxedAutoImplicit false
set_option autoImplicit false

/-!
# The texts of an outline

A text spells an outline if it is written from the tokens of the outline, with blanks between them.
The outline of such a text is that outline, and every text with an outline that does not break off
spells it. So what a text is read as depends on nothing but the outline that it spells.

## Main definitions

* `Cutscene.Json.Outline.SpelledBy` — an outline is what a text is written from.
* `Cutscene.Json.Outline.WellFormed` — some text spells an outline.
* `Cutscene.Json.Cursor.After` — a cursor stands behind some tokens.

## Main results

* `Cutscene.Json.Cursor.After.move` — a cursor moves on behind the next token, or breaks off.
* `Cutscene.Json.Outline.spelledBy_iff` — the texts that spell an outline are those with this
  outline and nothing behind it.
* `Cutscene.Json.Outline.wellFormed_record_iff` — a record is well formed if its members are.
-/

namespace Cutscene.Json

/-! ## Cursors and the tokens before them -/

section Cursors

variable {frames : List Frame} {done ts before : List Token} {t : Token} {o v : Outline}
  {items : List Outline} {members : List Member} {c : Cursor}

/-- The tokens of a member. -/
def memberTokens (m : Member) : List Token := .text m.1 :: .colon :: m.2.toTokens

/-- The tokens of an open container up to where its next value or name may stand. -/
def Frame.opened : Frame → List Token
  | .list before => .listOpen :: before.reverse.flatMap fun item => item.toTokens ++ [.comma]
  | .record before => .recordOpen :: before.reverse.flatMap fun m => memberTokens m ++ [.comma]
  | .named before name =>
    .recordOpen :: ((before.reverse.flatMap fun m => memberTokens m ++ [.comma]) ++
      [.text name, .colon])

/-- The tokens of open containers, the innermost first. -/
def framesOpened (frames : List Frame) : List Token := frames.reverse.flatMap Frame.opened

lemma framesOpened_cons (frame : Frame) (frames : List Frame) :
    framesOpened (frame :: frames) = framesOpened frames ++ frame.opened := by
  simp [framesOpened]

/-- The token that has to come before the next value or name. -/
def Place.pending : Place → List Token
  | .colon => [.colon]
  | .separator => [.comma]
  | .value | .firstItem | .firstName | .name => []

/-- A cursor stands behind some tokens. -/
structure Cursor.After (done : List Token) (c : Cursor) : Prop where
  /-- The tokens are those of the open containers. -/
  tokens : framesOpened c.frames = done ++ c.place.pending
  /-- The first item is wanted where there is none. -/
  firstItem : c.place = .firstItem → ∃ frames, c.frames = .list [] :: frames
  /-- The first name is wanted where there is none. -/
  firstName : c.place = .firstName → ∃ frames, c.frames = .record [] :: frames

/-- An outline breaks off somewhere. -/
def Outline.BreaksOff (o : Outline) : Prop := o.skip ≠ .ok ()

/-- A move leads behind some tokens, to an outline of them, or breaks off. -/
def Move.After (done : List Token) : Move → Prop
  | .go c => c.After done
  | .complete root => root.toTokens = done
  | .stop root => root.BreaksOff

/-- Commas in front of all but the first are commas behind all but the last. -/
lemma flatMap_comma {α : Type} (f : α → List Token) (a : α) (as : List α) :
    ((a :: as).flatMap fun a => f a ++ [.comma]) =
      f a ++ (as.flatMap fun a => .comma :: f a) ++ [.comma] := by
  induction as generalizing a with
  | nil => simp
  | cons b as ih => rw [List.flatMap_cons, ih]; simp

lemma itemsTokens_eq (items : List Outline) :
    Outline.itemsTokens items = items.flatMap fun item => .comma :: item.toTokens := by
  induction items with
  | nil => rfl
  | cons item items ih => rw [Outline.itemsTokens, ih, List.flatMap_cons, List.cons_append]

lemma membersTokens_eq (members : List Member) :
    Outline.membersTokens members = members.flatMap fun m => .comma :: memberTokens m := by
  induction members with
  | nil => rfl
  | cons member members ih =>
    obtain ⟨name, value⟩ := member
    rw [Outline.membersTokens, ih, List.flatMap_cons]
    rfl

/-- A list ends where a comma may stand. -/
lemma toTokens_list {before : List Outline}
    (h : framesOpened (.list before :: frames) = done ++ [.comma]) :
    framesOpened frames ++ (Outline.list before.reverse none).toTokens = done ++ [.listClose] := by
  rw [framesOpened_cons, Frame.opened] at h
  cases hitems : before.reverse with
  | nil => simp [hitems] at h
  | cons item items =>
    rw [hitems, flatMap_comma, ← List.cons_append, ← List.append_assoc, List.append_cancel_right_eq]
      at h
    rw [← h, Outline.toTokens, itemsTokens_eq]
    simp [Outline.closing]

/-- A record ends where a comma may stand. -/
lemma toTokens_record {before : List Member}
    (h : framesOpened (.record before :: frames) = done ++ [.comma]) :
    framesOpened frames ++ (Outline.record before.reverse none).toTokens =
      done ++ [.recordClose] := by
  rw [framesOpened_cons, Frame.opened] at h
  cases hmembers : before.reverse with
  | nil => simp [hmembers] at h
  | cons member members =>
    obtain ⟨name, value⟩ := member
    rw [hmembers, flatMap_comma, ← List.cons_append, ← List.append_assoc,
      List.append_cancel_right_eq] at h
    rw [← h, Outline.toTokens, membersTokens_eq]
    simp [Outline.closing, memberTokens]

/-! ### Where the text breaks off -/

/-- Where the text breaks off inside a container no container is closed. -/
lemma breaksOff_breakOff (h : v.BreaksOff ∨ frames ≠ []) : (breakOff frames v).BreaksOff := by
  induction frames generalizing v with
  | nil => exact h.resolve_right (fun hne => hne rfl)
  | cons frame frames ih =>
    refine match frame with | .list _ | .record _ | .named _ _ => ih (Or.inl fun hskip => ?_)
    · cases (Outline.skip_list_iff.1 hskip).2
    · cases (Outline.skip_record_iff.1 hskip).2
    · cases (Outline.skip_record_iff.1 hskip).2

lemma breaksOff_breakValue (shape : Shape) (onRead onSkip : Fault) (frames : List Frame) :
    (breakValue shape onRead onSkip frames).BreaksOff := breaksOff_breakOff (Or.inl nofun)

lemma breaksOff_breakContainer (fault : Fault) (frames : List Frame) :
    (breakContainer fault frames).BreaksOff := by
  unfold breakContainer
  split
  · exact breaksOff_breakOff (Or.inl fun h => nomatch (Outline.skip_list_iff.1 h).2)
  · exact breaksOff_breakOff (Or.inl fun h => nomatch (Outline.skip_record_iff.1 h).2)
  · exact breaksOff_breakValue _ _ _ _

lemma breaksOff_breakName (fault : Fault) (frames : List Frame) :
    (breakName fault frames).BreaksOff := by
  unfold breakName
  split
  · exact breaksOff_breakOff (Or.inl fun h => nomatch (Outline.skip_record_iff.1 h).2)
  · exact breaksOff_breakValue _ _ _ _

lemma breaksOff_atEnd (c : Cursor) : c.atEnd.BreaksOff := by
  unfold Cursor.atEnd
  split
  · exact breaksOff_breakValue _ _ _ _
  · exact breaksOff_breakValue _ _ _ _
  · exact breaksOff_breakContainer _ _
  · exact breaksOff_breakContainer _ _
  · exact breaksOff_breakContainer _ _
  · exact breaksOff_breakName _ _

/-! ### Moving on -/

/-- What is settled is behind its tokens. -/
lemma after_settle (h : framesOpened frames ++ v.toTokens = done) :
    (settle v frames).After done := by
  cases frames with
  | nil => exact h
  | cons frame frames =>
    rw [framesOpened_cons] at h
    cases frame with
    | list before =>
      refine ⟨?_, nofun, nofun⟩
      simp [framesOpened_cons, Frame.opened, Place.pending, ← h]
    | named before name =>
      refine ⟨?_, nofun, nofun⟩
      simp [framesOpened_cons, Frame.opened, memberTokens, Place.pending, ← h]
    | record before => exact breaksOff_breakOff (Or.inr (List.cons_ne_nil _ _))

/-- A token where a value is wanted. -/
lemma after_moveValue (h : framesOpened frames = done) (t : Token) :
    (moveValue frames t).After (done ++ [t]) := by
  cases t with
  | null | flag | number | text => exact after_settle (by rw [h]; rfl)
  | listOpen =>
    exact ⟨by simp [framesOpened_cons, Frame.opened, Place.pending, h], fun _ => ⟨_, rfl⟩, nofun⟩
  | recordOpen =>
    exact ⟨by simp [framesOpened_cons, Frame.opened, Place.pending, h], nofun, fun _ => ⟨_, rfl⟩⟩
  | listClose | recordClose | comma | colon | broken => exact breaksOff_breakValue _ _ _ _

/-- A token where a name is wanted. -/
lemma after_moveName (h : framesOpened frames = done) (t : Token) :
    (moveName frames t).After (done ++ [t]) := by
  unfold moveName
  split
  · split
    · refine ⟨?_, nofun, nofun⟩
      rw [← h, framesOpened_cons, framesOpened_cons]
      simp [Frame.opened, Place.pending]
    · exact breaksOff_breakContainer _ _
  · split
    · exact breaksOff_breakValue _ _ _ _
    · exact breaksOff_breakContainer _ _
  · exact breaksOff_breakName _ _

/-- **A cursor moves on behind the next token**, completes an outline of all tokens so far, or
breaks off. -/
theorem Cursor.After.move (h : c.After done) (t : Token) : (c.move t).After (done ++ [t]) := by
  obtain ⟨frames, place⟩ := c
  obtain ⟨htokens, hitem, hname⟩ := h
  unfold Cursor.move
  simp only at htokens hitem hname ⊢
  split
  case h_1 => exact after_moveValue (by simpa [Place.pending] using htokens) _
  case h_3 => exact after_moveValue (by simpa [Place.pending] using htokens) _
  case h_5 | h_6 => exact after_moveName (by simpa [Place.pending] using htokens) _
  case h_2 =>
    obtain ⟨_, hframes⟩ := hitem rfl
    cases hframes
    rw [framesOpened_cons, Place.pending, List.append_nil] at htokens
    refine after_settle ?_
    rw [← htokens]
    simp [Outline.toTokens, Outline.closing, Frame.opened]
  case h_4 =>
    obtain ⟨_, hframes⟩ := hname rfl
    cases hframes
    rw [framesOpened_cons, Place.pending, List.append_nil] at htokens
    refine after_settle ?_
    rw [← htokens]
    simp [Outline.toTokens, Outline.closing, Frame.opened]
  case h_7 | h_9 | h_10 => exact ⟨by simpa [Place.pending] using htokens, nofun, nofun⟩
  case h_8 => exact breaksOff_breakValue _ _ _ _
  case h_11 => exact after_settle (toTokens_list htokens)
  case h_12 => exact after_settle (toTokens_record htokens)
  case h_13 => exact breaksOff_breakContainer _ _

/-- **What does not break off is the outline of the tokens.** -/
theorem Cursor.After.toTokens_run (h : c.After done) (hrun : c.run ts = ⟨o, false⟩)
    (ho : o.skip = .ok ()) : o.toTokens = done ++ ts := by
  induction ts generalizing c done with
  | nil =>
    cases hrun
    exact absurd ho (breaksOff_atEnd c)
  | cons t ts ih =>
    have hmove := h.move t
    rw [run_cons] at hrun
    generalize c.move t = m at hmove hrun
    cases m with
    | go next =>
      rw [ih hmove hrun, List.append_assoc]
      rfl
    | complete root =>
      obtain ⟨rfl, hend⟩ := Document.mk.inj hrun
      obtain rfl : ts = [] := by simpa using hend
      exact hmove
    | stop root =>
      cases hrun
      exact absurd ho hmove

end Cursors

/-! ## All tokens of an outline -/

namespace Outline

section Tokens

variable {P : Token → Prop} {items : List Outline} {members : List Member} {fault : Option Fault}
  {o : Outline} {text : String}

/-- The tokens of a list are those of its items, and brackets and commas. -/
lemma forall_toTokens_list_iff (hopen : P .listOpen) (hcomma : P .comma) :
    (∀ t ∈ (list items fault).toTokens, P t) ↔
      (∀ item ∈ items, ∀ t ∈ item.toTokens, P t) ∧ P (closing .listClose fault) := by
  have hitems : ∀ items : List Outline, (∀ t ∈ itemsTokens items, P t) ↔
      ∀ item ∈ items, ∀ t ∈ item.toTokens, P t := by
    intro items
    induction items with
    | nil => simp [itemsTokens]
    | cons item items ih =>
      simp only [itemsTokens, List.forall_mem_cons, List.forall_mem_append, ih, hcomma, true_and]
  cases items with
  | nil => simp [toTokens, hopen]
  | cons item items =>
    simp only [toTokens, List.forall_mem_cons, List.forall_mem_append, List.not_mem_nil,
      IsEmpty.forall_iff, implies_true, hitems, hopen, true_and, and_true, and_assoc]

/-- The tokens of a record are those of its names and values, and brackets, colons and commas. -/
lemma forall_toTokens_record_iff (hopen : P .recordOpen) (hcolon : P .colon) (hcomma : P .comma) :
    (∀ t ∈ (record members fault).toTokens, P t) ↔
      (∀ m ∈ members, P (.text m.1) ∧ ∀ t ∈ m.2.toTokens, P t) ∧
        P (closing .recordClose fault) := by
  have hmembers : ∀ members : List Member, (∀ t ∈ membersTokens members, P t) ↔
      ∀ m ∈ members, P (.text m.1) ∧ ∀ t ∈ m.2.toTokens, P t := by
    intro members
    induction members with
    | nil => simp [membersTokens]
    | cons member members ih =>
      simp only [membersTokens, List.forall_mem_cons, List.forall_mem_append, ih, hcolon, hcomma,
        true_and, and_assoc]
  cases members with
  | nil => simp [toTokens, hopen]
  | cons member members =>
    simp only [toTokens, List.forall_mem_cons, List.forall_mem_append, List.not_mem_nil,
      IsEmpty.forall_iff, implies_true, hmembers, hopen, hcolon, true_and, and_true, and_assoc]

lemma isBroken_closing_iff {bracket : Token} (h : bracket.isBroken = false) :
    (closing bracket fault).isBroken = false ↔ fault = none := by
  cases fault with
  | none => exact iff_of_true h rfl
  | some f => exact iff_of_false nofun nofun

/-- No token of an outline is broken if it does not break off. -/
lemma isBroken_eq_false_iff :
    (∀ t ∈ o.toTokens, t.isBroken = false) ↔ o.skip = .ok () := by
  induction o using nestedInduction with
  | null | flag | number | text | broken => simp [toTokens, skip, Token.isBroken]
  | list items fault ih =>
    rw [forall_toTokens_list_iff (P := fun t => t.isBroken = false) rfl rfl, skip_list_iff,
      isBroken_closing_iff rfl]
    exact and_congr_left' (forall₂_congr ih)
  | record members fault ih =>
    rw [forall_toTokens_record_iff (P := fun t => t.isBroken = false) rfl rfl rfl, skip_record_iff,
      isBroken_closing_iff rfl]
    exact and_congr_left' (forall₂_congr fun m hm => (and_iff_right rfl).trans (ih m hm))

/-- An outline is what a text is written from. -/
def SpelledBy (o : Outline) (text : String) : Prop := Spaced o.toTokens text.toList

/-- **The texts that spell an outline** are those with this outline and nothing behind it. -/
theorem spelledBy_iff :
    o.SpelledBy text ↔ Document.ofText text = ⟨o, false⟩ ∧ o.skip = .ok () := by
  rw [SpelledBy, spaced_iff, isBroken_eq_false_iff, Document.ofText]
  refine and_congr_left fun ho => ⟨fun htokens => htokens ▸ ofTokens_toTokens ho, fun hrun => ?_⟩
  have hstart : Cursor.After [] ⟨[], .value⟩ := by
    refine ⟨rfl, fun h => ?_, fun h => ?_⟩ <;> cases h
  exact (hstart.toTokens_run hrun ho).symm

/-- A text that spells a value spells its outline. -/
lemma spelledBy_of_spells {v : Json} (h : Spells text v) : (ofValue v).SpelledBy text :=
  spelledBy_iff.2 ⟨ofText_of_spells h, skip_ofValue v⟩

/-! ## Well-formed outlines -/

/-- Some text spells an outline. -/
def WellFormed (o : Outline) : Prop := ∃ text, o.SpelledBy text

/-- What is well formed does not break off. -/
lemma WellFormed.skip_eq (h : o.WellFormed) : o.skip = .ok () := by
  obtain ⟨text, htext⟩ := h
  exact (spelledBy_iff.1 htext).2

/-- An outline is well formed if its tokens can be written. -/
lemma wellFormed_iff : o.WellFormed ↔ ∀ t ∈ o.toTokens, t.Writable := by
  rw [← exists_spaced_iff]
  constructor
  · rintro ⟨text, htext⟩
    exact ⟨text.toList, htext⟩
  · rintro ⟨cs, hcs⟩
    exact ⟨String.ofList cs, by rwa [SpelledBy, String.toList_ofList]⟩

lemma writable_closing_iff {bracket : Token} (h : bracket.Writable) :
    (closing bracket fault).Writable ↔ fault = none := by
  cases fault with
  | none => exact iff_of_true h rfl
  | some f => exact iff_of_false (fun ⟨_, hl⟩ => nomatch hl) nofun

/-- **A list is well formed** if it is closed and its items are well formed. -/
theorem wellFormed_list_iff :
    (list items fault).WellFormed ↔ (∀ item ∈ items, item.WellFormed) ∧ fault = none := by
  simp only [wellFormed_iff]
  rw [forall_toTokens_list_iff ⟨_, .listOpen⟩ ⟨_, .comma⟩, writable_closing_iff ⟨_, .listClose⟩]

/-- **A record is well formed** if it is closed, its names can be written and its values are well
formed. -/
theorem wellFormed_record_iff : (record members fault).WellFormed ↔
    (∀ m ∈ members, (Token.text m.1).Writable ∧ m.2.WellFormed) ∧ fault = none := by
  simp only [wellFormed_iff]
  rw [forall_toTokens_record_iff ⟨_, .recordOpen⟩ ⟨_, .colon⟩ ⟨_, .comma⟩,
    writable_closing_iff ⟨_, .recordClose⟩]

end Tokens

end Outline

/-- Every text can be written. -/
lemma writable_text (s : String) : (Token.text (.ok s)).Writable := by
  have htokens : tokens (textChars s) = [.text (.ok s)] := by
    have hchars := tokens_textChars s []
    rwa [List.append_nil, tokens] at hchars
  have hspaced : Spaced [.text (.ok s)] (textChars s) :=
    spaced_iff.2 ⟨htokens, by simp [Token.isBroken]⟩
  exact exists_spaced_iff.1 ⟨_, hspaced⟩ _ List.mem_cons_self

end Cutscene.Json
