import Cutscene.Proofs.Json.Outlines

set_option relaxedAutoImplicit false
set_option autoImplicit false

/-!
# What a cursor keeps

A cursor meets the tokens of a text one after the other, and there are only so many things a token
can lead to. What all of them keep is kept by the whole walk, wherever the text stops being JSON:
whatever has opened a container ends as one, and the numbers in an outline are those of the tokens.

## Main definitions

* `Cutscene.Json.Leads` — what a token can lead to.
* `Cutscene.Json.Move.Keeps` — a move that keeps an invariant of cursors, or ends as it has to.
* `Cutscene.Json.Outline.Contains`, `Cutscene.Json.Outline.Draws` — the numbers that stand in an
  outline.

## Main results

* `Cutscene.Json.run_induction` — what moves keep is kept by walks.
* `Cutscene.Json.isContainer_run` — what has opened a container ends as one.
* `Cutscene.Json.readsBack_iff` — a number reads back if its text, on its own, is read as it.
* `Cutscene.Json.draws_ofTokens` — the numbers in an outline are those of the tokens.
-/

namespace Cutscene.Json

/-! ## Moves -/

/-- The outline of a token that is a value on its own. -/
def Token.value? : Token → Option Outline
  | .null => some .null
  | .flag b => some (.flag b)
  | .number v => some (.number v)
  | .text v => some (.text v)
  | .listOpen | .listClose | .recordOpen | .recordClose | .comma | .colon | .broken _ _ _ => none

/-- What a token can lead to from inside open containers. -/
inductive Leads (t : Token) : List Frame → Move → Prop where
  /-- The token is a value of its own. -/
  | value {v : Outline} {frames : List Frame} (h : t.value? = some v) :
      Leads t frames (settle v frames)
  /-- The token opens a list. -/
  | listOpen {frames : List Frame} : Leads t frames (.go ⟨.list [] :: frames, .firstItem⟩)
  /-- The token opens a record. -/
  | recordOpen {frames : List Frame} : Leads t frames (.go ⟨.record [] :: frames, .firstName⟩)
  /-- The token closes a list. -/
  | listClose {before : List Outline} {frames : List Frame} :
      Leads t (.list before :: frames) (settle (.list before.reverse none) frames)
  /-- The token closes a record. -/
  | recordClose {before : List Member} {frames : List Frame} :
      Leads t (.record before :: frames) (settle (.record before.reverse none) frames)
  /-- The token is the name of a member. -/
  | name {before : List Member} {name : Except Fault String} {frames : List Frame} :
      Leads t (.record before :: frames) (.go ⟨.named before name :: frames, .colon⟩)
  /-- The token stands between two others. -/
  | between {frames : List Frame} {place : Place} : Leads t frames (.go ⟨frames, place⟩)
  /-- The text breaks off where a value is wanted. -/
  | breakValue {shape : Shape} {onRead onSkip : Fault} {frames : List Frame} :
      Leads t frames (.stop (breakValue shape onRead onSkip frames))
  /-- The text breaks off inside a container. -/
  | breakContainer {fault : Fault} {frames : List Frame} :
      Leads t frames (.stop (breakContainer fault frames))
  /-- The text breaks off where a name is wanted. -/
  | breakName {fault : Fault} {frames : List Frame} :
      Leads t frames (.stop (breakName fault frames))
  /-- The text breaks off inside a name. -/
  | breakNamed {before : List Member} {name : Except Fault String} {onRead onSkip : Fault}
      {frames : List Frame} :
      Leads t (.record before :: frames)
        (.stop (Json.breakValue .absent onRead onSkip (.named before name :: frames)))

lemma leads_moveValue (frames : List Frame) (t : Token) : Leads t frames (moveValue frames t) := by
  cases t with
  | null | flag | number | text => exact .value rfl
  | listOpen => exact .listOpen
  | recordOpen => exact .recordOpen
  | listClose | recordClose | comma | colon | broken => exact .breakValue

lemma leads_moveName (frames : List Frame) (t : Token) : Leads t frames (moveName frames t) := by
  unfold moveName
  split
  · split
    · exact .name
    · exact .breakContainer
  · split
    · exact .breakNamed
    · exact .breakContainer
  · exact .breakName

/-- **What a token can lead to.** -/
lemma leads_move (c : Cursor) (t : Token) : Leads t c.frames (c.move t) := by
  obtain ⟨frames, place⟩ := c
  unfold Cursor.move
  simp only
  split
  case h_1 | h_3 => exact leads_moveValue _ _
  case h_5 | h_6 => exact leads_moveName _ _
  case h_2 | h_11 => exact .listClose
  case h_4 | h_12 => exact .recordClose
  case h_7 | h_9 | h_10 => exact .between
  case h_8 => exact .breakValue
  case h_13 => exact .breakContainer

/-! ## Walks -/

/-- A move that keeps an invariant of cursors, or ends with an outline of a kind. -/
def Move.Keeps (I : Cursor → Prop) (R : Outline → Prop) : Move → Prop
  | .go c => I c
  | .complete root | .stop root => R root

/-- **What moves keep is kept by walks.** -/
theorem run_induction {I : Cursor → Prop} {R : Outline → Prop} {ts : List Token} {c : Cursor}
    (hmove : ∀ c, I c → ∀ t ∈ ts, (c.move t).Keeps I R) (hend : ∀ c, I c → R c.atEnd) (h : I c) :
    R (c.run ts).root := by
  induction ts generalizing c with
  | nil => exact hend c h
  | cons t ts ih =>
    have hkeeps := hmove c h t List.mem_cons_self
    have htail := fun c h t ht => hmove c h t (List.mem_cons_of_mem _ ht)
    rw [run_cons]
    generalize c.move t = m at hkeeps
    cases m with
    | go next => exact ih htail hkeeps
    | complete root => exact hkeeps
    | stop root => exact hkeeps

/-! ## Containers -/

/-- Whether an outline is that of a container. -/
def Outline.isContainer : Outline → Bool
  | .list _ _ | .record _ _ => true
  | .null | .flag _ | .number _ | .text _ | .broken _ _ _ => false

section Containers

variable {frames : List Frame} {v : Outline} {c : Cursor}

/-- Where the text breaks off inside a container, a container is left. -/
lemma isContainer_breakOff (h : v.isContainer = true ∨ frames ≠ []) :
    (breakOff frames v).isContainer = true := by
  induction frames generalizing v with
  | nil => simpa [breakOff] using h
  | cons frame frames ih => cases frame <;> exact ih (Or.inl rfl)

lemma isContainer_breakContainer (h : frames ≠ []) (fault : Fault) :
    (breakContainer fault frames).isContainer = true := by
  unfold breakContainer breakValue
  split
  · exact isContainer_breakOff (Or.inl rfl)
  · exact isContainer_breakOff (Or.inl rfl)
  · exact isContainer_breakOff (Or.inr h)

lemma isContainer_breakName (h : frames ≠ []) (fault : Fault) :
    (breakName fault frames).isContainer = true := by
  unfold breakName breakValue
  split
  · exact isContainer_breakOff (Or.inl rfl)
  · exact isContainer_breakOff (Or.inr h)

/-- What is settled inside a container, or is one, leads on inside or to its end. -/
lemma keeps_settle_inside (h : v.isContainer = true ∨ frames ≠ []) :
    (settle v frames).Keeps (fun c => c.frames ≠ []) (fun root => root.isContainer = true) := by
  cases frames with
  | nil => simpa [settle, Move.Keeps] using h
  | cons frame frames =>
    cases frame with
    | list before => exact List.cons_ne_nil _ _
    | named before name => exact List.cons_ne_nil _ _
    | record before => exact isContainer_breakOff (Or.inr (List.cons_ne_nil _ _))

/-- **What has opened a container ends as one**, closed or broken off. -/
theorem isContainer_run (h : c.frames ≠ []) (ts : List Token) :
    (c.run ts).root.isContainer = true := by
  refine run_induction (I := fun c => c.frames ≠ []) (R := fun root => root.isContainer = true)
    ?_ ?_ h
  · intro c hc t ht
    have hleads := leads_move c t
    generalize c.move t = m, c.frames = frames at hc hleads ⊢
    cases hleads with
    | value => exact keeps_settle_inside (Or.inr hc)
    | listClose | recordClose => exact keeps_settle_inside (Or.inl rfl)
    | listOpen | recordOpen | name => exact List.cons_ne_nil _ _
    | between => exact hc
    | breakValue => exact isContainer_breakOff (Or.inr hc)
    | breakContainer => exact isContainer_breakContainer hc _
    | breakName => exact isContainer_breakName hc _
    | breakNamed => exact isContainer_breakOff (Or.inr (List.cons_ne_nil _ _))
  · intro c hc
    unfold Cursor.atEnd
    split
    · exact isContainer_breakOff (Or.inr hc)
    · exact isContainer_breakOff (Or.inr hc)
    · exact isContainer_breakContainer hc _
    · exact isContainer_breakContainer hc _
    · exact isContainer_breakContainer hc _
    · exact isContainer_breakName hc _

end Containers

/-! ## Numbers on their own -/

/-- A whole text that is outlined as a number is one token. -/
lemma eq_singleton_of_ofTokens {ts : List Token} {value : Except Fault Number}
    (h : Document.ofTokens ts = ⟨.number value, false⟩) : ts = [.number value] := by
  have hopen : ∀ frame place ts', Cursor.run ⟨[frame], place⟩ ts' ≠ ⟨.number value, false⟩ := by
    intro frame place ts' heq
    have hcontainer := @isContainer_run ⟨[frame], place⟩ (List.cons_ne_nil _ _) ts'
    rw [heq] at hcontainer
    cases hcontainer
  cases ts with
  | nil => cases h
  | cons t ts =>
    rw [Document.ofTokens, run_cons] at h
    cases t with
    | number v =>
      have hdocument : (⟨.number v, !ts.isEmpty⟩ : Document) = ⟨.number value, false⟩ := h
      obtain ⟨hroot, htrailing⟩ := Document.mk.inj hdocument
      cases hroot
      simpa using htrailing
    | listOpen => exact absurd h (hopen _ _ _)
    | recordOpen => exact absurd h (hopen _ _ _)
    | listClose | recordClose | comma | colon | null | flag | text | broken => cases h

/-- Only the outline of a number is read as a number. -/
lemma eq_number_of_value {o : Outline} {depth : ℕ} {n : Number}
    (h : o.value depth = .ok (number n)) : o = .number (.ok n) := by
  cases o with
  | number v =>
    cases v with
    | error f => cases h
    | ok m =>
      cases h
      rfl
  | text v => cases v <;> cases h
  | null | flag | broken => cases h
  | list | record =>
    rw [Outline.value] at h
    split at h
    · cases h
    · obtain ⟨vs, -, h⟩ := exists_of_bind_eq_ok h
      obtain ⟨-, -, h⟩ := exists_of_bind_eq_ok h
      cases h

/-- **A number reads back exactly if its text, on its own, is read as the number.**

**Proof sketch.** A text that is outlined as a number is one token: after a bracket the outline
would be that of a container, closed or not. -/
theorem readsBack_iff (n : Number) (style : Style) :
    n.ReadsBack ↔ readText readValue (write style (number n)) = .ok (number n) := by
  constructor
  · intro h
    have hvalue : (number n).ReadsBack := by
      intro m hm
      rwa [List.mem_singleton.1 hm]
    exact readText_write style hvalue readValue
  · intro h
    have hdocument : Document.ofText (write style (number n)) = ⟨.number (.ok n), false⟩ := by
      obtain ⟨v, hvalue, h⟩ := exists_of_bind_eq_ok h
      generalize Document.ofText (write style (number n)) = document at hvalue h
      obtain ⟨root, trailing⟩ := document
      split at h
      · cases h
      · rename_i hmore
        cases h
        have hroot : root = .number (.ok n) := eq_number_of_value (eq_ok_of_orFault hvalue)
        have htrailing : trailing = false := Bool.eq_false_iff.2 hmore
        rw [hroot, htrailing]
    have htokens := eq_singleton_of_ofTokens hdocument
    rwa [write, String.toList_ofList] at htokens

/-! ## Numbers inside -/

/-- A number stands somewhere in an outline. -/
inductive Outline.Contains (n : Number) : Outline → Prop where
  /-- It is the outline. -/
  | number : Contains n (.number (.ok n))
  /-- It stands in an item. -/
  | item {items : List Outline} {fault : Option Fault} {item : Outline} (hmem : item ∈ items)
      (h : Contains n item) : Contains n (.list items fault)
  /-- It stands in the value of a member. -/
  | member {members : List Member} {fault : Option Fault} {name : Except Fault String}
      {value : Outline} (hmem : (name, value) ∈ members) (h : Contains n value) :
      Contains n (.record members fault)

/-- Every number in an outline is one of these. -/
def Outline.Draws (P : Number → Prop) (o : Outline) : Prop := ∀ n, o.Contains n → P n

/-- Every number in what an open container holds so far is one of these. -/
def Frame.Draws (P : Number → Prop) : Frame → Prop
  | .list before => ∀ item ∈ before, item.Draws P
  | .record before | .named before _ => ∀ m ∈ before, m.2.Draws P

section Numbers

variable {P : Number → Prop} {v : Outline} {frames : List Frame}

lemma draws_list {items : List Outline} {fault : Option Fault} :
    (Outline.list items fault).Draws P ↔ ∀ item ∈ items, item.Draws P := by
  constructor
  · intro h item hmem n hn
    exact h n (.item hmem hn)
  · intro h n hn
    cases hn with
    | item hmem hn => exact h _ hmem n hn

lemma draws_record {members : List Member} {fault : Option Fault} :
    (Outline.record members fault).Draws P ↔ ∀ m ∈ members, m.2.Draws P := by
  constructor
  · intro h m hmem n hn
    exact h n (.member hmem hn)
  · intro h n hn
    cases hn with
    | member hmem hn => exact h _ hmem n hn

lemma draws_number {n : Number} : (Outline.number (.ok n)).Draws P ↔ P n := by
  constructor
  · intro h
    exact h n .number
  · intro h m hm
    cases hm
    exact h

/-- Where the text breaks off, the numbers are those met so far. -/
lemma draws_breakOff (hv : v.Draws P) (hframes : ∀ frame ∈ frames, frame.Draws P) :
    (breakOff frames v).Draws P := by
  induction frames generalizing v with
  | nil => exact hv
  | cons frame frames ih =>
    have hframe := hframes frame List.mem_cons_self
    have htail := fun f hf => hframes f (List.mem_cons_of_mem frame hf)
    cases frame with
    | list before =>
      refine ih (draws_list.2 fun item hitem => ?_) htail
      rcases List.mem_cons.1 (List.mem_reverse.1 hitem) with rfl | hitem
      · exact hv
      · exact hframe item hitem
    | record before => exact ih (draws_record.2 fun m hm => hframe m (List.mem_reverse.1 hm)) htail
    | named before name =>
      refine ih (draws_record.2 fun m hm => ?_) htail
      rcases List.mem_cons.1 (List.mem_reverse.1 hm) with rfl | hm
      · exact hv
      · exact hframe m hm

lemma draws_broken (shape : Shape) (onRead onSkip : Fault) :
    (Outline.broken shape onRead onSkip).Draws P := fun _ hn => nomatch hn

/-- A list holds the numbers that its frame does. -/
lemma draws_closeList {before : List Outline} {fault : Option Fault}
    (h : (Frame.list before).Draws P) : (Outline.list before.reverse fault).Draws P :=
  draws_list.2 fun item hitem => h item (List.mem_reverse.1 hitem)

/-- A record holds the numbers that its frame does. -/
lemma draws_closeRecord {before : List Member} {fault : Option Fault}
    (h : (Frame.record before).Draws P) : (Outline.record before.reverse fault).Draws P :=
  draws_record.2 fun m hm => h m (List.mem_reverse.1 hm)

lemma draws_breakContainer (hframes : ∀ frame ∈ frames, frame.Draws P) (fault : Fault) :
    (breakContainer fault frames).Draws P := by
  unfold breakContainer breakValue
  split
  · obtain ⟨hframe, htail⟩ := List.forall_mem_cons.1 hframes
    exact draws_breakOff (draws_closeList hframe) htail
  · obtain ⟨hframe, htail⟩ := List.forall_mem_cons.1 hframes
    exact draws_breakOff (draws_closeRecord hframe) htail
  · exact draws_breakOff (draws_broken _ _ _) hframes

lemma draws_breakName (hframes : ∀ frame ∈ frames, frame.Draws P) (fault : Fault) :
    (breakName fault frames).Draws P := by
  unfold breakName breakValue
  split
  · obtain ⟨hframe, htail⟩ := List.forall_mem_cons.1 hframes
    refine draws_breakOff (draws_closeRecord fun m hm => ?_) htail
    rcases List.mem_cons.1 hm with rfl | hm
    · exact draws_broken _ _ _
    · exact hframe m hm
  · exact draws_breakOff (draws_broken _ _ _) hframes

/-- What is settled adds its numbers to those of its container. -/
lemma keeps_settle_draws (hv : v.Draws P) (hframes : ∀ frame ∈ frames, frame.Draws P) :
    (settle v frames).Keeps (fun c => ∀ frame ∈ c.frames, frame.Draws P)
      (fun root => root.Draws P) := by
  cases frames with
  | nil => exact hv
  | cons frame frames =>
    obtain ⟨hframe, htail⟩ := List.forall_mem_cons.1 hframes
    cases frame with
    | list before => exact List.forall_mem_cons.2 ⟨List.forall_mem_cons.2 ⟨hv, hframe⟩, htail⟩
    | named before name =>
      exact List.forall_mem_cons.2 ⟨List.forall_mem_cons.2 ⟨hv, hframe⟩, htail⟩
    | record before => exact draws_breakOff hv hframes

/-- **The numbers in an outline are those of the tokens.** -/
theorem draws_ofTokens (ts : List Token) :
    (Document.ofTokens ts).root.Draws fun n => .number (.ok n) ∈ ts := by
  refine run_induction (c := ⟨[], .value⟩)
    (I := fun c => ∀ frame ∈ c.frames, frame.Draws fun n => .number (.ok n) ∈ ts)
    (R := fun root => root.Draws fun n => .number (.ok n) ∈ ts) ?_ ?_ (List.forall_mem_nil _)
  · intro c hc t ht
    have hleads := leads_move c t
    generalize c.move t = m, c.frames = frames at hc hleads ⊢
    cases hleads with
    | value hvalue =>
      refine keeps_settle_draws (fun n hn => ?_) hc
      cases hn with
      | number =>
        cases t <;> cases hvalue
        exact ht
      | item | member => cases t <;> cases hvalue
    | listClose =>
      obtain ⟨hframe, htail⟩ := List.forall_mem_cons.1 hc
      exact keeps_settle_draws (draws_closeList hframe) htail
    | recordClose =>
      obtain ⟨hframe, htail⟩ := List.forall_mem_cons.1 hc
      exact keeps_settle_draws (draws_closeRecord hframe) htail
    | listOpen | recordOpen => exact List.forall_mem_cons.2 ⟨nofun, hc⟩
    | name =>
      obtain ⟨hframe, htail⟩ := List.forall_mem_cons.1 hc
      exact List.forall_mem_cons.2 ⟨hframe, htail⟩
    | between => exact hc
    | breakValue => exact draws_breakOff (draws_broken _ _ _) hc
    | breakContainer => exact draws_breakContainer hc _
    | breakName => exact draws_breakName hc _
    | breakNamed =>
      obtain ⟨hframe, htail⟩ := List.forall_mem_cons.1 hc
      exact draws_breakOff (draws_broken _ _ _) (List.forall_mem_cons.2 ⟨hframe, htail⟩)
  · intro c hc
    unfold Cursor.atEnd
    split
    · exact draws_breakOff (draws_broken _ _ _) hc
    · exact draws_breakOff (draws_broken _ _ _) hc
    · exact draws_breakContainer hc _
    · exact draws_breakContainer hc _
    · exact draws_breakContainer hc _
    · exact draws_breakName hc _

end Numbers

end Cutscene.Json
