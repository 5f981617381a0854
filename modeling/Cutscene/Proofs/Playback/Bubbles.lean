import Cutscene.Proofs.Playback.Screen

set_option relaxedAutoImplicit false
set_option autoImplicit false

/-!
# How bubbles grow

A bubble is changed in three ways: it shows one more character, it shows all of them, or it loses
its mark. Each way leads on from what the bubble was, and a list of bubbles in which the newest is
changed like that, or behind which new ones are put, goes on with the bubbles that were there.

## Main definitions

* `Cutscene.Bubble.Sound` — a bubble that counts its line right and shows no more than there is.
* `Cutscene.Bubble.Grows` — what a bubble may become.
* `Cutscene.Continues` — bubbles that go on with others, place by place.

## Main results

* `Cutscene.Bubble.Sound.grows_revealNext`, `Cutscene.Bubble.Sound.grows_revealAll`,
  `Cutscene.Bubble.grows_hideProceed` — what happens to a bubble lets it grow.
* `Cutscene.Bubble.Grows.visibleText_prefix` — the text that is shown only gets longer.
* `Cutscene.Continues.trans`, `Cutscene.continues_modifyLast`, `Cutscene.continues_append` —
  bubbles that go on.
-/

namespace Cutscene

namespace Bubble

variable {b old mid new : Bubble}

/-! ## One bubble -/

/-- A bubble counts the characters of its line, and shows no more of them than there are. -/
structure Sound (b : Bubble) : Prop where
  /-- The count is that of the line. -/
  length_eq : b.length = b.line.length
  /-- No more is shown than there is. -/
  revealed_le : b.revealed ≤ b.length

/-- What a bubble may become: it says the same, shows at least as much, and has no mark unless it
had one. Once it is settled it stays as it is. -/
structure Grows (old new : Bubble) : Prop where
  /-- It is known by the same. -/
  id_eq : new.id = old.id
  /-- It says the same. -/
  line_eq : new.line = old.line
  /-- It has as much to show. -/
  length_eq : new.length = old.length
  /-- It shows no less. -/
  revealed_le : old.revealed ≤ new.revealed
  /-- The mark does not come back. -/
  mark : new.proceedVisible = true → old.proceedVisible = true
  /-- A settled bubble stays as it is. -/
  settled : old.Settled → new = old

lemma sound_start (id : String) (line : Line) : (start id line).Sound := ⟨rfl, Nat.zero_le _⟩

namespace Sound

/-- A bubble that is shown whole shows as much as there is. -/
lemma revealed_eq (h : b.Sound) (hwhole : b.isRevealed = true) : b.revealed = b.length := by
  have hle : b.length ≤ b.revealed := of_decide_eq_true hwhole
  exact Nat.le_antisymm h.revealed_le hle

lemma revealNext (h : b.Sound) : b.revealNext.2.Sound := by
  unfold Bubble.revealNext
  split
  · exact h
  next hpart =>
    refine ⟨h.length_eq, ?_⟩
    simp only [isRevealed, decide_eq_true_eq] at hpart
    show b.revealed + 1 ≤ b.length
    omega

lemma revealAll (h : b.Sound) : b.revealAll.Sound := ⟨h.length_eq, Nat.le_refl _⟩

lemma hideProceed (h : b.Sound) : b.hideProceed.Sound := ⟨h.length_eq, h.revealed_le⟩

end Sound

namespace Grows

lemma refl (b : Bubble) : b.Grows b :=
  ⟨rfl, rfl, rfl, Nat.le_refl _, fun hmark => hmark, fun _ => rfl⟩

lemma trans (h : old.Grows mid) (h' : mid.Grows new) : old.Grows new where
  id_eq := h'.id_eq.trans h.id_eq
  line_eq := h'.line_eq.trans h.line_eq
  length_eq := h'.length_eq.trans h.length_eq
  revealed_le := Nat.le_trans h.revealed_le h'.revealed_le
  mark hnew := h.mark (h'.mark hnew)
  settled hold := by
    obtain rfl : mid = old := h.settled hold
    exact h'.settled hold

end Grows

/-- One more character is one character more. -/
lemma grows_revealNext (b : Bubble) : b.Grows b.revealNext.2 := by
  unfold revealNext
  split
  · exact .refl b
  next hpart =>
    exact ⟨rfl, rfl, rfl, Nat.le_succ _, fun hmark => hmark, fun h => absurd h.whole hpart⟩

/-- The whole text is no less than a part of it. -/
lemma Sound.grows_revealAll (h : b.Sound) : b.Grows b.revealAll := by
  refine ⟨rfl, rfl, rfl, h.revealed_le, fun hmark => hmark, fun hsettled => ?_⟩
  have hwhole := h.revealed_eq hsettled.whole
  cases b
  simpa [Bubble.revealAll] using hwhole.symm

/-- A mark that is hidden is gone. -/
lemma grows_hideProceed (b : Bubble) : b.Grows b.hideProceed := by
  refine ⟨rfl, rfl, rfl, Nat.le_refl _, nofun, fun hsettled => ?_⟩
  rw [hideProceed, ← hsettled.unmarked]

/-! ## What it shows -/

/-- The text that is shown is a beginning of the line. -/
lemma visibleText_prefix (b : Bubble) : b.visibleText.toList <+: b.line.text.toList := by
  rw [visibleText, String.toList_ofList]
  exact List.take_prefix _ _

/-- The text that is shown has as many characters as are counted. -/
lemma Sound.length_visibleText (h : b.Sound) : b.visibleText.toList.length = b.revealed := by
  have hle : b.revealed ≤ b.line.text.toList.length :=
    Nat.le_trans h.revealed_le (Nat.le_of_eq h.length_eq)
  rw [visibleText, String.toList_ofList, List.length_take, Nat.min_eq_left hle]

/-- **The text that is shown only gets longer.** -/
lemma Grows.visibleText_prefix (h : old.Grows new) :
    old.visibleText.toList <+: new.visibleText.toList := by
  rw [visibleText, visibleText, String.toList_ofList, String.toList_ofList, h.line_eq]
  exact List.take_prefix_take_left h.revealed_le

end Bubble

/-! ## Many bubbles -/

variable {old mid new : List Bubble} {f : Bubble → Bubble}

/-- Some bubbles go on with others: every bubble is still at its place, and has grown. There may be
more behind. -/
def Continues (old new : List Bubble) : Prop :=
  ∀ (i : ℕ) (b : Bubble), old[i]? = some b → ∃ b', new[i]? = some b' ∧ b.Grows b'

lemma Continues.refl (bubbles : List Bubble) : Continues bubbles bubbles :=
  fun _ b hb => ⟨b, hb, .refl b⟩

lemma Continues.trans (h : Continues old mid) (h' : Continues mid new) : Continues old new := by
  intro i b hb
  obtain ⟨b', hb', hgrows⟩ := h i b hb
  obtain ⟨b'', hb'', hgrows'⟩ := h' i b' hb'
  exact ⟨b'', hb'', hgrows.trans hgrows'⟩

/-- Nothing is gone if there was nothing. -/
lemma continues_nil (new : List Bubble) : Continues [] new := nofun

/-- New bubbles behind leave the others as they are. -/
lemma continues_append (bubbles more : List Bubble) : Continues bubbles (bubbles ++ more) := by
  intro i b hb
  have hi := (List.getElem?_eq_some_iff.1 hb).1
  exact ⟨b, by rw [List.getElem?_append_left hi, hb], .refl b⟩

/-- A change of the newest bubble leaves the others as they are. -/
lemma continues_modifyLast (h : ∀ b ∈ old, b.Grows (f b)) : Continues old (modifyLast f old) := by
  rcases List.eq_nil_or_concat old with rfl | ⟨past, newest, rfl⟩
  · exact continues_nil _
  · intro i b hb
    rw [List.concat_eq_append, modifyLast_append_singleton]
    rw [List.concat_eq_append] at hb h
    rcases getElem?_concat_cases hb with ⟨hi, -⟩ | ⟨rfl, rfl⟩
    · rw [List.getElem?_append_left hi] at hb ⊢
      exact ⟨b, hb, .refl b⟩
    · exact ⟨f b, by simp, h b (by simp)⟩

/-- A change of the newest bubble that keeps bubbles sound keeps all of them sound. -/
lemma sound_modifyLast (hf : ∀ {b : Bubble}, b.Sound → (f b).Sound) (h : ∀ b ∈ old, b.Sound) :
    ∀ b ∈ modifyLast f old, b.Sound := by
  rcases List.eq_nil_or_concat old with rfl | ⟨past, newest, rfl⟩
  · exact h
  · rw [List.concat_eq_append] at h ⊢
    rw [modifyLast_append_singleton]
    intro b hb
    rcases List.mem_append.1 hb with hb | hb
    · exact h b (List.mem_append_left _ hb)
    · rw [List.mem_singleton.1 hb]
      exact hf (h newest (by simp))

end Cutscene
