import Cutscene.Proofs.Screen.Stacking

set_option relaxedAutoImplicit false
set_option autoImplicit false

/-!
# A text that is typed never lowers the bubbles above it

While a line is typed, its bubble shows more and more of its text. The lines of a text are no fewer
when more of it is shown, so the bubble grows upward, the older ones are pushed up, and those that
leave the area are not seen again.

## Main definitions

* `Cutscene.Screen.PushesUp` — what the growth of the newest bubble does to the places of all.

## Main results

* `Cutscene.Screen.exists_words_append` — more text makes the last word longer and adds words.
* `Cutscene.Screen.length_fill_singleton_mono`, `Cutscene.Screen.length_fill_le_append` — a longer
  last word takes no fewer lines, and neither do more words.
* `Cutscene.Screen.length_wrap_le_of_prefix` — the lines of a text that goes on are no fewer.
* `Cutscene.Screen.typing_pushes_up` — what this means for a text that is shown up to a character,
  and for the bubbles above it.

## Design

Nothing has to be said about single characters. The words of a text and of one that goes on are the
same up to the last word of the first, and filling has the same line begun there. What is compared
is the last word alone, which is longer in the second text and has other words behind it. The width
of an area makes no difference to this, and neither does the width of a text.
-/

namespace Cutscene.Screen

variable {width : ℕ} {line word longer : List Char} {ws : List (List Char)}

/-! ### The lines of a text that goes on -/

/-- A text that goes on has the same words up to its last, which may go on, and others behind. -/
lemma exists_words_append (text rest : List Char) :
    ∃ ahead word more behind, words text = ahead ++ [word] ∧
      words (text ++ rest) = ahead ++ (word ++ more) :: behind := by
  induction text with
  | nil =>
    obtain ⟨more, behind, h⟩ := List.exists_cons_of_ne_nil (words_ne_nil rest)
    exact ⟨[], [], more, behind, rfl, h⟩
  | cons c cs ih =>
    obtain ⟨ahead, word, more, behind, htext, hrest⟩ := ih
    by_cases hc : c = ' '
    · exact ⟨[] :: ahead, word, more, behind, by simp [words, hc, htext],
        by simp [words, hc, hrest]⟩
    · cases ahead with
      | nil =>
        exact ⟨[], c :: word, more, behind, by simp [words, hc, htext],
          by simp [words, hc, hrest]⟩
      | cons first ahead =>
        exact ⟨(c :: first) :: ahead, word, more, behind, by simp [words, hc, htext],
          by simp [words, hc, hrest]⟩

/-- A word on its own takes as many lines as its length asks for. -/
lemma length_fill_nil_singleton (hwidth : 0 < width) (word : List Char) :
    (fill width [] [word]).length = (word.length + width - 1) / width := by
  have hpieces : ((cut width word).1.length) = (word.length - 1) / width := by
    fun_induction cut width word with
    | case1 word h pieces rest hdrop ih =>
      rw [hdrop] at ih
      rw [List.length_cons, ih, List.length_drop, ← Nat.add_div_right _ hwidth]
      congr 1
      omega
    | case2 word h =>
      rw [List.length_nil, Nat.div_eq_of_lt (by omega)]
  rw [fill_cons, place_nil, List.length_append, hpieces]
  by_cases hnil : word = []
  · subst hnil
    rw [cut_of_length_le (Nat.zero_le _)]
    simp only [fill, List.isEmpty_nil, if_true, List.length_nil]
    rw [Nat.div_eq_of_lt (by omega), Nat.div_eq_of_lt (by omega)]
  · have hpos : 0 < word.length := List.length_pos_iff.2 hnil
    rw [fill_nil ((cuts_cut hwidth word).rest_ne_nil hnil), List.length_singleton,
      ← Nat.add_div_right _ hwidth]
    congr 1
    omega

/-- A longer last word takes no fewer lines. -/
lemma length_fill_singleton_mono (hwidth : 0 < width) (line : List Char)
    (h : word.length ≤ longer.length) :
    (fill width line [word]).length ≤ (fill width line [longer]).length := by
  have halone : (fill width [] [word]).length ≤ (fill width [] [longer]).length := by
    rw [length_fill_nil_singleton hwidth, length_fill_nil_singleton hwidth]
    exact Nat.div_le_div_right (by omega)
  by_cases hline : line = []
  · rwa [hline]
  have hnext : ∀ w : List Char, line ++ ' ' :: w ≠ [] := by simp
  by_cases hroom : line.length + 1 + longer.length ≤ width
  · -- there is room for both
    have hone : ∀ w : List Char, line.length + 1 + w.length ≤ width →
        (fill width line [w]).length = 1 := by
      intro w hw
      rw [fill_cons_of_room hline hw, fill_nil (hnext w), List.length_singleton]
    exact Nat.le_of_eq ((hone word (by omega)).trans (hone longer hroom).symm)
  by_cases hword : line.length + 1 + word.length ≤ width
  · -- only the shorter one stays on the line
    rw [fill_cons_of_room hline hword, fill_cons_of_no_room hline (by omega), fill_nil (hnext _),
      List.length_singleton, List.length_cons]
    omega
  · rw [fill_cons_of_no_room hline (by omega), fill_cons_of_no_room hline (by omega),
      List.length_cons, List.length_cons]
    omega

/-- More words take no fewer lines. -/
lemma length_fill_le_append (width : ℕ) (line : List Char) (ws more : List (List Char)) :
    (fill width line ws).length ≤ (fill width line (ws ++ more)).length := by
  have hrest : ∀ begun : List Char,
      (fill width begun []).length ≤ (fill width begun more).length := by
    intro begun
    by_cases hbegun : begun = []
    · simp [hbegun, fill]
    · obtain ⟨right, below, h, -⟩ := fill_of_ne_nil width more hbegun
      rw [fill_nil hbegun, h, List.length_cons, List.length_cons]
      exact Nat.succ_le_succ (Nat.zero_le _)
  calc (fill width line ws).length = (fill width line (ws ++ [])).length := by rw [List.append_nil]
    _ = (placeAll width line ws).1.length + (fill width (placeAll width line ws).2 []).length := by
      rw [fill_append, List.length_append]
    _ ≤ (placeAll width line ws).1.length + (fill width (placeAll width line ws).2 more).length :=
      Nat.add_le_add_left (hrest _) _
    _ = (fill width line (ws ++ more)).length := by rw [fill_append, List.length_append]

/-- **The lines of a text that goes on are no fewer.** -/
lemma length_wrapChars_le_append (width : ℕ) (text rest : List Char) :
    (wrapChars width text).length ≤ (wrapChars width (text ++ rest)).length := by
  by_cases hzero : width = 0
  · have hempty : ∀ t, wrapChars width t = [[]] := fun t => by rw [wrapChars, if_pos hzero]
    exact Nat.le_of_eq (by rw [hempty, hempty])
  have hwidth : 0 < width := by omega
  have hlength : ∀ t, (wrapChars width t).length = max 1 (fill width [] (words t)).length := by
    intro t
    rw [wrapChars_eq hwidth]
    split
    · next h => rw [h]; rfl
    · next h => rw [Nat.max_eq_right (List.length_pos_iff.2 h)]
  obtain ⟨ahead, word, more, behind, htext, hrest⟩ := exists_words_append text rest
  have hlast : (fill width [] (words text)).length ≤
      (fill width [] (words (text ++ rest))).length := by
    rw [htext, hrest, fill_append, fill_append, List.length_append, List.length_append]
    apply Nat.add_le_add_left
    calc (fill width (placeAll width [] ahead).2 [word]).length
        ≤ (fill width (placeAll width [] ahead).2 [word ++ more]).length :=
          length_fill_singleton_mono hwidth _ (by simp)
      _ ≤ (fill width (placeAll width [] ahead).2 ((word ++ more) :: behind)).length :=
          length_fill_le_append width _ [word ++ more] behind
  rw [hlength, hlength]
  omega

lemma length_wrap_le_of_prefix (width : ℕ) {text grown : String}
    (h : text.toList <+: grown.toList) : (wrap width text).length ≤ (wrap width grown).length := by
  obtain ⟨rest, hrest⟩ := h
  rw [wrap, wrap, List.length_map, List.length_map, ← hrest]
  exact length_wrapChars_le_append width text.toList rest

/-! ### The bubbles above it -/

section Bubbles

variable {area : Rect} {b newest grown : BubbleView} {older newer newer' : List BubbleView}
  {r r' : Rect} {i : ℕ}

/-- How the places of bubbles change, of which all but the newest stay as they are. The newest has
the index given. -/
structure PushesUp (last : ℕ) (before after : List (Option Rect)) : Prop where
  /-- None is shown that was not. -/
  shown : ∀ {i}, (shownAt after i).isSome → (shownAt before i).isSome
  /-- The newest stands where it stood. -/
  newest : ∀ {r r'}, shownAt before last = some r → shownAt after last = some r' →
    r'.bottom = r.bottom ∧ r'.x = r.x ∧ r'.width = r.width
  /-- An older one keeps its columns and its size, and does not move down. -/
  older : ∀ {i r r'}, i < last → shownAt before i = some r → shownAt after i = some r' →
    r'.x = r.x ∧ r'.width = r.width ∧ r'.height = r.height ∧ r'.y ≤ r.y

/-- The columns of a bubble depend on its side only. -/
lemma Placed.columns_eq (h : Placed area width newest newer r)
    (h' : Placed area width grown newer' r') (hside : grown.side = newest.side) :
    r'.x = r.x ∧ r'.width = r.width := by
  have hwidth : r'.width = r.width := h'.width_eq.trans h.width_eq.symm
  refine ⟨?_, hwidth⟩
  cases hnewest : newest.side with
  | left => rw [h.left hnewest, h'.left (hside.trans hnewest)]
  | right =>
    have hright := h.right hnewest
    have hright' := h'.right (hside.trans hnewest)
    rw [Rect.right] at hright hright'
    omega

/-- The newest bubble has nothing below. -/
lemma placed_newest (h : shownAt (slots area (older ++ [b])) older.length = some r) :
    Placed area (columns area) b [] r := by
  obtain ⟨b', hb', hplaced⟩ := exists_slot_of_shownAt h
  rw [List.getElem?_concat_length, Option.some.injEq] at hb'
  rw [hb']
  rwa [List.drop_of_length_le (by simp)] at hplaced

/-- An older bubble has the newest below, and those between. -/
lemma exists_placed_older (h : shownAt (slots area (older ++ [b])) i = some r)
    (hi : i < older.length) :
    ∃ o, older[i]? = some o ∧
      Placed area (columns area) o (older.drop (i + 1) ++ [b]) r := by
  obtain ⟨o, ho, hplaced⟩ := exists_slot_of_shownAt h
  rw [List.getElem?_append_left hi] at ho
  rw [List.drop_append_of_le_length hi] at hplaced
  exact ⟨o, ho, hplaced⟩

/-- With a newest bubble that says more, bubbles take no fewer rows. -/
lemma stackRows_concat_le (h : newest.text.toList <+: grown.text.toList) (width : ℕ)
    (bs : List BubbleView) :
    stackRows width (bs ++ [newest]) ≤ stackRows width (bs ++ [grown]) := by
  have hlines := length_wrap_le_of_prefix (width - 4) h
  rw [stackRows_append, stackRows_append, stackRows_cons, stackRows_cons, rows, rows]
  omega

/-- A newest bubble that says more pushes the others up. -/
lemma slots_pushesUp (hside : grown.side = newest.side)
    (htext : newest.text.toList <+: grown.text.toList) (area : Rect) (older : List BubbleView) :
    PushesUp older.length (slots area (older ++ [newest])) (slots area (older ++ [grown])) := by
  refine ⟨fun {i} hi => ?_, fun hr hr' => ?_, fun {i r r'} hi hr hr' => ?_⟩
  · rw [isSome_shownAt_iff, List.length_append, List.length_singleton] at hi ⊢
    have hlast : i ≤ older.length := Nat.le_of_lt_succ hi.1
    have hrows := stackRows_concat_le htext (columns area) (older.drop i)
    rw [← List.drop_append_of_le_length hlast, ← List.drop_append_of_le_length hlast] at hrows
    exact ⟨hi.1, hi.2.1, by omega⟩
  · have hplaced := placed_newest hr
    have hplaced' := placed_newest hr'
    have hbottom := hplaced.bottom_eq
    have hbottom' := hplaced'.bottom_eq
    exact ⟨by omega, hplaced.columns_eq hplaced' hside⟩
  · obtain ⟨o, ho, hplaced⟩ := exists_placed_older hr hi
    obtain ⟨o', ho', hplaced'⟩ := exists_placed_older hr' hi
    obtain rfl : o = o' := Option.some.inj (ho.symm.trans ho')
    obtain ⟨hx, hwidth⟩ := hplaced.columns_eq hplaced' rfl
    have hrows := stackRows_concat_le htext (columns area) (older.drop (i + 1))
    have htop := hplaced.top_eq
    have htop' := hplaced'.top_eq
    rw [stackRows_cons] at htop htop'
    exact ⟨hx, hwidth, hplaced'.height_eq.trans hplaced.height_eq.symm, by omega⟩

/-- **A text that is typed never lowers the bubbles above it.** The lines of a text that is shown
up to a character are no fewer for a later one; so a newest bubble that says more stands where it
stood, and the older ones are moved up, or are not shown any more.

**Proof sketch.** The text that is shown earlier is the beginning of what is shown later, so its
lines are no more (`length_wrap_le_of_prefix`), and neither are the rows of any stack that ends with
the newest bubble (`stackRows_concat_le`). What is shown and where depends on these rows alone
(`isSome_shownAt_iff`, `Placed.top_eq`). -/
theorem typing_pushes_up :
    (∀ (text : String) (width n m : ℕ), n ≤ m →
      (wrap width (String.ofList (text.toList.take n))).length ≤
        (wrap width (String.ofList (text.toList.take m))).length) ∧
    ∀ (area : Rect) (older : List BubbleView) (newest grown : BubbleView), area.width ≤ 21845 →
      grown.side = newest.side → newest.text.toList <+: grown.text.toList →
      ∃ before after, bubbleAreas? area (older ++ [newest]) = some before ∧
        bubbleAreas? area (older ++ [grown]) = some after ∧ PushesUp older.length before after := by
  refine ⟨fun text width n m h => length_wrap_le_of_prefix width ?_,
    fun area older newest grown h hside htext =>
      ⟨_, _, bubbleAreas?_eq_some h _, bubbleAreas?_eq_some h _, ?_⟩⟩
  · rw [String.toList_ofList, String.toList_ofList]
    exact List.take_prefix_take_left h
  · rw [layout_eq_slots, layout_eq_slots]
    exact slots_pushesUp hside htext area older

/-- A bubble whose text comes to a second line in the alcove. -/
def tally : BubbleView := remark .right "one two three four five six"

/-- When the text reaches its second line the bubble above is moved up by a row. -/
theorem typing_pushes_up_alcove :
    (wrap 20 "one two").length = 1 ∧ (wrap 20 tally.text).length = 2 ∧
      (wrap 20 (String.ofList (tally.text.toList.take 7))).length ≤
        (wrap 20 (String.ofList (tally.text.toList.take 27))).length ∧
      alcove.width ≤ 21845 ∧
      bubbleAreas? alcove [remark .left "one", remark .right "one two"] =
        some [some (.clipped 3 5 24 3), some (.clipped 17 8 24 3)] ∧
      bubbleAreas? alcove [remark .left "one", tally] =
        some [some (.clipped 3 4 24 3), some (.clipped 17 7 24 4)] ∧
      PushesUp 1 [some (.clipped 3 5 24 3), some (.clipped 17 8 24 3)]
        [some (.clipped 3 4 24 3), some (.clipped 17 7 24 4)] := by
  have hrows : rows 24 (remark .left "one") = 3 ∧ rows 24 (remark .right "one two") = 3 ∧
      rows 24 tally = 4 := by
    simp [rows, tally, remark, wrap, wrapChars, words, fill, cut]
  have hcolumns : columns alcove = 24 := by decide
  have hbefore : bubbleAreas? alcove [remark .left "one", remark .right "one two"] =
      some [some (.clipped 3 5 24 3), some (.clipped 17 8 24 3)] := by
    rw [bubbleAreas?_eq_some (by decide), hcolumns, layout]
    simp only [List.reverse_cons, List.reverse_nil, List.nil_append, List.cons_append,
      placeUpward, bubbleArea, hrows]
    decide
  have hafter : bubbleAreas? alcove [remark .left "one", tally] =
      some [some (.clipped 3 4 24 3), some (.clipped 17 7 24 4)] := by
    rw [bubbleAreas?_eq_some (by decide), hcolumns, layout]
    simp only [List.reverse_cons, List.reverse_nil, List.nil_append, List.cons_append,
      placeUpward, bubbleArea, hrows]
    decide
  obtain ⟨before, after, hsome, hsome', hpushes⟩ := typing_pushes_up.2 alcove
    [remark .left "one"] (remark .right "one two") tally (by decide) rfl (by decide)
  obtain rfl := Option.some.inj (hbefore.symm.trans hsome)
  obtain rfl := Option.some.inj (hafter.symm.trans hsome')
  refine ⟨?_, ?_, typing_pushes_up.1 tally.text 20 7 27 (by decide), by decide, hbefore, hafter,
    hpushes⟩
  · simp [wrap, wrapChars, words, fill, cut]
  · simp [tally, remark, wrap, wrapChars, words, fill, cut]

end Bubbles

end Cutscene.Screen
