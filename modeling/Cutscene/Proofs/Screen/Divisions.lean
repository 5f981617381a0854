import Cutscene.Proofs.Screen.Wrap

set_option relaxedAutoImplicit false
set_option autoImplicit false

/-!
# Wrapping takes as few lines as there can be

A text of words that all fit on a line, with one blank between any two, can be divided into lines
in many ways. Wrapping puts as many words on a line as fit, then goes on with the next line. No
division of the words has fewer lines, and a blank between any two lines gives the text again.

## Main definitions

* `Cutscene.Screen.joined` — words with a blank between any two.
* `Cutscene.Screen.Fits` — a word that fits on a line.
* `Cutscene.Screen.Divides` — what it is for words to be divided into lines.

## Main results

* `Cutscene.Screen.exists_groups_of_fill` — the lines of words are a division of the words.
* `Cutscene.Screen.length_fill_compare` — a line that is further along costs at most one line more,
  and never saves one.
* `Cutscene.Screen.length_fill_le_of_groups` — no division has fewer lines.
* `Cutscene.Screen.wrap_divides_best` — the same for texts, with nothing lost.

## Design

Filling is greedy, so it is compared with a division line by line. What is compared is not how far
the two have come but how many lines are left from there: whoever has less on the line that is
begun needs no more lines, and whoever has more needs one more at most. These two facts need each
other, as a word can be the one for which there is still room here and no room there, and so they
are proved by one induction on the words.
-/

namespace Cutscene.Screen

variable {width : ℕ} {line other word : List Char} {ws vs : List (List Char)}
  {groups : List (List (List Char))}

/-! ### Words with blanks between them -/

/-- Words with a blank between any two. -/
def joined (ws : List (List Char)) : List Char := [' '].intercalate ws

@[simp] lemma joined_singleton (word : List Char) : joined [word] = word :=
  List.intercalate_singleton

/-- The first word, and each further word behind a blank. -/
lemma joined_cons (word : List Char) (ws : List (List Char)) :
    joined (word :: ws) = word ++ ws.flatMap (' ' :: ·) := by
  induction ws generalizing word with
  | nil => simp
  | cons v vs ih =>
    have hstep : joined (word :: v :: vs) = word ++ [' '] ++ joined (v :: vs) :=
      List.intercalate_cons_cons
    rw [hstep, ih, List.flatMap_cons]
    simp

/-- Further words come behind blanks. -/
lemma joined_append (hws : ws ≠ []) (vs : List (List Char)) :
    joined (ws ++ vs) = joined ws ++ vs.flatMap (' ' :: ·) := by
  obtain ⟨w, ws, rfl⟩ := List.exists_cons_of_ne_nil hws
  rw [List.cons_append, joined_cons, joined_cons, List.flatMap_append, List.append_assoc]

/-- Some lines of joined words, each behind a blank, are all the words, each behind a blank. -/
lemma flatMap_map_joined (h : ∀ g ∈ groups, g ≠ []) :
    (groups.map joined).flatMap (' ' :: ·) = groups.flatten.flatMap (' ' :: ·) := by
  induction groups with
  | nil => rfl
  | cons g groups ih =>
    obtain ⟨hg, hlater⟩ := List.forall_mem_cons.1 h
    obtain ⟨w, ws, hws⟩ := List.exists_cons_of_ne_nil hg
    rw [List.map_cons, List.flatMap_cons, ih hlater, List.flatten_cons, List.flatMap_append, hws,
      joined_cons, List.flatMap_cons]
    simp only [List.cons_append, List.append_assoc]

/-- Joining some lines of joined words joins all the words. -/
lemma joined_map_joined (h : ∀ g ∈ groups, g ≠ []) :
    joined (groups.map joined) = joined groups.flatten := by
  cases groups with
  | nil => rfl
  | cons g groups =>
    obtain ⟨hg, hlater⟩ := List.forall_mem_cons.1 h
    rw [List.map_cons, joined_cons, flatMap_map_joined hlater, List.flatten_cons,
      joined_append hg]

/-- The words of joined words are those words. -/
lemma words_joined (hws : ws ≠ []) (hblank : ∀ w ∈ ws, ' ' ∉ w) : words (joined ws) = ws := by
  obtain ⟨w, ws, rfl⟩ := List.exists_cons_of_ne_nil hws
  rw [joined_cons]
  induction ws generalizing w with
  | nil =>
    rw [List.flatMap_nil, List.append_nil, words_of_notMem (hblank w List.mem_cons_self)]
  | cons v vs ih =>
    obtain ⟨hw, hrest⟩ := List.forall_mem_cons.1 hblank
    rw [List.flatMap_cons, List.cons_append, words_append_blank, words_of_notMem hw,
      ih v (by simp) hrest, List.singleton_append]

/-! ### One more word that fits -/

/-- A word that fits on a line. -/
structure Fits (width : ℕ) (word : List Char) : Prop where
  /-- There is a word. -/
  ne_nil : word ≠ []
  /-- The line is as long as the word. -/
  length_le : word.length ≤ width

/-- A word that fits begins a line. -/
lemma Fits.fill_first (h : Fits width word) :
    fill width [] (word :: ws) = fill width word ws := by
  rw [fill_cons, place_nil, cut_of_length_le h.length_le, List.nil_append]

/-- A word that fits on a line, but not on this one, begins the next. -/
lemma Fits.fill_next (h : Fits width word) (hline : line ≠ [])
    (hroom : width < line.length + 1 + word.length) :
    fill width line (word :: ws) = line :: fill width word ws := by
  rw [fill_cons_of_no_room hline hroom, h.fill_first]

/-! ### The lines are a division -/

/-- **Filling divides the words**: each line is some of the words, joined, and the words that the
first line has been begun with stand at its front. -/
lemma exists_groups_of_fill (vs : List (List Char)) (hvs : vs ≠ [])
    (hnil : ∀ v ∈ vs, v ≠ []) (hlength : (joined vs).length ≤ width)
    (hws : ∀ w ∈ ws, Fits width w) :
    ∃ groups : List (List (List Char)), fill width (joined vs) ws = groups.map joined ∧
      groups.flatten = vs ++ ws ∧
      ∀ g ∈ groups, g ≠ [] ∧ (joined g).length ≤ width := by
  have hline : ∀ {us : List (List Char)}, us ≠ [] → (∀ u ∈ us, u ≠ []) → joined us ≠ [] := by
    intro us hus hnil
    obtain ⟨u, us, rfl⟩ := List.exists_cons_of_ne_nil hus
    simp [joined_cons, hnil u List.mem_cons_self]
  induction ws generalizing vs with
  | nil => exact ⟨[vs], by simp [fill_nil (hline hvs hnil)], by simp, by simp [hvs, hlength]⟩
  | cons word ws ih =>
    obtain ⟨hword, hws⟩ := List.forall_mem_cons.1 hws
    by_cases hroom : width < (joined vs).length + 1 + word.length
    · obtain ⟨groups, hfill, hflatten, hgroups⟩ :=
        ih [word] (by simp) (by simpa using hword.ne_nil)
          (by simpa using hword.length_le) hws
      rw [joined_singleton] at hfill
      refine ⟨vs :: groups, ?_, ?_, ?_⟩
      · rw [hword.fill_next (hline hvs hnil) hroom, hfill, List.map_cons]
      · rw [List.flatten_cons, hflatten, List.singleton_append]
      · exact List.forall_mem_cons.2 ⟨⟨hvs, hlength⟩, hgroups⟩
    · have hjoined : joined (vs ++ [word]) = joined vs ++ ' ' :: word := by
        simp [joined_append hvs]
      obtain ⟨groups, hfill, hflatten, hgroups⟩ :=
        ih (vs ++ [word]) (by simp)
          (by simpa [or_imp, forall_and] using ⟨hnil, hword.ne_nil⟩)
          (by rw [hjoined, List.length_append, List.length_cons]; omega) hws
      refine ⟨groups, ?_, ?_, hgroups⟩
      · rw [fill_cons_of_room (hline hvs hnil) (by omega), ← hjoined, hfill]
      · rw [hflatten, List.append_assoc, List.singleton_append]

/-! ### No division has fewer lines -/

/-- **What is on the line that has been begun** makes a difference of one line at most, and less on
it is never worse. -/
lemma length_fill_compare (hws : ∀ w ∈ ws, Fits width w) (hline : line ≠ []) (hother : other ≠ []) :
    (fill width line ws).length ≤ (fill width other ws).length + 1 ∧
      (line.length ≤ other.length →
        (fill width line ws).length ≤ (fill width other ws).length) := by
  induction ws generalizing line other with
  | nil => simp [fill_nil hline, fill_nil hother]
  | cons word ws ih =>
    obtain ⟨hword, hws⟩ := List.forall_mem_cons.1 hws
    have hlonger : ∀ l : List Char, l ++ ' ' :: word ≠ [] := by simp
    have hle : ∀ l : List Char, word.length ≤ (l ++ ' ' :: word).length := by
      intro l
      simp only [List.length_append, List.length_cons]
      omega
    by_cases hroom : line.length + 1 + word.length ≤ width <;>
      by_cases hother' : other.length + 1 + word.length ≤ width
    · -- both lines take the word
      rw [fill_cons_of_room hline hroom, fill_cons_of_room hother hother']
      obtain ⟨hsucc, hmono⟩ := ih hws (hlonger line) (hlonger other)
      exact ⟨hsucc, fun h => hmono (by simpa using h)⟩
    · -- only the first takes it, and goes on from there with no fewer words on its line
      rw [fill_cons_of_room hline hroom,
        hword.fill_next hother (by omega), List.length_cons]
      have hsucc := (ih hws (hlonger line) hword.ne_nil).1
      exact ⟨by omega, fun _ => hsucc⟩
    · -- only the second takes it, as there is less on its line
      rw [hword.fill_next hline (by omega), fill_cons_of_room hother hother',
        List.length_cons]
      have hmono := (ih hws hword.ne_nil (hlonger other)).2 (hle other)
      exact ⟨by omega, fun h => by omega⟩
    · -- both go on from the word
      rw [hword.fill_next hline (by omega),
        hword.fill_next hother (by omega), List.length_cons, List.length_cons]
      exact ⟨by omega, fun _ => Nat.le_refl _⟩

/-- A line that has been begun costs at most itself. -/
lemma length_fill_le_succ (hws : ∀ w ∈ ws, Fits width w) (hline : line ≠ []) :
    (fill width line ws).length ≤ (fill width [] ws).length + 1 := by
  cases ws with
  | nil => simp [fill_nil hline]
  | cons word ws =>
    obtain ⟨hword, hws⟩ := List.forall_mem_cons.1 hws
    rw [hword.fill_first]
    by_cases hroom : line.length + 1 + word.length ≤ width
    · rw [fill_cons_of_room hline hroom]
      exact (length_fill_compare hws (by simp) hword.ne_nil).1
    · exact Nat.le_of_eq (by rw [hword.fill_next hline (by omega), List.length_cons])

/-- **No division has fewer lines.** The first line of a division fits, so filling gets at least as
far with it, and is left with a line that costs at most itself. -/
lemma length_fill_le_of_groups (groups : List (List (List Char)))
    (hws : ∀ w ∈ groups.flatten, Fits width w)
    (hgroups : ∀ g ∈ groups, g ≠ [] ∧ (joined g).length ≤ width) :
    (fill width [] groups.flatten).length ≤ groups.length := by
  induction groups with
  | nil => simp [fill]
  | cons g groups ih =>
    obtain ⟨⟨hg, hlength⟩, hlater⟩ := List.forall_mem_cons.1 hgroups
    obtain ⟨word, vs, rfl⟩ := List.exists_cons_of_ne_nil hg
    rw [List.flatten_cons, List.cons_append] at hws ⊢
    obtain ⟨hword, hws⟩ := List.forall_mem_cons.1 hws
    have hrest : ∀ w ∈ groups.flatten, Fits width w :=
      fun w hw => hws w (List.mem_append_right vs hw)
    rw [joined_cons] at hlength
    calc (fill width [] (word :: (vs ++ groups.flatten))).length
        = (fill width (word ++ vs.flatMap (' ' :: ·)) groups.flatten).length := by
          rw [hword.fill_first, fill_append_of_room hword.ne_nil hlength]
      _ ≤ (fill width [] groups.flatten).length + 1 :=
          length_fill_le_succ hrest (by simp [hword.ne_nil])
      _ ≤ groups.length + 1 := Nat.succ_le_succ (ih hrest hlater)

/-! ### Texts -/

/-- The groups divide the words into lines: one behind the other they are the words, and each of
them is at least one word and fits on a line. -/
structure Divides (width : ℕ) (ws : List String) (groups : List (List String)) : Prop where
  /-- Together they are the words. -/
  flatten_eq : groups.flatten = ws
  /-- There is a word on each line. -/
  ne_nil : ∀ g ∈ groups, g ≠ []
  /-- Each line fits. -/
  length_le : ∀ g ∈ groups, (" ".intercalate g).length ≤ width

/-- The characters of words with a blank between any two. -/
lemma toList_intercalate (ws : List String) :
    (" ".intercalate ws).toList = joined (ws.map String.toList) := by
  rw [String.toList_intercalate]
  rfl

lemma intercalate_map_ofList (ws : List (List Char)) :
    " ".intercalate (ws.map String.ofList) = String.ofList (joined ws) := by
  rw [← String.toList_inj, toList_intercalate, List.map_map, String.toList_ofList]
  simp [Function.comp_def]

/-- Joining the lines of a division joins all the words. -/
lemma Divides.intercalate_map {ws : List String} {groups : List (List String)}
    (h : Divides width ws groups) :
    " ".intercalate (groups.map (" ".intercalate ·)) = " ".intercalate ws := by
  rw [← String.toList_inj, toList_intercalate, toList_intercalate, ← h.flatten_eq,
    List.map_flatten, ← joined_map_joined]
  · simp only [List.map_map, Function.comp_def, toList_intercalate]
  · simpa using h.ne_nil

/-- A text of words that fit is wrapped by filling lines with the words. -/
lemma wrapChars_joined (hne : ws ≠ []) (hws : ∀ w ∈ ws, Fits width w ∧ ' ' ∉ w) :
    wrapChars width (joined ws) = fill width [] ws := by
  obtain ⟨word, ws, rfl⟩ := List.exists_cons_of_ne_nil hne
  have hword := (hws word List.mem_cons_self).1
  have hwidth : 0 < width :=
    Nat.lt_of_lt_of_le (List.length_pos_iff.2 hword.ne_nil) hword.length_le
  have hfill : fill width [] (word :: ws) ≠ [] := by
    obtain ⟨right, below, h, -⟩ := fill_of_ne_nil width ws hword.ne_nil
    rw [hword.fill_first, h]
    simp
  rw [wrapChars_eq hwidth, words_joined hne fun w hw => (hws w hw).2, if_neg hfill]

/-- Filling divides a text of words that fit. -/
lemma exists_divides_of_fill {ws : List String} (hne : ws ≠ [])
    (hws : ∀ w ∈ ws, Fits width w.toList) :
    ∃ groups, Divides width ws groups ∧
      (fill width [] (ws.map String.toList)).map String.ofList =
        groups.map (" ".intercalate ·) := by
  obtain ⟨word, ws, rfl⟩ := List.exists_cons_of_ne_nil hne
  obtain ⟨hword, hrest⟩ := List.forall_mem_cons.1 hws
  obtain ⟨groups, hfill, hflatten, hgroups⟩ :=
    exists_groups_of_fill [word.toList] (by simp) (by simpa using hword.ne_nil)
      (by simpa using hword.length_le) (List.forall_mem_map.2 hrest)
  rw [joined_singleton] at hfill
  refine ⟨groups.map (List.map String.ofList), ⟨?_, ?_, ?_⟩, ?_⟩
  · rw [← List.map_flatten, hflatten]
    simp [Function.comp_def]
  · exact List.forall_mem_map.2 fun g hg => by simpa using (hgroups g hg).1
  · refine List.forall_mem_map.2 fun g hg => ?_
    rw [intercalate_map_ofList, String.length_ofList]
    exact (hgroups g hg).2
  · rw [List.map_cons, hword.fill_first, hfill, List.map_map, List.map_map]
    simp [Function.comp_def, intercalate_map_ofList]

/-- **Wrapping loses nothing and takes as few lines as there can be**, where every word fits on a
line and there is one blank between any two: with blanks between them its lines are the text, they
are a division of the words, and no division has fewer.

**Proof sketch.** Filling divides the words (`exists_groups_of_fill`), and joining a division gives
the text (`joined_map_joined`). The first line of any division fits on a line, so filling has not
finished a line when it has placed those words, and the line it has begun costs at most itself
(`length_fill_le_succ`): so it takes no more lines than the division
(`length_fill_le_of_groups`). -/
theorem wrap_divides_best (width : ℕ) (ws : List String) (hne : ws ≠ [])
    (hws : ∀ w ∈ ws, w ≠ "" ∧ ' ' ∉ w.toList ∧ w.length ≤ width) :
    " ".intercalate (wrap width (" ".intercalate ws)) = " ".intercalate ws ∧
      (∃ groups, Divides width ws groups ∧
        wrap width (" ".intercalate ws) = groups.map (" ".intercalate ·)) ∧
      ∀ groups, Divides width ws groups →
        (wrap width (" ".intercalate ws)).length ≤ groups.length := by
  have hfits : ∀ w ∈ ws, Fits width w.toList := fun w hw =>
    ⟨by simpa using (hws w hw).1, String.length_toList ▸ (hws w hw).2.2⟩
  have hwrap : wrap width (" ".intercalate ws) =
      (fill width [] (ws.map String.toList)).map String.ofList := by
    rw [wrap, toList_intercalate, wrapChars_joined (by simpa using hne)]
    exact List.forall_mem_map.2 fun w hw => ⟨hfits w hw, (hws w hw).2.1⟩
  obtain ⟨groups, hdivides, hlines⟩ := exists_divides_of_fill hne hfits
  rw [hwrap]
  refine ⟨by rw [hlines, hdivides.intercalate_map], ⟨groups, hdivides, hlines⟩, ?_⟩
  intro others hothers
  have hflatten : (others.map (List.map String.toList)).flatten = ws.map String.toList := by
    rw [← List.map_flatten, hothers.flatten_eq]
  have hbest := length_fill_le_of_groups (others.map (List.map String.toList))
    (by rw [hflatten]; exact List.forall_mem_map.2 hfits)
    (List.forall_mem_map.2 fun g hg => by
      rw [← toList_intercalate, String.length_toList]
      exact ⟨by simpa using hothers.ne_nil g hg, hothers.length_le g hg⟩)
  rwa [hflatten, ← List.length_map String.ofList, List.length_map (List.map String.toList)] at hbest

/-- Four words on three lines: the last two would not fit on one. -/
theorem wrap_divides_best_four_words :
    ["to", "be", "or", "not"] ≠ [] ∧
      (∀ w ∈ ["to", "be", "or", "not"], w ≠ "" ∧ ' ' ∉ w.toList ∧ w.length ≤ 5) ∧
      wrap 5 (" ".intercalate ["to", "be", "or", "not"]) = ["to be", "or", "not"] ∧
      ∀ groups, Divides 5 ["to", "be", "or", "not"] groups → 3 ≤ groups.length := by
  have hwords : ∀ w ∈ ["to", "be", "or", "not"], w ≠ "" ∧ ' ' ∉ w.toList ∧ w.length ≤ 5 := by
    decide
  have hlines : wrap 5 (" ".intercalate ["to", "be", "or", "not"]) = ["to be", "or", "not"] := by
    have htext : " ".intercalate ["to", "be", "or", "not"] = "to be or not" := by decide
    rw [htext]
    simp [wrap, wrapChars, words, fill, cut]
  obtain ⟨-, -, hbest⟩ := wrap_divides_best 5 ["to", "be", "or", "not"] (by decide) hwords
  rw [hlines] at hbest
  exact ⟨by decide, hwords, hlines, hbest⟩

end Cutscene.Screen
