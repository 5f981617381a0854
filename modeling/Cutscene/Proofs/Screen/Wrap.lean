import Cutscene.Screen.Wrap
import Mathlib.Data.Nat.Notation
import Mathlib.Tactic.Lemma

set_option relaxedAutoImplicit false
set_option autoImplicit false

/-!
# What wrapping keeps of a text

Wrapping goes through a text word by word and keeps a line that has been begun. What one more
word does to that line is a single step: it finishes some lines and leaves another one begun.
Everything that is said here about a wrapped text is said about the step first.

## Main definitions

* `Cutscene.Screen.ink` — a text without its blanks.
* `Cutscene.Screen.WordAt` — a place of a text at which a whole word stands.
* `Cutscene.Screen.place`, `Cutscene.Screen.placeAll` — what a word does to the line that has
  been begun, and what many do.
* `Cutscene.Screen.Begun` — what holds of such a line.
* `Cutscene.Screen.Wraps` — what it is for some lines to be a wrapping of a text.

## Main results

* `Cutscene.Screen.place_begun`, `Cutscene.Screen.ink_place` — the step keeps lines within the
  width and loses nothing but blanks.
* `Cutscene.Screen.fill_cons_of_length_le`, `Cutscene.Screen.fill_cons_of_lt_length` — where a
  word ends up, if it is short and if it is long.
* `Cutscene.Screen.wrapChars_of_fits` — a text that fits on a line is wrapped to that line.
* `Cutscene.Screen.wrap_wraps` — what wrapping returns is a wrapping, and a line of it that is
  wrapped again stays as it is.

## Design

A word is known by where it stands and not by its number, as the text may hold the same word
many times and any number of blanks in between. So a place is a way to write the text as what is
before, the word, and what is behind; and a line that holds the word is tied to that place by the
ink that comes before it, which is the same in the text and in its lines.
-/

namespace Cutscene.Screen

variable {width : ℕ} {line word text before after : List Char} {ws : List (List Char)}

/-! ### Texts and their words -/

/-- A text without its blanks. -/
def ink (text : List Char) : List Char :=
  text.filter (· ≠ ' ')

@[simp] lemma ink_nil : ink [] = [] := rfl

@[simp] lemma ink_blank : ink (' ' :: text) = ink text := rfl

@[simp] lemma ink_append (a b : List Char) : ink (a ++ b) = ink a ++ ink b :=
  List.filter_append ..

lemma ink_of_notMem (h : ' ' ∉ word) : ink word = word := by
  apply List.filter_eq_self.2
  intro c hc
  have : c ≠ ' ' := fun e => h (e ▸ hc)
  simpa using this

/-- A text without ink has only blanks. -/
lemma ink_eq_nil_iff : ink text = [] ↔ ∀ c ∈ text, c = ' ' := by
  simp [ink]

/-- A text that stops, or goes on with a blank. -/
def OpensBlank (text : List Char) : Prop :=
  ∀ c ∈ text.head?, c = ' '

/-- A text that is empty, or ends with a blank. -/
def EndsBlank (text : List Char) : Prop :=
  ∀ c ∈ text.getLast?, c = ' '

lemma opensBlank_iff : OpensBlank text ↔ text = [] ∨ ∃ rest, text = ' ' :: rest := by
  cases text with
  | nil => simp [OpensBlank]
  | cons c cs => simp [OpensBlank]

lemma endsBlank_iff : EndsBlank text ↔ text = [] ∨ ∃ rest, text = rest ++ [' '] := by
  rcases text.eq_nil_or_concat with rfl | ⟨rest, c, rfl⟩ <;> simp [EndsBlank]

/-- The word stands between the two texts as a whole: it has no blank and is not empty, and there
is a blank or an end on either side. -/
structure WordAt (before word after : List Char) : Prop where
  /-- There is a word. -/
  ne_nil : word ≠ []
  /-- No blank goes through it. -/
  notMem : ' ' ∉ word
  /-- It does not begin earlier. -/
  before : EndsBlank before
  /-- It does not end later. -/
  after : OpensBlank after

lemma words_ne_nil (text : List Char) : words text ≠ [] := by
  cases text with
  | nil => simp [words]
  | cons c cs =>
    unfold words
    split
    · simp
    · split <;> simp

/-- A blank cuts the words of a text in two. -/
lemma words_append_blank (a b : List Char) : words (a ++ ' ' :: b) = words a ++ words b := by
  induction a with
  | nil => simp [words]
  | cons c cs ih =>
    by_cases hc : c = ' '
    · simp [words, hc, ih]
    · obtain ⟨w, ws, hws⟩ := List.exists_cons_of_ne_nil (words_ne_nil cs)
      simp [words, hc, ih, hws]

lemma words_of_notMem (h : ' ' ∉ word) : words word = [word] := by
  induction word with
  | nil => rfl
  | cons c cs ih =>
    rw [List.mem_cons, not_or] at h
    have hc : c ≠ ' ' := fun e => h.1 e.symm
    simp [words, hc, ih h.2]

lemma blank_notMem_words {w : List Char} (hw : w ∈ words text) : ' ' ∉ w := by
  induction text generalizing w with
  | nil => simp_all [words]
  | cons c cs ih =>
    by_cases hc : c = ' '
    · simp only [words, hc, if_true, List.mem_cons] at hw
      rcases hw with rfl | hw
      · simp
      · exact ih hw
    · obtain ⟨v, vs, hvs⟩ := List.exists_cons_of_ne_nil (words_ne_nil cs)
      simp only [words, hc, if_false, hvs, List.mem_cons] at hw ih
      rcases hw with rfl | hw
      · have := ih (.inl rfl)
        simp [this, Ne.symm hc]
      · exact ih (.inr hw)

/-- A text is its first word, and each further word behind a blank. -/
lemma eq_append_of_words {w : List Char} (h : words text = w :: ws) :
    text = w ++ ws.flatMap (' ' :: ·) := by
  induction text generalizing w ws with
  | nil => simp_all [words]
  | cons c cs ih =>
    obtain ⟨v, vs, hvs⟩ := List.exists_cons_of_ne_nil (words_ne_nil cs)
    by_cases hc : c = ' '
    · simp only [words, hc, if_true, List.cons.injEq] at h
      obtain ⟨rfl, rfl⟩ := h
      rw [hvs, List.flatMap_cons, List.nil_append, List.cons_append, ← ih hvs, hc]
    · simp only [words, hc, if_false, hvs, List.cons.injEq] at h
      obtain ⟨rfl, rfl⟩ := h
      rw [List.cons_append, ← ih hvs]

/-- The words of a text are its ink. -/
lemma flatten_words (text : List Char) : (words text).flatten = ink text := by
  induction text with
  | nil => rfl
  | cons c cs ih =>
    by_cases hc : c = ' '
    · simp [words, hc, ih]
    · obtain ⟨v, vs, hvs⟩ := List.exists_cons_of_ne_nil (words_ne_nil cs)
      rw [hvs, List.flatten_cons] at ih
      simp [words, hc, hvs, ih, ink]

/-- A word that stands in a text is one of its words, and the words ahead of it are the ink ahead
of it. -/
lemma WordAt.exists_words (h : WordAt before word after) :
    ∃ ahead behind, words (before ++ word ++ after) = ahead ++ word :: behind ∧
      ahead.flatten = ink before := by
  have hafter : ∃ behind, words (word ++ after) = word :: behind := by
    rcases opensBlank_iff.1 h.after with rfl | ⟨rest, rfl⟩
    · exact ⟨[], by rw [List.append_nil, words_of_notMem h.notMem]⟩
    · exact ⟨words rest, by rw [words_append_blank, words_of_notMem h.notMem]; rfl⟩
  obtain ⟨behind, hbehind⟩ := hafter
  rcases endsBlank_iff.1 h.before with rfl | ⟨rest, rfl⟩
  · exact ⟨[], behind, hbehind, rfl⟩
  · refine ⟨words rest, behind, ?_, ?_⟩
    · rw [List.append_assoc, List.append_assoc, List.singleton_append, words_append_blank,
        hbehind]
    · rw [flatten_words, ink_append, ink_blank, ink_nil, List.append_nil]

/-! ### Cutting a word -/

lemma cut_of_length_le (h : word.length ≤ width) : cut width word = ([], word) := by
  rw [cut, if_neg (by omega)]

/-- What holds of the pieces of a word and its rest. -/
structure Cuts (width : ℕ) (word : List Char) (pieces : List (List Char)) (rest : List Char) :
    Prop where
  /-- Together they are the word. -/
  flatten_append : pieces.flatten ++ rest = word
  /-- The pieces have the width. -/
  length_eq : ∀ piece ∈ pieces, piece.length = width
  /-- The rest is no longer. -/
  length_le : rest.length ≤ width
  /-- There is a rest if there is a word. -/
  rest_ne_nil : word ≠ [] → rest ≠ []

/-- Cutting a word cuts it. -/
lemma cuts_cut (hwidth : 0 < width) (word : List Char) :
    Cuts width word (cut width word).1 (cut width word).2 := by
  fun_induction cut width word with
  | case1 word h pieces rest hdrop ih =>
    rw [hdrop] at ih
    have hne : word.drop width ≠ [] := by
      rw [Ne, List.drop_eq_nil_iff]
      omega
    refine ⟨?_, ?_, ih.length_le, fun _ => ih.rest_ne_nil hne⟩
    · show (word.take width ++ pieces.flatten) ++ rest = word
      rw [List.append_assoc, ih.flatten_append, List.take_append_drop]
    · intro piece hpiece
      rcases List.mem_cons.1 hpiece with rfl | hpiece
      · rw [List.length_take]
        omega
      · exact ih.length_eq piece hpiece
  | case2 word h =>
    have hlength : word.length ≤ width := by omega
    exact ⟨rfl, by simp, hlength, id⟩

/-! ### One more word -/

/-- What one more word does to the line that has been begun: the lines that are finished with it,
and the line that is begun then. -/
def place (width : ℕ) (line word : List Char) : List (List Char) × List Char :=
  if line.isEmpty then cut width word
  else if width < line.length + 1 + word.length then
    (line :: (cut width word).1, (cut width word).2)
  else ([], line ++ ' ' :: word)

/-- What some more words do to the line that has been begun. -/
def placeAll (width : ℕ) (line : List Char) : List (List Char) → List (List Char) × List Char
  | [] => ([], line)
  | word :: ws =>
    let placed := place width line word
    let rest := placeAll width placed.2 ws
    (placed.1 ++ rest.1, rest.2)

lemma place_nil : place width [] word = cut width word := rfl

/-- A word for which there is no room finishes the line. -/
lemma place_of_lt (hline : line ≠ []) (h : width < line.length + 1 + word.length) :
    place width line word = (line :: (cut width word).1, (cut width word).2) := by
  rw [place, if_neg (by simpa using hline), if_pos h]

/-- A word for which there is room goes onto the line. -/
lemma place_of_le (hline : line ≠ []) (h : line.length + 1 + word.length ≤ width) :
    place width line word = ([], line ++ ' ' :: word) := by
  rw [place, if_neg (by simpa using hline), if_neg (by omega)]

/-- Filling places the first word and fills on. -/
lemma fill_cons : fill width line (word :: ws) =
    (place width line word).1 ++ fill width (place width line word).2 ws := by
  rw [fill, place]
  split
  · rfl
  · split <;> rfl

/-- A line that has been begun is finished where there are no more words. -/
lemma fill_nil (hline : line ≠ []) : fill width line [] = [line] := by
  rw [fill, if_neg (by simpa using hline)]

/-- A word for which there is room goes onto the line, and the others behind it. -/
lemma fill_cons_of_room (hline : line ≠ []) (h : line.length + 1 + word.length ≤ width) :
    fill width line (word :: ws) = fill width (line ++ ' ' :: word) ws := by
  rw [fill_cons, place_of_le hline h, List.nil_append]

/-- A word for which there is no room is where filling begins anew. -/
lemma fill_cons_of_no_room (hline : line ≠ []) (h : width < line.length + 1 + word.length) :
    fill width line (word :: ws) = line :: fill width [] (word :: ws) := by
  rw [fill_cons, place_of_lt hline h, fill_cons, place_nil, List.cons_append]

/-- Filling places the words of a first part and fills on with the others. -/
lemma fill_append (first others : List (List Char)) : fill width line (first ++ others) =
    (placeAll width line first).1 ++ fill width (placeAll width line first).2 others := by
  induction first generalizing line with
  | nil => rfl
  | cons word ws ih => rw [List.cons_append, fill_cons, ih, placeAll, List.append_assoc]

/-- A line keeps to the width and does not start with a blank. It may still be empty. -/
structure Begun (width : ℕ) (line : List Char) : Prop where
  /-- The line is no longer than the width. -/
  length_le : line.length ≤ width
  /-- The line does not start with a blank. -/
  head_ne : line.head? ≠ some ' '

lemma Begun.nil : Begun width [] := ⟨by simp, by simp⟩

lemma Begun.of_notMem (hword : ' ' ∉ word) (h : word.length ≤ width) : Begun width word :=
  ⟨h, fun e => hword (List.mem_of_mem_head? e)⟩

/-- A line with something on it has ink. -/
lemma Begun.ink_ne_nil (h : Begun width line) (hline : line ≠ []) : ink line ≠ [] := by
  obtain ⟨c, cs, rfl⟩ := List.exists_cons_of_ne_nil hline
  intro e
  exact h.head_ne (by rw [List.head?_cons, ink_eq_nil_iff.1 e c (by simp)])

/-- The pieces of a word are lines, and so is its rest. -/
lemma begun_cut (hwidth : 0 < width) (hword : ' ' ∉ word) :
    Begun width (cut width word).2 ∧
      ∀ piece ∈ (cut width word).1, piece ≠ [] ∧ Begun width piece := by
  have hcut := cuts_cut hwidth word
  rw [← hcut.flatten_append, List.mem_append, not_or] at hword
  refine ⟨.of_notMem hword.2 hcut.length_le, fun piece hpiece => ⟨?_, ?_⟩⟩
  · rintro rfl
    have := hcut.length_eq [] hpiece
    rw [List.length_nil] at this
    omega
  · refine .of_notMem (fun hc => hword.1 ?_) (Nat.le_of_eq (hcut.length_eq piece hpiece))
    exact List.mem_flatten.2 ⟨piece, hpiece, hc⟩

/-- A word finishes lines that keep to the width, and begins one that does. -/
lemma place_begun (hwidth : 0 < width) (hline : Begun width line) (hword : ' ' ∉ word) :
    Begun width (place width line word).2 ∧
      ∀ l ∈ (place width line word).1, l ≠ [] ∧ Begun width l := by
  have hcut := begun_cut hwidth hword
  by_cases hnil : line = []
  · subst hnil
    rwa [place_nil]
  by_cases hroom : width < line.length + 1 + word.length
  · rw [place_of_lt hnil hroom]
    refine ⟨hcut.1, fun l hl => ?_⟩
    rcases List.mem_cons.1 hl with rfl | hl
    · exact ⟨hnil, hline⟩
    · exact hcut.2 l hl
  · rw [place_of_le hnil (by omega)]
    refine ⟨⟨?_, ?_⟩, by simp⟩
    · simp only [List.length_append, List.length_cons]
      omega
    · obtain ⟨c, cs, rfl⟩ := List.exists_cons_of_ne_nil hnil
      exact hline.head_ne

/-- A word adds itself to the ink and nothing else. -/
lemma ink_place (hwidth : 0 < width) (hword : ' ' ∉ word) :
    ink ((place width line word).1.flatten ++ (place width line word).2) = ink line ++ word := by
  have hcut : ink ((cut width word).1.flatten ++ (cut width word).2) = word := by
    rw [(cuts_cut hwidth word).flatten_append, ink_of_notMem hword]
  by_cases hnil : line = []
  · subst hnil
    rw [place_nil, hcut, ink_nil, List.nil_append]
  by_cases hroom : width < line.length + 1 + word.length
  · rw [place_of_lt hnil hroom, List.flatten_cons, List.append_assoc, ink_append, hcut]
  · rw [place_of_le hnil (by omega), List.flatten_nil, List.nil_append, ink_append, ink_blank,
      ink_of_notMem hword]

/-! ### Some more words -/

/-- Words begin a line that keeps to the width, and add themselves to the ink. -/
lemma placeAll_begun (hwidth : 0 < width) (hline : Begun width line)
    (hws : ∀ w ∈ ws, ' ' ∉ w) :
    Begun width (placeAll width line ws).2 ∧
      ink ((placeAll width line ws).1.flatten ++ (placeAll width line ws).2) =
        ink line ++ ws.flatten := by
  induction ws generalizing line with
  | nil => exact ⟨hline, by simp [placeAll]⟩
  | cons word ws ih =>
    obtain ⟨hword, hws⟩ := List.forall_mem_cons.1 hws
    obtain ⟨hbegun, hink⟩ := ih (place_begun hwidth hline hword).1 hws
    refine ⟨hbegun, ?_⟩
    have hstep : ink ((place width line word).1.flatten ++ (place width line word).2) =
        ink line ++ word := ink_place hwidth hword
    rw [ink_append] at hstep
    rw [placeAll, List.flatten_append, List.append_assoc, ink_append, hink, ← List.append_assoc,
      hstep, List.flatten_cons, List.append_assoc]

/-- The lines of some words keep to the width, none is empty, and they have the ink of the words. -/
lemma fill_begun (hwidth : 0 < width) (hline : Begun width line) (hws : ∀ w ∈ ws, ' ' ∉ w) :
    (∀ l ∈ fill width line ws, l ≠ [] ∧ Begun width l) ∧
      ink (fill width line ws).flatten = ink line ++ ws.flatten := by
  induction ws generalizing line with
  | nil =>
    by_cases hnil : line = []
    · simp [fill, hnil]
    · have : fill width line [] = [line] := by rw [fill, if_neg (by simpa using hnil)]
      rw [this]
      exact ⟨by simpa using ⟨hnil, hline⟩, by simp⟩
  | cons word ws ih =>
    obtain ⟨hword, hws⟩ := List.forall_mem_cons.1 hws
    obtain ⟨hbegun, hdone⟩ := place_begun hwidth hline hword
    obtain ⟨hlines, hink⟩ := ih hbegun hws
    rw [fill_cons]
    refine ⟨fun l hl => ?_, ?_⟩
    · rcases List.mem_append.1 hl with hl | hl
      · exact hdone l hl
      · exact hlines l hl
    · rw [List.flatten_append, ink_append, hink, ← List.append_assoc, ← ink_append,
        ink_place hwidth hword, List.flatten_cons, List.append_assoc]

/-- A line with something on it is kept whole, and at most words behind blanks are added. -/
lemma fill_of_ne_nil (width : ℕ) (ws : List (List Char)) (hline : line ≠ []) :
    ∃ right below, fill width line ws = (line ++ right) :: below ∧ OpensBlank right := by
  induction ws generalizing line with
  | nil => exact ⟨[], [], by simp [fill, hline], by simp [OpensBlank]⟩
  | cons word ws ih =>
    rw [fill_cons]
    by_cases hroom : width < line.length + 1 + word.length
    · rw [place_of_lt hline hroom]
      exact ⟨[], _, by rw [List.append_nil, List.cons_append], by simp [OpensBlank]⟩
    · rw [place_of_le hline (by omega)]
      have hlonger : line ++ ' ' :: word ≠ [] := by simp
      obtain ⟨right, below, hfill, -⟩ := ih hlonger
      exact ⟨' ' :: word ++ right, below, by simpa using hfill, by simp [OpensBlank]⟩

/-- A short word stays whole: it starts a line or stands behind a blank, and ends a line or stands
before a blank. -/
lemma fill_cons_of_length_le (line : List Char) (ws : List (List Char)) (hword : word ≠ [])
    (h : word.length ≤ width) :
    ∃ above left right below,
      fill width line (word :: ws) = above ++ (left ++ word ++ right) :: below ∧
        EndsBlank left ∧ OpensBlank right ∧ ink (above.flatten ++ left) = ink line := by
  rw [fill_cons]
  by_cases hnil : line = []
  · subst hnil
    obtain ⟨right, below, hfill, hright⟩ := fill_of_ne_nil width ws hword
    rw [place_nil, cut_of_length_le h, hfill]
    exact ⟨[], [], right, below, rfl, by simp [EndsBlank], hright, rfl⟩
  by_cases hroom : width < line.length + 1 + word.length
  · obtain ⟨right, below, hfill, hright⟩ := fill_of_ne_nil width ws hword
    rw [place_of_lt hnil hroom, cut_of_length_le h, hfill]
    exact ⟨[line], [], right, below, rfl, by simp [EndsBlank], hright, by simp⟩
  · have hlonger : line ++ ' ' :: word ≠ [] := by simp
    obtain ⟨right, below, hfill, hright⟩ := fill_of_ne_nil width ws hlonger
    rw [place_of_le hnil (by omega), hfill]
    exact ⟨[], line ++ [' '], right, below, by simp, by simp [EndsBlank], hright, by simp⟩

/-- A long word starts a line and is cut, and its rest ends a line or stands before a blank. -/
lemma fill_cons_of_lt_length (line : List Char) (ws : List (List Char)) (hwidth : 0 < width)
    (h : width < word.length) :
    ∃ above pieces rest right below,
      fill width line (word :: ws) = above ++ pieces ++ (rest ++ right) :: below ∧
        Cuts width word pieces rest ∧ OpensBlank right ∧ ink above.flatten = ink line := by
  have hcut := cuts_cut hwidth word
  have hrest : (cut width word).2 ≠ [] := hcut.rest_ne_nil (by rintro rfl; simp at h)
  obtain ⟨right, below, hfill, hright⟩ := fill_of_ne_nil width ws hrest
  rw [fill_cons]
  by_cases hnil : line = []
  · subst hnil
    rw [place_nil, hfill]
    exact ⟨[], _, _, right, below, rfl, hcut, hright, rfl⟩
  · rw [place_of_lt hnil (by omega), hfill]
    exact ⟨[line], _, _, right, below, rfl, hcut, hright, by simp⟩

/-- Words for which there is room all go onto the line. -/
lemma fill_append_of_room (hline : line ≠ [])
    (h : (line ++ ws.flatMap (' ' :: ·)).length ≤ width) (vs : List (List Char)) :
    fill width line (ws ++ vs) = fill width (line ++ ws.flatMap (' ' :: ·)) vs := by
  induction ws generalizing line with
  | nil => simp
  | cons word ws ih =>
    have hassoc : line ++ (word :: ws).flatMap (' ' :: ·) =
        (line ++ ' ' :: word) ++ ws.flatMap (' ' :: ·) := by simp
    rw [hassoc] at h ⊢
    have hroom : line.length + 1 + word.length ≤ width := by
      simp only [List.length_append, List.length_cons] at h
      omega
    rw [List.cons_append, fill_cons_of_room hline hroom, ih (by simp) h]

/-- Words that fit on the line all go onto it. -/
lemma fill_of_fits (hline : line ≠ []) (h : (line ++ ws.flatMap (' ' :: ·)).length ≤ width) :
    fill width line ws = [line ++ ws.flatMap (' ' :: ·)] := by
  have hall := fill_append_of_room hline h []
  rwa [List.append_nil, fill_nil (by simp [hline])] at hall

/-! ### Texts -/

/-- The lines of a text are those of its words, but for a text without words. -/
lemma wrapChars_eq (hwidth : 0 < width) : wrapChars width text =
    if fill width [] (words text) = [] then [[]] else fill width [] (words text) := by
  rw [wrapChars, if_neg (by omega)]
  split
  · next h => rw [if_pos h]
  · next h => rw [if_neg h]

/-- **A text that fits on a line is wrapped to that line.** -/
lemma wrapChars_of_fits (hwidth : 0 < width) (h : Begun width line) :
    wrapChars width line = [line] := by
  by_cases hnil : line = []
  · subst hnil
    simp [wrapChars_eq hwidth, words, fill, cut_of_length_le]
  obtain ⟨w, ws, hws⟩ := List.exists_cons_of_ne_nil (words_ne_nil line)
  have hline := eq_append_of_words hws
  have hw : w ≠ [] := by
    rintro rfl
    cases ws with
    | nil => exact hnil (by simpa using hline)
    | cons v vs => exact h.head_ne (by rw [hline]; rfl)
  have hlength : (w ++ ws.flatMap (' ' :: ·)).length ≤ width := hline ▸ h.length_le
  have hcut : cut width w = ([], w) := by
    rw [List.length_append] at hlength
    exact cut_of_length_le (by omega)
  have hfill : fill width [] (words line) = [line] := by
    rw [hws, fill_cons, place_nil, hcut, List.nil_append, fill_of_fits hw hlength, ← hline]
  rw [wrapChars_eq hwidth, hfill, if_neg (by simp)]

/-- The lines are a wrapping of the text to the width. -/
structure Wraps (width : ℕ) (text : List Char) (lines : List (List Char)) : Prop where
  /-- There is a line. -/
  ne_nil : lines ≠ []
  /-- No line is longer than the width. -/
  length_le : ∀ line ∈ lines, line.length ≤ width
  /-- No line starts with a blank. -/
  head_ne : ∀ line ∈ lines, line.head? ≠ some ' '
  /-- A line is empty only if it is the only one. -/
  nil_mem : [] ∈ lines → lines = [[]]
  /-- There is only an empty line if and only if the text has nothing but blanks. -/
  eq_nil_iff : lines = [[]] ↔ ∀ c ∈ text, c = ' '
  /-- Nothing but blanks is lost, nothing is added and nothing changes its place. -/
  ink_eq : ink lines.flatten = ink text
  /-- A word that fits stands on one line, as a word, where it stood in the text. -/
  short : ∀ {before word after}, text = before ++ word ++ after → WordAt before word after →
    word.length ≤ width → ∃ above left right below,
      lines = above ++ (left ++ word ++ right) :: below ∧ WordAt left word right ∧
        ink (above.flatten ++ left) = ink before
  /-- A word that does not fit starts a line and is cut, where it stood in the text. -/
  long : ∀ {before word after}, text = before ++ word ++ after → WordAt before word after →
    width < word.length → ∃ above pieces rest right below,
      lines = above ++ pieces ++ (rest ++ right) :: below ∧ Cuts width word pieces rest ∧
        rest ≠ [] ∧ OpensBlank right ∧ ink above.flatten = ink before

/-- A word of a text is placed on a line that the words ahead of it have begun. -/
lemma WordAt.fill_eq (h : WordAt before word after) (hwidth : 0 < width) :
    ∃ done line behind,
      fill width [] (words (before ++ word ++ after)) =
        done ++ fill width line (word :: behind) ∧ ink (done.flatten ++ line) = ink before := by
  obtain ⟨ahead, behind, hwords, hahead⟩ := h.exists_words
  have hblank : ∀ w ∈ ahead, ' ' ∉ w := fun w hw =>
    have hmem : w ∈ words (before ++ word ++ after) := by rw [hwords]; simp [hw]
    blank_notMem_words hmem
  obtain ⟨-, hink⟩ := placeAll_begun hwidth Begun.nil hblank
  refine ⟨(placeAll width [] ahead).1, (placeAll width [] ahead).2, behind, ?_, ?_⟩
  · rw [hwords, fill_append]
  · rw [hink, hahead, ink_nil, List.nil_append]

/-- The lines of a text that has more than blanks wrap it. -/
lemma wraps_fill (hwidth : 0 < width) (hne : fill width [] (words text) ≠ []) :
    Wraps width text (fill width [] (words text)) := by
  obtain ⟨hlines, hink⟩ := fill_begun hwidth Begun.nil
    (fun w (hw : w ∈ words text) => blank_notMem_words hw)
  rw [flatten_words, ink_nil, List.nil_append] at hink
  have hnil : [] ∉ fill width [] (words text) := fun h => (hlines [] h).1 rfl
  refine ⟨hne, fun l hl => (hlines l hl).2.length_le, fun l hl => (hlines l hl).2.head_ne,
    fun h => absurd h hnil, ⟨fun h => ?_, fun h => ?_⟩, hink, ?_, ?_⟩
  · exact absurd (by rw [h]; exact List.mem_singleton_self _) hnil
  · -- the first line would have ink, and the text has none
    obtain ⟨l, ls, hls⟩ := List.exists_cons_of_ne_nil hne
    rw [ink_eq_nil_iff.2 h, hls, List.flatten_cons, ink_append, List.append_eq_nil_iff] at hink
    obtain ⟨hl, hbegun⟩ := hlines l (by rw [hls]; exact List.mem_cons_self)
    exact absurd hink.1 (hbegun.ink_ne_nil hl)
  · rintro before word after rfl hword hlength
    obtain ⟨done, line, behind, hfill, hbefore⟩ := hword.fill_eq hwidth
    obtain ⟨above, left, right, below, hlast, hleft, hright, hline⟩ :=
      fill_cons_of_length_le line behind hword.ne_nil hlength
    have hplace : WordAt left word right := ⟨hword.ne_nil, hword.notMem, hleft, hright⟩
    refine ⟨done ++ above, left, right, below, ?_, hplace, ?_⟩
    · rw [hfill, hlast, ← List.append_assoc done]
    · rw [List.flatten_append, List.append_assoc, ink_append, hline, ← ink_append, hbefore]
  · rintro before word after rfl hword hlength
    obtain ⟨done, line, behind, hfill, hbefore⟩ := hword.fill_eq hwidth
    obtain ⟨above, pieces, rest, right, below, hlast, hcut, hright, hline⟩ :=
      fill_cons_of_lt_length line behind hwidth hlength
    refine ⟨done ++ above, pieces, rest, right, below, ?_, hcut, hcut.rest_ne_nil hword.ne_nil,
      hright, ?_⟩
    · rw [hfill, hlast]
      simp only [List.append_assoc]
    · rw [List.flatten_append, ink_append, hline, ← ink_append, hbefore]

/-- A text of blanks has one line, and nothing is on it. -/
lemma wraps_of_blank (h : ∀ c ∈ text, c = ' ') : Wraps width text [[]] := by
  refine ⟨by simp, by simp, by simp, fun _ => rfl, by simpa using h, ?_, ?_, ?_⟩
  · rw [ink_eq_nil_iff.2 h]
    rfl
  all_goals
    rintro before word after rfl hword
    obtain ⟨c, cs, rfl⟩ := List.exists_cons_of_ne_nil hword.ne_nil
    have hc : c = ' ' := h c (by simp)
    exact absurd (hc ▸ List.mem_cons_self) hword.notMem

/-- The lines of a text wrap it. -/
lemma wraps_wrapChars (hwidth : 0 < width) (text : List Char) :
    Wraps width text (wrapChars width text) := by
  rw [wrapChars_eq hwidth]
  split
  · next hnil =>
    apply wraps_of_blank
    obtain ⟨-, hink⟩ := fill_begun hwidth Begun.nil
      (fun w (hw : w ∈ words text) => blank_notMem_words hw)
    rw [hnil, flatten_words, ink_nil, List.nil_append, List.flatten_nil] at hink
    exact ink_eq_nil_iff.1 hink.symm
  · next hne => exact wraps_fill hwidth hne

/-- **Wrapping a text gives a wrapping of it**, and a line of it that is wrapped again stays as it
is: there is a line, no line is too long, none starts with a blank, none is empty but the only one
of a blank text, nothing but blanks is lost, a word that fits is on one line, and one that does
not is cut into full lines and a rest.

**Proof sketch.** A word that is placed keeps the line that has been begun within the width
(`place_begun`) and adds itself to the ink (`ink_place`), so filling does (`fill_begun`). Where a
word stands, the words ahead of it have begun a line, and the word is placed on that one
(`WordAt.fill_eq`). What is on that line stays there (`fill_of_ne_nil`). -/
theorem wrap_wraps (width : ℕ) (text : String) (hwidth : 0 < width) :
    Wraps width text.toList ((wrap width text).map String.toList) ∧
      ∀ line ∈ wrap width text, wrap width line = [line] := by
  have hwraps := wraps_wrapChars hwidth text.toList
  have hlines : (wrap width text).map String.toList = wrapChars width text.toList := by
    rw [wrap, List.map_map]
    simp [Function.comp_def]
  refine ⟨hlines ▸ hwraps, fun line hline => ?_⟩
  obtain ⟨l, hl, rfl⟩ := List.mem_map.1 hline
  rw [wrap, String.toList_ofList,
    wrapChars_of_fits hwidth ⟨hwraps.length_le l hl, hwraps.head_ne l hl⟩, List.map_singleton]

/-- A text with blanks at its ends, blanks side by side and a word that is too long. -/
theorem wrap_wraps_blanks_and_long_word :
    0 < 5 ∧ wrap 5 " to  be wrapped " = ["to ", "be", "wrapp", "ed "] ∧
      Wraps 5 " to  be wrapped ".toList ((wrap 5 " to  be wrapped ").map String.toList) ∧
        wrap 5 "ed " = ["ed "] := by
  have hlines : wrap 5 " to  be wrapped " = ["to ", "be", "wrapp", "ed "] := by
    simp [wrap, wrapChars, words, fill, cut]
  obtain ⟨hwraps, hagain⟩ := wrap_wraps 5 " to  be wrapped " (by decide)
  exact ⟨by decide, hlines, hwraps, hagain "ed " (by simp [hlines])⟩

end Cutscene.Screen
