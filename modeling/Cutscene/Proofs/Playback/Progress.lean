import Cutscene.Playback.Snapshot
import Cutscene.Proofs.Playback.Bubbles

set_option relaxedAutoImplicit false
set_option autoImplicit false

/-!
# How a bubble shows its line

A bubble counts characters: how many there are in its line, and how many of them it shows. What it
shows is cut out of the bytes of the line, up to the one at which the first character begins that is
not shown. The cut never falls within a character, whatever the characters are.

## Main definitions

* `Cutscene.Text.offsets`, `Cutscene.Text.upTo?` — where the characters of a text begin, and the
  text before one of them.
* `Cutscene.Bubble.Change`, `Cutscene.Bubble.run` — what can happen to a bubble, once and again.
* `Cutscene.Bubble.TypesOut` — how a bubble shows its line.

## Main results

* `Cutscene.Text.upTo?_eq_some` — the bytes before a character are the characters before it.
* `Cutscene.Bubble.revealed_run` — without a jump to the end, one character is shown each time.
* `Cutscene.BubbleView.isComplete_iff` — a bubble is drawn as complete exactly if it shows all.
* `Cutscene.Bubble.types_out` — all of this, whatever happens to a bubble.

## Design

A bubble is sound if its counts are right (`Cutscene.Bubble.Sound`) and what happens to it lets it
grow (`Cutscene.Bubble.Grows`). Both are kept by each change, hence by any number of them, and the
text that is shown is told from the counts alone.
-/

namespace Cutscene

/-! ## Texts cut between characters -/

namespace Text

/-- Characters that stand one behind the other from a byte on, each with the byte at which it
begins. -/
def offsets : ℕ → List Char → List (ℕ × Char)
  | _, [] => []
  | start, c :: cs => (start, c) :: offsets (start + c.utf8Size) cs

/-- The first bytes of a text. There is no such text if there are fewer bytes, or if they end within
a character. -/
def firstBytes? (text : String) (count : ℕ) : Option String :=
  if count ≤ text.utf8ByteSize then String.fromUTF8? (text.toByteArray.extract 0 count) else none

/-- The text up to the byte at which the character at an index begins, and all of it if there is no
such character. -/
def upTo? (text : String) (i : ℕ) : Option String :=
  match (offsets 0 text.toList)[i]? with
  | some (start, _) => firstBytes? text start
  | none => some text

variable {text : String} {cs : List Char} {start i : ℕ}

/-- A character begins behind the bytes of the characters before it. -/
lemma getElem?_offsets : (offsets start cs)[i]? =
    cs[i]?.map fun c => (start + (String.ofList (cs.take i)).utf8ByteSize, c) := by
  induction cs generalizing start i with
  | nil => rfl
  | cons c cs ih =>
    cases i with
    | zero => simp [offsets]
    | succ i =>
      rw [offsets, List.getElem?_cons_succ, ih, List.getElem?_cons_succ, List.take_succ_cons,
        String.ofList_cons, String.utf8ByteSize_append, String.utf8ByteSize_singleton,
        Nat.add_assoc]

/-- A text begins with the bytes of its first part. -/
lemma firstBytes?_append (before behind : String) :
    firstBytes? (before ++ behind) before.utf8ByteSize = some before := by
  have hle : before.utf8ByteSize ≤ (before ++ behind).utf8ByteSize := by
    rw [String.utf8ByteSize_append]
    exact Nat.le_add_right _ _
  have hbytes : (before ++ behind).toByteArray.extract 0 before.utf8ByteSize =
      before.toByteArray := by
    rw [String.toByteArray_append, ← String.size_toByteArray]
    exact ByteArray.extract_append_eq_left rfl
  rw [firstBytes?, if_pos hle, hbytes, String.fromUTF8?, dif_pos before.isValidUTF8]
  rfl

/-- **The bytes before a character are the characters before it.** -/
theorem upTo?_eq_some (text : String) (i : ℕ) :
    upTo? text i = some (String.ofList (text.toList.take i)) := by
  have hsplit :
      String.ofList (text.toList.take i) ++ String.ofList (text.toList.drop i) = text := by
    rw [← String.ofList_append, List.take_append_drop, String.ofList_toList]
  have hcut := firstBytes?_append (String.ofList (text.toList.take i))
    (String.ofList (text.toList.drop i))
  rw [hsplit] at hcut
  rw [upTo?, getElem?_offsets]
  rcases Nat.lt_or_ge i text.toList.length with hi | hi
  · rw [List.getElem?_eq_getElem hi, Option.map_some, Nat.zero_add]
    exact hcut
  · rw [List.getElem?_eq_none hi, List.take_of_length_le hi, String.ofList_toList]
    rfl

end Text

/-! ## What happens to a bubble -/

namespace Bubble

/-- What can happen to a bubble. -/
inductive Change where
  /-- One more character is shown. -/
  | revealNext
  /-- All characters are shown. -/
  | revealAll
  /-- The mark for going on is taken away. -/
  | hideProceed
  deriving DecidableEq, Repr

/-- A bubble to which something happens. -/
def apply (b : Bubble) : Change → Bubble
  | .revealNext => b.revealNext.2
  | .revealAll => b.revealAll
  | .hideProceed => b.hideProceed

/-- A bubble to which things happen one after the other. -/
def run (b : Bubble) (changes : List Change) : Bubble := changes.foldl apply b

lemma run_cons (b : Bubble) (change : Change) (changes : List Change) :
    b.run (change :: changes) = (b.apply change).run changes := rfl

/-- The text shown so far, cut out of the bytes of the line. -/
def cut? (b : Bubble) : Option String := Text.upTo? b.line.text b.revealed

variable {b : Bubble} {change : Change} {changes : List Change}

/-! ### Sound bubbles stay sound and grow -/

lemma Sound.apply (h : b.Sound) (change : Change) : (b.apply change).Sound := by
  cases change with
  | revealNext => exact h.revealNext
  | revealAll => exact h.revealAll
  | hideProceed => exact h.hideProceed

lemma Sound.run (h : b.Sound) (changes : List Change) : (b.run changes).Sound := by
  induction changes generalizing b with
  | nil => exact h
  | cons change changes ih => exact ih (h.apply change)

lemma Sound.grows_apply (h : b.Sound) (change : Change) : b.Grows (b.apply change) := by
  cases change with
  | revealNext => exact grows_revealNext b
  | revealAll => exact h.grows_revealAll
  | hideProceed => exact grows_hideProceed b

/-- Whatever happens to a bubble lets it grow. -/
lemma Sound.grows_run (h : b.Sound) (changes : List Change) : b.Grows (b.run changes) := by
  induction changes generalizing b with
  | nil => exact .refl b
  | cons change changes ih => exact (h.grows_apply change).trans (ih (h.apply change))

/-! ### How much is shown -/

/-- One more character is shown if there is one. -/
lemma Sound.revealed_revealNext (h : b.Sound) :
    b.revealNext.2.revealed = min (b.revealed + 1) b.length := by
  have hle := h.revealed_le
  unfold Bubble.revealNext
  split
  next hwhole =>
    have heq := h.revealed_eq hwhole
    simp only
    omega
  next hpart =>
    simp only [isRevealed, decide_eq_true_eq] at hpart
    simp only
    omega

/-- **Without a jump to the end, one character is shown each time**, until there are no more. -/
theorem Sound.revealed_run (h : b.Sound) (hjump : .revealAll ∉ changes) :
    (b.run changes).revealed = min (b.revealed + changes.count .revealNext) b.length := by
  induction changes generalizing b with
  | nil => exact (Nat.min_eq_left h.revealed_le).symm
  | cons change changes ih =>
    have hrest := ih (h.apply change) fun hmem => hjump (List.mem_cons_of_mem _ hmem)
    have hlength := (h.grows_apply change).length_eq
    rw [run_cons, hrest, hlength]
    cases change with
    | revealNext =>
      rw [Bubble.apply, h.revealed_revealNext, List.count_cons_self]
      omega
    | revealAll => exact absurd List.mem_cons_self hjump
    | hideProceed =>
      rw [List.count_cons_of_ne (by decide)]
      rfl

/-- It is said that a character was shown exactly if there is one more in the text. -/
lemma Sound.revealNext_eq_true_iff (h : b.Sound) : b.revealNext.1 = true ↔
    ∃ c, b.revealNext.2.visibleText.toList = b.visibleText.toList ++ [c] := by
  unfold Bubble.revealNext
  split
  · simp
  next hpart =>
    have hlt : b.revealed < b.line.text.toList.length := by
      have hlength : b.length = b.line.text.toList.length := h.length_eq
      simp only [isRevealed, decide_eq_true_eq] at hpart
      omega
    refine iff_of_true rfl ⟨b.line.text.toList[b.revealed], ?_⟩
    simp only [visibleText, String.toList_ofList]
    exact List.take_succ_eq_append_getElem hlt

/-- A bubble that shows all its characters shows its line. -/
lemma Sound.visibleText_eq (h : b.Sound) (hwhole : b.isRevealed = true) :
    b.visibleText = b.line.text := by
  have hall : b.line.text.toList.length ≤ b.revealed :=
    Nat.le_of_eq (h.length_eq.symm.trans (h.revealed_eq hwhole).symm)
  rw [visibleText, List.take_of_length_le hall, String.ofList_toList]

/-- Once all characters are shown, they stay. -/
lemma Sound.isRevealed_run (h : b.Sound) (hwhole : b.isRevealed = true) (changes : List Change) :
    (b.run changes).isRevealed = true := by
  have hgrows := h.grows_run changes
  have hle := hgrows.revealed_le
  have heq := h.revealed_eq hwhole
  rw [isRevealed, decide_eq_true_eq, hgrows.length_eq]
  omega

end Bubble

/-- A bubble that is sound is drawn as complete exactly if it shows its whole line. -/
lemma BubbleView.isComplete_iff {b : Bubble} (h : b.Sound) (typing : Bool) :
    (BubbleView.ofBubble typing b).isComplete = true ↔ b.isRevealed = true := by
  have htext : (BubbleView.ofBubble typing b).text.toList.length = b.revealed :=
    h.length_visibleText
  rw [isComplete, htext]
  rfl

namespace Bubble

/-! ### Bubbles that type out a line -/

/-- How a bubble shows a line after what has happened to it. -/
structure TypesOut (line : Line) (changes : List Change) (b : Bubble) : Prop where
  /-- It counts the characters of the line. -/
  counted : b.length = line.text.toList.length
  /-- It shows no more than there are. -/
  bounded : b.revealed ≤ b.length
  /-- It never shows less, whatever happens next. -/
  growing : ∀ more, b.revealed ≤ (b.run more).revealed
  /-- It shows the first characters of the line, as many as it says. -/
  shown : b.visibleText.toList = line.text.toList.take b.revealed
  /-- They can be cut out of the bytes of the line. -/
  cut : b.cut? = some b.visibleText
  /-- To be told that one more is shown means that there is one more in the text. -/
  next : b.revealNext.1 = true ↔
    ∃ c, b.revealNext.2.visibleText.toList = b.visibleText.toList ++ [c]
  /-- Without a jump to the end, there are as many as were asked for, up to all there are. -/
  one_by_one : .revealAll ∉ changes →
    b.visibleText.toList.length = min (changes.count .revealNext) b.length
  /-- Once all are shown, the text is the line, whatever happens next. -/
  whole : b.isRevealed = true → ∀ more, (b.run more).visibleText = line.text
  /-- It is drawn as complete exactly then. -/
  drawn : ∀ typing, (BubbleView.ofBubble typing b).isComplete = b.isRevealed

/-- **How a bubble shows its line**, whatever happens to it.

**Proof sketch.** A bubble that is started is sound, and stays so (`Sound.run`); what happens lets
it grow (`Sound.grows_run`), so it keeps its line. Its text has as many characters as it says then
(`Sound.length_visibleText`), and the bytes that are cut out are those of the same characters
(`Text.upTo?_eq_some`). -/
theorem types_out (id : String) (line : Line) (changes : List Change) :
    TypesOut line changes ((start id line).run changes) := by
  have hstart := sound_start id line
  have hsound := hstart.run changes
  have hgrows := hstart.grows_run changes
  have hline : ((start id line).run changes).line = line := hgrows.line_eq
  exact {
    counted := hgrows.length_eq
    bounded := hsound.revealed_le
    growing := fun more => (hsound.grows_run more).revealed_le
    shown := by rw [visibleText, String.toList_ofList, hline]
    cut := Text.upTo?_eq_some _ _
    next := hsound.revealNext_eq_true_iff
    one_by_one := fun hjump => by
      rw [hsound.length_visibleText, hstart.revealed_run hjump, hgrows.length_eq, start,
        Nat.zero_add]
    whole := fun hwhole more => by
      rw [(hsound.run more).visibleText_eq (hsound.isRevealed_run hwhole more),
        (hsound.grows_run more).line_eq, hline]
    drawn := fun typing => Bool.eq_iff_iff.2 (BubbleView.isComplete_iff hsound typing) }

/-- The second of five characters has two bytes, and the cut behind it is at the third byte. -/
example : ((start "b" ⟨"ENGINEER", "héllo", .left⟩).run [.revealNext, .revealNext]).cut? =
    some "hé" := by
  decide +kernel

end Bubble

end Cutscene
