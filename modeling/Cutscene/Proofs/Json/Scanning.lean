import Cutscene.Json.Value
import Cutscene.Proofs.Json.Grammar

set_option relaxedAutoImplicit false
set_option autoImplicit false

/-!
# Scanning what has been written

The pieces that a JSON text is written in are cut out of it again as they were, each a token with
the value that was written: texts with all their escapes, whole numbers, and the blanks between
tokens, which vanish. A number is the only piece without an end of its own. It goes on for as long
as characters follow that can belong to one, so what stands behind it counts.

## Main definitions

* `Cutscene.Json.EndsNumber` — a text that ends a number before it.
* `Cutscene.Json.Number.ReadsBack` — a number that is cut out of its text as it was written.

## Main results

* `Cutscene.Json.tokens_textChars` — a text is cut out as it was written.
* `Cutscene.Json.tokens_append_of_number` — a number on its own is one also in front of what ends
  it.
* `Cutscene.Json.readsBack_whole` — whole numbers of 64 bits read back.
-/

namespace Cutscene.Json

/-! ## Numbers and what follows them -/

/-- Whether a character behind a number is taken for a part of it. -/
def continuesNumber (c : Char) : Bool := c.isDigit || c ∈ ['.', 'e', 'E', '+', '-']

/-- A text that ends a number before it. -/
def EndsNumber (rest : List Char) : Prop := ∀ c ∈ rest.head?, continuesNumber c = false

section Numbers

variable {cs rest rest' : List Char} {v : Except Fault Number} {negative : Bool}

lemma EndsNumber.endsNumeral (h : EndsNumber rest) : EndsNumeral rest := by
  intro c hc
  have hcontinues := h c hc
  simp only [continuesNumber, Bool.or_eq_false_iff, decide_eq_false_iff_not, List.mem_cons,
    not_or] at hcontinues
  exact ⟨hcontinues.1, hcontinues.2.1, hcontinues.2.2.1, hcontinues.2.2.2.1⟩

/-- Digits are all taken. -/
lemma spanDigits_of_digits (hcs : ∀ c ∈ cs, c.isDigit = true) : spanDigits cs = (cs, []) := by
  simp [spanDigits, List.takeWhile_eq_self_iff.2 hcs, List.dropWhile_eq_nil_iff.2 hcs]

/-! ## Whole numbers -/

/-- Digits are written without a zero in front. -/
lemma toDigits_ne_zero_cons (n : ℕ) (d : Char) (ds : List Char) :
    Nat.toDigits 10 n ≠ '0' :: d :: ds := by
  induction n using Nat.strong_induction_on generalizing d ds with
  | _ n ih =>
    intro heq
    rcases Nat.lt_or_ge n 10 with hn | hn
    · simp [Nat.toDigits_of_lt_base hn] at heq
    · rw [Nat.toDigits_of_base_le (by omega) hn] at heq
      cases hhigh : Nat.toDigits 10 (n / 10) with
      | nil => exact Nat.toDigits_ne_nil hhigh
      | cons c cs =>
        rw [hhigh, List.cons_append] at heq
        obtain rfl := (List.cons.inj heq).1
        cases cs with
        | cons e es => exact ih (n / 10) (by omega) e es hhigh
        | nil =>
          have hvalue : Nat.ofDigitChars 10 (Nat.toDigits 10 (n / 10)) 0 = 0 := by rw [hhigh]; rfl
          rw [Nat.ofDigitChars_ten_toDigits] at hvalue
          omega

/-- The digits of a number spell it. -/
lemma digitsValue_toDigits (n : ℕ) : digitsValue (Nat.toDigits 10 n) = n := by
  have hvalue := @Nat.ofDigitChars_ten_toDigits n
  rwa [Nat.ofDigitChars_eq_foldl] at hvalue

/-- The digits of a number are scanned as that number. -/
lemma scanNumber_toDigits (negative : Bool) (n : ℕ) :
    scanNumber negative (Nat.toDigits 10 n) = (.number (wholeValue negative n), []) := by
  have hdigits : ∀ c ∈ Nat.toDigits 10 n, c.isDigit = true :=
    fun c hc => Nat.isDigit_of_mem_toDigits (by omega) (by omega) hc
  simp only [scanNumber, spanDigits_of_digits hdigits]
  split
  next hnil => exact absurd hnil Nat.toDigits_ne_nil
  next d ds hzero => exact absurd hzero (toDigits_ne_zero_cons n d ds)
  next => rw [digitsValue_toDigits]

end Numbers

/-! ## Texts -/

lemma hexValue?_digitChar : ∀ k < 16, hexValue? (Nat.digitChar k) = some k := by decide

/-- A character that is written in hexadecimal. -/
lemma scanPieces_unit {c : Char} (hc : c.toNat < 0x20) (cs : List Char) :
    scanPieces (['\\', 'u', '0', '0', Nat.digitChar (c.toNat / 16), Nat.digitChar (c.toNat % 16)] ++
        cs) = (.unit c.toNat :: (scanPieces cs).1, (scanPieces cs).2) := by
  have hzero : hexValue? '0' = some 0 := rfl
  have hunit : hexUnit? '0' '0' (Nat.digitChar (c.toNat / 16)) (Nat.digitChar (c.toNat % 16)) =
      some c.toNat := by
    simp only [hexUnit?, hexValue?_digitChar (c.toNat / 16) (by omega),
      hexValue?_digitChar (c.toNat % 16) (by omega), hzero, Option.bind_eq_bind, Option.bind_some,
      Option.pure_def]
    congr 1
    omega
  simp only [List.cons_append, List.nil_append]
  rw [scanPieces]
  simp only [hunit]

/-- What is written for a character is one piece, and stands for the character. -/
lemma scanPieces_escapedChar (c : Char) :
    ∃ piece,
      (∀ cs, scanPieces (escapedChar c ++ cs) = (piece :: (scanPieces cs).1, (scanPieces cs).2)) ∧
      ∀ fault pieces, joinPieces fault (piece :: pieces) =
        (joinPieces fault pieces).map (c :: ·) := by
  unfold escapedChar
  split
  case h_8 hquote hslash _ _ _ _ _ =>
    split
    next hc =>
      refine ⟨.unit c.toNat, scanPieces_unit hc, fun fault pieces => ?_⟩
      have hlow : isTrailing c.toNat = false ∧ isLeading c.toNat = false := by
        simp [isTrailing, isLeading]
        omega
      rw [joinPieces.eq_def]
      simp [hlow]
    next hc => exact ⟨.char c, scanPieces_plain hquote hslash hc, fun _ _ => rfl⟩
  all_goals exact ⟨_, fun _ => rfl, fun _ _ => rfl⟩

/-- What is written for characters, up to the quote behind them. -/
lemma scanPieces_escaped (cs rest : List Char) :
    ∃ pieces, scanPieces (cs.flatMap escapedChar ++ '"' :: rest) = (pieces, none, rest) ∧
      joinPieces none pieces = .ok cs := by
  induction cs with
  | nil => exact ⟨[], rfl, rfl⟩
  | cons c cs ih =>
    obtain ⟨pieces, hscan, hjoin⟩ := ih
    obtain ⟨piece, hpiece, hchar⟩ := scanPieces_escapedChar c
    refine ⟨piece :: pieces, ?_, ?_⟩
    · rw [List.flatMap_cons, List.append_assoc, hpiece, hscan]
    · rw [hchar, hjoin]
      rfl

/-! ## Tokens -/

section Tokens

variable {cs rest rest' : List Char} {v : Except Fault Number} {c : Char}

/-- Blanks in front vanish. -/
lemma tokens_append_of_blank (hcs : ∀ c ∈ cs, isBlank c = true) (rest : List Char) :
    tokens (cs ++ rest) = tokens rest := by
  induction cs with
  | nil => rfl
  | cons c cs ih =>
    rw [List.cons_append, tokens_blank (hcs c List.mem_cons_self)]
    exact ih fun d hd => hcs d (List.mem_cons_of_mem c hd)

/-- What is put between tokens vanishes. -/
lemma tokens_gap (style : Style) (depth : ℕ) (rest : List Char) :
    tokens (style.gap depth ++ rest) = tokens rest := by
  refine tokens_append_of_blank (fun c hc => ?_) rest
  cases style with
  | compact => cases hc
  | indented =>
    rcases List.mem_cons.1 hc with rfl | hc
    · rfl
    · rw [List.eq_of_mem_replicate hc]
      rfl

/-- **A text is cut out as it was written**, whatever characters it is made of. -/
theorem tokens_textChars (s : String) (rest : List Char) :
    tokens (textChars s ++ rest) = .text (.ok s) :: tokens rest := by
  obtain ⟨pieces, hscan, hjoin⟩ := scanPieces_escaped s.toList rest
  have htext : scanText (s.toList.flatMap escapedChar ++ '"' :: rest) = (.text (.ok s), rest) := by
    simp [scanText, hscan, textValue, hjoin, Except.map]
  have hchars : textChars s ++ rest = '"' :: (s.toList.flatMap escapedChar ++ '"' :: rest) := by
    simp [textChars]
  rw [hchars, tokens_cons rfl]
  simp only [scanToken, htext]

/-! ## Numbers as tokens -/

lemma scanText_ne_number (cs : List Char) : scanText cs ≠ (.number v, rest') := by
  unfold scanText
  simp only
  split <;> simp

lemma scanWord_ne_number {token : Token} (htoken : token ≠ .number v) (shape : Shape)
    (letters cs : List Char) : scanWord shape letters token cs ≠ (.number v, rest') := by
  unfold scanWord
  split <;> simp [htoken]

/-- A number starts with a minus sign or with a digit, and nothing else is one. -/
lemma scanToken_eq_number_iff :
    scanToken c cs = (.number v, rest') ↔
      c = '-' ∧ scanNumber true cs = (.number v, rest') ∨
        c.isDigit = true ∧ scanNumber false (c :: cs) = (.number v, rest') := by
  unfold scanToken
  split
  case h_7 => simp [scanText_ne_number]
  case h_9 => simp [scanWord_ne_number]
  case h_10 => simp [scanWord_ne_number]
  case h_11 => simp [scanWord_ne_number]
  case h_12 hminus _ _ _ =>
    have hne : c ≠ '-' := hminus
    cases hdigit : c.isDigit <;> simp [hne]
  all_goals simp

/-- **A number on its own is one also in front of what ends it.** -/
theorem tokens_append_of_number (h : EndsNumber rest) (hcs : tokens cs = [.number v]) :
    tokens (cs ++ rest) = .number v :: tokens rest := by
  have hspaced : Spaced [.number v] cs := spaced_iff.2 ⟨hcs, by simp [Token.isBroken]⟩
  exact hspaced.tokens_append h.endsNumeral

/-- A number that is cut out of its text as it was written. -/
def Number.ReadsBack (n : Number) : Prop := tokens n.chars = [.number (.ok n)]

/-- The digits of a whole number are one token. -/
lemma tokens_toDigits (n : ℕ) : tokens (Nat.toDigits 10 n) = [.number (wholeValue false n)] := by
  have hscan := scanNumber_toDigits false n
  cases hdigits : Nat.toDigits 10 n with
  | nil => exact absurd hdigits Nat.toDigits_ne_nil
  | cons c cs =>
    have hc : c.isDigit = true :=
      Nat.isDigit_of_mem_toDigits (by omega) (by omega) (hdigits ▸ List.mem_cons_self)
    rw [hdigits] at hscan
    rw [tokens_cons (isBlank_of_isDigit hc), scanToken_eq_number_iff.2 (Or.inr ⟨hc, hscan⟩), tokens]

/-- **Whole numbers of 64 bits read back**, with a sign or without. -/
theorem readsBack_whole {n : ℤ} (hlow : -9223372036854775808 ≤ n) (hhigh : n < UInt64.size) :
    (Number.whole n).ReadsBack := by
  rw [Number.ReadsBack, Number.chars]
  split
  next hneg =>
    have hvalue : wholeValue true n.natAbs = .ok (.whole n) := by
      rw [wholeValue, if_pos rfl, if_pos (by omega)]
      congr 2
      omega
    rw [tokens_cons rfl, scanToken_eq_number_iff.2 (Or.inl ⟨rfl, scanNumber_toDigits true _⟩),
      hvalue, tokens]
  next hneg =>
    have hvalue : wholeValue false n.natAbs = .ok (.whole n) := by
      rw [wholeValue, if_neg Bool.false_ne_true, if_pos (by omega)]
      congr 2
      omega
    rw [tokens_toDigits, hvalue]

end Tokens

end Cutscene.Json
