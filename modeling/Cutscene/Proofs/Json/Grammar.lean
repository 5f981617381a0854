import Mathlib.Data.Int.Notation
import Mathlib.Data.List.TakeWhile
import Mathlib.Data.Nat.Notation
import Mathlib.Tactic.Lemma
import Cutscene.Json.Token

set_option relaxedAutoImplicit false
set_option autoImplicit false

/-!
# The grammar of tokens

How each token may be written, said without the scanner: numbers by their parts, texts by what
stands for each of their characters, words and brackets by their letters, and blanks anywhere
between them. The scanner finds exactly the tokens that are written. A token has an end of its own,
but for a number: that one must not be followed by more digits, by a point or by the letter of an
exponent.

## Main definitions

* `Cutscene.Json.Numeral` — a number as it is written.
* `Cutscene.Json.Stroke` — what is written for a piece of a text.
* `Cutscene.Json.Lexeme` — the characters of a token.
* `Cutscene.Json.Spaced` — the characters of tokens, with blanks between them.

## Main results

* `Cutscene.Json.Numeral.scanNumber_append`, `Cutscene.Json.exists_numeral_of_scanNumber` — the
  numbers that the scanner finds.
* `Cutscene.Json.scanPieces_eq_none_iff` — the texts that the scanner finds.
* `Cutscene.Json.spaced_iff` — characters are those of tokens exactly if these are the tokens of the
  text and none of them is broken.
-/

namespace Cutscene.Json

/-! ## Digits -/

/-- Digits, of which there is one at least. -/
structure Digits where
  /-- The digits. -/
  chars : List Char
  /-- There is one. -/
  ne_nil : chars ≠ []
  /-- They are all digits. -/
  isDigit : ∀ c ∈ chars, c.isDigit = true

/-- A text that does not start with a digit. -/
def EndsDigits (rest : List Char) : Prop := ∀ c ∈ rest.head?, c.isDigit = false

section Digits

variable {cs rest : List Char}

/-- Digits are taken as a whole where they end. -/
lemma Digits.spanDigits_append (ds : Digits) (h : EndsDigits rest) :
    spanDigits (ds.chars ++ rest) = (ds.chars, rest) := by
  have hrest : rest.takeWhile Char.isDigit = [] ∧ rest.dropWhile Char.isDigit = rest := by
    cases rest with
    | nil => exact ⟨rfl, rfl⟩
    | cons c rest => simp [h c rfl]
  rw [spanDigits, List.takeWhile_append_of_pos ds.isDigit, List.dropWhile_append_of_pos ds.isDigit,
    hrest.1, hrest.2, List.append_nil]

/-- The first of the digits. -/
lemma Digits.exists_cons (ds : Digits) : ∃ d tail, ds.chars = d :: tail ∧ d.isDigit = true := by
  obtain ⟨d, tail, hds⟩ := List.exists_cons_of_ne_nil ds.ne_nil
  exact ⟨d, tail, hds, ds.isDigit d (hds ▸ List.mem_cons_self)⟩

/-- What is taken is all digits, and they end there. -/
lemma exists_digits_of_spanDigits (h : (spanDigits cs).1 ≠ []) :
    ∃ ds : Digits, ds.chars = (spanDigits cs).1 ∧ cs = ds.chars ++ (spanDigits cs).2 ∧
      EndsDigits (spanDigits cs).2 := by
  refine ⟨⟨(spanDigits cs).1, h, fun c hc => List.mem_takeWhile_imp hc⟩, rfl,
    List.takeWhile_append_dropWhile.symm, fun c hc => ?_⟩
  have hnot := List.head?_dropWhile_not Char.isDigit cs
  simp only [spanDigits, Option.mem_def] at hc
  rw [hc] at hnot
  exact hnot

end Digits

/-! ## Numbers -/

/-- The power of ten at the end of a number, as it is written. -/
structure Power where
  /-- Whether the letter in front is a capital. -/
  capital : Bool
  /-- The sign, where it is written: whether it is a minus. -/
  sign : Option Bool
  /-- The digits. -/
  digits : Digits

namespace Power

/-- The letter in front. -/
def letter (p : Power) : Char := if p.capital then 'E' else 'e'

/-- The characters of the sign. -/
def signChars (p : Power) : List Char :=
  match p.sign with
  | none => []
  | some false => ['+']
  | some true => ['-']

/-- The characters of a power. -/
def chars (p : Power) : List Char := p.letter :: (p.signChars ++ p.digits.chars)

/-- The exponent. -/
def exponent (p : Power) : ℤ :=
  (if p.sign = some true then -1 else 1) * digitsValue p.digits.chars

end Power

/-- A number as it is written. -/
structure Numeral where
  /-- Whether there is a minus in front. -/
  negative : Bool
  /-- The digits before the point. -/
  whole : Digits
  /-- There is no zero in front of other digits. -/
  noZero : whole.chars.head? = some '0' → whole.chars = ['0']
  /-- The digits behind the point, if there is one. -/
  fraction : Option Digits
  /-- The power of ten, if there is one. -/
  power : Option Power

namespace Numeral

/-- The digits behind the point. -/
def fractionDigits (n : Numeral) : List Char := n.fraction.elim [] Digits.chars

/-- The characters behind the whole digits. -/
def tail (n : Numeral) : List Char :=
  n.fraction.elim [] (fun ds => '.' :: ds.chars) ++ n.power.elim [] Power.chars

/-- The characters behind the minus. -/
def unsigned (n : Numeral) : List Char := n.whole.chars ++ n.tail

/-- The characters of a number. -/
def chars (n : Numeral) : List Char := if n.negative then '-' :: n.unsigned else n.unsigned

/-- The value of a number: a whole one, if there is neither a fraction nor a power. -/
def value (n : Numeral) : Except Fault Number :=
  if n.fraction.isNone ∧ n.power.isNone then wholeValue n.negative (digitsValue n.whole.chars)
  else signed n.negative (Decimal.toFloat? (digitsValue (n.whole.chars ++ n.fractionDigits))
    (n.power.elim 0 Power.exponent - n.fractionDigits.length))

end Numeral

/-- A text with which a number before it does not go on. -/
def EndsNumeral (rest : List Char) : Prop :=
  ∀ c ∈ rest.head?, c.isDigit = false ∧ c ≠ '.' ∧ c ≠ 'e' ∧ c ≠ 'E'

section Numbers

variable {cs rest whole fraction : List Char} {v : Except Fault Number} {negative : Bool}

lemma EndsNumeral.endsDigits (h : EndsNumeral rest) : EndsDigits rest := fun c hc => (h c hc).1

/-- A float of digits before and behind the point and a power of ten. -/
def realValue (negative : Bool) (whole fraction : List Char) (exponent : ℤ) : Except Fault Number :=
  signed negative (Decimal.toFloat? (digitsValue (whole ++ fraction)) (exponent - fraction.length))

/-! ### The power of ten -/

/-- The digits of a power are taken as a whole. -/
lemma Digits.scanPower_append (ds : Digits) (h : EndsDigits rest) (sign : ℤ) :
    scanPower negative whole fraction sign (ds.chars ++ rest) =
      (.number (realValue negative whole fraction (sign * digitsValue ds.chars)), rest) := by
  rw [scanPower, ds.spanDigits_append h]
  exact if_neg (by simpa using ds.ne_nil)

/-- Only digits make a power. -/
lemma exists_digits_of_scanPower {sign : ℤ}
    (h : scanPower negative whole fraction sign cs = (.number v, rest)) :
    ∃ ds : Digits, cs = ds.chars ++ rest ∧ EndsDigits rest ∧
      v = realValue negative whole fraction (sign * digitsValue ds.chars) := by
  rw [scanPower] at h
  simp only at h
  split at h
  · cases h
  next hne =>
    obtain ⟨ds, hds, hcs, hends⟩ := exists_digits_of_spanDigits (by simpa using hne)
    obtain ⟨hv, rfl⟩ := Prod.mk.inj h
    cases hv
    exact ⟨ds, hcs, hends, by rw [hds]; rfl⟩

/-- The sign in front of a power of ten, and what follows it. -/
def powerSign : List Char → ℤ × List Char
  | '+' :: cs => (1, cs)
  | '-' :: cs => (-1, cs)
  | cs => (1, cs)

/-- Behind the letter of an exponent there is a power of ten. -/
lemma scanExponent_cons {c : Char} (hc : c = 'e' ∨ c = 'E') (whole fraction cs : List Char) :
    scanExponent negative whole fraction (c :: cs) =
      scanPower negative whole fraction (powerSign cs).1 (powerSign cs).2 := by
  unfold powerSign
  rcases hc with rfl | rfl
  · split
    · rfl
    · rfl
    · unfold scanExponent
      split <;> simp_all
  · split
    · rfl
    · rfl
    · unfold scanExponent
      split <;> simp_all

/-- Without that letter there is none. -/
lemma scanExponent_of_ne (hcs : ∀ c ∈ cs.head?, c ≠ 'e' ∧ c ≠ 'E') (whole fraction : List Char) :
    scanExponent negative whole fraction cs =
      (.number (realValue negative whole fraction 0), cs) := by
  rw [realValue, Int.zero_sub]
  unfold scanExponent
  split <;> first | rfl | simp at hcs

lemma Power.letter_eq (p : Power) : p.letter = 'e' ∨ p.letter = 'E' := by
  unfold letter
  split
  · exact Or.inr rfl
  · exact Or.inl rfl

/-- The sign of a power is found in front of its digits. -/
lemma Power.powerSign_append (p : Power) (rest : List Char) :
    powerSign (p.signChars ++ (p.digits.chars ++ rest)) =
      (if p.sign = some true then -1 else 1, p.digits.chars ++ rest) := by
  unfold signChars
  split
  next hsign =>
    obtain ⟨d, tail, hds, hd⟩ := p.digits.exists_cons
    rw [hds, hsign, List.nil_append, List.cons_append]
    unfold powerSign
    split <;> simp_all
  next hsign => rw [hsign]; rfl
  next hsign => rw [hsign]; rfl

/-- A power is taken as a whole. -/
lemma Power.scanExponent_append (p : Power) (h : EndsDigits rest) :
    scanExponent negative whole fraction (p.chars ++ rest) =
      (.number (realValue negative whole fraction p.exponent), rest) := by
  rw [chars, List.cons_append, List.append_assoc, scanExponent_cons p.letter_eq,
    p.powerSign_append, p.digits.scanPower_append h]
  rfl

/-- What is taken for a sign is one. -/
lemma exists_sign_of_powerSign (cs : List Char) : ∃ sign : Option Bool,
    (powerSign cs).1 = (if sign = some true then -1 else 1) ∧
      ∀ capital ds, (Power.mk capital sign ds).signChars ++ (powerSign cs).2 = cs := by
  unfold powerSign
  split
  · exact ⟨some false, rfl, fun _ _ => rfl⟩
  · exact ⟨some true, rfl, fun _ _ => rfl⟩
  · exact ⟨none, rfl, fun _ _ => rfl⟩

/-- Behind the letter of an exponent only a power is found. -/
lemma exists_power_of_scanExponent_cons {c : Char} (hc : c = 'e' ∨ c = 'E')
    (h : scanExponent negative whole fraction (c :: cs) = (.number v, rest)) :
    ∃ p : Power, c :: cs = p.chars ++ rest ∧ EndsDigits rest ∧
      v = realValue negative whole fraction p.exponent := by
  rw [scanExponent_cons hc] at h
  obtain ⟨ds, hcs, hends, hv⟩ := exists_digits_of_scanPower h
  obtain ⟨sign, hsign, hchars⟩ := exists_sign_of_powerSign cs
  refine ⟨⟨c == 'E', sign, ds⟩, ?_, hends, ?_⟩
  · have hletter : (Power.mk (c == 'E') sign ds).letter = c := by
      rcases hc with rfl | rfl <;> rfl
    rw [Power.chars, hletter, List.cons_append, List.append_assoc, ← hcs, hchars]
  · rw [hv, hsign]
    rfl

/-- Behind a fraction there may be a power, and nothing else. -/
lemma exists_power_of_scanExponent (hcs : EndsDigits cs)
    (h : scanExponent negative whole fraction cs = (.number v, rest)) :
    ∃ power : Option Power, cs = power.elim [] Power.chars ++ rest ∧ EndsDigits rest ∧
      v = realValue negative whole fraction (power.elim 0 Power.exponent) := by
  by_cases hletter : ∀ c ∈ cs.head?, c ≠ 'e' ∧ c ≠ 'E'
  · rw [scanExponent_of_ne hletter] at h
    cases h
    exact ⟨none, rfl, hcs, rfl⟩
  · cases cs with
    | nil => exact absurd (fun c hc => nomatch hc) hletter
    | cons c tail =>
      have hc : c = 'e' ∨ c = 'E' := by simpa [Classical.or_iff_not_imp_left] using hletter
      obtain ⟨p, hp⟩ := exists_power_of_scanExponent_cons hc h
      exact ⟨some p, hp⟩

/-! ### The whole number -/

lemma scanNumber_fraction (ds fs : Digits) (hzero : ds.chars.head? = some '0' → ds.chars = ['0'])
    (h : EndsDigits rest) : scanNumber negative (ds.chars ++ '.' :: (fs.chars ++ rest)) =
      scanExponent negative ds.chars fs.chars rest := by
  have hpoint : EndsDigits ('.' :: (fs.chars ++ rest)) := by
    rintro _ ⟨⟩
    rfl
  rw [scanNumber, ds.spanDigits_append hpoint]
  simp only
  split
  next hnil => exact absurd hnil ds.ne_nil
  next hds => simp [hds] at hzero
  next =>
    rw [fs.spanDigits_append h]
    exact if_neg (by simpa using fs.ne_nil)

lemma scanNumber_exponent (ds : Digits) (hzero : ds.chars.head? = some '0' → ds.chars = ['0'])
    {c : Char} (hc : c = 'e' ∨ c = 'E') (rest : List Char) :
    scanNumber negative (ds.chars ++ c :: rest) =
      scanExponent negative ds.chars [] (c :: rest) := by
  have hletter : EndsDigits (c :: rest) := by
    rintro _ ⟨⟩
    rcases hc with rfl | rfl <;> rfl
  rw [scanNumber, ds.spanDigits_append hletter]
  simp only
  split
  next hnil => exact absurd hnil ds.ne_nil
  next hds => simp [hds] at hzero
  next => rcases hc with rfl | rfl <;> rfl

lemma scanNumber_whole (ds : Digits) (hzero : ds.chars.head? = some '0' → ds.chars = ['0'])
    (h : EndsNumeral rest) : scanNumber negative (ds.chars ++ rest) =
      (.number (wholeValue negative (digitsValue ds.chars)), rest) := by
  rw [scanNumber, ds.spanDigits_append h.endsDigits]
  simp only
  split
  next hnil => exact absurd hnil ds.ne_nil
  next hds => simp [hds] at hzero
  next =>
    split
    · simp [EndsNumeral] at h
    · simp [EndsNumeral] at h
    · simp [EndsNumeral] at h
    · rfl

/-- **A number is found as it is written**, in front of what ends it. -/
theorem Numeral.scanNumber_append (n : Numeral) (h : EndsNumeral rest) :
    scanNumber n.negative (n.unsigned ++ rest) = (.number n.value, rest) := by
  obtain ⟨negative, ds, hzero, fraction, power⟩ := n
  have hpower : EndsDigits (power.elim [] Power.chars ++ rest) := by
    cases power with
    | none => exact h.endsDigits
    | some p =>
      rintro _ ⟨⟩
      rcases p.letter_eq with hp | hp <;> rw [hp] <;> rfl
  have hexponent : ∀ fs : List Char,
      scanExponent negative ds.chars fs (power.elim [] Power.chars ++ rest) =
        (.number (realValue negative ds.chars fs (power.elim 0 Power.exponent)), rest) := by
    intro fs
    cases power with
    | none => exact scanExponent_of_ne (fun c hc => (h c hc).2.2) ..
    | some p => exact p.scanExponent_append h.endsDigits
  simp only [unsigned, tail, value, List.append_assoc]
  cases fraction with
  | some fs =>
    simp only [Option.elim_some, List.cons_append]
    rw [scanNumber_fraction ds fs hzero hpower, hexponent]
    rfl
  | none =>
    cases power with
    | none => exact scanNumber_whole ds hzero h
    | some p => exact (scanNumber_exponent ds hzero p.letter_eq _).trans (hexponent [])

/-- **Nothing else is found.** -/
theorem exists_numeral_of_scanNumber (h : scanNumber negative cs = (.number v, rest)) :
    ∃ n : Numeral, n.negative = negative ∧ cs = n.unsigned ++ rest ∧ EndsDigits rest ∧
      v = n.value := by
  rw [scanNumber] at h
  simp only at h
  split at h
  · cases h
  · cases h
  next hnil hzero =>
    obtain ⟨ds, hds, hcs, hends⟩ := exists_digits_of_spanDigits hnil
    have hds0 : ds.chars.head? = some '0' → ds.chars = ['0'] := by
      intro hhead
      rw [hds] at hhead ⊢
      cases hspan : (spanDigits cs).1 with
      | nil => exact absurd hspan hnil
      | cons c tail =>
        rw [hspan] at hhead
        cases hhead
        cases tail with
        | nil => rfl
        | cons d tail => exact absurd hspan (hzero d tail)
    generalize (spanDigits cs).2 = tail at hcs hends h
    rw [← hds] at h
    -- Without a fraction there is a power behind the digits, if there is its letter.
    have hexponent : ∀ {c : Char} {more : List Char}, c = 'e' ∨ c = 'E' → tail = c :: more →
        scanExponent negative ds.chars [] (c :: more) = (.number v, rest) →
        ∃ n : Numeral, n.negative = negative ∧ cs = n.unsigned ++ rest ∧ EndsDigits rest ∧
          v = n.value := by
      intro c more hc htail hscan
      obtain ⟨p, hp, hrest, hv⟩ := exists_power_of_scanExponent_cons hc hscan
      refine ⟨⟨negative, ds, hds0, none, some p⟩, rfl, ?_, hrest, hv⟩
      rw [hcs, htail, hp, Numeral.unsigned, List.append_assoc]
      rfl
    split at h
    next fraction =>
      split at h
      · cases h
      next hne =>
        obtain ⟨fs, hfs, hfraction, hends'⟩ := exists_digits_of_spanDigits (by simpa using hne)
        obtain ⟨power, htail, hrest, hv⟩ := exists_power_of_scanExponent hends' h
        refine ⟨⟨negative, ds, hds0, some fs, power⟩, rfl, ?_, hrest, ?_⟩
        · rw [hcs, hfraction, htail]
          simp [Numeral.unsigned, Numeral.tail]
        · rw [hv, ← hfs]
          rfl
    next => exact hexponent (Or.inl rfl) rfl h
    next => exact hexponent (Or.inr rfl) rfl h
    next =>
      cases h
      refine ⟨⟨negative, ds, hds0, none, none⟩, rfl, ?_, hends, rfl⟩
      rw [hcs, Numeral.unsigned, List.append_assoc]
      rfl

end Numbers

/-! ## Texts -/

/-- What is written for a piece of a text. -/
inductive Stroke where
  /-- A character that stands for itself. -/
  | plain (c : Char) (hquote : c ≠ '"') (hslash : c ≠ '\\') (hcontrol : ¬c.toNat < 0x20)
  /-- A backslash and a letter. -/
  | escape (letter c : Char) (h : escape? letter = some c)
  /-- A unit in hexadecimal. -/
  | unit (a b c d : Char) (u : ℕ) (h : hexUnit? a b c d = some u)

namespace Stroke

/-- The characters of a stroke. -/
def chars : Stroke → List Char
  | plain c _ _ _ => [c]
  | escape letter _ _ => ['\\', letter]
  | unit a b c d _ _ => ['\\', 'u', a, b, c, d]

/-- The piece that a stroke stands for. -/
def piece : Stroke → Piece
  | plain c _ _ _ => .char c
  | escape _ c _ => .char c
  | unit _ _ _ _ u _ => .unit u

end Stroke

section Texts

variable {cs rest : List Char} {pieces : List Piece}

/-- A character that stands for itself. -/
lemma scanPieces_plain {c : Char} (hquote : c ≠ '"') (hslash : c ≠ '\\') (hc : ¬c.toNat < 0x20)
    (cs : List Char) :
    scanPieces (c :: cs) = (.char c :: (scanPieces cs).1, (scanPieces cs).2) := by
  rw [scanPieces.eq_def]
  split <;> simp_all

/-- A stroke is found as it is written. -/
lemma Stroke.scanPieces_append (s : Stroke) (cs : List Char) :
    scanPieces (s.chars ++ cs) = (s.piece :: (scanPieces cs).1, (scanPieces cs).2) := by
  cases s with
  | plain c hquote hslash hcontrol => exact scanPieces_plain hquote hslash hcontrol cs
  | escape letter c h =>
    have hletter : letter ≠ 'u' := by
      rintro rfl
      cases h
    simp [chars, piece, scanPieces, hletter, h]
  | unit a b c d u h =>
    simp only [chars, List.cons_append, List.nil_append]
    rw [scanPieces]
    simp only [h]
    rfl

/-- **A text is found as it is written**, up to its quote, and nothing else is. -/
theorem scanPieces_eq_none_iff : scanPieces cs = (pieces, none, rest) ↔
    ∃ strokes : List Stroke, cs = strokes.flatMap Stroke.chars ++ '"' :: rest ∧
      pieces = strokes.map Stroke.piece := by
  constructor
  · intro h
    fun_induction scanPieces cs generalizing pieces with
    | case2 rest' =>
      cases h
      exact ⟨[], rfl, rfl⟩
    | case3 a b c d tail u hu pieces' fault rest' htail ih =>
      cases h
      obtain ⟨strokes, rfl, rfl⟩ := ih htail
      exact ⟨.unit a b c d u hu :: strokes, rfl, rfl⟩
    | case6 letter tail _ _ c hc pieces' fault rest' htail ih =>
      cases h
      obtain ⟨strokes, rfl, rfl⟩ := ih htail
      exact ⟨.escape letter c hc :: strokes, rfl, rfl⟩
    | case10 c tail hquote _ _ hescape hlone hcontrol pieces' fault rest' htail ih =>
      cases h
      obtain ⟨strokes, rfl, rfl⟩ := ih htail
      have hslash : c ≠ '\\' := by
        rintro rfl
        cases hchars : strokes.flatMap Stroke.chars ++ '"' :: rest with
        | nil => exact hlone rfl hchars
        | cons d more => exact hescape d more rfl hchars
      exact ⟨.plain c hquote hslash hcontrol :: strokes, rfl, rfl⟩
    | case1 | case4 | case5 | case7 | case8 | case9 => cases h
  · rintro ⟨strokes, rfl, rfl⟩
    induction strokes with
    | nil => rfl
    | cons s strokes ih =>
      rw [List.flatMap_cons, List.append_assoc, s.scanPieces_append, ih]
      rfl

/-- What the scanner finds behind a quote, if it is a text. -/
lemma scanText_eq_text_iff {v : Except Fault String} : scanText cs = (.text v, rest) ↔
    ∃ strokes : List Stroke, cs = strokes.flatMap Stroke.chars ++ '"' :: rest ∧
      v = textValue (strokes.map Stroke.piece) none := by
  constructor
  · intro h
    unfold scanText at h
    simp only at h
    split at h
    next hfault =>
      cases h
      obtain ⟨strokes, hcs, hpieces⟩ :=
        scanPieces_eq_none_iff.1 (Prod.ext rfl (Prod.ext hfault rfl))
      exact ⟨strokes, hcs, congrArg₂ textValue hpieces hfault⟩
    · cases h
  · rintro ⟨strokes, rfl, rfl⟩
    rw [scanText, scanPieces_eq_none_iff.2 ⟨strokes, rfl, rfl⟩]

end Texts

/-! ## Words -/

section Words

variable {letters cs rest : List Char}

/-- A word is found by its letters, and nothing else is. -/
lemma spanWord_eq_ok_iff : spanWord letters cs = .ok rest ↔ cs = letters ++ rest := by
  induction letters generalizing cs with
  | nil => simp [spanWord]
  | cons w letters ih =>
    cases cs with
    | nil => simp [spanWord]
    | cons c cs =>
      rw [spanWord]
      split
      next h => simp [h, ih]
      next h => simp [Ne.symm h]

end Words

/-! ## Tokens -/

/-- Whether a token ends what is JSON. -/
def Token.isBroken : Token → Bool
  | .broken _ _ _ => true
  | .listOpen | .listClose | .recordOpen | .recordClose | .comma | .colon | .null | .flag _
  | .number _ | .text _ => false

/-- The characters of a token. -/
inductive Lexeme : List Char → Token → Prop where
  /-- A left square bracket. -/
  | listOpen : Lexeme ['['] .listOpen
  /-- A right square bracket. -/
  | listClose : Lexeme [']'] .listClose
  /-- A left curly bracket. -/
  | recordOpen : Lexeme ['\x7b'] .recordOpen
  /-- A right curly bracket. -/
  | recordClose : Lexeme ['\x7d'] .recordClose
  /-- A comma. -/
  | comma : Lexeme [','] .comma
  /-- A colon. -/
  | colon : Lexeme [':'] .colon
  /-- The word for nothing. -/
  | null : Lexeme ['n', 'u', 'l', 'l'] .null
  /-- The word for truth. -/
  | yes : Lexeme ['t', 'r', 'u', 'e'] (.flag true)
  /-- The word for falsehood. -/
  | no : Lexeme ['f', 'a', 'l', 's', 'e'] (.flag false)
  /-- A number. -/
  | number (n : Numeral) : Lexeme n.chars (.number n.value)
  /-- A text between quotes. -/
  | text (strokes : List Stroke) : Lexeme ('"' :: (strokes.flatMap Stroke.chars ++ ['"']))
      (.text (textValue (strokes.map Stroke.piece) none))

lemma Lexeme.isBroken_eq_false {l : List Char} {t : Token} (h : Lexeme l t) :
    t.isBroken = false := by
  cases h <;> rfl

/-- A text in front of which a token ends. -/
def Token.EndsAt : Token → List Char → Prop
  | .number _, rest => EndsNumeral rest
  | .listOpen, _ | .listClose, _ | .recordOpen, _ | .recordClose, _ | .comma, _ | .colon, _
  | .null, _ | .flag _, _ | .text _, _ | .broken _ _ _, _ => True

lemma Token.endsAt_blank (t : Token) (cs : List Char) : t.EndsAt (' ' :: cs) := by
  cases t with
  | number v =>
    rintro _ ⟨⟩
    decide
  | listOpen | listClose | recordOpen | recordClose | comma | colon | null | flag | text | broken =>
    trivial

section Scanning

variable {c : Char} {cs rest l : List Char} {t : Token}

/-- A digit is where a number starts, and nothing else. -/
lemma scanToken_of_isDigit (hc : c.isDigit = true) (cs : List Char) :
    scanToken c cs = scanNumber false (c :: cs) := by
  unfold scanToken
  split
  case h_12 => exact if_pos hc
  all_goals cases hc

lemma isBlank_of_isDigit (hc : c.isDigit = true) : isBlank c = false := by
  rw [Bool.eq_false_iff]
  intro hblank
  simp only [isBlank, Bool.or_eq_true, beq_iff_eq] at hblank
  rcases hblank with ((rfl | rfl) | rfl) | rfl <;> cases hc

/-- **A token is found as it is written**, where it ends. -/
theorem Lexeme.scanToken_append (h : Lexeme l t) (hrest : t.EndsAt rest) :
    ∃ c cs, l = c :: cs ∧ isBlank c = false ∧ scanToken c (cs ++ rest) = (t, rest) := by
  cases h with
  | listOpen | listClose | recordOpen | recordClose | comma | colon | null | yes | no =>
    exact ⟨_, _, rfl, rfl, rfl⟩
  | text strokes =>
    refine ⟨_, _, rfl, rfl, ?_⟩
    rw [List.append_assoc]
    exact scanText_eq_text_iff.2 ⟨strokes, rfl, rfl⟩
  | number n =>
    have hscan := n.scanNumber_append hrest
    rw [Numeral.chars]
    split
    next hneg =>
      rw [hneg] at hscan
      exact ⟨'-', n.unsigned, rfl, rfl, hscan⟩
    next hneg =>
      obtain ⟨d, tail, hds, hd⟩ := n.whole.exists_cons
      have hunsigned : n.unsigned = d :: (tail ++ n.tail) := by rw [Numeral.unsigned, hds]; rfl
      rw [Bool.eq_false_iff.2 hneg, hunsigned] at hscan
      exact ⟨d, tail ++ n.tail, hunsigned, isBlank_of_isDigit hd,
        (scanToken_of_isDigit hd _).trans hscan⟩

/-- Where a number starts a number is found, or the text is broken. -/
lemma exists_number_of_scanNumber {negative : Bool} (h : scanNumber negative cs = (t, rest))
    (ht : t.isBroken = false) : ∃ v, t = .number v := by
  have hpower : ∀ {whole fraction : List Char} {sign : ℤ} {cs : List Char},
      scanPower negative whole fraction sign cs = (t, rest) → ∃ v, t = .number v := by
    intro whole fraction sign cs h
    rw [scanPower] at h
    simp only at h
    split at h <;> cases h
    · cases ht
    · exact ⟨_, rfl⟩
  have hexponent : ∀ {whole fraction cs : List Char},
      scanExponent negative whole fraction cs = (t, rest) → ∃ v, t = .number v := by
    intro whole fraction cs h
    unfold scanExponent at h
    split at h
    case h_7 => cases h; exact ⟨_, rfl⟩
    all_goals exact hpower h
  rw [scanNumber] at h
  simp only at h
  split at h
  · cases h; cases ht
  · cases h; cases ht
  · split at h
    · split at h
      · cases h; cases ht
      · exact hexponent h
    · exact hexponent h
    · exact hexponent h
    · cases h; exact ⟨_, rfl⟩

/-- Where a word starts the word is found, or the text is broken. -/
lemma exists_lexeme_of_scanWord {shape : Shape} {letters : List Char} {token : Token}
    (h : scanWord shape letters token cs = (t, rest)) (ht : t.isBroken = false) :
    token = t ∧ cs = letters ++ rest := by
  unfold scanWord at h
  split at h
  next hspan =>
    cases h
    exact ⟨rfl, spanWord_eq_ok_iff.1 hspan⟩
  · cases h
    cases ht

/-- **Nothing else is found**: where the text is not broken, it starts with a token as it is
written. -/
theorem exists_lexeme_of_scanToken (h : scanToken c cs = (t, rest)) (ht : t.isBroken = false) :
    ∃ l, Lexeme l t ∧ c :: cs = l ++ rest ∧ ((∃ v, t = .number v) → EndsDigits rest) := by
  unfold scanToken at h
  split at h
  case h_1 => cases h; exact ⟨_, .listOpen, rfl, nofun⟩
  case h_2 => cases h; exact ⟨_, .listClose, rfl, nofun⟩
  case h_3 => cases h; exact ⟨_, .recordOpen, rfl, nofun⟩
  case h_4 => cases h; exact ⟨_, .recordClose, rfl, nofun⟩
  case h_5 => cases h; exact ⟨_, .comma, rfl, nofun⟩
  case h_6 => cases h; exact ⟨_, .colon, rfl, nofun⟩
  case h_7 =>
    obtain ⟨v, rfl⟩ : ∃ v, t = .text v := by
      unfold scanText at h
      simp only at h
      split at h <;> cases h
      · exact ⟨_, rfl⟩
      · cases ht
    obtain ⟨strokes, rfl, rfl⟩ := scanText_eq_text_iff.1 h
    exact ⟨_, .text strokes, by simp, nofun⟩
  case h_8 =>
    obtain ⟨v, rfl⟩ := exists_number_of_scanNumber h ht
    obtain ⟨n, hneg, rfl, hends, rfl⟩ := exists_numeral_of_scanNumber h
    exact ⟨_, .number n, by rw [Numeral.chars, if_pos hneg]; rfl, fun _ => hends⟩
  case h_9 =>
    obtain ⟨rfl, rfl⟩ := exists_lexeme_of_scanWord h ht
    exact ⟨_, .null, rfl, nofun⟩
  case h_10 =>
    obtain ⟨rfl, rfl⟩ := exists_lexeme_of_scanWord h ht
    exact ⟨_, .yes, rfl, nofun⟩
  case h_11 =>
    obtain ⟨rfl, rfl⟩ := exists_lexeme_of_scanWord h ht
    exact ⟨_, .no, rfl, nofun⟩
  case h_12 =>
    split at h
    · obtain ⟨v, rfl⟩ := exists_number_of_scanNumber h ht
      obtain ⟨n, hneg, hcs, hends, rfl⟩ := exists_numeral_of_scanNumber h
      exact ⟨_, .number n, by rw [Numeral.chars, hneg]; exact hcs, fun _ => hends⟩
    · cases h
      cases ht

/-! ## Texts -/

/-- Blanks vanish. -/
lemma tokens_blank (hc : isBlank c = true) (cs : List Char) : tokens (c :: cs) = tokens cs := by
  rw [tokens, if_pos hc]

/-- Anything else is the start of a token. -/
lemma tokens_cons (hc : isBlank c = false) (cs : List Char) :
    tokens (c :: cs) = (scanToken c cs).1 :: tokens (scanToken c cs).2 := by
  rw [tokens, hc, if_neg Bool.false_ne_true]

/-- A number ends where its digits do, if what follows is not broken: a point or a letter that the
number does not take is no start of another token. -/
lemma endsAt_of_tokens (hdigits : (∃ v, t = .number v) → EndsDigits rest)
    (hwhole : ∀ t ∈ tokens rest, t.isBroken = false) : t.EndsAt rest := by
  cases t with
  | number v =>
    intro c hc
    refine ⟨hdigits ⟨v, rfl⟩ c hc, ?_⟩
    cases rest with
    | nil => cases hc
    | cons d more =>
      cases hc
      refine ⟨?_, ?_, ?_⟩ <;>
      · rintro rfl
        rw [tokens_cons rfl] at hwhole
        exact Bool.noConfusion (hwhole _ List.mem_cons_self)
  | listOpen | listClose | recordOpen | recordClose | comma | colon | null | flag | text | broken =>
    trivial

/-- The characters of tokens, with blanks before, between and behind them. -/
inductive Spaced : List Token → List Char → Prop where
  /-- There are no tokens. -/
  | nil : Spaced [] []
  /-- There is a blank. -/
  | blank {c : Char} {ts : List Token} {cs : List Char} (hc : isBlank c = true)
      (h : Spaced ts cs) : Spaced ts (c :: cs)
  /-- There is a token. -/
  | token {l cs : List Char} {t : Token} {ts : List Token} (hl : Lexeme l t) (hends : t.EndsAt cs)
      (h : Spaced ts cs) : Spaced (t :: ts) (l ++ cs)

/-- A token can be written. -/
def Token.Writable (t : Token) : Prop := ∃ l, Lexeme l t

/-- Tokens can be written with blanks between them if each of them can be. -/
lemma exists_spaced_iff {ts : List Token} :
    (∃ cs, Spaced ts cs) ↔ ∀ t ∈ ts, t.Writable := by
  constructor
  · rintro ⟨cs, h⟩
    induction h with
    | nil => exact nofun
    | blank _ _ ih => exact ih
    | token hl _ _ ih => exact List.forall_mem_cons.2 ⟨⟨_, hl⟩, ih⟩
  · intro h
    induction ts with
    | nil => exact ⟨[], .nil⟩
    | cons t ts ih =>
      obtain ⟨⟨l, hl⟩, hmore⟩ := List.forall_mem_cons.1 h
      obtain ⟨cs, hcs⟩ := ih hmore
      exact ⟨l ++ ' ' :: cs, .token hl (t.endsAt_blank cs) (.blank rfl hcs)⟩

lemma Spaced.isBroken_eq_false {ts : List Token} (h : Spaced ts cs) :
    ∀ t ∈ ts, t.isBroken = false := by
  induction h with
  | nil => exact nofun
  | blank _ _ ih => exact ih
  | token hl _ _ ih => exact List.forall_mem_cons.2 ⟨hl.isBroken_eq_false, ih⟩

/-- Where a token ends it ends also with more behind, if a number would. -/
lemma Token.EndsAt.append (h : t.EndsAt cs) (hrest : EndsNumeral rest) : t.EndsAt (cs ++ rest) := by
  cases t with
  | number v =>
    cases cs with
    | nil => exact hrest
    | cons c cs => exact h
  | listOpen | listClose | recordOpen | recordClose | comma | colon | null | flag | text | broken =>
    trivial

/-- **Tokens are found as they are written**, in front of whatever a number does not go on with. -/
theorem Spaced.tokens_append {ts : List Token} (h : Spaced ts cs) (hrest : EndsNumeral rest) :
    tokens (cs ++ rest) = ts ++ tokens rest := by
  induction h with
  | nil => rfl
  | blank hc _ ih => rw [List.cons_append, tokens_blank hc, ih]
  | @token l cs t ts hl hends _ ih =>
    obtain ⟨c, more, rfl, hblank, hscan⟩ := hl.scanToken_append (hends.append hrest)
    rw [List.append_assoc, List.cons_append, tokens_cons hblank, hscan, ih, List.cons_append]

lemma endsNumeral_nil : EndsNumeral [] := nofun

/-- **The tokens of a text are those that are written**, if none of them is broken.

**Proof sketch.** By the text. A number ends where the scanner leaves it: what comes next is no
digit, because digits are taken as a whole, and a point or a letter that the number does not take
would be a broken token. -/
theorem spaced_iff {ts : List Token} :
    Spaced ts cs ↔ tokens cs = ts ∧ ∀ t ∈ ts, t.isBroken = false := by
  constructor
  · intro h
    have htokens := h.tokens_append endsNumeral_nil
    rw [List.append_nil, tokens, List.append_nil] at htokens
    exact ⟨htokens, h.isBroken_eq_false⟩
  · rintro ⟨rfl, hwhole⟩
    induction cs using tokens.induct with
    | case1 =>
      rw [tokens]
      exact .nil
    | case2 c cs hblank ih =>
      rw [tokens_blank hblank] at hwhole ⊢
      exact .blank hblank (ih hwhole)
    | case3 c cs hblank ih =>
      rw [tokens_cons (Bool.eq_false_iff.2 hblank)] at hwhole ⊢
      obtain ⟨ht, hmore⟩ := List.forall_mem_cons.1 hwhole
      obtain ⟨l, hl, hcs, hdigits⟩ := exists_lexeme_of_scanToken rfl ht
      rw [hcs]
      exact .token hl (endsAt_of_tokens hdigits hmore) (ih hmore)

end Scanning

end Cutscene.Json
