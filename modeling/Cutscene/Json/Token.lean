import Cutscene.Decimal.Reading
import Cutscene.Json.Fault

set_option relaxedAutoImplicit false
set_option autoImplicit false

/-!
# Tokens of a JSON text

A text is cut into tokens from left to right; blanks between tokens vanish. Where the text stops
being JSON the tokens end with a broken one. A number or a text can be well formed and still
have no value, because it is out of range or holds half of a surrogate pair: that only counts
where somebody reads it, so such a token carries its fault and the cutting goes on.

## Main definitions

* `Cutscene.Json.Token` — the tokens.
* `Cutscene.Json.scanNumber`, `Cutscene.Json.scanText` — a number and a text at the front.
* `Cutscene.Json.tokens` — the tokens of a text.
-/

namespace Cutscene.Json

/-- How a broken token begins, as far as that matters. -/
inductive Shape where
  /-- With a quote. -/
  | quote
  /-- With the first letter of `null`. -/
  | nothing
  /-- With anything else. -/
  | other
  /-- Nothing is there. -/
  | absent
  deriving DecidableEq, Repr

/-- A token. -/
inductive Token where
  /-- A left square bracket. -/
  | listOpen
  /-- A right square bracket. -/
  | listClose
  /-- A left curly bracket. -/
  | recordOpen
  /-- A right curly bracket. -/
  | recordClose
  /-- A comma. -/
  | comma
  /-- A colon. -/
  | colon
  /-- The word `null`. -/
  | null
  /-- One of the words `true` and `false`. -/
  | flag (b : Bool)
  /-- A well-formed number with its value, if it has one. -/
  | number (value : Except Fault Number)
  /-- A well-formed text with its value, if it has one. -/
  | text (value : Except Fault String)
  /-- The end of what is JSON, with the fault met by a reader and by one who only skips. -/
  | broken (shape : Shape) (onRead onSkip : Fault)

/-! ## Numbers -/

/-- The number that a run of decimal digits spells. -/
def digitsValue (ds : List Char) : Nat := ds.foldl (fun n d => 10 * n + (d.toNat - 48)) 0

/-- A float with its sign, or the fault of a number out of range. -/
def signed (negative : Bool) : Option Float → Except Fault Number
  | some x => .ok (.real (if negative then -x else x))
  | none => .error .malformed

/-- The value of a number without fraction and exponent: whole where 64 bits with or without a
sign hold it, and otherwise a float. The negative zero is a float. -/
def wholeValue (negative : Bool) (n : Nat) : Except Fault Number :=
  if negative then
    if 1 ≤ n ∧ n ≤ 9223372036854775808 then .ok (.whole (-n))
    else signed true (Decimal.toFloat? n 0)
  else if n < UInt64.size then .ok (.whole n)
  else signed false (Decimal.toFloat? n 0)

/-- Takes the digits at the front. -/
def spanDigits (cs : List Char) : List Char × List Char :=
  (cs.takeWhile Char.isDigit, cs.dropWhile Char.isDigit)

/-- A number broken where digits are missing: a reader notices that the text ends there, one who
skips does not. -/
def missingDigits (rest : List Char) : Token :=
  .broken .other (if rest.isEmpty then .cutShort else .malformed) .malformed

/-- The digits of a power of ten behind its sign, which close a number with the given digits before
and behind the point. -/
def scanPower (negative : Bool) (whole fraction : List Char) (sign : Int) (cs : List Char) :
    Token × List Char :=
  let (ds, rest) := spanDigits cs
  if ds.isEmpty then (missingDigits cs, [])
  else
    let exponent := sign * digitsValue ds - fraction.length
    (.number (signed negative (Decimal.toFloat? (digitsValue (whole ++ fraction)) exponent)), rest)

/-- The rest of a number that has a fraction or a power of ten, behind the fraction. -/
def scanExponent (negative : Bool) (whole fraction cs : List Char) : Token × List Char :=
  match cs with
  | 'e' :: '+' :: rest | 'E' :: '+' :: rest => scanPower negative whole fraction 1 rest
  | 'e' :: '-' :: rest | 'E' :: '-' :: rest => scanPower negative whole fraction (-1) rest
  | 'e' :: rest | 'E' :: rest => scanPower negative whole fraction 1 rest
  | cs =>
    (.number (signed negative
      (Decimal.toFloat? (digitsValue (whole ++ fraction)) (-fraction.length))), cs)

/-- A number, behind its minus sign if it has one. -/
def scanNumber (negative : Bool) (cs : List Char) : Token × List Char :=
  let (whole, rest) := spanDigits cs
  match whole with
  | [] => (missingDigits cs, [])
  | '0' :: _ :: _ => (.broken .other .malformed .malformed, [])
  | whole =>
    match rest with
    | '.' :: rest =>
      let (fraction, rest) := spanDigits rest
      if fraction.isEmpty then (missingDigits rest, [])
      else scanExponent negative whole fraction rest
    | 'e' :: _ | 'E' :: _ => scanExponent negative whole [] rest
    | rest => (.number (wholeValue negative (digitsValue whole)), rest)

/-! ## Texts -/

/-- A piece of a text: a character, or a 16-bit unit written in hexadecimal. -/
inductive Piece where
  /-- A character, as it is or behind a backslash. -/
  | char (c : Char)
  /-- A unit. -/
  | unit (u : Nat)
  deriving DecidableEq, Repr

/-- The character that a backslash and a letter stand for. -/
def escape? : Char → Option Char
  | '"' => some '"'
  | '\\' => some '\\'
  | '/' => some '/'
  | 'b' => some '\x08'
  | 'f' => some '\x0c'
  | 'n' => some '\n'
  | 'r' => some '\r'
  | 't' => some '\t'
  | _ => none

/-- The value of a hexadecimal digit. -/
def hexValue? (c : Char) : Option Nat :=
  if c.isDigit then some (c.toNat - 48)
  else if 'a' ≤ c ∧ c ≤ 'f' then some (c.toNat - 87)
  else if 'A' ≤ c ∧ c ≤ 'F' then some (c.toNat - 55)
  else none

/-- The value of four hexadecimal digits. -/
def hexUnit? (a b c d : Char) : Option Nat := do
  let a ← hexValue? a
  let b ← hexValue? b
  let c ← hexValue? c
  let d ← hexValue? d
  return ((a * 16 + b) * 16 + c) * 16 + d

/-- How many bytes a list of characters takes in UTF-8. -/
def utf8Length (cs : List Char) : Nat := cs.foldr (fun c n => c.utf8Size + n) 0

/-- The fault of a unit without its four digits: four bytes that are no digits break the grammar,
and fewer bytes are a text cut short. -/
def unitFault (rest : List Char) : Fault :=
  if utf8Length rest < 4 then .cutShort else .malformed

/-- The pieces of a text up to its closing quote, the fault that ends it otherwise, and the rest
behind it. -/
def scanPieces : List Char → List Piece × Option Fault × List Char
  | [] => ([], some .cutShort, [])
  | '"' :: rest => ([], none, rest)
  | '\\' :: 'u' :: a :: b :: c :: d :: rest =>
    match hexUnit? a b c d with
    | some u =>
      let (pieces, fault, rest) := scanPieces rest
      (.unit u :: pieces, fault, rest)
    | none => ([], some .malformed, [])
  | '\\' :: 'u' :: rest => ([], some (unitFault rest), [])
  | '\\' :: e :: rest =>
    match escape? e with
    | some c =>
      let (pieces, fault, rest) := scanPieces rest
      (.char c :: pieces, fault, rest)
    | none => ([], some .malformed, [])
  | ['\\'] => ([], some .cutShort, [])
  | c :: rest =>
    if c.toNat < 0x20 then ([], some .malformed, [])
    else
      let (pieces, fault, rest) := scanPieces rest
      (.char c :: pieces, fault, rest)

/-- The leading unit of a surrogate pair. -/
def isLeading (u : Nat) : Bool := 0xd800 ≤ u && u < 0xdc00

/-- The trailing unit of a surrogate pair. -/
def isTrailing (u : Nat) : Bool := 0xdc00 ≤ u && u < 0xe000

/-- Puts pieces together to characters, with the fault that ends the text if there is one. A
leading unit needs its trailing unit right behind it; where the text breaks off instead, the
break is the fault. -/
def joinPieces (fault : Option Fault) : List Piece → Except Fault (List Char)
  | [] => match fault with
    | none => .ok []
    | some f => .error f
  | .char c :: rest => (joinPieces fault rest).map (c :: ·)
  | .unit u :: rest =>
    if isTrailing u then .error .malformed
    else if isLeading u then
      match rest with
      | .unit v :: rest =>
        if isTrailing v then
          (joinPieces fault rest).map
            (Char.ofNat (0x10000 + (u - 0xd800) * 0x400 + (v - 0xdc00)) :: ·)
        else .error .malformed
      | .char _ :: _ => .error .malformed
      | [] => .error (fault.getD .malformed)
    else (joinPieces fault rest).map (Char.ofNat u :: ·)

/-- The value of a text from its pieces. -/
def textValue (pieces : List Piece) (fault : Option Fault) : Except Fault String :=
  (joinPieces fault pieces).map String.ofList

/-- A text behind its opening quote. -/
def scanText (cs : List Char) : Token × List Char :=
  let (pieces, fault, rest) := scanPieces cs
  let value := textValue pieces fault
  match fault with
  | none => (.text value, rest)
  | some f => (.broken .quote (match value with | .error g => g | .ok _ => f) f, [])

/-! ## Words -/

/-- The rest behind the letters of a word, or the fault that stops them. -/
def spanWord : List Char → List Char → Except Fault (List Char)
  | [], cs => .ok cs
  | _ :: _, [] => .error .cutShort
  | w :: ws, c :: cs => if w = c then spanWord ws cs else .error .malformed

/-- A word behind its first letter, which gives the shape of the word if it is broken. -/
def scanWord (shape : Shape) (letters : List Char) (token : Token) (cs : List Char) :
    Token × List Char :=
  match spanWord letters cs with
  | .ok rest => (token, rest)
  | .error f => (.broken shape f f, [])

/-! ## The tokens of a text -/

/-- The blanks that may stand between tokens. -/
def isBlank (c : Char) : Bool := c == ' ' || c == '\n' || c == '\t' || c == '\r'

/-- The token that begins with a character, and the rest behind it. -/
def scanToken (c : Char) (cs : List Char) : Token × List Char :=
  match c with
  | '[' => (.listOpen, cs)
  | ']' => (.listClose, cs)
  | '\x7b' => (.recordOpen, cs)
  | '\x7d' => (.recordClose, cs)
  | ',' => (.comma, cs)
  | ':' => (.colon, cs)
  | '"' => scanText cs
  | '-' => scanNumber true cs
  | 'n' => scanWord .nothing ['u', 'l', 'l'] .null cs
  | 't' => scanWord .other ['r', 'u', 'e'] (.flag true) cs
  | 'f' => scanWord .other ['a', 'l', 's', 'e'] (.flag false) cs
  | c =>
    if c.isDigit then scanNumber false (c :: cs)
    else (.broken .other .malformed .malformed, [])

/-! ## The scanners shorten the text -/

theorem spanDigits_length (cs : List Char) : (spanDigits cs).2.length ≤ cs.length :=
  (List.dropWhile_suffix _).sublist.length_le

theorem scanPower_length (negative : Bool) (whole fraction : List Char) (sign : Int)
    (cs : List Char) : (scanPower negative whole fraction sign cs).2.length ≤ cs.length := by
  have := spanDigits_length cs
  simp only [scanPower]
  split <;> simp [this]

theorem scanExponent_length (negative : Bool) (whole fraction cs : List Char) :
    (scanExponent negative whole fraction cs).2.length ≤ cs.length := by
  unfold scanExponent
  split <;> first
    | exact Nat.le_trans (scanPower_length ..) (by simp only [List.length_cons]; omega)
    | exact Nat.le_refl _

/-- A number takes its whole digits at least. -/
theorem scanNumber_length (negative : Bool) (cs : List Char) :
    (scanNumber negative cs).2.length ≤ (spanDigits cs).2.length := by
  simp only [scanNumber]
  split
  · simp
  · simp
  · split
    · rename_i rest heq
      have hrest := spanDigits_length rest
      have hexp := scanExponent_length negative (spanDigits cs).1 (spanDigits rest).1
        (spanDigits rest).2
      split
      · simp
      · simp only [heq, List.length_cons]; omega
    · exact scanExponent_length ..
    · exact scanExponent_length ..
    · exact Nat.le_refl _

theorem scanPieces_length (cs : List Char) : (scanPieces cs).2.2.length ≤ cs.length := by
  fun_induction scanPieces cs <;> simp_all <;> omega

theorem scanText_length (cs : List Char) : (scanText cs).2.length ≤ cs.length := by
  have := scanPieces_length cs
  simp only [scanText]
  split <;> simp_all

theorem spanWord_length {ws cs rest : List Char} (h : spanWord ws cs = .ok rest) :
    rest.length ≤ cs.length := by
  induction ws generalizing cs with
  | nil => simp_all [spanWord]
  | cons w ws ih =>
    cases cs with
    | nil => simp [spanWord] at h
    | cons c cs =>
      simp only [spanWord] at h
      split at h
      · exact Nat.le_trans (ih h) (Nat.le_succ _)
      · simp at h

theorem scanWord_length (shape : Shape) (letters : List Char) (token : Token) (cs : List Char) :
    (scanWord shape letters token cs).2.length ≤ cs.length := by
  unfold scanWord
  split
  · exact spanWord_length ‹_›
  · simp

/-- A token takes at least its first character. -/
theorem scanToken_length (c : Char) (cs : List Char) :
    (scanToken c cs).2.length ≤ cs.length := by
  unfold scanToken
  split <;> first
    | exact Nat.le_refl _
    | exact scanText_length cs
    | exact Nat.le_trans (scanNumber_length true cs) (spanDigits_length cs)
    | exact scanWord_length ..
    | skip
  split
  · rename_i hd
    refine Nat.le_trans (scanNumber_length false (c :: cs)) ?_
    simpa [spanDigits, hd] using spanDigits_length cs
  · simp

/-- The tokens of a text. -/
def tokens : List Char → List Token
  | [] => []
  | c :: cs =>
    if isBlank c then tokens cs
    else (scanToken c cs).1 :: tokens (scanToken c cs).2
termination_by cs => cs.length
decreasing_by
  · simp
  · exact Nat.lt_succ_of_le (scanToken_length c cs)

end Cutscene.Json
