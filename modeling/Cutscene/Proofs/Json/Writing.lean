import Cutscene.Proofs.Json.Scanning

set_option relaxedAutoImplicit false
set_option autoImplicit false

/-!
# The tokens of a written value

Whatever style a value is written in, its text has the same tokens, which are those that the value
is made of. So what a text is read as does not depend on how it is spread over lines.

## Main definitions

* `Cutscene.Json.toTokens` — the tokens that a value is made of.
* `Cutscene.Json.numbers` — the numbers in a value.
* `Cutscene.Json.ReadsBack` — all numbers in a value read back.
* `Cutscene.Json.Spells` — a text with the tokens of a value.

## Main results

* `Cutscene.Json.tokens_chars` — the text of a value has the tokens of the value.
* `Cutscene.Json.spells_write` — the text of a value spells it, in any style.
-/

namespace Cutscene.Json

mutual

/-- The tokens that a value is made of. -/
def toTokens : Json → List Token
  | .null => [.null]
  | .flag b => [.flag b]
  | .number n => [.number (.ok n)]
  | .text s => [.text (.ok s)]
  | .list [] => [.listOpen, .listClose]
  | .list (item :: items) =>
    .listOpen :: (item.toTokens ++ (itemsTokens items ++ [.listClose]))
  | .record [] => [.recordOpen, .recordClose]
  | .record ((name, value) :: members) =>
    .recordOpen :: .text (.ok name) :: .colon ::
      (value.toTokens ++ (membersTokens members ++ [.recordClose]))

/-- The tokens of the items after the first. -/
def itemsTokens : List Json → List Token
  | [] => []
  | item :: items => .comma :: (item.toTokens ++ itemsTokens items)

/-- The tokens of the members after the first. -/
def membersTokens : List (String × Json) → List Token
  | [] => []
  | (name, value) :: members =>
    .comma :: .text (.ok name) :: .colon :: (value.toTokens ++ membersTokens members)

end

mutual

/-- The numbers in a value. -/
def numbers : Json → List Number
  | .null | .flag _ | .text _ => []
  | .number n => [n]
  | .list items => itemsNumbers items
  | .record members => membersNumbers members

/-- The numbers in items. -/
def itemsNumbers : List Json → List Number
  | [] => []
  | item :: items => item.numbers ++ itemsNumbers items

/-- The numbers in members. -/
def membersNumbers : List (String × Json) → List Number
  | [] => []
  | (_, value) :: members => value.numbers ++ membersNumbers members

end

/-- All numbers in a value read back. -/
def ReadsBack (v : Json) : Prop := ∀ n ∈ v.numbers, n.ReadsBack

variable {style : Style} {depth : ℕ} {rest : List Char}

/-! ## What ends a number -/

lemma endsNumber_nil : EndsNumber [] := fun _ hc => absurd hc (Option.not_mem_none _)

lemma endsNumber_cons {c : Char} (hc : continuesNumber c = false) : EndsNumber (c :: rest) := by
  rintro _ ⟨⟩
  exact hc

/-- Numbers end at a bracket, which may stand on a line of its own. -/
lemma endsNumber_gap {c : Char} (hc : continuesNumber c = false) :
    EndsNumber (style.gap depth ++ c :: rest) := by
  cases style with
  | compact => exact endsNumber_cons hc
  | indented => exact endsNumber_cons rfl

/-- Numbers end in front of more items. -/
lemma endsNumber_itemsChars (items : List Json) (h : EndsNumber rest) :
    EndsNumber (itemsChars style depth items ++ rest) := by
  cases items with
  | nil => exact h
  | cons item items => exact endsNumber_cons rfl

/-- Numbers end in front of more members. -/
lemma endsNumber_membersChars (members : List (String × Json)) (h : EndsNumber rest) :
    EndsNumber (membersChars style depth members ++ rest) := by
  cases members with
  | nil => exact h
  | cons member members => exact endsNumber_cons rfl

/-! ## The tokens of a text -/

/-- A name is followed by a colon. -/
lemma tokens_afterName (style : Style) (rest : List Char) :
    tokens (style.afterName ++ rest) = .colon :: tokens rest := by
  cases style with
  | compact => exact tokens_cons rfl rest
  | indented =>
    refine (tokens_cons rfl (' ' :: rest)).trans ?_
    exact congrArg (Token.colon :: ·) (tokens_blank rfl rest)

mutual

/-- **The text of a value has the tokens of the value**, in any style and at any depth.

**Proof sketch.** By the structure of the value. What stands between the pieces vanishes
(`tokens_gap`), and numbers end in front of it. -/
theorem tokens_chars (style : Style) (depth : ℕ) (v : Json) {rest : List Char} (h : v.ReadsBack)
    (hrest : EndsNumber rest) :
    tokens (v.chars style depth ++ rest) = v.toTokens ++ tokens rest := by
  match v with
  | .null => exact tokens_cons rfl _
  | .flag true => exact tokens_cons rfl _
  | .flag false => exact tokens_cons rfl _
  | .number n =>
    exact tokens_append_of_number hrest (h n (by simp [numbers]))
  | .text s =>
    rw [chars]
    exact tokens_textChars s rest
  | .list [] =>
    refine (tokens_cons rfl _).trans ?_
    exact congrArg (Token.listOpen :: ·) (tokens_cons rfl rest)
  | .list (item :: items) =>
    have hclose : tokens (style.gap depth ++ ']' :: rest) = .listClose :: tokens rest := by
      rw [tokens_gap]
      exact tokens_cons rfl rest
    have hends : EndsNumber (style.gap depth ++ ']' :: rest) := endsNumber_gap rfl
    have hitem : item.ReadsBack := fun n hn => h n (by simp [numbers, itemsNumbers, hn])
    have hitems : ∀ n ∈ itemsNumbers items, n.ReadsBack :=
      fun n hn => h n (by simp [numbers, itemsNumbers, hn])
    simp only [chars, toTokens, List.cons_append, List.append_assoc, List.nil_append]
    refine (tokens_cons rfl _).trans (congrArg (Token.listOpen :: ·) ?_)
    simp only [scanToken]
    rw [tokens_gap, tokens_chars style (depth + 1) item hitem (endsNumber_itemsChars items hends),
      tokens_itemsChars style (depth + 1) items hitems hends, hclose]
  | .record [] =>
    refine (tokens_cons rfl _).trans ?_
    exact congrArg (Token.recordOpen :: ·) (tokens_cons rfl rest)
  | .record ((name, value) :: members) =>
    have hclose : tokens (style.gap depth ++ '\x7d' :: rest) = .recordClose :: tokens rest := by
      rw [tokens_gap]
      exact tokens_cons rfl rest
    have hends : EndsNumber (style.gap depth ++ '\x7d' :: rest) := endsNumber_gap rfl
    have hvalue : value.ReadsBack := fun n hn => h n (by simp [numbers, membersNumbers, hn])
    have hmembers : ∀ n ∈ membersNumbers members, n.ReadsBack :=
      fun n hn => h n (by simp [numbers, membersNumbers, hn])
    simp only [chars, toTokens, List.cons_append, List.append_assoc, List.nil_append]
    refine (tokens_cons rfl _).trans (congrArg (Token.recordOpen :: ·) ?_)
    simp only [scanToken]
    rw [tokens_gap, tokens_textChars, tokens_afterName,
      tokens_chars style (depth + 1) value hvalue (endsNumber_membersChars members hends),
      tokens_membersChars style (depth + 1) members hmembers hends, hclose]

/-- The same of the items after the first. -/
theorem tokens_itemsChars (style : Style) (depth : ℕ) (items : List Json) {rest : List Char}
    (h : ∀ n ∈ itemsNumbers items, n.ReadsBack) (hrest : EndsNumber rest) :
    tokens (itemsChars style depth items ++ rest) = itemsTokens items ++ tokens rest := by
  match items with
  | [] => rfl
  | item :: items =>
    have hitem : item.ReadsBack := fun n hn => h n (by simp [itemsNumbers, hn])
    have hitems : ∀ n ∈ itemsNumbers items, n.ReadsBack :=
      fun n hn => h n (by simp [itemsNumbers, hn])
    simp only [itemsChars, itemsTokens, List.cons_append, List.append_assoc]
    refine (tokens_cons rfl _).trans (congrArg (Token.comma :: ·) ?_)
    simp only [scanToken]
    rw [tokens_gap, tokens_chars style depth item hitem (endsNumber_itemsChars items hrest),
      tokens_itemsChars style depth items hitems hrest]

/-- The same of the members after the first. -/
theorem tokens_membersChars (style : Style) (depth : ℕ) (members : List (String × Json))
    {rest : List Char} (h : ∀ n ∈ membersNumbers members, n.ReadsBack) (hrest : EndsNumber rest) :
    tokens (membersChars style depth members ++ rest) = membersTokens members ++ tokens rest := by
  match members with
  | [] => rfl
  | (name, value) :: members =>
    have hvalue : value.ReadsBack := fun n hn => h n (by simp [membersNumbers, hn])
    have hmembers : ∀ n ∈ membersNumbers members, n.ReadsBack :=
      fun n hn => h n (by simp [membersNumbers, hn])
    simp only [membersChars, membersTokens, List.cons_append, List.append_assoc]
    refine (tokens_cons rfl _).trans (congrArg (Token.comma :: ·) ?_)
    simp only [scanToken]
    rw [tokens_gap, tokens_textChars, tokens_afterName,
      tokens_chars style depth value hvalue (endsNumber_membersChars members hrest),
      tokens_membersChars style depth members hmembers hrest]

end

/-! ## Texts that spell a value -/

/-- A text spells a value if it has the tokens of the value. -/
def Spells (text : String) (v : Json) : Prop := tokens text.toList = v.toTokens

/-- The text of a value spells it also where it is taken out of a larger one. -/
theorem spells_chars (style : Style) (depth : ℕ) {v : Json} (h : v.ReadsBack) :
    Spells (String.ofList (v.chars style depth)) v := by
  have htokens := tokens_chars style depth v h endsNumber_nil
  rw [List.append_nil, tokens, List.append_nil] at htokens
  rw [Spells, String.toList_ofList, htokens]

/-- **The text of a value spells it**, in any style. -/
theorem spells_write (style : Style) {v : Json} (h : v.ReadsBack) : Spells (write style v) v :=
  spells_chars style 0 h

end Cutscene.Json
