set_option relaxedAutoImplicit false
set_option autoImplicit false

/-!
# Line breaks in text that is laid out as a line

A line has no place for a line break, which is a line feed, with a carriage return before it or
without. A text that is laid out as a line loses its line breaks.

## Main definitions

* `Cutscene.Text.withoutBreaks` — a text without its line breaks.

## Main results

* `Cutscene.Text.lineFeed_notMem_withoutBreaks` — no line feed is left.
* `Cutscene.Text.withoutBreaks_of_notMem` — a text without a line feed loses nothing.
-/

namespace Cutscene.Text

/-- A text without its line breaks: its line feeds, each with a carriage return that stands right
before it. -/
def withoutBreaks : List Char → List Char
  | [] => []
  | '\r' :: '\n' :: cs => withoutBreaks cs
  | c :: cs => if c = '\n' then withoutBreaks cs else c :: withoutBreaks cs

theorem lineFeed_notMem_withoutBreaks (cs : List Char) : '\n' ∉ withoutBreaks cs := by
  fun_induction withoutBreaks cs with
  | case1 => simp
  | case2 cs ih => exact ih
  | case3 cs _ ih => exact ih
  | case4 c cs _ hc ih => simpa [Ne.symm hc] using ih

theorem withoutBreaks_of_notMem {cs : List Char} (h : '\n' ∉ cs) : withoutBreaks cs = cs := by
  fun_induction withoutBreaks cs with
  | case1 => rfl
  | case2 cs _ => simp at h
  | case3 cs _ _ => simp at h
  | case4 c cs _ _ ih => rw [ih fun m => h (List.mem_cons_of_mem c m)]

example : withoutBreaks "a\r\nb\rc\n\rd\n".toList = "ab\rc\rd".toList := by decide +kernel

end Cutscene.Text
