import Mathlib.Data.List.Basic
import Mathlib.Data.Nat.Notation
import Mathlib.Tactic.Lemma
import Cutscene.Script.Loading

set_option relaxedAutoImplicit false
set_option autoImplicit false

/-!
# Names of script files

The script files of a folder are those with the extension `json`, and they are taken in the order of
their names. File systems know names as bytes. Here the extension is what stands behind the last
point, and it is shown that the order of the bytes is the order of the characters that they stand
for, so that it makes no difference by which of the two the names are sorted.

## Main definitions

* `Cutscene.Path.extension?` — what stands behind the last point of a name.
* `Cutscene.Path.bytes` — the bytes of a name.
* `Cutscene.Path.Below` — lists of bytes that differ first in a byte that is less in the one.

## Main results

* `Cutscene.Path.isScript_iff` — script files are those with the extension `json`.
* `Cutscene.Path.bytes_lt_bytes_iff` — names are in the order of their bytes.

## Design

The bytes of two characters differ first at some byte that both have, so that what follows them does
not matter: no character's bytes are the beginning of another's. The first byte of a character tells
how many follow and grows with their number; each byte that follows holds six more bits.
-/

namespace Cutscene.Path

/-! ## Extensions -/

/-- The extension of a name: what stands behind its last point, if anything stands before that. -/
def extension? (name : String) : Option String :=
  let backwards := name.toList.reverse
  match backwards.dropWhile (· != '.') with
  | _ :: _ :: _ => some (String.ofList (backwards.takeWhile (· != '.')).reverse)
  | _ => none

/-- A name with an extension is divided by its last point. -/
lemma extension?_eq_some_iff {name extension : String} :
    extension? name = some extension ↔
      ∃ before, before ≠ [] ∧ name.toList = before ++ '.' :: extension.toList ∧
        '.' ∉ extension.toList := by
  constructor
  · intro h
    unfold extension? at h
    simp only at h
    split at h
    next point last rest hdrop =>
      cases h
      have hpoint : point = '.' := by
        have hhead := List.head?_dropWhile_not (· != '.') name.toList.reverse
        rw [hdrop] at hhead
        simpa using hhead
      have hfree := List.all_takeWhile (p := (· != '.')) (l := name.toList.reverse)
      have hsplit := List.takeWhile_append_dropWhile (p := (· != '.')) (l := name.toList.reverse)
      rw [hdrop, hpoint] at hsplit
      generalize name.toList.reverse.takeWhile (· != '.') = behind at hfree hsplit
      refine ⟨(last :: rest).reverse, by simp, ?_, ?_⟩
      · rw [← List.reverse_reverse name.toList, ← hsplit]
        simp
      · rw [String.toList_ofList, List.mem_reverse]
        intro hmem
        simpa using List.all_eq_true.1 hfree '.' hmem
    next => cases h
  · rintro ⟨before, hbefore, hname, hextension⟩
    have hfree : ∀ c ∈ extension.toList.reverse, (c != '.') = true := by
      intro c hc
      rw [bne_iff_ne]
      rintro rfl
      exact hextension (List.mem_reverse.1 hc)
    have hbackwards : name.toList.reverse =
        extension.toList.reverse ++ '.' :: before.reverse := by
      rw [hname]
      simp
    obtain ⟨last, rest, hrest⟩ := List.exists_cons_of_ne_nil (mt List.reverse_eq_nil_iff.1 hbefore)
    unfold extension?
    simp only [hbackwards, List.dropWhile_append_of_pos hfree, List.takeWhile_append_of_pos hfree,
      hrest]
    simp

/-- **Script files are those with the extension `json`.** -/
theorem isScript_iff {name : String} : isScript name = true ↔ extension? name = some "json" := by
  have hends : name.endsWith ".json" = true ↔ ".json".toList <:+ name.toList := by
    change name.toSlice.endsWith ".json" = true ↔ _
    rw [String.Slice.endsWith_string_iff, String.copy_toSlice]
  rw [isScript, Bool.and_eq_true, hends, bne_iff_ne, extension?_eq_some_iff]
  constructor
  · rintro ⟨⟨before, hname⟩, hlone⟩
    refine ⟨before, ?_, hname.symm, by decide⟩
    rintro rfl
    exact hlone (String.toList_inj.1 hname.symm)
  · rintro ⟨before, hbefore, hname, -⟩
    refine ⟨⟨before, hname.symm⟩, ?_⟩
    rintro rfl
    have hlength := congrArg List.length hname
    have hsome := List.length_pos_of_ne_nil hbefore
    rw [List.length_append] at hlength
    change 5 = before.length + 5 at hlength
    omega

/-! ## Bytes -/

/-- The bytes of a name. -/
def bytes (name : String) : List UInt8 := name.toUTF8.data.toList

lemma bytes_eq (name : String) : bytes name = name.toList.flatMap String.utf8EncodeChar := by
  rw [bytes, String.toUTF8_eq_toByteArray, ← String.utf8Encode_toList, List.utf8Encode,
    List.toList_data_toByteArray]

/-- Bytes differ first in a byte that is less in the one than in the other. -/
inductive Below : List UInt8 → List UInt8 → Prop
  /-- They differ in their first byte. -/
  | head {x y : UInt8} (h : x < y) (s t : List UInt8) : Below (x :: s) (y :: t)
  /-- They differ later. -/
  | tail (x : UInt8) {s t : List UInt8} (h : Below s t) : Below (x :: s) (x :: t)

/-- What follows does not matter. -/
lemma Below.append {s t : List UInt8} (h : Below s t) (s' t' : List UInt8) :
    s ++ s' < t ++ t' := by
  induction h with
  | head h s t => exact List.cons_lt_cons_iff.2 (Or.inl h)
  | tail x _ ih => exact List.cons_lt_cons_iff.2 (Or.inr ⟨rfl, ih⟩)

/-- Two bytes, given by their numbers, and what follows where they are the same. -/
lemma below_cons {m n : ℕ} {s t : List UInt8} (hn : n < 256) (hle : m ≤ n)
    (h : m = n → Below s t) : Below (UInt8.ofNat m :: s) (UInt8.ofNat n :: t) := by
  by_cases heq : m = n
  · subst heq
    exact .tail _ (h rfl)
  · refine .head ?_ s t
    rw [UInt8.lt_iff_toNat_lt, UInt8.toNat_ofNat', UInt8.toNat_ofNat']
    omega

/-- **The bytes of characters are in the order of the characters.**

**Proof sketch.** By how many bytes they have. With more bytes the first one is greater. With as
many, the first that differs is less for the character that is less, as the bytes hold the digits of
its number, the highest first. -/
lemma below_utf8EncodeChar {c d : Char} (h : c < d) :
    Below (String.utf8EncodeChar c) (String.utf8EncodeChar d) := by
  have hlt : c.val.toNat < d.val.toNat := h
  have hd : d.val.toNat < 1114112 := by
    have hvalid := d.valid
    unfold UInt32.isValidChar Nat.isValidChar at hvalid
    omega
  unfold String.utf8EncodeChar
  generalize c.val.toNat = v at hlt
  generalize d.val.toNat = w at hlt hd
  simp only
  split
  · split
    · exact below_cons (by omega) (by omega) (by omega)
    · split
      · exact below_cons (by omega) (by omega) (by omega)
      · split <;> exact below_cons (by omega) (by omega) (by omega)
  · rw [if_neg (show ¬w ≤ 127 by omega)]
    split
    · split
      · refine below_cons (by omega) (by omega) fun _ => ?_
        exact below_cons (by omega) (by omega) (by omega)
      · split <;> exact below_cons (by omega) (by omega) (by omega)
    · rw [if_neg (show ¬w ≤ 2047 by omega)]
      split
      · split
        · refine below_cons (by omega) (by omega) fun _ => ?_
          refine below_cons (by omega) (by omega) fun _ => ?_
          exact below_cons (by omega) (by omega) (by omega)
        · exact below_cons (by omega) (by omega) (by omega)
      · rw [if_neg (show ¬w ≤ 65535 by omega)]
        refine below_cons (by omega) (by omega) fun _ => ?_
        refine below_cons (by omega) (by omega) fun _ => ?_
        refine below_cons (by omega) (by omega) fun _ => ?_
        exact below_cons (by omega) (by omega) (by omega)

lemma flatMap_utf8EncodeChar_lt {cs ds : List Char} (h : cs < ds) :
    cs.flatMap String.utf8EncodeChar < ds.flatMap String.utf8EncodeChar := by
  induction h with
  | nil =>
    rename_i d ds
    obtain ⟨b, bs, hb⟩ := List.exists_cons_of_ne_nil (String.utf8EncodeChar_ne_nil (c := d))
    rw [List.flatMap_cons, hb]
    exact List.nil_lt_cons ..
  | cons _ ih =>
    rw [List.flatMap_cons, List.flatMap_cons]
    exact List.append_left_lt ih
  | rel hlt =>
    rw [List.flatMap_cons, List.flatMap_cons]
    exact (below_utf8EncodeChar hlt).append _ _

/-- **Names are in the order of their bytes.** -/
theorem bytes_lt_bytes_iff {f g : String} : bytes f < bytes g ↔ f < g := by
  have hforward : ∀ {f g : String}, f < g → bytes f < bytes g := by
    intro f g h
    rw [bytes_eq, bytes_eq]
    exact flatMap_utf8EncodeChar_lt h
  refine ⟨fun h => ?_, hforward⟩
  rcases Classical.em (f < g) with hlt | hge
  · exact hlt
  · rcases Classical.em (g < f) with hgt | hle
    · exact absurd (hforward hgt) (List.lt_asymm h)
    · rw [String.le_antisymm hle hge] at h
      exact absurd h (List.lt_irrefl _)

end Cutscene.Path
