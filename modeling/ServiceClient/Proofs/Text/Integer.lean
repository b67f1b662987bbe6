/-
**Decimal texts of numbers.**

A number that is written in decimal consists of ASCII digits, so no blank, sign, point or underscore
stands in the way of reading it: what is read is the number that was written.  Only the number of
its digits is limited.

Main results:

* `ServiceClient.Text.digits?_of_isDigit`: ASCII digits are read one by one;
* `ServiceClient.Text.number_digits`: their values write the number that they write;
* `ServiceClient.Text.strictInteger_toString`: **the decimal text of a number is read as the
  number**.
-/

import ServiceClient.Text.Integer
import Mathlib.Data.List.TakeDrop
import Mathlib.Data.List.TakeWhile

set_option autoImplicit false

namespace ServiceClient.Text

variable {c : Char} {cs : List Char}

/-! ### Single digits -/

theorem asciiDigit?_of_isDigit (h : c.isDigit = true) : asciiDigit? c = some (c.toNat - 48) := by
  simp only [Char.isDigit, Bool.and_eq_true, decide_eq_true_eq] at h
  exact if_pos h

/-- A digit lies between the digits of its code points. -/
theorem toNat_of_isDigit (h : c.isDigit = true) : 48 ≤ c.toNat ∧ c.toNat ≤ 57 := by
  simp only [Char.isDigit, Bool.and_eq_true, decide_eq_true_eq] at h
  exact h

theorem ne_of_isDigit {d : Char} (h : c.isDigit = true) (hd : d.isDigit = false) : c ≠ d := by
  rintro rfl
  rw [h] at hd
  cases hd

/-- No digit is white space. -/
theorem isWhiteSpace_of_isDigit (h : c.isDigit = true) : isWhiteSpace c = false := by
  obtain ⟨hlow, hhigh⟩ := toNat_of_isDigit h
  simp [isWhiteSpace, whiteSpace]
  omega

/-! ### Lists of digits -/

/-- What has no mark is one part. -/
theorem splitAt_of_forall {isMark : Char → Bool} (h : ∀ c ∈ cs, isMark c = false) :
    splitAt isMark cs = [cs] := by
  induction cs with
  | nil => rfl
  | cons c rest ih =>
      rw [splitAt, if_neg (Bool.eq_false_iff.mp (h c (.head _))), ih fun d hd => h d (.tail _ hd)]

theorem mapM_some {α β : Type} {f : α → Option β} {k : α → β} {xs : List α}
    (h : ∀ x ∈ xs, f x = some (k x)) : xs.mapM f = some (xs.map k) := by
  induction xs with
  | nil => rfl
  | cons x rest ih =>
      simp [List.mapM_cons, h x (.head _), ih fun y hy => h y (.tail _ hy)]

/-- ASCII digits are read one by one. -/
theorem digits?_of_isDigit (hne : cs ≠ []) (h : ∀ c ∈ cs, c.isDigit = true) :
    digits? asciiDigit? cs = some (cs.map fun c => c.toNat - 48) := by
  have hsplit : splitAt (· == '_') cs = [cs] := splitAt_of_forall fun c hc =>
    beq_eq_false_iff_ne.mpr (ne_of_isDigit (h c hc) (by decide))
  have hrun : cs.isEmpty = false := by simpa using hne
  simp only [digits?, hsplit, List.all_cons, List.all_nil, hrun, List.flatten_cons,
    List.flatten_nil, List.append_nil, Bool.not_false, Bool.and_true, if_true]
  exact mapM_some fun c hc => asciiDigit?_of_isDigit (h c hc)

/-- The values of digits write the number that the digits write. -/
theorem number_digits (cs : List Char) :
    number 10 (cs.map fun c => c.toNat - 48) = Nat.ofDigitChars 10 cs 0 := by
  rw [number, Nat.ofDigitChars_eq_foldl, List.foldl_map]
  congr 1
  funext n c
  rw [Nat.mul_comm]
  rfl

/-! ### What stands around a number -/

/-- Nothing is taken off where both ends are to stay. -/
theorem trimList_of_ends {p : Char → Bool} (hhead : ∀ c, cs.head? = some c → p c = false)
    (hlast : ∀ c, cs.getLast? = some c → p c = false) : trimList p cs = cs := by
  have hdrop {ds : List Char} (hds : ∀ c, ds.head? = some c → p c = false) :
      ds.dropWhile p = ds := by
    cases ds with
    | nil => rfl
    | cons d rest => rw [List.dropWhile_cons_of_neg (Bool.eq_false_iff.mp (hds d rfl))]
  have hback : ∀ c, cs.reverse.head? = some c → p c = false := by
    rwa [List.head?_reverse]
  rw [trimList, hdrop hhead, hdrop hback, List.reverse_reverse]

theorem trimList_of_forall {p : Char → Bool} (h : ∀ c ∈ cs, p c = false) : trimList p cs = cs :=
  trimList_of_ends (fun c hc => h c (List.mem_of_head? hc))
    fun c hc => h c (List.mem_of_getLast? hc)

theorem takeSign_of_isDigit (h : ∀ c ∈ cs, c.isDigit = true) : takeSign cs = (false, cs) := by
  unfold takeSign
  split
  · exact absurd (h '-' (.head _)) (by decide)
  · exact absurd (h '+' (.head _)) (by decide)
  · rfl

theorem dropZeroFraction_of_isDigit (h : ∀ c ∈ cs, c.isDigit = true) :
    dropZeroFraction cs = cs := by
  have hspan : cs.span (· != '.') = (cs, []) := by
    rw [List.span_eq_takeWhile_dropWhile]
    have hall : ∀ c ∈ cs, (c != '.') = true := fun c hc =>
      bne_iff_ne.mpr (ne_of_isDigit (h c hc) (by decide))
    rw [List.takeWhile_eq_self_iff.mpr hall, List.dropWhile_eq_nil_iff.mpr hall]
  rw [dropZeroFraction, hspan]

/-! ### Decimal texts -/

theorem isDigit_of_mem_toString {n : Nat} (h : c ∈ (toString n).toList) : c.isDigit = true := by
  rw [show (toString n).toList = Nat.toDigits 10 n from Nat.toList_repr] at h
  exact Nat.isDigit_of_mem_toDigits (by decide) (by decide) h

/-- The digits of the decimal text of a number write the number. -/
theorem number_toString (n : Nat) :
    number 10 ((toString n).toList.map fun c => c.toNat - 48) = n := by
  have htext : (toString n).toList = Nat.toDigits 10 n := Nat.toList_repr
  rw [number_digits, htext, Nat.ofDigitChars_ten_toDigits]

theorem toList_toString_ne_nil (n : Nat) : (toString n).toList ≠ [] := by
  have htext : (toString n).toList = Nat.toDigits 10 n := Nat.toList_repr
  exact htext ▸ Nat.toDigits_ne_nil

/-- **The decimal text of a number is read as the number**, up to the limit of digits. -/
theorem strictInteger_toString {n : Nat} (h : (toString n).length ≤ digitLimit) :
    strictInteger (toString n).toList = .integer n := by
  have hdigit : ∀ c ∈ (toString n).toList, c.isDigit = true := fun _ => isDigit_of_mem_toString
  have hlength : (toString n).toList.length ≤ digitLimit := by rwa [String.length_toList]
  rw [strictInteger, trimList_of_forall fun c hc => isWhiteSpace_of_isDigit (hdigit c hc),
    takeSign_of_isDigit hdigit]
  simp only [dropZeroFraction_of_isDigit hdigit,
    digits?_of_isDigit (toList_toString_ne_nil n) hdigit, List.length_map, hlength, if_true, signed,
    number_toString]
  rfl

/-- Something is shown by the decimal text of a number. -/
theorem allBlank_toString (n : Nat) : allBlank (toString n) = false := by
  have htext : (toString n).toList = Nat.toDigits 10 n := Nat.toList_repr
  obtain ⟨c, rest, hcons⟩ := List.exists_cons_of_ne_nil (Nat.toDigits_ne_nil (n := n) (b := 10))
  have hdigit : c.isDigit = true := isDigit_of_mem_toString (n := n) (by simp [hcons])
  obtain ⟨hlow, hhigh⟩ := toNat_of_isDigit hdigit
  have hshown : isBlank c = false := by
    simp only [isBlank, isWhiteSpace_of_isDigit hdigit, Bool.false_or]
    simp
    omega
  rw [allBlank, htext, hcons, List.all_cons, hshown, Bool.false_and]

end ServiceClient.Text
