/-
**Upper-case text stays as it is.**

Putting a text in upper case once is enough: a character becomes one or several, and none of these
is changed again.  For ASCII that is plain; elsewhere it says that the tables never lead to a letter
that they start from.  The letters of either side are more than a thousand, so they are not compared
one by one.  Each side is written as one number with a bit for each letter, and the two numbers have
no bit in common.

Main definitions:

* `ServiceClient.Text.bits`: code points as the bits of a number;
* `ServiceClient.Text.sources`, `ServiceClient.Text.images`: where the tables start, and where they
  lead.

Main results:

* `ServiceClient.Text.notMem_sources`: the tables never lead to a letter that they start from;
* `ServiceClient.Text.upper_upper`: **a text in upper case stays as it is**.
-/

import ServiceClient.Text.UpperCase

set_option autoImplicit false

namespace ServiceClient.Text

/-! ### Sets of code points -/

/-- Code points as the bits of a number. -/
def bits (ns : List Nat) : Nat :=
  ns.foldr (fun n m => m ||| 1 <<< n) 0

theorem testBit_bits {ns : List Nat} {n : Nat} : (bits ns).testBit n = true ↔ n ∈ ns := by
  induction ns with
  | nil => simp [bits]
  | cons m ns ih =>
      have hcons : bits (m :: ns) = bits ns ||| 1 <<< m := rfl
      rw [hcons, Nat.testBit_or, Nat.one_shiftLeft, Nat.testBit_two_pow, Bool.or_eq_true, ih,
        decide_eq_true_iff, List.mem_cons, or_comm, eq_comm]

/-- Numbers without a common bit come from lists without a common member. -/
theorem notMem_of_bits {ms ns : List Nat} (h : bits ms &&& bits ns = 0) {n : Nat} (hn : n ∈ ns) :
    n ∉ ms := by
  intro hm
  have hboth : (bits ms &&& bits ns).testBit n = true := by
    rw [Nat.testBit_and, testBit_bits.mpr hm, testBit_bits.mpr hn, Bool.and_self]
  rw [h, Nat.zero_testBit] at hboth
  cases hboth

/-! ### The tables -/

def runLetters : CaseRun → List Nat
  | (lo, hi, stride, _) => (List.range ((hi - lo) / stride + 1)).map fun k => lo + k * stride

def runImages (run : CaseRun) : List Nat :=
  (runLetters run).map fun (n : Nat) => ((n : Int) + run.2.2.2).toNat

/-- The letters that are changed. -/
def sources : List Nat :=
  upperRuns.flatMap runLetters ++ upperLong.map (·.1)

/-- What they become. -/
def images : List Nat :=
  upperRuns.flatMap runImages ++ upperLong.flatMap (·.2)

/-- **The tables never lead to a letter that they start from.** -/
theorem notMem_sources {n : Nat} (h : n ∈ images) : n ∉ sources :=
  notMem_of_bits (by decide +kernel) h

/-- A letter that is found in a run is one of its letters. -/
theorem mem_runLetters {lo hi stride n : Nat} {shift : Int} (hlo : lo ≤ n) (hhi : n ≤ hi)
    (hstride : (n - lo) % stride = 0) : n ∈ runLetters (lo, hi, stride, shift) := by
  refine List.mem_map.mpr ⟨(n - lo) / stride, List.mem_range.mpr ?_, ?_⟩
  · exact Nat.lt_succ_of_le (Nat.div_le_div_right (by omega))
  · rw [Nat.div_mul_cancel (Nat.dvd_of_mod_eq_zero hstride)]
    omega

/-- A letter is shifted along its run, or stays because it is in none. -/
theorem shiftCase_cases (n : Nat) :
    (∃ run ∈ upperRuns, n ∈ runLetters run ∧ shiftCase upperRuns n ∈ runImages run) ∨
      shiftCase upperRuns n = n := by
  unfold shiftCase
  split
  · rename_i lo hi stride shift hfind
    have hrange := List.find?_some hfind
    simp only [Bool.and_eq_true, decide_eq_true_eq, beq_iff_eq] at hrange
    have hletter : n ∈ runLetters (lo, hi, stride, shift) :=
      mem_runLetters hrange.1.1 hrange.1.2 hrange.2
    exact .inl ⟨_, List.mem_of_find?_eq_some hfind, hletter, List.mem_map.mpr ⟨n, hletter, rfl⟩⟩
  · exact .inr rfl

/-! ### Characters -/

/-- Upper-case ASCII stays as it is. -/
theorem upperChar_toUpper {c : Char} (h : c.toNat < 128) : upperChar c.toUpper = [c.toUpper] := by
  have hall : ∀ n < 128, upperChar (Char.ofNat n).toUpper = [(Char.ofNat n).toUpper] := by
    decide +kernel
  have hone := hall c.toNat h
  rwa [Char.ofNat_toNat] at hone

/-- Beyond ASCII, what is in no table stays as it is. -/
theorem upperChar_of_notMem {c : Char} (hascii : ¬ c.toNat < 128) (h : c.toNat ∉ sources) :
    upperChar c = [c] := by
  rw [sources, List.mem_append, not_or] at h
  have hlong : upperLong.lookup c.toNat = none := by
    refine List.lookup_eq_none_iff.mpr fun e he => bne_iff_ne.mpr fun heq => h.2 ?_
    exact List.mem_map.mpr ⟨e, he, heq.symm⟩
  rw [upperChar, if_neg hascii, hlong]
  rcases shiftCase_cases c.toNat with ⟨run, hrun, hletter, -⟩ | hstays
  · exact absurd (List.mem_flatMap.mpr ⟨run, hrun, hletter⟩) h.1
  · simp only [hstays, Char.ofNat_toNat]

/-- The tables lead to code points of characters. -/
theorem toNat_ofNat_image : ∀ n ∈ images, (Char.ofNat n).toNat = n := by
  decide +kernel

/-- A few letters lead into ASCII, and to capital letters there. -/
theorem upperChar_image_ascii :
    ∀ n ∈ images, n < 128 → upperChar (Char.ofNat n) = [Char.ofNat n] := by
  decide +kernel

/-- What the tables lead to is not changed again. -/
theorem upperChar_image {n : Nat} (h : n ∈ images) :
    upperChar (Char.ofNat n) = [Char.ofNat n] := by
  have hn := toNat_ofNat_image n h
  by_cases hascii : n < 128
  · exact upperChar_image_ascii n h hascii
  · exact upperChar_of_notMem (by rwa [hn]) (by rw [hn]; exact notMem_sources h)

/-- **What a character becomes is not changed again.** -/
theorem upperChar_of_mem {c d : Char} (h : d ∈ upperChar c) : upperChar d = [d] := by
  unfold upperChar at h
  split at h
  · rename_i hascii
    obtain rfl := List.mem_singleton.mp h
    exact upperChar_toUpper hascii
  · rename_i hascii
    split at h
    · rename_i image hlookup
      obtain ⟨n, hn, rfl⟩ := List.mem_map.mp h
      obtain ⟨front, back, hsplit, -⟩ := List.lookup_eq_some_iff.mp hlookup
      have hentry : (c.toNat, image) ∈ upperLong := by
        rw [hsplit]
        exact List.mem_append_right _ (.head _)
      exact upperChar_image (List.mem_append_right _ (List.mem_flatMap.mpr ⟨_, hentry, hn⟩))
    · rename_i hlookup
      obtain rfl := List.mem_singleton.mp h
      rcases shiftCase_cases c.toNat with ⟨run, hrun, -, himage⟩ | hstays
      · exact upperChar_image (List.mem_append_left _ (List.mem_flatMap.mpr ⟨run, hrun, himage⟩))
      · rw [hstays, Char.ofNat_toNat, upperChar, if_neg hascii, hlookup]
        simp only [hstays, Char.ofNat_toNat]

/-! ### Texts -/

theorem flatMap_upperChar {cs : List Char} (h : ∀ c ∈ cs, upperChar c = [c]) :
    cs.flatMap upperChar = cs := by
  induction cs with
  | nil => rfl
  | cons c cs ih =>
      rw [List.flatMap_cons, h c (.head _), ih fun d hd => h d (.tail _ hd)]
      rfl

/-- **A text in upper case stays as it is.** -/
theorem upper_upper (s : String) : upper (upper s) = upper s := by
  rw [upper, upper, String.toList_ofList, flatMap_upperChar]
  intro d hd
  obtain ⟨c, -, hmem⟩ := List.mem_flatMap.mp hd
  exact upperChar_of_mem hmem

end ServiceClient.Text
