/-
**The two readings of integers.**

The free and the strict reading differ in the blanks that they take off, in the digits that they
know and in the point and zeros that may follow.  Where both find an integer in a text none of that
matters: the strict reading has seen ASCII digits and underscores only, and nothing else can be read
freely after the same sign.  So both find the same integer.  In particular both find the number that
a decimal text writes.

Main results:

* `ServiceClient.Text.trimList_trimList`: a second trimming by more characters is the only one that
  counts;
* `ServiceClient.Text.trimList_of_strictInteger`: what the strict reading leaves has no blank;
* `ServiceClient.Text.freeInteger?_toString`: the decimal text of a number is read freely as the
  number;
* `ServiceClient.Text.eq_of_both_readings`: **where both readings find an integer, it is the same**.
-/

import ServiceClient.Proofs.Text.Integer
import Mathlib.Data.List.Forall2

set_option autoImplicit false

namespace ServiceClient.Text

variable {p q : Char → Bool} {cs : List Char}

/-! ### Trimming -/

/-- What stands at the ends is taken off. -/
theorem trimList_append {l m r : List Char} (hl : ∀ c ∈ l, p c = true)
    (hr : ∀ c ∈ r, p c = true) : trimList p (l ++ m ++ r) = trimList p m := by
  have hreverse : ∀ c ∈ r.reverse, p c = true := fun c hc => hr c (List.mem_reverse.mp hc)
  rw [trimList, List.append_assoc, List.dropWhile_append_of_pos hl, List.dropWhile_append]
  cases hempty : (m.dropWhile p).isEmpty with
  | true =>
      rw [List.isEmpty_iff] at hempty
      rw [trimList, hempty, if_pos rfl, List.dropWhile_eq_nil_iff.mpr hr]
  | false =>
      rw [trimList, if_neg Bool.false_ne_true, List.reverse_append,
        List.dropWhile_append_of_pos hreverse]

/-- What is taken off stands at the ends. -/
theorem exists_trimList (p : Char → Bool) (cs : List Char) :
    ∃ l r, cs = l ++ trimList p cs ++ r ∧ (∀ c ∈ l, p c = true) ∧ ∀ c ∈ r, p c = true := by
  have hfront : cs = cs.takeWhile p ++ cs.dropWhile p := List.takeWhile_append_dropWhile.symm
  have hback : (cs.dropWhile p).reverse = (cs.dropWhile p).reverse.takeWhile p ++
      (cs.dropWhile p).reverse.dropWhile p := List.takeWhile_append_dropWhile.symm
  refine ⟨cs.takeWhile p, ((cs.dropWhile p).reverse.takeWhile p).reverse, ?_,
    fun c hc => List.mem_takeWhile_imp hc,
    fun c hc => List.mem_takeWhile_imp (List.mem_reverse.mp hc)⟩
  rw [trimList, List.append_assoc, ← List.reverse_append, ← hback, List.reverse_reverse]
  exact hfront

/-- A second trimming by more characters is the only one that counts. -/
theorem trimList_trimList (h : ∀ c, p c = true → q c = true) (cs : List Char) :
    trimList q (trimList p cs) = trimList q cs := by
  obtain ⟨l, r, hcs, hl, hr⟩ := exists_trimList p cs
  conv_rhs => rw [hcs]
  exact (trimList_append (fun c hc => h c (hl c hc)) fun c hc => h c (hr c hc)).symm

theorem trim_trim (p : Char → Bool) (s : String) : trim p (trim p s) = trim p s := by
  rw [trim, trim, String.toList_ofList, trimList_trimList (fun _ => id)]

/-- Nothing is left of what consists of the characters that are taken off. -/
theorem trimList_eq_nil_iff : trimList p cs = [] ↔ ∀ c ∈ cs, p c = true := by
  constructor
  · intro h c hc
    obtain ⟨l, r, hcs, hl, hr⟩ := exists_trimList p cs
    rw [h, List.append_nil] at hcs
    rw [hcs] at hc
    exact (List.mem_append.mp hc).elim (hl c) (hr c)
  · intro h
    have hall : trimList p (cs ++ [] ++ []) = trimList p [] := trimList_append h nofun
    simpa [trimList] using hall

/-! ### Digits -/

theorem isDigit_of_asciiDigit? {c : Char} {d : Nat} (h : asciiDigit? c = some d) :
    c.isDigit = true := by
  rw [asciiDigit?] at h
  split at h
  · rename_i hdigit
    simp only [Char.isDigit, Bool.and_eq_true, decide_eq_true_eq]
    exact hdigit
  · cases h

/-- An ASCII digit is worth as much as a digit of any script. -/
theorem digitValue?_of_asciiDigit? {c : Char} {d : Nat} (h : asciiDigit? c = some d) :
    digitValue? c = some d := by
  have hdigit := isDigit_of_asciiDigit? h
  obtain ⟨hlow, hhigh⟩ := toNat_of_isDigit hdigit
  have hfirst : zeros.find? (fun z => z ≤ c.toNat && c.toNat < z + 10) = some 48 := by
    rw [zeros, List.find?_cons_of_pos]
    simp only [Bool.and_eq_true, decide_eq_true_eq]
    omega
  rw [digitValue?, hfirst, ← h, asciiDigit?_of_isDigit hdigit]
  rfl

/-- What is read is a mark, or stands in one of the parts. -/
theorem mem_splitAt (p : Char → Bool) {c : Char} (hc : c ∈ cs) :
    p c = true ∨ c ∈ (splitAt p cs).flatten := by
  induction cs with
  | nil => cases hc
  | cons b rest ih =>
      rw [splitAt]
      by_cases hb : p b = true
      · rw [if_pos hb]
        rcases List.mem_cons.mp hc with rfl | hrest
        · exact .inl hb
        · exact (ih hrest).imp_right fun h => by simpa using h
      · rw [if_neg hb]
        cases hsplit : splitAt p rest with
        | nil =>
            rw [hsplit] at ih
            rcases List.mem_cons.mp hc with rfl | hrest
            · exact .inr (by simp)
            · rcases ih hrest with hmark | hmem
              · exact .inl hmark
              · cases hmem
        | cons part parts =>
            rw [hsplit] at ih
            rcases List.mem_cons.mp hc with rfl | hrest
            · exact .inr (by simp)
            · refine (ih hrest).imp_right fun h => ?_
              simp only [List.flatten_cons, List.cons_append, List.mem_cons]
              exact .inr h

section Digits

variable {f g : Char → Option Nat} {ds : List Nat}

/-- A list is read if its elements are, one by one. -/
theorem mapM_eq_some_iff {α β : Type} {f : α → Option β} {xs : List α} {ys : List β} :
    xs.mapM f = some ys ↔ List.Forall₂ (fun x y => f x = some y) xs ys := by
  induction xs generalizing ys with
  | nil =>
      rw [List.forall₂_nil_left_iff]
      exact ⟨fun h => (Option.some.inj h).symm, fun h => h ▸ rfl⟩
  | cons x rest ih =>
      rw [List.mapM_cons, List.forall₂_cons_left_iff]
      constructor
      · intro h
        cases hx : f x with
        | none =>
            rw [hx] at h
            cases h
        | some y =>
            cases hrest : rest.mapM f with
            | none =>
                rw [hx, hrest] at h
                cases h
            | some zs =>
                rw [hx, hrest] at h
                cases h
                exact ⟨y, zs, rfl, ih.mp hrest, rfl⟩
      · rintro ⟨y, zs, hx, hrest, rfl⟩
        rw [hx, ih.mpr hrest]
        rfl

/-- Digits that more scripts know are worth the same. -/
theorem digits?_of_imp (h : ∀ c d, f c = some d → g c = some d) (hf : digits? f cs = some ds) :
    digits? g cs = some ds := by
  rw [digits?] at hf ⊢
  split at hf
  · rename_i hruns
    rw [if_pos hruns]
    exact mapM_eq_some_iff.mpr ((mapM_eq_some_iff.mp hf).imp h)
  · cases hf

/-- Only underscores and digits are read as digits. -/
theorem mem_of_digits? (h : digits? f cs = some ds) : ∀ c ∈ cs, c = '_' ∨ ∃ d, f c = some d := by
  intro c hc
  rw [digits?] at h
  split at h
  · rcases mem_splitAt (· == '_') hc with hmark | hmem
    · exact .inl (beq_iff_eq.mp hmark)
    · have hread := (mapM_eq_some_iff.mp h).imp fun c d hd => And.intro (Exists.intro d hd) hd
      exact .inr ((List.forall₂_and_left _ _).mp hread |>.1 c hmem)
  · cases h

end Digits

/-! ### Numbers -/

/-- A number has no more digits than the exponent of a power of ten above it says. -/
theorem length_toString_le_iff {n limit : Nat} (hpos : 0 < limit) :
    (toString n).length ≤ limit ↔ n < Nat.pow 10 limit :=
  Nat.length_repr_le_iff hpos

/-- No digit is blank. -/
theorem isBlank_of_isDigit {c : Char} (h : c.isDigit = true) : isBlank c = false := by
  obtain ⟨hlow, hhigh⟩ := toNat_of_isDigit h
  simp only [isBlank, isWhiteSpace_of_isDigit h, Bool.false_or]
  simp
  omega

/-- The decimal text of a number is read freely as the number, up to the limit of digits. -/
theorem freeInteger?_toString {n : Nat} (h : (toString n).length ≤ digitLimit) :
    freeInteger? (toString n).toList = some (n : Int) := by
  have hdigit : ∀ c ∈ (toString n).toList, c.isDigit = true := fun _ => isDigit_of_mem_toString
  have hlength : (toString n).toList.length ≤ digitLimit := by rwa [String.length_toList]
  have hread := digits?_of_imp (fun c d => digitValue?_of_asciiDigit?)
    (digits?_of_isDigit (toList_toString_ne_nil n) hdigit)
  rw [freeInteger?, trimList_of_forall fun c hc => isBlank_of_isDigit (hdigit c hc),
    takeSign_of_isDigit hdigit]
  simp only [hread, List.length_map, hlength, if_true, signed, number_toString]
  rfl

/-- A text without its fraction is the text, or a point and zeros were taken off. -/
theorem dropZeroFraction_cases (cs : List Char) :
    dropZeroFraction cs = cs ∨
      ∃ zeros, cs = dropZeroFraction cs ++ '.' :: zeros ∧ ∀ c ∈ zeros, c = '0' := by
  rw [dropZeroFraction]
  split
  · rename_i whole zeros hspan
    split
    · rename_i hzeros
      rw [List.span_eq_takeWhile_dropWhile, Prod.mk.injEq] at hspan
      simp only [Bool.and_eq_true, List.all_eq_true, beq_iff_eq] at hzeros
      refine .inr ⟨zeros, ?_, hzeros.2⟩
      rw [← hspan.1, ← hspan.2, List.takeWhile_append_dropWhile]
    · exact .inl rfl
  · exact .inl rfl

/-- A sign is a plus or a minus in front, or there is none. -/
theorem takeSign_cases (cs : List Char) :
    (takeSign cs).2 = cs ∨ ∃ c, (c = '-' ∨ c = '+') ∧ cs = c :: (takeSign cs).2 := by
  unfold takeSign
  split
  · exact .inr ⟨_, .inl rfl, rfl⟩
  · exact .inr ⟨_, .inr rfl, rfl⟩
  · exact .inl rfl

/-- What the strict reading takes for a number: ASCII digits after a sign. -/
theorem digits_of_strictInteger {n : Int} (h : strictInteger cs = .integer n) :
    ∃ ds, digits? asciiDigit? (dropZeroFraction (takeSign (trimList isWhiteSpace cs)).2) = some ds ∧
      n = signed (takeSign (trimList isWhiteSpace cs)).1 ds := by
  rw [strictInteger] at h
  cases hds : digits? asciiDigit? (dropZeroFraction (takeSign (trimList isWhiteSpace cs)).2) with
  | none =>
      simp only [hds] at h
      cases h
  | some ds =>
      simp only [hds] at h
      split at h
      · cases h
        exact ⟨ds, rfl, rfl⟩
      · cases h

/-- What the free reading takes for a number: digits after a sign. -/
theorem digits_of_freeInteger? {n : Int} (h : freeInteger? cs = some n) :
    ∃ ds, digits? digitValue? (takeSign (trimList isBlank cs)).2 = some ds ∧
      n = signed (takeSign (trimList isBlank cs)).1 ds := by
  rw [freeInteger?] at h
  cases hds : digits? digitValue? (takeSign (trimList isBlank cs)).2 with
  | none =>
      simp only [hds] at h
      cases h
  | some ds =>
      simp only [hds] at h
      split at h
      · cases h
        exact ⟨ds, rfl, rfl⟩
      · cases h

/-- Nothing is blank in a number that is read strictly, once white space is off. -/
theorem isBlank_of_strictInteger {n : Int} (h : strictInteger cs = .integer n) :
    ∀ c ∈ trimList isWhiteSpace cs, isBlank c = false := by
  obtain ⟨ds, hds, -⟩ := digits_of_strictInteger h
  generalize trimList isWhiteSpace cs = body at hds
  have hwhole : ∀ c ∈ dropZeroFraction (takeSign body).2, isBlank c = false := by
    intro c hc
    rcases mem_of_digits? hds c hc with rfl | ⟨d, hd⟩
    · decide
    · exact isBlank_of_isDigit (isDigit_of_asciiDigit? hd)
  have hunsigned : ∀ c ∈ (takeSign body).2, isBlank c = false := by
    rcases dropZeroFraction_cases (takeSign body).2 with hsame | ⟨zeros, hbody, hzeros⟩
    · rwa [hsame] at hwhole
    · intro c hc
      rw [hbody, List.mem_append, List.mem_cons] at hc
      rcases hc with hc | rfl | hc
      · exact hwhole c hc
      · decide
      · rw [hzeros c hc]
        decide
  rcases takeSign_cases body with hsame | ⟨sign, hsign, hbody⟩
  · rwa [hsame] at hunsigned
  · intro c hc
    rw [hbody, List.mem_cons] at hc
    rcases hc with rfl | hc
    · rcases hsign with rfl | rfl <;> decide
    · exact hunsigned c hc

/-- Where white space is off a number that is read strictly, no blank is left. -/
theorem trimList_of_strictInteger {n : Int} (h : strictInteger cs = .integer n) :
    trimList isBlank cs = trimList isWhiteSpace cs ∧ trimList isBlank cs ≠ [] := by
  have htrim : trimList isBlank cs = trimList isWhiteSpace cs := by
    rw [← trimList_trimList (fun c => isBlank_of_isWhiteSpace) cs,
      trimList_of_forall (isBlank_of_strictInteger h)]
  refine ⟨htrim, fun hnil => ?_⟩
  obtain ⟨ds, hds, -⟩ := digits_of_strictInteger h
  rw [← htrim, hnil] at hds
  cases hds

/-- The free reading takes blanks off by itself. -/
theorem freeInteger?_trimList (cs : List Char) :
    freeInteger? (trimList isBlank cs) = freeInteger? cs := by
  rw [freeInteger?, trimList_trimList (fun _ => id), freeInteger?]

/-- **Where both readings find an integer, it is the same.** -/
theorem eq_of_both_readings {n m : Int} (hstrict : strictInteger cs = .integer n)
    (hfree : freeInteger? cs = some m) : m = n := by
  obtain ⟨htrim, -⟩ := trimList_of_strictInteger hstrict
  obtain ⟨ds, hds, rfl⟩ := digits_of_strictInteger hstrict
  obtain ⟨ds', hds', rfl⟩ := digits_of_freeInteger? hfree
  rw [htrim] at hds' ⊢
  have hbody : dropZeroFraction (takeSign (trimList isWhiteSpace cs)).2 =
      (takeSign (trimList isWhiteSpace cs)).2 := by
    rcases dropZeroFraction_cases (takeSign (trimList isWhiteSpace cs)).2 with
      hsame | ⟨zeros, hpoint, -⟩
    · exact hsame
    · -- a point is no digit of any script
      have hmem : '.' ∈ (takeSign (trimList isWhiteSpace cs)).2 := by
        rw [hpoint]
        simp
      rcases mem_of_digits? hds' '.' hmem with hmark | ⟨d, hd⟩
      · exact absurd hmark (by decide)
      · have hnone : digitValue? '.' = none := by decide
        rw [hnone] at hd
        cases hd
  rw [hbody] at hds
  have hmore := digits?_of_imp (fun c d => digitValue?_of_asciiDigit?) hds
  rw [hmore] at hds'
  rw [Option.some.inj hds']

end ServiceClient.Text
