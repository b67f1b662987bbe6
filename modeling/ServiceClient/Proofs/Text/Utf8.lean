/-
**Reading what was encoded.**

The bytes of a character lead the reader from between characters to between characters, and the
character is all that it shows.  The first of them says how many are to follow; the interval in
which the second one must lie leaves out just what no character has, over-long forms and halves of
surrogate pairs.  So characters that are encoded are read as they were.

Main results:

* `ServiceClient.Text.Utf8.step_tail`: a byte that goes on with a character;
* `ServiceClient.Text.Utf8.run_utf8EncodeChar`: **the bytes of a character are read as the
  character**;
* `ServiceClient.Text.decode_encodeChars`: **characters that are encoded are read as they were**.
-/

import ServiceClient.Text.Encoding

set_option autoImplicit false

namespace ServiceClient.Text

namespace Utf8

/-! ### Single bytes -/

theorem start_one : ∀ n < 128, start (UInt8.ofNat n) = ([Char.ofNat n], .idle) := by
  decide

/-- The first of two bytes; the two least values have over-long forms only. -/
theorem start_two : ∀ n < 32, 2 ≤ n →
    start (UInt8.ofNat (n + 0xC0)) = ([], .owing 0 0x80 0xBF n) := by
  decide

/-- The first of three bytes. -/
theorem start_three : ∀ n < 16, start (UInt8.ofNat (n + 0xE0)) =
    ([], .owing 1 (if n = 0 then 0xA0 else 0x80) (if n = 13 then 0x9F else 0xBF) n) := by
  decide

/-- The first of four bytes. -/
theorem start_four : ∀ n < 5, start (UInt8.ofNat (n + 0xF0)) =
    ([], .owing 2 (if n = 0 then 0x90 else 0x80) (if n = 4 then 0x8F else 0xBF) n) := by
  decide

/-- A byte that goes on with a character brings six bits. -/
theorem step_tail {owed value n : Nat} {lo hi : UInt8} (hn : n < 64) (hlo : lo.toNat ≤ n + 0x80)
    (hhi : n + 0x80 ≤ hi.toNat) :
    step (.owing owed lo hi value) (UInt8.ofNat (n + 0x80)) =
      match owed with
      | 0 => ([Char.ofNat (value * 64 + n)], .idle)
      | owed + 1 => ([], .owing owed 0x80 0xBF (value * 64 + n)) := by
  have hnat : (UInt8.ofNat (n + 0x80)).toNat = n + 0x80 := by
    rw [UInt8.toNat_ofNat']
    omega
  have hfits : lo ≤ UInt8.ofNat (n + 0x80) ∧ UInt8.ofNat (n + 0x80) ≤ hi := by
    rw [UInt8.le_iff_toNat_le, UInt8.le_iff_toNat_le, hnat]
    exact ⟨hlo, hhi⟩
  have hdigits : n + 0x80 - 0x80 = n := Nat.add_sub_cancel ..
  cases owed with
  | zero => exact (if_pos hfits).trans (by rw [hnat, hdigits])
  | succ owed => exact (if_pos hfits).trans (by rw [hnat, hdigits])

/-- The widest interval holds all of them. -/
theorem tail_fits {n : Nat} (hn : n < 64) :
    (0x80 : UInt8).toNat ≤ n + 0x80 ∧ n + 0x80 ≤ (0xBF : UInt8).toNat := by
  have hlo : (0x80 : UInt8).toNat = 0x80 := rfl
  have hhi : (0xBF : UInt8).toNat = 0xBF := rfl
  omega

/-! ### Runs -/

/-- The last byte of a character shows it. -/
theorem run_last {value n : Nat} (hn : n < 64) (bs : List UInt8) (done : List Char) :
    run (.owing 0 0x80 0xBF value) (UInt8.ofNat (n + 0x80) :: bs) done =
      run .idle bs (Char.ofNat (value * 64 + n) :: done) := by
  rw [run, step_tail hn (tail_fits hn).1 (tail_fits hn).2]
  rfl

/-- Any other one leaves one less to come. -/
theorem run_next {owed value n : Nat} {lo hi : UInt8} (hn : n < 64) (hlo : lo.toNat ≤ n + 0x80)
    (hhi : n + 0x80 ≤ hi.toNat) (bs : List UInt8) (done : List Char) :
    run (.owing (owed + 1) lo hi value) (UInt8.ofNat (n + 0x80) :: bs) done =
      run (.owing owed 0x80 0xBF (value * 64 + n)) bs done := by
  rw [run, step_tail hn hlo hhi]
  rfl

/-- A byte that begins a character shows nothing yet. -/
theorem run_start {b : UInt8} {s : State} (h : start b = ([], s)) (bs : List UInt8)
    (done : List Char) : run .idle (b :: bs) done = run s bs done := by
  rw [run, step, h]
  rfl

/-! ### Characters -/

/-- **The bytes of a character are read as the character.** -/
theorem run_utf8EncodeChar (c : Char) (bs : List UInt8) (done : List Char) :
    run .idle (String.utf8EncodeChar c ++ bs) done = run .idle bs (c :: done) := by
  have hvalid : c.val.toNat < 0xD800 ∨ 0xDFFF < c.val.toNat ∧ c.val.toNat < 0x110000 := c.valid
  have hself : Char.ofNat c.val.toNat = c := Char.ofNat_toNat c
  generalize hv : c.val.toNat = v at hvalid hself
  rw [String.utf8EncodeChar, hv, ← hself]
  by_cases hone : v ≤ 0x7F
  · rw [if_pos hone, List.singleton_append, run, step, start_one v (by omega)]
    rfl
  rw [if_neg hone]
  by_cases htwo : v ≤ 0x7FF
  · have hfirst : v / 64 % 32 = v / 64 := by omega
    have hvalue : v / 64 * 64 + v % 64 = v := by omega
    rw [if_pos htwo, List.cons_append, hfirst, run_start (start_two _ (by omega) (by omega)),
      List.singleton_append, run_last (by omega), hvalue]
  rw [if_neg htwo]
  by_cases hthree : v ≤ 0xFFFF
  · have hfirst : v / 4096 % 16 = v / 4096 := by omega
    have hvalue : (v / 4096 * 64 + v / 64 % 64) * 64 + v % 64 = v := by omega
    -- the second byte lies in the interval: the character is not over-long and no half of a pair
    have hlo : (if v / 4096 = 0 then (0xA0 : UInt8) else 0x80).toNat ≤ v / 64 % 64 + 0x80 := by
      split
      · show 0xA0 ≤ _
        omega
      · exact (tail_fits (by omega)).1
    have hhi : v / 64 % 64 + 0x80 ≤ (if v / 4096 = 13 then (0x9F : UInt8) else 0xBF).toNat := by
      split
      · show _ ≤ 0x9F
        omega
      · exact (tail_fits (by omega)).2
    rw [if_pos hthree, List.cons_append, hfirst, run_start (start_three _ (by omega)),
      List.cons_append, run_next (by omega) hlo hhi, List.singleton_append, run_last (by omega),
      hvalue]
  · have hfirst : v / 262144 % 8 = v / 262144 := by omega
    have hvalue : ((v / 262144 * 64 + v / 4096 % 64) * 64 + v / 64 % 64) * 64 + v % 64 = v := by
      omega
    -- here it is not over-long and not beyond the last character
    have hlo : (if v / 262144 = 0 then (0x90 : UInt8) else 0x80).toNat ≤ v / 4096 % 64 + 0x80 := by
      split
      · show 0x90 ≤ _
        omega
      · exact (tail_fits (by omega)).1
    have hhi : v / 4096 % 64 + 0x80 ≤ (if v / 262144 = 4 then (0x8F : UInt8) else 0xBF).toNat := by
      split
      · show _ ≤ 0x8F
        omega
      · exact (tail_fits (by omega)).2
    have hmiddle := tail_fits (show v / 64 % 64 < 64 by omega)
    rw [if_neg hthree, List.cons_append, hfirst, run_start (start_four _ (by omega)),
      List.cons_append, run_next (by omega) hlo hhi, List.cons_append,
      run_next (by omega) hmiddle.1 hmiddle.2, List.singleton_append, run_last (by omega), hvalue]

end Utf8

/-- **Characters that are encoded are read as they were.** -/
theorem decode_encodeChars (cs : List Char) : decode (encodeChars cs) = cs := by
  have hrun : ∀ (cs : List Char) (done : List Char),
      Utf8.run .idle (encodeChars cs) done = done.reverse ++ cs := by
    intro cs
    induction cs with
    | nil => simp [Utf8.run, Utf8.State.finish]
    | cons c rest ih =>
        intro done
        have hcons : encodeChars (c :: rest) = String.utf8EncodeChar c ++ encodeChars rest := rfl
        rw [hcons, Utf8.run_utf8EncodeChar, ih, List.reverse_cons, List.append_assoc]
        rfl
  exact hrun cs []

end ServiceClient.Text
