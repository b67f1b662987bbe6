/-
**Reading bytes that are damaged.**

The reader cuts any bytes into parts and shows one character for each of them.  Which parts these
are follows from what is remembered while a character is open: the interval for the next byte admits
just the bytes with which some character goes on.  So what is completed is a character, never half
of a surrogate pair or a number beyond the last one, and the part that was read is the bytes of that
character; every other part is the bytes of no character and is shown as the replacement.

No interval admits an ASCII byte.  Such a byte therefore ends whatever is open and is shown as
itself: what stands before it is read as if the bytes had ended, and what comes after it as if the
bytes began there.

Main definitions:

* `ServiceClient.Text.Utf8.feed`: the reading of some bytes, from a state to a state;
* `ServiceClient.Text.Utf8.Shows`: a part of the bytes and the character shown for it;
* `ServiceClient.Text.Utf8.Holds`: a state and the bytes of the open character;
* `ServiceClient.Text.Utf8.Cut`: bytes cut into parts that are shown and one that is open.

Main results:

* `ServiceClient.Text.Utf8.step_cut`, `ServiceClient.Text.Utf8.feed_cut`: what one byte does to the
  cut, and what any bytes do to it;
* `ServiceClient.Text.decode_parts`: **any bytes are read part by part**;
* `ServiceClient.Text.decode_append_ascii`: **an ASCII byte is read as itself, and what stands on
  its two sides is read apart**.
-/

import ServiceClient.Proofs.Text.Utf8
import Mathlib.Data.List.Forall2

set_option autoImplicit false

namespace ServiceClient.Text

namespace Utf8

/-! ### The bytes of a character -/

section Encode

variable {n m k j : Nat}

theorem toNat_val_ofNat {v : Nat} (h : v.isValidChar) : (Char.ofNat v).val.toNat = v := by
  rw [Char.ofNat, dif_pos h]
  rfl

/-- One byte is enough for seven bits. -/
theorem encode_one (hn : n < 0x80) :
    String.utf8EncodeChar (Char.ofNat n) = [UInt8.ofNat n] := by
  have hvalid : n.isValidChar := by
    left
    omega
  rw [String.utf8EncodeChar, toNat_val_ofNat hvalid, if_pos (by omega)]

/-- Two bytes are enough for eleven bits, and needed for more than seven. -/
theorem encode_two (hlow : 2 ≤ n) (hn : n < 32) (hm : m < 64) :
    String.utf8EncodeChar (Char.ofNat (n * 64 + m)) =
      [UInt8.ofNat (n + 0xC0), UInt8.ofNat (m + 0x80)] := by
  have hvalid : (n * 64 + m).isValidChar := by
    left
    omega
  have hfirst : (n * 64 + m) / 64 % 32 = n := by omega
  have hlast : (n * 64 + m) % 64 = m := by omega
  rw [String.utf8EncodeChar, toNat_val_ofNat hvalid, if_neg (by omega), if_pos (by omega), hfirst,
    hlast]

/-- Three bytes are enough for sixteen bits, and needed for more than eleven. -/
theorem encode_three (hn : n < 16) (hm : m < 64) (hk : k < 64) (hlow : 32 ≤ n * 64 + m)
    (hpair : n = 13 → m < 32) :
    String.utf8EncodeChar (Char.ofNat ((n * 64 + m) * 64 + k)) =
      [UInt8.ofNat (n + 0xE0), UInt8.ofNat (m + 0x80), UInt8.ofNat (k + 0x80)] := by
  have hvalid : ((n * 64 + m) * 64 + k).isValidChar := by
    unfold Nat.isValidChar
    omega
  have hfirst : ((n * 64 + m) * 64 + k) / 4096 % 16 = n := by omega
  have hsecond : ((n * 64 + m) * 64 + k) / 64 % 64 = m := by omega
  have hlast : ((n * 64 + m) * 64 + k) % 64 = k := by omega
  rw [String.utf8EncodeChar, toNat_val_ofNat hvalid, if_neg (by omega), if_neg (by omega),
    if_pos (by omega), hfirst, hsecond, hlast]

/-- Four bytes are needed for more than sixteen bits. -/
theorem encode_four (hm : m < 64) (hk : k < 64) (hj : j < 64) (hlow : 16 ≤ n * 64 + m)
    (hhigh : n * 64 + m < 272) :
    String.utf8EncodeChar (Char.ofNat (((n * 64 + m) * 64 + k) * 64 + j)) =
      [UInt8.ofNat (n + 0xF0), UInt8.ofNat (m + 0x80), UInt8.ofNat (k + 0x80),
        UInt8.ofNat (j + 0x80)] := by
  have hvalid : (((n * 64 + m) * 64 + k) * 64 + j).isValidChar := by
    right
    omega
  have hfirst : (((n * 64 + m) * 64 + k) * 64 + j) / 262144 % 8 = n := by omega
  have hsecond : (((n * 64 + m) * 64 + k) * 64 + j) / 4096 % 64 = m := by omega
  have hthird : (((n * 64 + m) * 64 + k) * 64 + j) / 64 % 64 = k := by omega
  have hlast : (((n * 64 + m) * 64 + k) * 64 + j) % 64 = j := by omega
  rw [String.utf8EncodeChar, toNat_val_ofNat hvalid, if_neg (by omega), if_neg (by omega),
    if_neg (by omega), hfirst, hsecond, hthird, hlast]

end Encode

/-! ### The open character -/

/-- A character is open: whatever bytes go on with it, each in its interval, the part that was read
and those bytes are the bytes of the character that is shown for them. -/
def Opens : Nat → UInt8 → UInt8 → Nat → List UInt8 → Prop
  | 0, lo, hi, value, part => ∀ n < 64, lo.toNat ≤ n + 0x80 → n + 0x80 ≤ hi.toNat →
      part ++ [UInt8.ofNat (n + 0x80)] = String.utf8EncodeChar (Char.ofNat (value * 64 + n))
  | owed + 1, lo, hi, value, part => ∀ n < 64, lo.toNat ≤ n + 0x80 → n + 0x80 ≤ hi.toNat →
      Opens owed 0x80 0xBF (value * 64 + n) (part ++ [UInt8.ofNat (n + 0x80)])

section Opens

variable {n : Nat}

theorem opens_two (hlow : 2 ≤ n) (hn : n < 32) :
    Opens 0 0x80 0xBF n [UInt8.ofNat (n + 0xC0)] :=
  fun _ hm _ _ => (encode_two hlow hn hm).symm

/-- The second byte leaves out over-long forms and halves of surrogate pairs. -/
theorem opens_three (hn : n < 16) :
    Opens 1 (if n = 0 then 0xA0 else 0x80) (if n = 13 then 0x9F else 0xBF) n
      [UInt8.ofNat (n + 0xE0)] := by
  intro m hm hlo hhi k hk _ _
  have hlow : 32 ≤ n * 64 + m := by
    by_cases hzero : n = 0
    · rw [if_pos hzero] at hlo
      have : (0xA0 : UInt8).toNat = 0xA0 := rfl
      omega
    · omega
  have hpair : n = 13 → m < 32 := by
    intro h
    rw [if_pos h] at hhi
    have : (0x9F : UInt8).toNat = 0x9F := rfl
    omega
  exact (encode_three hn hm hk hlow hpair).symm

/-- The second byte leaves out over-long forms and what lies beyond the last character. -/
theorem opens_four (hn : n < 5) :
    Opens 2 (if n = 0 then 0x90 else 0x80) (if n = 4 then 0x8F else 0xBF) n
      [UInt8.ofNat (n + 0xF0)] := by
  intro m hm hlo hhi k hk _ _ j hj _ _
  have hlow : 16 ≤ n * 64 + m := by
    by_cases hzero : n = 0
    · rw [if_pos hzero] at hlo
      have : (0x90 : UInt8).toNat = 0x90 := rfl
      omega
    · omega
  have hhigh : n * 64 + m < 272 := by
    by_cases hfour : n = 4
    · rw [if_pos hfour] at hhi
      have : (0x8F : UInt8).toNat = 0x8F := rfl
      omega
    · omega
  exact (encode_four hm hk hj hlow hhigh).symm

end Opens

/-! ### Reading from a state to a state -/

/-- Reads bytes from a state on: the characters that they complete, and what is remembered after
them. -/
def feed : State → List UInt8 → List Char × State
  | s, [] => ([], s)
  | s, b :: bs => ((step s b).1 ++ (feed (step s b).2 bs).1, (feed (step s b).2 bs).2)

@[simp] theorem feed_nil (s : State) : feed s [] = ([], s) := rfl

theorem feed_cons (s : State) (b : UInt8) (bs : List UInt8) :
    feed s (b :: bs) = ((step s b).1 ++ (feed (step s b).2 bs).1, (feed (step s b).2 bs).2) := rfl

theorem feed_append (s : State) (xs ys : List UInt8) :
    feed s (xs ++ ys) =
      ((feed s xs).1 ++ (feed (feed s xs).2 ys).1, (feed (feed s xs).2 ys).2) := by
  induction xs generalizing s with
  | nil => rfl
  | cons b rest ih => rw [List.cons_append, feed_cons, ih, feed_cons, List.append_assoc]

theorem feed_concat (s : State) (bs : List UInt8) (b : UInt8) :
    feed s (bs ++ [b]) = ((feed s bs).1 ++ (step (feed s bs).2 b).1, (step (feed s bs).2 b).2) := by
  rw [feed_append, feed_cons, feed_nil, List.append_nil]

theorem run_eq_feed (s : State) (bs : List UInt8) (done : List Char) :
    run s bs done = done.reverse ++ ((feed s bs).1 ++ (feed s bs).2.finish) := by
  induction bs generalizing s done with
  | nil => rfl
  | cons b rest ih => simp [run, ih, feed_cons]

end Utf8

theorem decode_eq_feed (bytes : List UInt8) :
    decode bytes = (Utf8.feed .idle bytes).1 ++ (Utf8.feed .idle bytes).2.finish :=
  Utf8.run_eq_feed .idle bytes []

namespace Utf8

/-! ### Parts -/

/-- A part of the bytes and the character that is shown for it. -/
inductive Shows : List UInt8 → Char → Prop
  /-- The bytes of a character show the character. -/
  | whole (c : Char) : Shows (String.utf8EncodeChar c) c
  /-- Bytes that are those of no character show the replacement. -/
  | damaged {part : List UInt8} (some : part ≠ []) (ill : ∀ c, part ≠ String.utf8EncodeChar c) :
      Shows part replacement

/-- What is shown is the replacement, or its own bytes were read. -/
theorem Shows.eq_or_eq {part : List UInt8} {c : Char} (h : Shows part c) :
    c = replacement ∨ part = String.utf8EncodeChar c := by
  cases h with
  | whole => exact .inr rfl
  | damaged => exact .inl rfl

/-- A state and the bytes of the open character: there are none, or they can be completed by bytes
that are not ASCII. -/
inductive Holds : State → List UInt8 → Prop
  | idle : Holds .idle []
  | owing {owed value : Nat} {lo hi : UInt8} {part : List UInt8} (low : 0x80 ≤ lo)
      (high : hi ≤ 0xBF) (fed : feed .idle part = ([], .owing owed lo hi value))
      (opens : Opens owed lo hi value part) : Holds (.owing owed lo hi value) part

/-- Bytes cut into parts that are shown and one that is open. -/
def Cut (bytes : List UInt8) (r : List Char × State) : Prop :=
  ∃ parts part, bytes = parts.flatten ++ part ∧ List.Forall₂ Shows parts r.1 ∧ Holds r.2 part

section Parts

variable {s : State} {b : UInt8} {part : List UInt8} {owed value : Nat} {lo hi : UInt8}

/-- What leaves a character open is not the bytes of one. -/
theorem ill_of_feed (h : feed .idle part = ([], .owing owed lo hi value)) (c : Char) :
    part ≠ String.utf8EncodeChar c := by
  rintro rfl
  have hrun := run_utf8EncodeChar c [] []
  rw [List.append_nil, run_eq_feed, h] at hrun
  -- it could only be the replacement itself, whose bytes leave nothing open
  obtain rfl : replacement = c := List.singleton_injective hrun
  have hfeed : feed .idle (String.utf8EncodeChar replacement) = ([replacement], .idle) := by decide
  rw [hfeed] at h
  cases h

/-- Nor is a byte that is shown as the replacement. -/
theorem ill_of_start (h : start b = ([replacement], .idle)) (c : Char) :
    [b] ≠ String.utf8EncodeChar c := by
  intro hb
  have hrun := run_utf8EncodeChar c [] []
  rw [List.append_nil, ← hb, run_eq_feed, feed_cons, step, h] at hrun
  obtain rfl : replacement = c := List.singleton_injective hrun
  have hlength : 1 = (String.utf8EncodeChar replacement).length := congrArg List.length hb
  exact absurd hlength (by decide)

/-- What is open when the bytes end is damaged. -/
theorem Holds.finish (h : Holds s part) :
    ∃ parts, part = parts.flatten ∧ List.Forall₂ Shows parts s.finish := by
  cases h with
  | idle => exact ⟨[], rfl, .nil⟩
  | owing _ _ hfed _ =>
      have hsome : part ≠ [] := by
        rintro rfl
        cases hfed
      exact ⟨[part], by simp, .cons (.damaged hsome (ill_of_feed hfed)) .nil⟩

/-! ### Cutting off parts -/

/-- No character begins with a byte that goes on with one, or whose two bytes are over-long. -/
theorem start_low : ∀ n < 66, start (UInt8.ofNat (n + 0x80)) = ([replacement], .idle) := by
  decide

/-- Nor does one begin with a byte that leads beyond the last character. -/
theorem start_high : ∀ n < 11, start (UInt8.ofNat (n + 0xF5)) = ([replacement], .idle) := by
  decide

/-- A byte that begins a character opens it. -/
theorem cut_of_start (h : start b = ([], .owing owed lo hi value)) (hlow : 0x80 ≤ lo)
    (hhigh : hi ≤ 0xBF) (hopens : Opens owed lo hi value [b]) : Cut [b] (start b) := by
  have hfed : feed .idle [b] = ([], .owing owed lo hi value) := by
    rw [feed_cons, step, h]
    rfl
  rw [h]
  exact ⟨[], [b], rfl, .nil, .owing hlow hhigh hfed hopens⟩

/-- A byte that begins no character is a part by itself. -/
theorem cut_of_stray (h : start b = ([replacement], .idle)) : Cut [b] (start b) := by
  have hshows : Shows [b] replacement := .damaged nofun (ill_of_start h)
  rw [h]
  exact ⟨[[b]], [], rfl, .cons hshows .nil, .idle⟩

/-- A first byte is shown, or begins a character. -/
theorem start_cut (b : UInt8) : Cut [b] (start b) := by
  obtain ⟨n, hn, rfl⟩ : ∃ n < 256, b = UInt8.ofNat n := ⟨b.toNat, b.toNat_lt, by simp⟩
  by_cases hone : n < 0x80
  · rw [start_one n hone]
    exact ⟨[[UInt8.ofNat n]], [], rfl, .cons (encode_one hone ▸ .whole _) .nil, .idle⟩
  by_cases hfollows : n < 0xC2
  · obtain ⟨k, rfl⟩ : ∃ k, n = k + 0x80 := ⟨n - 0x80, by omega⟩
    exact cut_of_stray (start_low k (by omega))
  by_cases htwo : n < 0xE0
  · obtain ⟨k, rfl⟩ : ∃ k, n = k + 0xC0 := ⟨n - 0xC0, by omega⟩
    exact cut_of_start (start_two k (by omega) (by omega)) (by decide) (by decide)
      (opens_two (by omega) (by omega))
  by_cases hthree : n < 0xF0
  · obtain ⟨k, rfl⟩ : ∃ k, n = k + 0xE0 := ⟨n - 0xE0, by omega⟩
    refine cut_of_start (start_three k (by omega)) ?_ ?_ (opens_three (by omega))
    · split <;> decide
    · split <;> decide
  by_cases hfour : n < 0xF5
  · obtain ⟨k, rfl⟩ : ∃ k, n = k + 0xF0 := ⟨n - 0xF0, by omega⟩
    refine cut_of_start (start_four k (by omega)) ?_ ?_ (opens_four (by omega))
    · split <;> decide
    · split <;> decide
  · obtain ⟨k, rfl⟩ : ∃ k, n = k + 0xF5 := ⟨n - 0xF5, by omega⟩
    exact cut_of_stray (start_high k (by omega))

/-- A byte in the interval brings six bits. -/
theorem exists_tail (hlow : 0x80 ≤ lo) (hhigh : hi ≤ 0xBF) (hb : lo ≤ b ∧ b ≤ hi) :
    ∃ n < 64, b = UInt8.ofNat (n + 0x80) ∧ lo.toNat ≤ n + 0x80 ∧ n + 0x80 ≤ hi.toNat := by
  obtain ⟨hlo, hhi⟩ := hb
  rw [UInt8.le_iff_toNat_le] at hlow hhigh hlo hhi
  have hfirst : (0x80 : UInt8).toNat = 0x80 := rfl
  have hlast : (0xBF : UInt8).toNat = 0xBF := rfl
  refine ⟨b.toNat - 0x80, by omega, ?_, by omega, by omega⟩
  rw [Nat.sub_add_cancel (by omega), UInt8.ofNat_toNat]

/-- Any other byte ends the open character, and is a first byte itself. -/
theorem step_of_not_fits (h : ¬ (lo ≤ b ∧ b ≤ hi)) :
    step (.owing owed lo hi value) b = (replacement :: (start b).1, (start b).2) := by
  rw [step, if_neg h]

/-- **One more byte**: it goes on with the open character, or ends it. -/
theorem step_cut (h : Holds s part) (b : UInt8) : Cut (part ++ [b]) (step s b) := by
  cases h with
  | idle => exact start_cut b
  | @owing owed value lo hi _ hlow hhigh hfed hopens =>
      by_cases hb : lo ≤ b ∧ b ≤ hi
      · obtain ⟨n, hn, rfl, hlo, hhi⟩ := exists_tail hlow hhigh hb
        have hstep : step (.owing owed lo hi value) (UInt8.ofNat (n + 0x80)) = _ :=
          step_tail hn hlo hhi
        cases owed with
        | zero =>
            rw [hstep, hopens n hn hlo hhi]
            exact ⟨[_], [], by simp, .cons (.whole _) .nil, .idle⟩
        | succ owed =>
            have hnext : feed .idle (part ++ [UInt8.ofNat (n + 0x80)]) =
                ([], .owing owed 0x80 0xBF (value * 64 + n)) := by
              rw [feed_concat, hfed, hstep]
              rfl
            rw [hstep]
            exact ⟨[], _, rfl, .nil, .owing (by decide) (by decide) hnext (hopens n hn hlo hhi)⟩
      · obtain ⟨parts, rest, hbytes, hshown, hrest⟩ := start_cut b
        obtain ⟨ends, hpart, hends⟩ := (Holds.owing hlow hhigh hfed hopens).finish
        rw [step_of_not_fits hb]
        refine ⟨ends ++ parts, rest, ?_, List.rel_append hends hshown, hrest⟩
        rw [hbytes, hpart, List.flatten_append, List.append_assoc]

/-- **Any number of bytes**: parts are cut off one after the other. -/
theorem feed_cut (h : Holds s part) (bytes : List UInt8) : Cut (part ++ bytes) (feed s bytes) := by
  induction bytes generalizing s part with
  | nil => exact ⟨[], part, by simp, .nil, h⟩
  | cons b rest ih =>
      obtain ⟨parts, next, hbytes, hshown, hnext⟩ := step_cut h b
      obtain ⟨parts', last, hrest, hshown', hlast⟩ := ih hnext
      refine ⟨parts ++ parts', last, ?_, List.rel_append hshown hshown', hlast⟩
      rw [List.append_cons, hbytes, List.append_assoc, hrest, List.flatten_append,
        List.append_assoc]

/-- An ASCII byte ends what is open and is shown as itself. -/
theorem step_ascii (h : Holds s part) (hb : b < 0x80) :
    step s b = (s.finish ++ [Char.ofNat b.toNat], .idle) := by
  have hstart : start b = ([Char.ofNat b.toNat], .idle) := by
    rw [start, if_pos hb]
  cases h with
  | idle => exact hstart
  | owing hlow _ _ _ =>
      rw [step_of_not_fits fun hfits => absurd (UInt8.lt_of_lt_of_le hb hlow) ?_, hstart]
      · rfl
      · exact UInt8.not_lt.mpr hfits.1

end Parts

end Utf8

/-- **Any bytes are read part by part**: one character is shown for each part, the one whose bytes
it is or the replacement. -/
theorem decode_parts (bytes : List UInt8) :
    ∃ parts, parts.flatten = bytes ∧ List.Forall₂ Utf8.Shows parts (decode bytes) := by
  obtain ⟨parts, part, hbytes, hshown, hpart⟩ := Utf8.feed_cut .idle bytes
  obtain ⟨ends, hends, hshown'⟩ := hpart.finish
  refine ⟨parts ++ ends, ?_, ?_⟩
  · rw [List.flatten_append, ← hends, ← hbytes, List.nil_append]
  · rw [decode_eq_feed]
    exact List.rel_append hshown hshown'

/-- **An ASCII byte is read as itself, and what stands on its two sides is read apart.** -/
theorem decode_append_ascii (front : List UInt8) {b : UInt8} (hb : b < 0x80) (rest : List UInt8) :
    decode (front ++ b :: rest) = decode front ++ Char.ofNat b.toNat :: decode rest := by
  obtain ⟨_, part, -, -, hpart⟩ := Utf8.feed_cut .idle front
  rw [decode_eq_feed, Utf8.feed_append, Utf8.feed_cons, Utf8.step_ascii hpart hb,
    decode_eq_feed front, decode_eq_feed rest]
  simp

end ServiceClient.Text
