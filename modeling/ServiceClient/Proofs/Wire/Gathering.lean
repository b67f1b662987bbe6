/-
**Reading on over a response.**

A buffered stream reads on over the reader of a response: for a number of bytes, for a line, or to
the end.  What comes of it depends on the bytes that are left only, not on the chunks.  If they hold
what is asked for, it is brought, perhaps with some bytes more, and the end is not reached.  If they
do not, all of them are brought and the end is reached; where that fails, they are lost.  A reader
that has not begun begins first, whatever it is asked for, and one that is over brings nothing.

Main definitions:

* `ServiceClient.Source.Asks`: how much may be asked for at a time;
* `ServiceClient.Wire.Reading.Begins`: an action that begins to read first.

Main results:

* `ServiceClient.Wire.Reading.gather_cases`, `ServiceClient.Wire.Reading.gatherLine_cases`,
  `ServiceClient.Wire.Reading.readAll_of_running`: **what comes of reading on**;
* `ServiceClient.Wire.Reading.gather_begins`, `ServiceClient.Wire.Reading.gather_of_over` and those
  beside them: the same for a reader that has not begun or that is over.
-/

import ServiceClient.Proofs.Wire.Pieces
import ServiceClient.Stream.Buffered

set_option autoImplicit false

namespace ServiceClient

/-! ### Lines -/

/-- A line that has come stays the first one. -/
theorem splitLine?_append_of_some {bytes line after : Bytes}
    (h : splitLine? bytes = some (line, after)) (more : Bytes) :
    splitLine? (bytes ++ more) = some (line, after ++ more) := by
  unfold splitLine? at h ⊢
  cases hfind : bytes.findIdx? (· == 10) with
  | none =>
      rw [hfind] at h
      cases h
  | some i =>
      rw [hfind] at h
      cases h
      obtain ⟨hi, -⟩ := List.findIdx?_eq_some_iff_getElem.mp hfind
      rw [List.findIdx?_append, hfind]
      simp only [Option.some_or]
      rw [List.take_append_of_le_length (by omega), List.drop_append_of_le_length (by omega)]

/-- Bytes without a line feed stand in front of the first line of what follows. -/
theorem splitLine?_append_of_none {bytes : Bytes} (h : splitLine? bytes = none) (more : Bytes) :
    splitLine? (bytes ++ more) = (splitLine? more).map fun s => (bytes ++ s.1, s.2) := by
  unfold splitLine? at h ⊢
  cases hfind : bytes.findIdx? (· == 10) with
  | some i =>
      rw [hfind] at h
      cases h
  | none =>
      rw [List.findIdx?_append, hfind]
      cases more.findIdx? (· == 10) with
      | none => rfl
      | some i =>
          have hlength : i + bytes.length + 1 = bytes.length + (i + 1) := by omega
          simp only [Option.none_or, Option.map_some, hlength]
          rw [List.take_length_add_append, List.drop_length_add_append]

namespace Source

/-! ### Rounds -/

variable {σ : Type}

/-- What may be asked for directly: something at a time, and all but what fits into a block. -/
structure Asks (direct : Nat → Option Nat) : Prop where
  pos {want size : Nat} : direct want = some size → 0 < want → 0 < size
  le {want : Nat} : direct want = none → want ≤ blockSize

theorem wholeBlocks_asks : Asks wholeBlocks where
  pos {want size} h _ := by
    unfold wholeBlocks at h
    split at h
    · cases h
    · next hblock =>
        cases h
        have hpos : 0 < blockSize := by decide
        exact Nat.mul_pos (Nat.div_pos (Nat.not_lt.mp hblock) hpos) hpos
  le {want} h := by
    unfold wholeBlocks at h
    split at h
    · next hblock => exact Nat.le_of_lt hblock
    · cases h

theorem beyondBlock_asks : Asks beyondBlock where
  pos {want size} h hwant := by
    unfold beyondBlock at h
    split at h
    · cases h
    · cases h
      exact hwant
  le {want} h := by
    unfold beyondBlock at h
    split at h
    · next hblock => exact hblock
    · cases h

/-- One round asks for something, and what is left to ask for still fits into the buffer. -/
theorem gather_round {direct : Nat → Option Nat} (h : Asks direct) {want filled : Nat}
    (hwant : 0 < want) (hfilled : filled = 0 ∨ filled + want ≤ blockSize) (raw : Source σ)
    (fuel : Nat) :
    ∃ (size : Nat) (next : Nat → Nat), 0 < size ∧
      (∀ k ≤ size, next k = 0 ∨ next k + (want - k) ≤ blockSize) ∧
      gather direct raw (fuel + 1) want filled = (do
        let got ← raw.readInto size
        if got.isEmpty then pure []
        else
          let rest ← gather direct raw fuel (want - got.length) (next got.length)
          pure (got ++ rest)) := by
  have hwant' : want ≠ 0 := Nat.ne_of_gt hwant
  cases hdirect : direct want with
  | some size =>
      refine ⟨size, fun _ => filled, h.pos hdirect hwant, fun k _ => ?_, ?_⟩
      · change filled = 0 ∨ filled + (want - k) ≤ blockSize
        omega
      · rw [gather, if_neg hwant']
        simp only [hdirect]
  | none =>
      have hblock := h.le hdirect
      refine ⟨blockSize - filled, fun k => filled + k, ?_, fun k hk => ?_, ?_⟩
      · omega
      · change filled + k = 0 ∨ filled + k + (want - k) ≤ blockSize
        omega
      · rw [gather, if_neg hwant']
        simp only [hdirect]

end Source

namespace Wire.Reading

open Source (gather gatherLine Asks)

variable {α β : Type} {p q : State} {g : Option Failure}

/-! ### Reading on -/

/-- **What comes of reading on for a number of bytes**: at least as many of those that are left; or
there are fewer, and the end is reached with all of them. -/
theorem gather_cases {direct : Nat → Option Nat} (h : Asks direct) (fuel : Nat) {want filled : Nat}
    (hfuel : want ≤ fuel) (hfilled : filled = 0 ∨ filled + want ≤ blockSize)
    (hphase : p.2.phase = .running) :
    (∃ got q, gather direct source fuel want filled g p = (.ok got, q) ∧ want ≤ got.length ∧
        left p = got ++ left q ∧ frame q = frame p) ∨
      (left p).length < want ∧
        gather direct source fuel want filled g p = finish (left p) g p := by
  -- by induction on the fuel: each round brings a byte, or the end
  induction fuel generalizing want filled p with
  | zero =>
      obtain rfl : want = 0 := Nat.le_zero.mp hfuel
      exact .inl ⟨[], p, rfl, Nat.le_refl 0, rfl, rfl⟩
  | succ fuel ih =>
      rcases Nat.eq_zero_or_pos want with rfl | hwant
      · exact .inl ⟨[], p, by rw [gather, if_pos rfl]; rfl, Nat.le_refl 0, rfl, rfl⟩
      obtain ⟨size, next, hsize, hnext, hround⟩ := Source.gather_round h hwant hfilled source fuel
      by_cases hend : left p = []
      · refine .inr ⟨by simpa [hend] using hwant, ?_⟩
        rw [hround, hend]
        have hread : source.readInto size g p = finish [] g p := read_of_end size hphase hend
        rw [Action.run_bind_congr hread]
        exact finish_bind [] _
      · obtain ⟨got, q, hread, hgot, hlength, hleft, hframe⟩ := read_of_left hsize hphase hend g
        have hpos := List.length_pos_iff.mpr hgot
        have hgot' : ¬ got.isEmpty = true := by simpa using hgot
        have hrun : gather direct source (fuel + 1) want filled g p =
            (do pure (got ++ (← gather direct source fuel (want - got.length)
              (next got.length))) : Action State Bytes) g q := by
          have hread' : source.readInto size g p = (.ok got, q) := hread
          rw [hround, Action.run_bind_ok hread', if_neg hgot']
        have hfuel' : want - got.length ≤ fuel := by omega
        rcases ih hfuel' (hnext _ hlength) ((phase_of_frame hframe).trans hphase) with
          ⟨more, q', hmore, henough, hleft', hframe'⟩ | ⟨hfew, hmore⟩
        · refine .inl ⟨got ++ more, q', ?_, ?_, ?_, hframe'.trans hframe⟩
          · rw [hrun, Action.run_bind_ok hmore]
            rfl
          · rw [List.length_append]
            omega
          · rw [hleft, hleft', List.append_assoc]
        · refine .inr ⟨?_, ?_⟩
          · rw [hleft, List.length_append]
            omega
          · rw [hrun, Action.run_bind_congr hmore, finish_bind, hleft]
            exact Action.run_bind_congr (ending_congr hframe) _

/-- **What comes of reading on for a line**: the first line of what is left; or there is none, and
the end is reached with all bytes. -/
theorem gatherLine_cases (fuel : Nat) (hfuel : (left p).length < fuel)
    (hphase : p.2.phase = .running) :
    (∃ line kept q, gatherLine source fuel g p = (.ok (line, kept), q) ∧
        splitLine? (left p) = some (line, kept ++ left q) ∧ frame q = frame p) ∨
      splitLine? (left p) = none ∧
        gatherLine source fuel g p = finish (left p, []) g p := by
  induction fuel generalizing p with
  | zero => exact absurd hfuel (Nat.not_lt_zero _)
  | succ fuel ih =>
      rw [gatherLine]
      by_cases hend : left p = []
      · refine .inr ⟨by rw [hend]; rfl, ?_⟩
        have hread : source.readInto blockSize g p = finish [] g p := read_of_end _ hphase hend
        rw [Action.run_bind_congr hread, hend]
        exact finish_bind [] _
      · have hblock : 0 < blockSize := by decide
        obtain ⟨got, q, hread, hgot, -, hleft, hframe⟩ := read_of_left hblock hphase hend g
        have hpos := List.length_pos_iff.mpr hgot
        have hgot' : ¬ got.isEmpty = true := by simpa using hgot
        have hread' : source.readInto blockSize g p = (.ok got, q) := hread
        rw [Action.run_bind_ok hread', if_neg hgot', hleft]
        cases hsplit : splitLine? got with
        | some split =>
            obtain ⟨line, kept⟩ := split
            exact .inl ⟨line, kept, q, rfl, splitLine?_append_of_some hsplit _, hframe⟩
        | none =>
            have hfuel' : (left q).length < fuel := by
              rw [hleft, List.length_append] at hfuel
              omega
            dsimp only
            rw [splitLine?_append_of_none hsplit]
            rcases ih hfuel' ((phase_of_frame hframe).trans hphase) with
              ⟨line, kept, q', hmore, hline, hframe'⟩ | ⟨hnone, hmore⟩
            · refine .inl ⟨got ++ line, kept, q', ?_, by rw [hline]; rfl, hframe'.trans hframe⟩
              rw [Action.run_bind_ok hmore]
              rfl
            · refine .inr ⟨by rw [hnone]; rfl, ?_⟩
              rw [Action.run_bind_congr hmore, finish_bind]
              exact Action.run_bind_congr (ending_congr hframe) _

theorem go_of_running (fuel : Nat) (hfuel : p.1.chunks.length < fuel)
    (hphase : p.2.phase = .running) (hpending : p.2.pending = []) :
    readAll.go fuel g p = finish p.1.chunks.flatten g p := by
  induction fuel generalizing p with
  | zero => exact absurd hfuel (Nat.not_lt_zero _)
  | succ fuel ih =>
      rw [readAll.go]
      cases hsplit : splitChunk p.1.chunks with
      | none =>
          rw [Action.run_bind_congr (nextChunk_none hphase hpending hsplit),
            flatten_of_splitChunk_none hsplit]
          exact finish_bind [] _
      | some split =>
          obtain ⟨c, rest⟩ := split
          obtain ⟨hflatten, hlength⟩ := flatten_of_splitChunk_some hsplit
          have hc : ¬ c.isEmpty = true := by simpa using nextChunk_ok_nonempty hsplit
          have hrest := ih (p := ({ p.1 with chunks := rest }, p.2)) (by simp only; omega) hphase
            hpending
          rw [Action.run_bind_ok (nextChunk_some hphase hsplit), if_neg hc,
            Action.run_bind_congr hrest, finish_bind, hflatten]
          exact Action.run_bind_congr (ending_congr rfl) _

/-- What is pending is given first. -/
theorem readAll_eq (p : State) :
    readAll g p =
      (do pure (p.2.pending ++ (← readAll.go (p.1.chunks.length + 1))) : Action State Bytes) g
        (p.1, { p.2 with pending := [] }) := rfl

/-- **Reading to the end** gives all bytes that are left. -/
theorem readAll_of_running (hphase : p.2.phase = .running) :
    readAll g p = finish (left p) g p := by
  have hgo := go_of_running (g := g) (p := (p.1, { p.2 with pending := [] }))
    (p.1.chunks.length + 1)
    (Nat.lt_succ_self _) hphase rfl
  rw [readAll_eq, Action.run_bind_congr hgo, finish_bind]
  exact Action.run_bind_congr (ending_congr rfl) _

/-! ### Readers that have not begun, and readers that are over -/

/-- The action begins to read before it does anything else. -/
def Begins (m : Action State α) (p : State) : Prop :=
  ∀ g, m g p = (begin >>= fun _ => m) g p

theorem Begins.bind {m : Action State α} (h : Begins m p) (k : α → Action State β) :
    Begins (m >>= k) p := by
  intro g
  rw [Action.run_bind_congr (h g)]
  simp only [Action.run_bind]
  generalize begin g p = x
  obtain ⟨f | u, q⟩ := x
  · rfl
  · rfl

/-- What begins at the one state begins at the other, if both do the same there and later. -/
theorem Begins.congr {m m' : Action State α} (h : Begins m p) (heq : ∀ g, m' g p = m g p)
    (hnext : ∀ g q, begin g p = (.ok (), q) → m' g q = m g q) : Begins m' p := by
  intro g
  rw [heq, h g]
  rcases hbegin : begin g p with ⟨f | u, q⟩
  · rw [Action.run_bind_error hbegin, Action.run_bind_error hbegin]
  · rw [Action.run_bind_ok hbegin, Action.run_bind_ok hbegin, hnext g q hbegin]

/-- Beginning touches no byte and closes nothing, and a reader that has begun is fresh no more. -/
theorem begin_ends (h : begin g p = (.ok (), q)) :
    q.2.phase ≠ .fresh ∧ q.2.pending = p.2.pending ∧ q.1.chunks = p.1.chunks ∧
      q.2.closed = p.2.closed := by
  by_cases hphase : p.2.phase = .fresh
  · rcases begin_cases g hphase with ⟨-, f, hrefused⟩ | hbegun
    · cases (hrefused p.1.chunks).symm.trans h
    · cases (hbegun p.1.chunks).symm.trans h
      exact ⟨by simp, rfl, rfl, rfl⟩
  · cases (begin_again hphase).symm.trans h
    exact ⟨hphase, rfl, rfl, rfl⟩

theorem nextChunk_begins (p : State) : Begins nextChunk p := by
  intro g
  rcases hbegin : begin g p with ⟨f | u, q⟩
  · rw [Action.run_bind_error hbegin, nextChunk_of_refused hbegin]
  · rw [Action.run_bind_ok hbegin, nextChunk_of_begin hbegin (begin_ends hbegin).1]

theorem read_begins (n : Nat) (h : p.2.pending = []) : Begins (read n) p :=
  ((nextChunk_begins p).bind _).congr (fun _ => read_of_empty n h) fun _ _ hbegin =>
    read_of_empty n ((begin_ends hbegin).2.1.trans h)

theorem go_begins (fuel : Nat) (p : State) : Begins (readAll.go (fuel + 1)) p :=
  (nextChunk_begins p).bind _

/-- Without pending bytes all others are fetched. -/
theorem readAll_of_empty (h : p.2.pending = []) :
    readAll g p = readAll.go (p.1.chunks.length + 1) g p := by
  obtain ⟨r, k⟩ := p
  have hpending : k.pending = [] := h
  have hempty : k = { k with pending := [] } := congrArg ({ k with pending := · }) hpending
  rw [readAll_eq, ← hempty, hpending]
  simp only [List.nil_append, Action.run_bind]
  generalize readAll.go _ g (r, k) = x
  obtain ⟨f | bytes, q⟩ := x
  · rfl
  · rfl

theorem readAll_begins (h : p.2.pending = []) : Begins readAll p := by
  refine (go_begins p.1.chunks.length p).congr (fun _ => readAll_of_empty h) fun _ _ hbegin => ?_
  obtain ⟨-, hpending, hchunks, -⟩ := begin_ends hbegin
  rw [readAll_of_empty (hpending.trans h), hchunks]

theorem gather_begins {direct : Nat → Option Nat} {want : Nat} (hwant : 0 < want)
    (h : p.2.pending = []) : Begins (gather direct source want want 0) p := by
  obtain ⟨fuel, rfl⟩ := Nat.exists_eq_succ_of_ne_zero (Nat.ne_of_gt hwant)
  rw [gather, if_neg (Nat.succ_ne_zero fuel)]
  cases direct (fuel + 1) with
  | some size => exact (read_begins size h).bind _
  | none => exact (read_begins _ h).bind _

theorem gatherLine_begins (fuel : Nat) (h : p.2.pending = []) :
    Begins (gatherLine source (fuel + 1)) p :=
  (read_begins blockSize h).bind _

theorem go_of_over (hover : p.2.phase = .over) (fuel : Nat) :
    readAll.go (fuel + 1) g p = (.ok [], p) :=
  Action.run_bind_ok (nextChunk_of_over hover)

section Over

variable (hover : p.2.phase = .over) (hpending : p.2.pending = [])

include hover hpending

theorem gather_of_over (direct : Nat → Option Nat) (fuel want filled : Nat) :
    gather direct source fuel want filled g p = (.ok [], p) := by
  have hread (n : Nat) : source.readInto n g p = (.ok [], p) := read_of_over n hover hpending
  cases fuel with
  | zero => rfl
  | succ fuel =>
      rw [gather]
      split
      · rfl
      · cases direct want with
        | some size => exact Action.run_bind_ok (hread size)
        | none => exact Action.run_bind_ok (hread (blockSize - filled))

theorem gatherLine_of_over (fuel : Nat) : gatherLine source fuel g p = (.ok ([], []), p) := by
  have hread (n : Nat) : source.readInto n g p = (.ok [], p) := read_of_over n hover hpending
  cases fuel with
  | zero => rfl
  | succ fuel => exact Action.run_bind_ok (hread _)

theorem readAll_of_over : readAll g p = (.ok [], p) := by
  rw [readAll_of_empty hpending, go_of_over hover]

end Over

end Wire.Reading

end ServiceClient
