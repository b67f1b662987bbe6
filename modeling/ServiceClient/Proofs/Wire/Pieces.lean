/-
**Reading a response piece by piece.**

A reader hands out what is left of its last chunk, or else the beginning of the next chunk that is
not empty.  What it can still bring is one list of bytes, whatever the chunks are: a read takes some
bytes off its beginning, at least one as long as there is one.  Only at the end does it look
further, and closes the response or finds that the body breaks off.  So nothing tells where the
chunks were cut, an empty chunk is no end, and the bytes come in their order, each of them once.

Main definitions:

* `ServiceClient.Wire.Reading.left`, `ServiceClient.Wire.Reading.frame`: the bytes that a reader can
  still bring, and everything else;
* `ServiceClient.Wire.Reading.finish`: what is done at the end of a body;
* `ServiceClient.Source.fillAll`: fills buffers one after another;
* `ServiceClient.Wire.Reading.Serving`: a reader that has delivered some bytes of a response.

Main results:

* `ServiceClient.Wire.Reading.read_of_left`, `ServiceClient.Wire.Reading.read_of_end`: a read before
  the end, and at the end;
* `ServiceClient.Wire.Reading.Serving.fill`: **a call fills a part of its buffer with the bytes that
  follow, and brings none exactly at the end**;
* `ServiceClient.Wire.Reading.Serving.fillAll`: the same after any calls.
-/

import ServiceClient.Proofs.Action.Runs
import ServiceClient.Proofs.Wire.Reading

set_option autoImplicit false

namespace ServiceClient

/-! ### Filling buffers -/

namespace Source

variable {σ : Type}

/-- Fills buffers one after another, each with the failure that is in flight at the time.  A call
that fails brings nothing, and the next one comes all the same. -/
def fillAll (a : Source σ) : List (Bytes × Option Failure) → σ → Bytes × σ
  | [], s => ([], s)
  | (buffer, g) :: rest, s =>
      match a.fill buffer g s with
      | (.ok (count, filled), s') =>
          let (more, s'') := fillAll a rest s'
          (filled.take count ++ more, s'')
      | (.error _, s') => fillAll a rest s'

theorem fill_ok {a : Source σ} {buffer got : Bytes} {g : Option Failure} {s s' : σ}
    (h : a.readInto buffer.length g s = (.ok got, s')) :
    a.fill buffer g s = (.ok (got.length, got ++ buffer.drop got.length), s') :=
  Action.run_bind_ok h

theorem fill_error {a : Source σ} {buffer : Bytes} {g : Option Failure} {s s' : σ} {f : Failure}
    (h : a.readInto buffer.length g s = (.error f, s')) :
    a.fill buffer g s = (.error f, s') :=
  Action.run_bind_error h

theorem fillAll_of_ok {a : Source σ} {buffer filled : Bytes} {g : Option Failure} {s s' : σ}
    {count : Nat} (h : a.fill buffer g s = (.ok (count, filled), s'))
    (rest : List (Bytes × Option Failure)) :
    a.fillAll ((buffer, g) :: rest) s =
      (filled.take count ++ (a.fillAll rest s').1, (a.fillAll rest s').2) := by
  simp only [fillAll, h]

theorem fillAll_of_error {a : Source σ} {buffer : Bytes} {g : Option Failure} {s s' : σ}
    {f : Failure} (h : a.fill buffer g s = (.error f, s'))
    (rest : List (Bytes × Option Failure)) :
    a.fillAll ((buffer, g) :: rest) s = a.fillAll rest s' := by
  simp only [fillAll, h]

end Source

/-- Closing a response brings none of its bytes; it fails only if the response cannot be closed. -/
theorem Wire.Response.close_cases (g : Option Failure) (r : Wire.Response) :
    ∃ e r', close g r = (e, r') ∧ r'.chunks.flatten = r.chunks.flatten ∧
      (e = .ok () ∨ ∃ f, e = .error f ∧ r.closeFailure ≠ none) := by
  rw [close, Action.run_bind_ok (Action.run_gets ..)]
  by_cases hclosed : r.closed
  · rw [if_pos hclosed]
    exact ⟨_, _, rfl, rfl, .inl rfl⟩
  · rw [if_neg hclosed, Action.run_bind_ok (Action.run_modify ..), Action.strike]
    cases hclose : r.closeFailure with
    | none => exact ⟨_, _, rfl, rfl, .inl rfl⟩
    | some f => exact ⟨_, _, rfl, rfl, .inr ⟨_, rfl, Option.some_ne_none f⟩⟩

namespace Wire.Reading

variable {α β : Type} {p q : State} {g : Option Failure}

/-! ### What is left, and everything else -/

/-- The bytes that a reader can still bring. -/
def left (p : State) : Bytes :=
  p.2.pending ++ p.1.chunks.flatten

/-- A reader and its response without their bytes. -/
def frame (p : State) : State :=
  ({ p.1 with chunks := [] }, { p.2 with pending := [] })

theorem phase_cases (p : State) :
    p.2.phase = .fresh ∨ p.2.phase = .running ∨ p.2.phase = .over := by
  cases p.2.phase <;> simp

theorem phase_of_frame (h : frame p = frame q) : p.2.phase = q.2.phase :=
  (congrArg (fun x : State => x.2.phase) h :)

/-- The end of a body is reached: the body breaks off, or the response is closed. -/
def ending : Action State Unit := do
  .modify fun (r, k) => ({ r with chunks := [] }, { k with pending := [], phase := .over })
  match ← Action.gets fun p : State => p.1.readFailure with
  | some f => .raise f
  | none => Response.close.within .first

/-- The end of a body is reached, and what was read is given. -/
def finish (a : α) : Action State α := do
  ending
  pure a

/-- Where the end is reached, it does not matter which bytes came before. -/
theorem ending_congr (h : frame p = frame q) : ending g p = ending g q := by
  change ending g (frame p) = ending g (frame q)
  rw [h]

theorem finish_congr (h : frame p = frame q) (a : α) : finish a g p = finish a g q :=
  Action.run_bind_congr (ending_congr h) _

theorem finish_bind (a : α) (k : α → Action State β) :
    (finish a >>= k) g p = (ending >>= fun _ => k a) g p := by
  simp only [finish, Action.run_bind]
  generalize ending g p = x
  obtain ⟨f | u, p'⟩ := x
  · rfl
  · rfl

/-- At the end the reader is over and nothing is left, also if that fails; it fails only if the body
breaks off or the response cannot be closed. -/
theorem ending_cases (g : Option Failure) (p : State) :
    ∃ e p', ending g p = (e, p') ∧ p'.2.phase = .over ∧ left p' = [] ∧
      (e = .ok () ∨ ∃ f, e = .error f ∧ (p.1.readFailure ≠ none ∨ p.1.closeFailure ≠ none)) := by
  obtain ⟨r, k⟩ := p
  rw [ending, Action.run_bind_ok (Action.run_modify ..), Action.run_bind_ok (Action.run_gets ..)]
  cases hbreak : r.readFailure with
  | some f =>
      simp only [hbreak]
      exact ⟨_, _, rfl, rfl, rfl, .inr ⟨_, rfl, .inl (Option.some_ne_none f)⟩⟩
  | none =>
      obtain ⟨e, r', hclose, hchunks, he⟩ :=
        Response.close_cases g { r with chunks := [], readFailure := none }
      refine ⟨e, (r', { k with pending := [], phase := .over }), ?_, rfl, hchunks, ?_⟩
      · simp only [hbreak, Action.within, Part.first, hclose]
      · rcases he with hclosed | ⟨f, hf, hcloseable⟩
        · exact .inl hclosed
        · exact .inr ⟨f, hf, .inr hcloseable⟩

/-! ### Beginning -/

/-- A reader begins only once. -/
theorem begin_again (h : p.2.phase ≠ .fresh) : begin g p = (.ok (), p) := by
  rw [begin, Action.run_bind_ok (Action.run_gets ..)]
  simp only [id, if_neg h]
  rfl

/-- A fresh reader is over or running once it has begun; how the body is cut does not matter. -/
theorem begin_cases (g : Option Failure) (h : p.2.phase = .fresh) :
    ((p.1.consumed = true ∨ p.1.closed = true) ∧ ∃ f, ∀ chunks, begin g ({ p.1 with chunks }, p.2) =
        (.error f, ({ p.1 with chunks }, { p.2 with phase := .over }))) ∨
      ∀ chunks, begin g ({ p.1 with chunks }, p.2) =
        (.ok (), ({ p.1 with chunks, consumed := true }, { p.2 with phase := .running })) := by
  obtain ⟨r, k⟩ := p
  have hfresh : k.phase = .fresh := h
  by_cases hconsumed : r.consumed
  · refine .inl ⟨.inl hconsumed, (Failure.plain .streamConsumed).raisedDuring g, fun chunks => ?_⟩
    simp only [begin, Action.run_bind, Action.run_gets, id, if_pos hfresh, if_pos hconsumed]
    rfl
  · by_cases hclosed : r.closed
    · refine .inl ⟨.inr hclosed, (Failure.plain .streamClosed).raisedDuring g, fun chunks => ?_⟩
      simp only [begin, Action.run_bind, Action.run_gets, id, if_pos hfresh, if_neg hconsumed,
        if_pos hclosed]
      rfl
    · refine .inr fun chunks => ?_
      simp only [begin, Action.run_bind, Action.run_gets, id, if_pos hfresh, if_neg hconsumed,
        if_neg hclosed]
      rfl

theorem nextChunk_of_begin (hbegin : begin g p = (.ok (), q)) (hq : q.2.phase ≠ .fresh) :
    nextChunk g p = nextChunk g q := by
  rw [nextChunk, Action.run_bind_ok hbegin, Action.run_bind_ok (begin_again hq)]

theorem nextChunk_of_refused {f : Failure} (hbegin : begin g p = (.error f, q)) :
    nextChunk g p = (.error f, q) :=
  Action.run_bind_error hbegin

/-! ### Fetching -/

theorem nextChunk_of_over (h : p.2.phase = .over) : nextChunk g p = (.ok [], p) := by
  have hbegun : p.2.phase ≠ .fresh := by simp [h]
  rw [nextChunk, Action.run_bind_ok (begin_again hbegun), Action.run_bind_ok (Action.run_gets ..)]
  simp only [id, if_pos h]
  rfl

theorem nextChunk_some (h : p.2.phase = .running) {c : Bytes} {rest : List Bytes}
    (hsplit : splitChunk p.1.chunks = some (c, rest)) :
    nextChunk g p = (.ok c, ({ p.1 with chunks := rest }, p.2)) := by
  have hbegun : p.2.phase ≠ .fresh := by simp [h]
  have hover : p.2.phase ≠ .over := by simp [h]
  rw [nextChunk, Action.run_bind_ok (begin_again hbegun), Action.run_bind_ok (Action.run_gets ..)]
  simp only [id, if_neg hover, hsplit]
  rfl

theorem nextChunk_none (h : p.2.phase = .running) (hpending : p.2.pending = [])
    (hsplit : splitChunk p.1.chunks = none) : nextChunk g p = finish [] g p := by
  have hbegun : p.2.phase ≠ .fresh := by simp [h]
  have hover : p.2.phase ≠ .over := by simp [h]
  rw [nextChunk, Action.run_bind_ok (begin_again hbegun), Action.run_bind_ok (Action.run_gets ..)]
  simp only [id, if_neg hover, hsplit]
  obtain ⟨r, k⟩ := p
  have hempty : k = { k with pending := [] } := congrArg ({ k with pending := · }) hpending
  rw [hempty, finish, ending]
  cases hbreak : r.readFailure with
  | none => simp only [Action.run_bind, Action.run_modify, Action.run_gets, hbreak]
  | some f =>
      simp only [Action.run_bind, Action.run_modify, Action.run_gets, Action.run_raise, hbreak]

/-! ### Reading -/

theorem read_of_pending (n : Nat) (h : p.2.pending ≠ []) :
    read n g p =
      (.ok (p.2.pending.take n), (p.1, { p.2 with pending := p.2.pending.drop n })) := by
  have hpending : ¬ p.2.pending.isEmpty = true := by simpa using h
  rw [read, Action.run_bind_ok (Action.run_gets ..)]
  simp only [id, if_neg hpending]
  rfl

/-- A reader that has nothing pending fetches a chunk. -/
theorem read_of_empty (n : Nat) (h : p.2.pending = []) :
    read n g p =
      (do
        let chunk ← nextChunk
        .modify fun (r, k) => (r, { k with pending := chunk.drop n })
        pure (chunk.take n) : Action State Bytes) g p := by
  rw [read, Action.run_bind_ok (Action.run_gets ..)]
  simp only [id, h, List.isEmpty_nil, if_true]

/-- Where no chunk comes, nothing is read. -/
theorem read_of_nothing (n : Nat) (hp : p.2.pending = []) (hq : q.2.pending = [])
    (hnext : nextChunk g p = (.ok [], q)) : read n g p = (.ok [], q) := by
  obtain ⟨r, k⟩ := q
  have hempty : k = { k with pending := [] } := congrArg ({ k with pending := · }) hq
  rw [read_of_empty n hp, Action.run_bind_ok hnext, List.drop_nil, List.take_nil]
  exact congrArg (fun k => (Except.ok [], (r, k))) hempty.symm

theorem read_of_over (n : Nat) (h : p.2.phase = .over) (hpending : p.2.pending = []) :
    read n g p = (.ok [], p) :=
  read_of_nothing n hpending hpending (nextChunk_of_over h)

/-- Reading begins by itself. -/
theorem read_of_begin (n : Nat) (hp : p.2.pending = []) (hq : q.2.pending = [])
    (hbegin : begin g p = (.ok (), q)) (hphase : q.2.phase ≠ .fresh) :
    read n g p = read n g q := by
  rw [read_of_empty n hp, read_of_empty n hq]
  exact Action.run_bind_congr (nextChunk_of_begin hbegin hphase) _

/-- **A read before the end takes some bytes off what is left, one at least.** -/
theorem read_of_left {n : Nat} (hn : 0 < n) (hphase : p.2.phase = .running) (h : left p ≠ [])
    (g : Option Failure) :
    ∃ got q, read n g p = (.ok got, q) ∧ got ≠ [] ∧ got.length ≤ n ∧ left p = got ++ left q ∧
      frame q = frame p := by
  obtain ⟨r, k⟩ := p
  have htake {chunk : Bytes} (hchunk : chunk ≠ []) : chunk.take n ≠ [] := by
    have hlength := List.length_pos_iff.mpr hchunk
    rw [← List.length_pos_iff, List.length_take]
    omega
  by_cases hpending : k.pending = []
  · -- the next chunk that is not empty is fetched
    cases hsplit : splitChunk r.chunks with
    | none =>
        have hleft : left (r, k) = [] := by
          rw [left, hpending, flatten_of_splitChunk_none hsplit, List.nil_append]
        exact absurd hleft h
    | some split =>
        obtain ⟨c, rest⟩ := split
        refine ⟨c.take n, ({ r with chunks := rest }, { k with pending := c.drop n }), ?_,
          htake (nextChunk_ok_nonempty hsplit), List.length_take_le .., ?_, rfl⟩
        · rw [read_of_empty n hpending, Action.run_bind_ok (nextChunk_some hphase hsplit)]
          rfl
        · simp only [left, hpending, (flatten_of_splitChunk_some hsplit).1, List.nil_append]
          rw [← List.append_assoc, List.take_append_drop]
  · refine ⟨k.pending.take n, (r, { k with pending := k.pending.drop n }),
      read_of_pending n hpending, htake hpending, List.length_take_le .., ?_, rfl⟩
    simp only [left]
    rw [← List.append_assoc, List.take_append_drop]

/-- **A read at the end** brings nothing. -/
theorem read_of_end (n : Nat) (hphase : p.2.phase = .running) (h : left p = []) :
    read n g p = finish [] g p := by
  obtain ⟨hpending, hchunks⟩ := List.append_eq_nil_iff.mp h
  have hsplit : splitChunk p.1.chunks = none := by
    cases hsplit : splitChunk p.1.chunks with
    | none => rfl
    | some split =>
        have hc := nextChunk_ok_nonempty hsplit
        rw [(flatten_of_splitChunk_some hsplit).1, List.append_eq_nil_iff] at hchunks
        exact absurd hchunks.1 hc
  have hnext := nextChunk_none (g := g) hphase hpending hsplit
  obtain ⟨e, p', hend, -, hleft, -⟩ := ending_cases g p
  have hpending' : p'.2.pending = [] := (List.append_eq_nil_iff.mp hleft).1
  cases e with
  | error f =>
      have hfinish : finish ([] : Bytes) g p = (.error f, p') := Action.run_bind_error hend
      rw [hfinish] at hnext ⊢
      rw [read_of_empty n hpending, Action.run_bind_error hnext]
  | ok u =>
      have hfinish : finish ([] : Bytes) g p = (.ok [], p') := Action.run_bind_ok hend
      rw [hfinish] at hnext ⊢
      exact read_of_nothing n hpending hpending' hnext

/-! ### What has been delivered -/

/-- A reader that has delivered some bytes of a response.  It has not begun yet; or it is running,
and what is left follows what was delivered; or it is over, and all was delivered. -/
inductive Serving (r : Response) (got : Bytes) : State → Prop
  | fresh : got = [] → Serving r got (r, {})
  | running {p : State} :
      frame p = ({ r with chunks := [], consumed := true }, { phase := .running }) →
      got ++ left p = r.chunks.flatten → Serving r got p
  | done {p : State} :
      p.2.phase = .over → p.2.pending = [] → got = r.chunks.flatten → Serving r got p

namespace Serving

variable {r : Response} {got : Bytes}

/-- What was delivered stands at the beginning of the body. -/
theorem isPrefix (h : Serving r got p) : got <+: r.chunks.flatten := by
  cases h with
  | fresh hgot => exact hgot ▸ List.nil_prefix
  | running _ hleft => exact ⟨left p, hleft⟩
  | done _ _ hgot => exact hgot ▸ List.prefix_rfl

/-- What a read comes to: some bytes, which are none exactly if all was delivered; or a failure, and
then all was delivered, and the body breaks off or the response cannot be closed. -/
inductive Reads (r : Response) (got : Bytes) (n : Nat) : Except Failure Bytes × State → Prop
  | piece {piece : Bytes} {q : State} : piece.length ≤ n →
      (piece = [] ↔ got = r.chunks.flatten) → Serving r (got ++ piece) q →
      Reads r got n (.ok piece, q)
  | failed {f : Failure} {q : State} : got = r.chunks.flatten →
      (r.readFailure ≠ none ∨ r.closeFailure ≠ none) → Serving r got q →
      Reads r got n (.error f, q)

/-- A read of a reader that is running. -/
theorem read_of_running
    (hframe : frame p = ({ r with chunks := [], consumed := true }, { phase := .running }))
    (hleft : got ++ left p = r.chunks.flatten) {n : Nat} (hn : 0 < n) :
    Reads r got n (Reading.read n g p) := by
  have hphase : p.2.phase = .running := congrArg (fun x : State => x.2.phase) hframe
  by_cases hend : left p = []
  · have hgot : got = r.chunks.flatten := by rw [← hleft, hend, List.append_nil]
    obtain ⟨e, q, hending, hover, hnone, he⟩ := ending_cases g p
    have hserving : Serving r got q := .done hover (List.append_eq_nil_iff.mp hnone).1 hgot
    rw [read_of_end n hphase hend, finish]
    rcases he with rfl | ⟨f, rfl, hfails⟩
    · rw [Action.run_bind_ok hending]
      refine .piece (Nat.zero_le n) (iff_of_true rfl hgot) ?_
      rwa [List.append_nil]
    · have hread : p.1.readFailure = r.readFailure :=
        congrArg (fun x : State => x.1.readFailure) hframe
      have hclose : p.1.closeFailure = r.closeFailure :=
        congrArg (fun x : State => x.1.closeFailure) hframe
      rw [hread, hclose] at hfails
      rw [Action.run_bind_error hending]
      exact .failed hgot hfails hserving
  · obtain ⟨piece, q, hread, hpiece, hlength, hrest, hframe'⟩ := read_of_left hn hphase hend g
    have hgot : got ≠ r.chunks.flatten := by
      rw [← hleft]
      simpa using hend
    rw [hread]
    refine .piece hlength (iff_of_false hpiece hgot) (.running (hframe'.trans hframe) ?_)
    rw [List.append_assoc, ← hrest, hleft]

/-- **What a read comes to**, over a response that has neither been read nor closed. -/
theorem read (hunread : r.consumed = false) (hunclosed : r.closed = false) (h : Serving r got p)
    {n : Nat} (hn : 0 < n) (g : Option Failure) : Reads r got n (Reading.read n g p) := by
  cases h with
  | fresh hgot =>
      have hbegin : begin g (r, {}) =
          (.ok (), ({ r with consumed := true }, { phase := .running })) := by
        rcases begin_cases g (p := (r, {})) rfl with ⟨hused | hused, -⟩ | hbegin
        · exact absurd (hunread.symm.trans hused) Bool.false_ne_true
        · exact absurd (hunclosed.symm.trans hused) Bool.false_ne_true
        · exact hbegin r.chunks
      have hrunning : Phase.running ≠ .fresh := by decide
      rw [read_of_begin n rfl rfl hbegin hrunning]
      exact read_of_running rfl (by rw [hgot]; rfl) hn
  | running hframe hleft => exact read_of_running hframe hleft hn
  | done hover hpending hgot =>
      rw [read_of_over n hover hpending]
      refine .piece (Nat.zero_le n) (iff_of_true rfl hgot) ?_
      rw [List.append_nil]
      exact .done hover hpending hgot

/-- **A call fills a part of its buffer with the bytes that follow, and brings none exactly if all
was delivered.**  It fails only then, and only if the body breaks off or the response cannot be
closed. -/
theorem fill (hunread : r.consumed = false) (hunclosed : r.closed = false) (h : Serving r got p)
    {buffer : Bytes} (hbuffer : buffer ≠ []) (g : Option Failure) :
    (∃ piece q, source.fill buffer g p =
        (.ok (piece.length, piece ++ buffer.drop piece.length), q) ∧
      piece.length ≤ buffer.length ∧ (piece = [] ↔ got = r.chunks.flatten) ∧
      Serving r (got ++ piece) q) ∨
    ∃ f q, source.fill buffer g p = (.error f, q) ∧ got = r.chunks.flatten ∧
      (r.readFailure ≠ none ∨ r.closeFailure ≠ none) ∧ Serving r got q := by
  have hread := h.read hunread hunclosed (List.length_pos_iff.mpr hbuffer) g
  rcases hrun : Reading.read buffer.length g p with ⟨f | piece, q⟩
  · rw [hrun] at hread
    cases hread with
    | failed hgot hfails hq => exact .inr ⟨f, q, Source.fill_error hrun, hgot, hfails, hq⟩
  · rw [hrun] at hread
    cases hread with
    | piece hlength hnone hq => exact .inl ⟨piece, q, Source.fill_ok hrun, hlength, hnone, hq⟩

/-- **After any calls** the bytes that were delivered are known. -/
theorem fillAll (hunread : r.consumed = false) (hunclosed : r.closed = false)
    {buffers : List (Bytes × Option Failure)} (hbuffers : ∀ b ∈ buffers, b.1 ≠ [])
    (h : Serving r got p) :
    Serving r (got ++ (source.fillAll buffers p).1) (source.fillAll buffers p).2 := by
  induction buffers generalizing got p with
  | nil =>
      rw [Source.fillAll, List.append_nil]
      exact h
  | cons b rest ih =>
      obtain ⟨buffer, g⟩ := b
      have hrest : ∀ b ∈ rest, b.1 ≠ [] := fun b hb => hbuffers b (.tail _ hb)
      rcases h.fill hunread hunclosed (hbuffers _ (.head _)) g with
        ⟨piece, q, hfill, -, -, hq⟩ | ⟨f, q, hfill, -, -, hq⟩
      · rw [Source.fillAll_of_ok hfill, List.take_left, ← List.append_assoc]
        exact ih hrest hq
      · rw [Source.fillAll_of_error hfill]
        exact ih hrest hq

end Serving

end Wire.Reading

end ServiceClient
