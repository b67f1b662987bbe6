/-
**Reading a response to its end.**

A body that does not break off is read whole, however it was cut into chunks and wherever empty ones
stand.  Reading it to the end closes the response, so the streams over it can be closed as well.

Main definitions:

* `ServiceClient.Wire.Response.Closeable`: a response that can be closed;
* `ServiceClient.Wire.Reading.Ready`: a reader that can read on to the end;
* `ServiceClient.Wire.Session.nextStream`, `ServiceClient.Wire.Session.withStream`: the stream that
  a session hands out next, and the session with a state of it.

Main results:

* `ServiceClient.Wire.Reading.readAll_of_ready`: **all bytes of the body are read**;
* `ServiceClient.Wire.Reading.buffered_readAll`, `ServiceClient.Wire.Reading.buffered_close`: the
  same through a buffer, and closing it afterwards;
* `ServiceClient.Wire.Session.run_nextStream`: what a stream does in its session.
-/

import ServiceClient.Wire.Channel

set_option autoImplicit false

namespace ServiceClient.Wire

variable {α : Type}

/-- A response that can be closed: it is closed, or closing it does not fail. -/
def Response.Closeable (r : Response) : Prop :=
  r.closed = true ∨ r.closeFailure = none

theorem Response.close_ok {r : Response} (h : r.Closeable) :
    ∃ r', r'.Closeable ∧ ∀ g, close g r = (.ok (), r') := by
  by_cases hclosed : r.closed = true
  · exact ⟨r, h, fun g => by simp [close, Action.run_bind, hclosed]⟩
  · have hcloseable : r.closeFailure = none := h.resolve_left hclosed
    refine ⟨{ r with closed := true }, .inl rfl, fun g => ?_⟩
    simp [close, Action.run_bind, Action.strike, hclosed, hcloseable]

namespace Reading

/-! ### Chunks -/

theorem flatten_of_splitChunk_none {chunks : List Bytes} (h : splitChunk chunks = none) :
    chunks.flatten = [] := by
  induction chunks with
  | nil => rfl
  | cons c rest ih =>
      by_cases hc : c.isEmpty
      · rw [splitChunk, if_pos hc] at h
        rw [List.flatten_cons, List.isEmpty_iff.mp hc, ih h, List.nil_append]
      · rw [splitChunk, if_neg hc] at h
        cases h

theorem flatten_of_splitChunk_some {chunks rest : List Bytes} {c : Bytes}
    (h : splitChunk chunks = some (c, rest)) :
    chunks.flatten = c ++ rest.flatten ∧ rest.length < chunks.length := by
  induction chunks with
  | nil => cases h
  | cons d ds ih =>
      by_cases hd : d.isEmpty
      · rw [splitChunk, if_pos hd] at h
        obtain ⟨hflatten, hlength⟩ := ih h
        refine ⟨?_, Nat.lt_succ_of_lt hlength⟩
        rw [List.flatten_cons, List.isEmpty_iff.mp hd, hflatten, List.nil_append]
      · rw [splitChunk, if_neg hd] at h
        cases h
        exact ⟨List.flatten_cons, Nat.lt_succ_self _⟩

/-! ### Readers -/

/-- A reader that can read on to the end: the response is open to it, its body does not break off,
and it can be closed. -/
structure Ready (p : State) : Prop where
  phase : p.2.phase = .running ∨ p.2.phase = .fresh ∧ p.1.consumed = false
  unclosed : p.1.closed = false
  unbroken : p.1.readFailure = none
  closeable : p.1.closeFailure = none

section

variable {p : State} (g : Option Failure)

/-- A reader that may begin is running then, and nothing is lost. -/
theorem begin_eq (hphase : p.2.phase = .running ∨ p.2.phase = .fresh ∧ p.1.consumed = false)
    (hunclosed : p.1.closed = false) :
    ∃ consumed, begin g p = (.ok (), ({ p.1 with consumed }, { p.2 with phase := .running })) := by
  obtain ⟨r, k⟩ := p
  rcases hphase with hrunning | ⟨hfresh, hconsumed⟩
  · obtain ⟨_, pending, closed⟩ := k
    obtain rfl : _ = Phase.running := hrunning
    exact ⟨r.consumed, by simp [begin, Action.run_bind]⟩
  · dsimp only at hfresh hconsumed hunclosed
    exact ⟨true, by simp [begin, Action.run_bind, hfresh, hconsumed, hunclosed]⟩

/-- A reader that is ready is running once it has begun, and nothing is lost. -/
theorem begin_of_ready (h : Ready p) :
    ∃ r k, begin g p = (.ok (), (r, k)) ∧ Ready (r, k) ∧ k.phase = .running ∧
      r.chunks = p.1.chunks ∧ k.closed = p.2.closed := by
  obtain ⟨consumed, hbegin⟩ := begin_eq g h.phase h.unclosed
  exact ⟨_, _, hbegin, ⟨.inl rfl, h.unclosed, h.unbroken, h.closeable⟩, rfl, rfl, rfl⟩

/-- A chunk is fetched, and the reader stays ready. -/
theorem nextChunk_of_some (h : Ready p) {c : Bytes} {rest : List Bytes}
    (hsplit : splitChunk p.1.chunks = some (c, rest)) :
    ∃ q, nextChunk g p = (.ok c, q) ∧ Ready q ∧ q.1.chunks = rest ∧ q.2.closed = p.2.closed := by
  obtain ⟨r, k, hbegin, hready, hphase, hchunks, hclosed⟩ := begin_of_ready g h
  refine ⟨({ r with chunks := rest }, k), ?_,
    ⟨hready.phase, hready.unclosed, hready.unbroken, hready.closeable⟩, rfl, hclosed⟩
  have hover : ¬ k.phase = .over := by rw [hphase]; decide
  rw [nextChunk, Action.run_bind_ok hbegin, Action.run_bind_ok (Action.run_gets ..)]
  simp only [id, if_neg hover, hchunks, hsplit]
  rfl

/-- At the end of the body the response is closed. -/
theorem nextChunk_of_none (h : Ready p) (hsplit : splitChunk p.1.chunks = none) :
    ∃ q, nextChunk g p = (.ok [], q) ∧ q.1.closed = true ∧ q.2.closed = p.2.closed := by
  obtain ⟨r, k, hbegin, hready, hphase, hchunks, hclosed⟩ := begin_of_ready g h
  refine ⟨({ r with chunks := [], closed := true }, { k with phase := .over }), ?_, rfl, hclosed⟩
  have hover : ¬ k.phase = .over := by rw [hphase]; decide
  have hunbroken : r.readFailure = none := hready.unbroken
  have hunclosed : r.closed = false := hready.unclosed
  have hcloseable : r.closeFailure = none := hready.closeable
  rw [nextChunk, Action.run_bind_ok hbegin, Action.run_bind_ok (Action.run_gets ..)]
  simp only [id, if_neg hover, hchunks, hsplit, hunbroken]
  simp [Action.run_bind, Action.within, Response.close, Action.strike, Part.first, hunclosed,
    hcloseable, hunbroken]

/-- Chunks are fetched until there is none. -/
theorem go_of_ready (fuel : Nat) (h : Ready p) (hfuel : p.1.chunks.length < fuel) :
    ∃ q, readAll.go fuel g p = (.ok p.1.chunks.flatten, q) ∧ q.1.closed = true ∧
      q.2.closed = p.2.closed := by
  -- by induction on the fuel: each chunk that is fetched leaves fewer of them
  induction fuel generalizing p with
  | zero => exact absurd hfuel (Nat.not_lt_zero _)
  | succ fuel ih =>
      cases hsplit : splitChunk p.1.chunks with
      | none =>
          obtain ⟨q, hnext, hend⟩ := nextChunk_of_none g h hsplit
          refine ⟨q, ?_, hend⟩
          rw [readAll.go, Action.run_bind_ok hnext, flatten_of_splitChunk_none hsplit]
          rfl
      | some split =>
          obtain ⟨c, rest⟩ := split
          obtain ⟨hflatten, hlength⟩ := flatten_of_splitChunk_some hsplit
          obtain ⟨q, hnext, hready, hrest, hclosed⟩ := nextChunk_of_some g h hsplit
          obtain ⟨q', hgo, hend, hclosed'⟩ := ih hready (by rw [hrest]; omega)
          have hc : ¬ c.isEmpty = true := by simpa using nextChunk_ok_nonempty hsplit
          refine ⟨q', ?_, hend, hclosed'.trans hclosed⟩
          rw [readAll.go, Action.run_bind_ok hnext, if_neg hc, Action.run_bind_ok hgo, hflatten,
            hrest]
          rfl

/-- **All bytes of the body are read**, and the response is closed then. -/
theorem readAll_of_ready (h : Ready p) :
    ∃ q, readAll g p = (.ok (p.2.pending ++ p.1.chunks.flatten), q) ∧ q.1.closed = true ∧
      q.2.closed = p.2.closed := by
  obtain ⟨r, k⟩ := p
  have hready : Ready (r, { k with pending := [] }) :=
    ⟨h.phase, h.unclosed, h.unbroken, h.closeable⟩
  obtain ⟨q, hgo, hend⟩ := go_of_ready g (r.chunks.length + 1) hready (Nat.lt_succ_self _)
  refine ⟨q, ?_, hend⟩
  simp only [readAll, Action.run_bind, Action.run_gets, Action.run_modify, id]
  rw [hgo]
  rfl

/-! ### Through a buffer -/

variable (name : String)

/-- A new buffered reader brings all bytes of the body. -/
theorem buffered_readAll (h : Ready p) (hopen : p.2.closed = false) :
    ∃ x, (source.buffered name).readAll g (default, p) =
        (.ok (p.2.pending ++ p.1.chunks.flatten), x) ∧ x.2.1.closed = true := by
  obtain ⟨q, hread, hend, -⟩ := readAll_of_ready g h
  have hwithin : (source.readAll.within .second) g ((default : Buffer), p) =
      (.ok (p.2.pending ++ p.1.chunks.flatten), (default, q)) := by
    simp only [Action.within, Part.second, source, hread]
  have hdemand : source.demandOpen g ((default : Buffer), p) = (.ok (), (default, p)) := by
    rw [Source.demandOpen, Action.run_bind_ok (Action.run_gets ..)]
    simp only [source, hopen]
    rfl
  refine ⟨(default, q), ?_, hend⟩
  simp only [Source.buffered, Source.buffered.peek, Source.buffered.fill]
  rw [Action.run_bind_ok hdemand, Action.run_bind_ok (Action.run_gets ..),
    Action.run_bind_ok (Action.run_modify ..)]
  exact Action.run_bind_ok hwithin

/-- A buffered reader over a response that can be closed can be closed. -/
theorem buffered_close {x : Buffer × State} (h : x.2.1.Closeable) :
    ∃ y, y.2.1.Closeable ∧ ∀ g, (source.buffered name).close g x = (.ok (), y) := by
  obtain ⟨b, r, k⟩ := x
  obtain ⟨r', hr', hclose⟩ := Response.close_ok h
  by_cases hk : k.closed
  · refine ⟨(b, r, k), h, fun g => ?_⟩
    simp [Source.buffered, source, Action.run_bind, hk]
  · refine ⟨({ bytes := [], released := true }, r', { k with closed := true }), hr', fun g => ?_⟩
    simp [Source.buffered, source, Reading.close, hclose, Action.run_bind, Action.within,
      Action.ensure, Part.second, Part.first, hk]

end

end Reading

/-! ### Streams of a session -/

namespace Session

def nextStream (s : Session) : Source Session :=
  ((Reading.source.buffered Channel.streamName).within
    (Channel.streamPart s.channel.streams.length)).within channelPart

/-- A session after it has handed out a stream, in a state of the stream. -/
def withStream (s : Session) (x : Buffer × Reading.State) : Session :=
  { s with
    channel :=
      { s.channel with response := some x.2.1, streams := s.channel.streams ++ [(x.1, x.2.2)] } }

variable {s : Session} {g : Option Failure}

/-- The stream is handed out over the response that has come. -/
theorem run_openStream {response : Response} (h : s.channel.response = some response) :
    (do pure (some ((← Channel.openStream.within channelPart).within channelPart)) :
        Action Session (Option (Source Session))) g s =
      (.ok (some s.nextStream), s.withStream (default, response, default)) := by
  obtain ⟨⟨url, proxyUrl, method, outputEnabled, headers, body, _, streams, disconnected, closings⟩,
    service, log⟩ := s
  obtain rfl : _ = some response := h
  rfl

/-- **What a stream does in its session** is what it does by itself. -/
theorem run_nextStream {m : Action (Buffer × Reading.State) α} {x x' : Buffer × Reading.State}
    {result : Except Failure α} (h : m g x = (result, x')) :
    ((m.within (Channel.streamPart s.channel.streams.length)).within channelPart) g
        (s.withStream x) = (result, s.withStream x') := by
  have hget : (Channel.streamPart s.channel.streams.length).get (s.withStream x).channel = x := by
    simp [Channel.streamPart, withStream]
  have hset : (Channel.streamPart s.channel.streams.length).set x' (s.withStream x).channel =
      (s.withStream x').channel := by
    simp [Channel.streamPart, withStream]
  simp only [Action.within, channelPart, hget, h, hset]
  rfl

end Session

end ServiceClient.Wire
