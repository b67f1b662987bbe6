/-
**A buffer over the reader of a response.**

What a buffer holds and what the reader under it can still bring make one list of bytes.  A read
through the buffer takes off its beginning what it asks for, if that is there, and it does not look
beyond; otherwise it reads to the end of the body, and gives everything or fails as the end does.
Which it is, and what it gives, depends on that list only.  So two streams whose lists are the same
cannot be told apart by reading, wherever the bytes are cut between the buffer, the reader and the
chunks.  Closing looks at no byte at all.

Main definitions:

* `ServiceClient.Wire.Reading.rest`, `ServiceClient.Wire.Reading.blank`: the bytes that a buffered
  stream can still give, and everything else;
* `ServiceClient.Wire.Reading.Draw`: how a read takes bytes off;
* `ServiceClient.Wire.Reading.Cut`: streams that differ in where their bytes are cut.

Main results:

* `ServiceClient.Wire.Reading.Draw.Sound.alike`: **a read cannot tell where the bytes are cut**;
* `ServiceClient.Wire.Reading.buffered_cut`: the same for all reads of a buffered stream;
* `ServiceClient.Wire.Reading.buffered_framed`: closing it looks at no byte.
-/

import ServiceClient.Proofs.Stream.Uses
import ServiceClient.Proofs.Wire.Gathering

set_option autoImplicit false

namespace ServiceClient

open ServiceClient.Action (Alike EndsAlike)

/-! ### Responses -/

namespace Wire.Response

/-- Responses that agree in everything but their chunks; these are related. -/
inductive Agree (C : List Bytes → List Bytes → Prop) (r : Response) : Response → Prop
  | of {chunks : List Bytes} : C r.chunks chunks → Agree C r { r with chunks }

/-- Closing a response looks at no chunk, and keeps them. -/
theorem close_alike (C : List Bytes → List Bytes → Prop) : Alike (Agree C) Eq close close := by
  refine Alike.bind (R := Eq) (.gets ?_) ?_
  · rintro r _ ⟨h⟩
    rfl
  · rintro closed _ rfl
    refine .ite Iff.rfl (fun _ => .pure rfl) fun _ => ?_
    refine Alike.bind (R := Eq) (.modify ?_) fun _ _ _ => .strike ?_ ?_
    · rintro r _ ⟨h⟩
      exact .of h
    · rintro r _ ⟨h⟩
      rfl
    · rintro f r _ ⟨h⟩
      exact .of h

end Wire.Response

namespace Wire.Reading

open Source (Asks gather gatherLine wholeBlocks beyondBlock)

variable {α : Type} {g : Option Failure}

/-! ### What is left, and everything else -/

/-- The bytes that a buffered stream can still give. -/
def rest (x : Buffer × State) : Bytes :=
  x.1.bytes ++ left x.2

/-- A buffered stream without its bytes. -/
def blank (x : Buffer × State) : Buffer × State :=
  ({ x.1 with bytes := [] }, frame x.2)

/-- A read is refused: the stream is closed. -/
def Shut (x : Buffer × State) : Prop :=
  x.1.released = true ∨ x.2.2.closed = true

/-- Unless the reader is running no byte has been fetched that was not given. -/
def Settled (x : Buffer × State) : Prop :=
  x.2.2.phase = .running ∨ x.1.bytes = [] ∧ x.2.2.pending = []

/-- Two streams that differ in where their bytes are cut: into those of the buffer, those of the
reader, and the chunks. -/
structure Cut (x y : Buffer × State) : Prop where
  blank_eq : blank x = blank y
  rest_eq : rest x = rest y
  left_settled : Settled x
  right_settled : Settled y

namespace Cut

variable {x y : Buffer × State}

theorem refl (h : Settled x) : Cut x x :=
  ⟨rfl, rfl, h, h⟩

theorem shut_iff (h : Cut x y) : Shut x ↔ Shut y := by
  have hreleased := congrArg (fun z : Buffer × State => z.1.released) h.blank_eq
  have hclosed := congrArg (fun z : Buffer × State => z.2.2.closed) h.blank_eq
  exact or_congr (iff_of_eq (congrArg (· = true) hreleased))
    (iff_of_eq (congrArg (· = true) hclosed))

/-- Where nothing has been fetched that was not given, only the chunks differ. -/
theorem eq_of_empty (h : Cut x y) (hx : x.1.bytes = [] ∧ x.2.2.pending = [])
    (hy : y.1.bytes = [] ∧ y.2.2.pending = []) :
    ∃ chunks, chunks.flatten = x.2.1.chunks.flatten ∧
      y = (x.1, ({ x.2.1 with chunks }, x.2.2)) := by
  obtain ⟨⟨bytes, released⟩, r, ⟨phase, pending, closed⟩⟩ := x
  obtain ⟨⟨bytes', released'⟩, r', ⟨phase', pending', closed'⟩⟩ := y
  obtain ⟨rfl, rfl⟩ : bytes = [] ∧ pending = [] := hx
  obtain ⟨rfl, rfl⟩ : bytes' = [] ∧ pending' = [] := hy
  have hr := congrArg (fun z : Buffer × State => { z.2.1 with chunks := r'.chunks }) h.blank_eq
  have hreader := congrArg (fun z : Buffer × State => (z.1, z.2.2)) h.blank_eq
  simp only [blank, frame, Prod.mk.injEq] at hr hreader
  obtain ⟨hbuffer, hreading⟩ := hreader
  refine ⟨r'.chunks, h.rest_eq.symm, ?_⟩
  rw [hr, hbuffer, hreading]

/-- The same reader over chunks of the same bytes. -/
theorem of_chunks {b : Buffer} {r : Response} {k : Reading} {chunks : List Bytes}
    (h : chunks.flatten = r.chunks.flatten) (hbytes : b.bytes = []) (hpending : k.pending = []) :
    Cut (b, (r, k)) (b, ({ r with chunks }, k)) where
  blank_eq := rfl
  rest_eq := by simp only [rest, left, h]
  left_settled := .inr ⟨hbytes, hpending⟩
  right_settled := .inr ⟨hbytes, hpending⟩

end Cut

/-! ### How bytes are drawn -/

/-- How a read takes bytes off: what it gives and what it keeps of some bytes, unless they do not
suffice; then it fetches more. -/
structure Draw where
  take : Bytes → Option (Bytes × Bytes)
  fetch (held : Bytes) : Action State (Bytes × Bytes)

namespace Draw

/-- A read that takes its bytes off in such a way. -/
def read (d : Draw) : Action (Buffer × State) Bytes := do
  source.demandOpen
  let held ← Source.buffered.peek
  match d.take held with
  | some (given, kept) =>
      Source.buffered.fill kept
      pure given
  | none =>
      Source.buffered.fill []
      let (given, kept) ← (d.fetch held).within .second
      Source.buffered.fill kept
      pure given

def sized (direct : Nat → Option Nat) (n : Nat) : Draw where
  take bytes := if n ≤ bytes.length then some (bytes.take n, bytes.drop n) else none
  fetch held := do
    let got ← gather direct source (n - held.length) (n - held.length) 0
    pure (held ++ got.take (n - held.length), got.drop (n - held.length))

def line : Draw where
  take := splitLine?
  fetch held := do
    let left ← Action.gets extent
    let (line, kept) ← gatherLine source (left + 1)
    pure (held ++ line, kept)

/-- A read to the end. -/
def all : Draw where
  take _ := none
  fetch held := do
    let rest ← readAll
    pure (held ++ rest, [])

/-- What is fetched is given and kept in the end, whatever form it comes in. -/
theorem fetched_eq {α : Type} (m : Action State α) (into : α → Bytes × Bytes) :
    (do
      let (given, kept) ← (do pure (into (← m)) : Action State (Bytes × Bytes)).within .second
      Source.buffered.fill kept
      pure given : Action (Buffer × State) Bytes) =
    (do
      let a ← m.within .second
      Source.buffered.fill (into a).2
      pure (into a).1) := by
  funext g x
  simp only [Action.run_bind, Action.within]
  generalize m g (Part.second.get x) = y
  obtain ⟨f | a, p⟩ := y
  · rfl
  · rfl

theorem read_sized (direct : Nat → Option Nat) (n : Nat) :
    Source.buffered.take direct source n = (sized direct n).read := by
  refine congrArg (source.demandOpen >>= ·) (funext fun _ => ?_)
  refine congrArg (Source.buffered.peek >>= ·) (funext fun held => ?_)
  by_cases hheld : n ≤ held.length
  · simp only [sized, if_pos hheld]
  · simp only [sized, if_neg hheld]
    refine congrArg (Source.buffered.fill [] >>= ·) (funext fun _ => ?_)
    exact (fetched_eq _ fun got : Bytes =>
      (held ++ got.take (n - held.length), got.drop (n - held.length))).symm

theorem read_all (name : String) : (source.buffered name).readAll = all.read := by
  refine congrArg (source.demandOpen >>= ·) (funext fun _ => ?_)
  refine congrArg (Source.buffered.peek >>= ·) (funext fun held => ?_)
  funext g x
  -- nothing is kept, and the buffer was emptied before
  have hsource : source.readAll = readAll := rfl
  simp only [all, hsource, Action.run_bind, Action.within, Source.buffered.fill, Action.run_modify,
    Part.second]
  generalize readAll g x.2 = y
  obtain ⟨f | bytes, q⟩ := y
  · rfl
  · rfl

theorem read_line (name : String) : (source.buffered name).readLine = line.read := by
  refine congrArg (source.demandOpen >>= ·) (funext fun _ => ?_)
  refine congrArg (Source.buffered.peek >>= ·) (funext fun held => ?_)
  cases hsplit : splitLine? held with
  | some split => simp only [line, hsplit]
  | none =>
      simp only [line, hsplit]
      refine congrArg (Source.buffered.fill [] >>= ·) (funext fun _ => ?_)
      funext g x
      exact congrFun (congrFun (fetched_eq (gatherLine source (extent x.2 + 1)) fun split =>
        (held ++ split.1, split.2)).symm g) x

/-! ### What all reads have in common -/

/-- A read takes its bytes off what is left, wherever the bytes are cut. -/
structure Sound (d : Draw) : Prop where
  /-- No byte is lost. -/
  whole {bytes given kept : Bytes} : d.take bytes = some (given, kept) → given ++ kept = bytes
  /-- Bytes that come later are kept. -/
  append {bytes given kept : Bytes} : d.take bytes = some (given, kept) →
    ∀ more, d.take (bytes ++ more) = some (given, kept ++ more)
  /-- Enough is fetched, or there is not enough, and the end is reached with all bytes. -/
  reach {held : Bytes} {p : State} (g : Option Failure) : d.take held = none →
    p.2.phase = .running →
    (∃ given kept q, d.fetch held g p = (.ok (given, kept), q) ∧
        d.take (held ++ left p) = some (given, kept ++ left q) ∧ frame q = frame p) ∨
      d.take (held ++ left p) = none ∧ d.fetch held g p = finish (held ++ left p, []) g p
  begins {p : State} : d.take [] = none → p.2.pending = [] → Begins (d.fetch []) p
  ended {p : State} (g : Option Failure) : p.2.phase = .over → p.2.pending = [] →
    d.fetch [] g p = (.ok ([], []), p)

theorem take_sized_some {direct : Nat → Option Nat} {n : Nat} {bytes given kept : Bytes} :
    (sized direct n).take bytes = some (given, kept) ↔
      n ≤ bytes.length ∧ bytes.take n = given ∧ bytes.drop n = kept := by
  simp only [sized, Option.ite_none_right_eq_some, Option.some.injEq, Prod.mk.injEq]

theorem take_sized_none {direct : Nat → Option Nat} {n : Nat} {bytes : Bytes} :
    (sized direct n).take bytes = none ↔ bytes.length < n := by
  simp only [sized, ite_eq_right_iff, reduceCtorEq, imp_false, Nat.not_le]

theorem sized_sound {direct : Nat → Option Nat} (h : Asks direct) (n : Nat) :
    (sized direct n).Sound where
  whole htake := by
    obtain ⟨-, rfl, rfl⟩ := take_sized_some.mp htake
    exact List.take_append_drop ..
  append htake more := by
    obtain ⟨hn, rfl, rfl⟩ := take_sized_some.mp htake
    refine take_sized_some.mpr ⟨?_, ?_, ?_⟩
    · rw [List.length_append]
      omega
    · exact List.take_append_of_le_length hn
    · exact List.drop_append_of_le_length hn
  reach {held p} g htake hphase := by
    have hheld := Nat.le_of_lt (take_sized_none.mp htake)
    rcases gather_cases (g := g) h (n - held.length) (Nat.le_refl _) (.inl rfl) hphase with
      ⟨got, q, hrun, henough, hleft, hframe⟩ | ⟨hfew, hrun⟩
    · refine .inl ⟨_, _, q, Action.run_bind_ok hrun, take_sized_some.mpr ⟨?_, ?_, ?_⟩, hframe⟩
      · rw [hleft, List.length_append, List.length_append]
        omega
      · rw [hleft, List.take_append, List.take_of_length_le hheld,
          List.take_append_of_le_length henough]
      · rw [hleft, List.drop_append, List.drop_of_length_le hheld,
          List.drop_append_of_le_length henough, List.nil_append]
    · refine .inr ⟨take_sized_none.mpr ?_, ?_⟩
      · rw [List.length_append]
        omega
      · have hall := Nat.le_of_lt hfew
        refine (Action.run_bind_congr hrun _).trans ?_
        rw [finish_bind, List.take_of_length_le hall, List.drop_of_length_le hall]
        rfl
  begins {p} htake hpending := by
    have hn : 0 < n - ([] : Bytes).length := take_sized_none.mp htake
    exact (gather_begins hn hpending).bind _
  ended {p} g hover hpending := by
    refine (Action.run_bind_ok (gather_of_over hover hpending direct _ _ _)).trans ?_
    rw [List.take_nil, List.drop_nil]
    rfl

theorem line_sound : line.Sound where
  whole := splitLine?_append
  append htake more := splitLine?_append_of_some htake more
  reach {held p} g htake hphase := by
    have htake' : splitLine? held = none := htake
    have hextent : (left p).length < extent p + 1 := by
      rw [left, List.length_append]
      exact Nat.lt_succ_self _
    have hall : line.take (held ++ left p) =
        (splitLine? (left p)).map fun s => (held ++ s.1, s.2) :=
      splitLine?_append_of_none htake' (left p)
    have hfetch : line.fetch held g p =
        (do
          let (line, kept) ← gatherLine source (extent p + 1)
          pure (held ++ line, kept) : Action State (Bytes × Bytes)) g p := rfl
    rw [hall, hfetch]
    rcases gatherLine_cases (g := g) (extent p + 1) hextent hphase with
      ⟨line, kept, q, hrun, hline, hframe⟩ | ⟨hnone, hrun⟩
    · exact .inl ⟨_, _, q, Action.run_bind_ok hrun, by rw [hline]; rfl, hframe⟩
    · refine .inr ⟨by rw [hnone]; rfl, ?_⟩
      rw [Action.run_bind_congr hrun, finish_bind]
      rfl
  begins {p} _ hpending := by
    have hbegins := (gatherLine_begins (extent p) hpending).bind fun split =>
      pure ([] ++ split.1, split.2)
    refine hbegins.congr (fun _ => rfl) fun g q hbegin => ?_
    obtain ⟨-, hpending', hchunks, -⟩ := begin_ends hbegin
    have hextent : extent q = extent p := by
      change q.2.pending.length + q.1.chunks.flatten.length = _
      rw [hpending', hchunks]
      rfl
    rw [← hextent]
    rfl
  ended {p} g hover hpending :=
    Action.run_bind_ok (gatherLine_of_over hover hpending (extent p + 1))

theorem all_sound : all.Sound where
  whole htake := by cases htake
  append htake := by cases htake
  reach {held p} g _ hphase := by
    refine .inr ⟨rfl, ?_⟩
    refine (Action.run_bind_congr (readAll_of_running hphase) _).trans ?_
    exact finish_bind _ _
  begins _ hpending := (readAll_begins hpending).bind _
  ended g hover hpending := Action.run_bind_ok (readAll_of_over hover hpending)

/-! ### One read -/

section Runs

variable {d : Draw} {x y : Buffer × State}

theorem run_peek (x : Buffer × State) :
    Source.buffered.peek g x = (.ok x.1.bytes, x) := rfl

theorem run_fill (bytes : Bytes) (x : Buffer × State) :
    Source.buffered.fill bytes g x = (.ok (), ({ x.1 with bytes }, x.2)) := rfl

theorem run_second {m : Action State α} {e : Except Failure α} {p q : State} (h : m g p = (e, q))
    (b : Buffer) : (m.within .second) g (b, p) = (e, (b, q)) := by
  simp only [Action.within, Part.second, h]

theorem demandOpen_of_open (h : ¬ Shut x) : source.demandOpen g x = (.ok (), x) := by
  have hopen : ¬ (x.1.released || source.isClosed x.2) = true := by
    rw [Bool.or_eq_true]
    exact h
  rw [Source.demandOpen, Action.run_bind_ok (Action.run_gets ..), if_neg hopen]
  rfl

theorem read_of_shut (h : Shut x) : d.read g x = (.error (closedStream.raisedDuring g), x) := by
  have hshut : (x.1.released || source.isClosed x.2) = true := by
    rw [Bool.or_eq_true]
    exact h
  exact Action.run_bind_error (Source.demandOpen_of_closed hshut g)

/-- What is held suffices. -/
theorem read_of_held (h : ¬ Shut x) {given kept : Bytes}
    (htake : d.take x.1.bytes = some (given, kept)) :
    d.read g x = (.ok given, ({ x.1 with bytes := kept }, x.2)) := by
  rw [read, Action.run_bind_ok (demandOpen_of_open h), Action.run_bind_ok (run_peek x)]
  simp only [htake]
  rfl

/-- What is held does not suffice. -/
theorem read_of_fetch (h : ¬ Shut x) (htake : d.take x.1.bytes = none) :
    d.read g x =
      match d.fetch x.1.bytes g x.2 with
      | (.ok (given, kept), q) => (.ok given, ({ x.1 with bytes := kept }, q))
      | (.error f, q) => (.error f, ({ x.1 with bytes := [] }, q)) := by
  rw [read, Action.run_bind_ok (demandOpen_of_open h), Action.run_bind_ok (run_peek x)]
  simp only [htake]
  rw [Action.run_bind_ok (run_fill [] x)]
  rcases hfetch : d.fetch x.1.bytes g x.2 with ⟨f | fetched, q⟩
  · exact Action.run_bind_error (run_second hfetch _)
  · exact Action.run_bind_ok (run_second hfetch _)

/-- **A read of a reader that is running**: it takes its bytes off the beginning of what is left, or
it reads to the end. -/
theorem Sound.read_cases (hd : d.Sound) (h : ¬ Shut x) (hphase : x.2.2.phase = .running)
    (g : Option Failure) :
    (∃ given kept y, d.take (rest x) = some (given, kept) ∧ d.read g x = (.ok given, y) ∧
        blank y = blank x ∧ rest y = kept) ∨
      d.take (rest x) = none ∧ d.read g x =
        ((ending g x.2).1.map fun _ => rest x, ({ x.1 with bytes := [] }, (ending g x.2).2)) := by
  cases htake : d.take x.1.bytes with
  | some taken =>
      obtain ⟨given, kept⟩ := taken
      exact .inl ⟨given, kept ++ left x.2, _, hd.append htake _, read_of_held h htake, rfl, rfl⟩
  | none =>
      rw [read_of_fetch h htake]
      rcases hd.reach g htake hphase with ⟨given, kept, q, hrun, hall, hframe⟩ | ⟨hnone, hrun⟩
      · rw [hrun]
        refine .inl ⟨given, kept ++ left q, _, hall, rfl, ?_, rfl⟩
        simp only [blank, hframe]
      · refine .inr ⟨hnone, ?_⟩
        rw [hrun, finish, Action.run_bind]
        generalize ending g x.2 = z
        obtain ⟨f | u, q⟩ := z
        · rfl
        · rfl

/-- A reader that has not begun is refused or begins, before a read that needs it. -/
theorem Sound.read_begin (hd : d.Sound) (h : ¬ Shut x) (htake : d.take [] = none)
    (hbytes : x.1.bytes = []) (hpending : x.2.2.pending = []) (g : Option Failure) :
    (∀ f q, begin g x.2 = (.error f, q) → d.read g x = (.error f, (x.1, q))) ∧
      ∀ q, begin g x.2 = (.ok (), q) → d.read g x = d.read g (x.1, q) := by
  obtain ⟨⟨bytes, released⟩, p⟩ := x
  obtain rfl : bytes = [] := hbytes
  have hbegins := hd.begins htake hpending g
  constructor
  · intro f q hbegin
    rw [read_of_fetch h htake, hbegins, Action.run_bind_error hbegin]
  · intro q hbegin
    have hopen : ¬ Shut (({ released } : Buffer), q) := by
      rintro (hreleased | hclosed)
      · exact h (.inl hreleased)
      · exact h (.inr ((begin_ends hbegin).2.2.2.symm.trans hclosed))
    rw [read_of_fetch h htake, read_of_fetch hopen htake, hbegins, Action.run_bind_ok hbegin]

/-- A read of a reader that is over gives nothing and changes nothing. -/
theorem Sound.read_of_over (hd : d.Sound) (h : ¬ Shut x) (hphase : x.2.2.phase = .over)
    (hbytes : x.1.bytes = []) (hpending : x.2.2.pending = []) : d.read g x = (.ok [], x) := by
  obtain ⟨⟨bytes, released⟩, p⟩ := x
  obtain rfl : bytes = [] := hbytes
  cases htake : d.take [] with
  | some taken =>
      obtain ⟨given, kept⟩ := taken
      obtain ⟨rfl, rfl⟩ := List.append_eq_nil_iff.mp (hd.whole htake)
      exact read_of_held h htake
  | none => rw [read_of_fetch h htake, hd.ended g hphase hpending]

/-! ### Reads that cannot tell where the bytes are cut -/

/-- Where the reader is running, a read cannot tell where the bytes are cut. -/
theorem Sound.alike_of_running (hd : d.Sound) (hopen : ¬ Shut x) (hphase : x.2.2.phase = .running)
    (h : Cut x y) (g : Option Failure) : EndsAlike Cut Eq (d.read g x) (d.read g y) := by
  have hframe : frame x.2 = frame y.2 := congrArg Prod.snd h.blank_eq
  have hphase' : y.2.2.phase = .running := (phase_of_frame hframe).symm.trans hphase
  have hopen' : ¬ Shut y := fun hshut => hopen (h.shut_iff.mpr hshut)
  rcases hd.read_cases hopen hphase g with
      ⟨given, kept, x', htake, hread, hblank, hrest⟩ | ⟨htake, hread⟩
  · rcases hd.read_cases hopen' hphase' g with
        ⟨given', kept', y', htake', hread', hblank', hrest'⟩ | ⟨htake', -⟩
    · rw [← h.rest_eq, htake] at htake'
      cases htake'
      have hrunning {z z' : Buffer × State} (hz : blank z' = blank z)
          (hphase : z.2.2.phase = .running) : Settled z' :=
        .inl ((phase_of_frame (congrArg Prod.snd hz)).trans hphase)
      rw [hread, hread']
      exact .ok rfl ⟨hblank.trans (h.blank_eq.trans hblank'.symm), hrest.trans hrest'.symm,
        hrunning hblank hphase, hrunning hblank' hphase'⟩
    · rw [← h.rest_eq, htake] at htake'
      cases htake'
  · rcases hd.read_cases hopen' hphase' g with
        ⟨given', kept', y', htake', -, -, -⟩ | ⟨-, hread'⟩
    · rw [← h.rest_eq, htake] at htake'
      cases htake'
    · -- the end is the same one, and it leaves no byte
      have hbuffer : ({ x.1 with bytes := [] } : Buffer) = { y.1 with bytes := [] } :=
        congrArg Prod.fst h.blank_eq
      rw [hread, hread', ← h.rest_eq, ← hbuffer, ← ending_congr hframe]
      obtain ⟨e, p, hend, -, hleft, -⟩ := ending_cases g x.2
      rw [hend]
      exact .of_eq rfl (Cut.refl (.inr ⟨rfl, (List.append_eq_nil_iff.mp hleft).1⟩))

/-- Where the reader has not begun, a read cannot tell how the chunks are cut. -/
theorem Sound.alike_of_fresh (hd : d.Sound) (hopen : ¬ Shut x) (hphase : x.2.2.phase = .fresh)
    (hbytes : x.1.bytes = []) (hpending : x.2.2.pending = []) {chunks : List Bytes}
    (hchunks : chunks.flatten = x.2.1.chunks.flatten) (g : Option Failure) :
    EndsAlike Cut Eq (d.read g x) (d.read g (x.1, ({ x.2.1 with chunks }, x.2.2))) := by
  have hopen' : ¬ Shut (x.1, ({ x.2.1 with chunks }, x.2.2)) := hopen
  cases htake : d.take [] with
  | some taken =>
      obtain ⟨given, kept⟩ := taken
      have hkept : kept = [] := (List.append_eq_nil_iff.mp (hd.whole htake)).2
      rw [← hbytes] at htake
      rw [read_of_held hopen htake, read_of_held hopen' htake, hkept]
      exact .ok rfl (.of_chunks hchunks rfl hpending)
  | none =>
      obtain ⟨hrefused, hbegun⟩ := hd.read_begin hopen htake hbytes hpending g
      obtain ⟨hrefused', hbegun'⟩ := hd.read_begin hopen' htake hbytes hpending g
      rcases begin_cases g hphase with ⟨-, f, hbegin⟩ | hbegin
      · rw [hrefused f _ (hbegin x.2.1.chunks), hrefused' f _ (hbegin chunks)]
        exact .error (.of_chunks hchunks hbytes hpending)
      · rw [hbegun _ (hbegin x.2.1.chunks), hbegun' _ (hbegin chunks)]
        -- both readers are running now
        let r : Response := { x.2.1 with consumed := true }
        let k : Reading := { x.2.2 with phase := .running }
        have hopen : ¬ Shut (x.1, (r, k)) := hopen
        have hcut : Cut (x.1, (r, k)) (x.1, ({ r with chunks }, k)) :=
          .of_chunks hchunks hbytes hpending
        exact hd.alike_of_running hopen rfl hcut g

/-- **A read cannot tell where the bytes are cut.** -/
theorem Sound.alike (hd : d.Sound) : Alike Cut Eq d.read d.read := by
  intro g x y h
  by_cases hshut : Shut x
  · rw [read_of_shut hshut, read_of_shut (h.shut_iff.mp hshut)]
    exact .error h
  by_cases hrunning : x.2.2.phase = .running
  · exact hd.alike_of_running hshut hrunning h g
  -- otherwise nothing has been fetched that was not given
  have hshut' : ¬ Shut y := fun hy => hshut (h.shut_iff.mpr hy)
  have hphase := phase_of_frame (congrArg Prod.snd h.blank_eq)
  have hempty := h.left_settled.resolve_left hrunning
  have hempty' := h.right_settled.resolve_left fun hy => hrunning (hphase.trans hy)
  obtain ⟨chunks, hchunks, rfl⟩ := h.eq_of_empty hempty hempty'
  by_cases hover : x.2.2.phase = .over
  · rw [hd.read_of_over hshut hover hempty.1 hempty.2,
      hd.read_of_over hshut' hover hempty'.1 hempty'.2]
    exact .ok rfl h
  · have hfresh := (phase_cases x.2).resolve_right (not_or.mpr ⟨hrunning, hover⟩)
    exact hd.alike_of_fresh hshut hfresh hempty.1 hempty.2 hchunks g

end Runs

end Draw

/-! ### Buffered streams -/

variable (name : String)

/-- **Reading a buffered stream cannot tell where the bytes are cut.** -/
theorem buffered_cut :
    Source.ReadAlike Cut (source.buffered name) (source.buffered name) where
  read n := by
    have hread := (Draw.sized_sound Source.wholeBlocks_asks n).alike
    rwa [← Draw.read_sized] at hread
  readInto n := by
    have hread := (Draw.sized_sound Source.beyondBlock_asks n).alike
    rwa [← Draw.read_sized] at hread
  readAll := by
    rw [Draw.read_all]
    exact Draw.all_sound.alike
  readLine := by
    rw [Draw.read_line]
    exact Draw.line_sound.alike
  isClosed h := (congrArg (fun z : Buffer × State => z.2.2.closed) h.blank_eq :)
  extent {x y} h := by
    have hlength (z : Buffer × State) : (source.buffered name).extent z = (rest z).length := by
      rw [rest, List.length_append, left, List.length_append]
      rfl
    rw [hlength, hlength, h.rest_eq]

/-! ### Closing -/

/-- Readers that agree in everything but the chunks and the pending bytes; these are related. -/
inductive Agree (C : List Bytes → List Bytes → Prop) (P : Bytes → Bytes → Prop) (p : State) :
    State → Prop
  | of {chunks : List Bytes} {pending : Bytes} : C p.1.chunks chunks → P p.2.pending pending →
      Agree C P p ({ p.1 with chunks }, { p.2 with pending })

/-- Closing the response of a reader looks at no byte, and keeps them. -/
theorem close_response_alike (C : List Bytes → List Bytes → Prop) (P : Bytes → Bytes → Prop) :
    Alike (Agree C P) Eq (Response.close.within .first) (Response.close.within .first) := by
  refine (Response.close_alike C).within ?_ ?_
  · rintro p _ ⟨hchunks, -⟩
    exact .of hchunks
  · rintro p _ r _ ⟨-, hpending⟩ ⟨hchunks⟩
    exact .of hchunks hpending

/-- Neither does closing the reader. -/
theorem close_alike (C : List Bytes → List Bytes → Prop) (P : Bytes → Bytes → Prop) :
    Alike (Agree C P) Eq close close := by
  refine Alike.bind (R := Eq) (.gets ?_) ?_
  · rintro p _ ⟨hchunks, hpending⟩
    rfl
  · rintro closed _ rfl
    refine .ite Iff.rfl (fun _ => .pure rfl) fun _ =>
      (close_response_alike C P).ensure (.modify ?_)
    rintro p _ ⟨hchunks, hpending⟩
    exact .of hchunks hpending

/-- Buffered streams that agree in everything but their bytes. -/
inductive Framed (x : Buffer × State) : Buffer × State → Prop
  | of {bytes : Bytes} {p : State} : Agree (fun _ _ => True) (fun _ _ => True) x.2 p →
      Framed x ({ x.1 with bytes }, p)

theorem Cut.framed {x y : Buffer × State} (h : Cut x y) : Framed x y := by
  have hbuffer : y.1 = { x.1 with bytes := y.1.bytes } :=
    (congrArg (fun z : Buffer × State => { z.1 with bytes := y.1.bytes }) h.blank_eq.symm :)
  have hresponse : y.2.1 = { x.2.1 with chunks := y.2.1.chunks } :=
    (congrArg (fun z : Buffer × State => { z.2.1 with chunks := y.2.1.chunks }) h.blank_eq.symm :)
  have hreader : y.2.2 = { x.2.2 with pending := y.2.2.pending } :=
    (congrArg (fun z : Buffer × State => { z.2.2 with pending := y.2.2.pending })
      h.blank_eq.symm :)
  have hsame : y = ({ x.1 with bytes := y.1.bytes },
      ({ x.2.1 with chunks := y.2.1.chunks }, { x.2.2 with pending := y.2.2.pending })) :=
    Prod.ext hbuffer (Prod.ext hresponse hreader)
  rw [hsame]
  exact .of (.of trivial trivial)

/-- **Closing a buffered stream looks at no byte.** -/
theorem buffered_framed :
    Source.CloseAlike Framed (source.buffered name) (source.buffered name) where
  isClosed {x y} h := by
    obtain ⟨⟨-, -⟩⟩ := h
    rfl
  close := by
    have hraw : Alike Framed Eq (source.close.within .second) (source.close.within .second) := by
      refine (close_alike (fun _ _ => True) fun _ _ => True).within ?_ ?_
      · rintro x _ ⟨h⟩
        exact h
      · rintro x _ p q ⟨-⟩ h
        exact .of h
    refine Alike.bind (R := Eq) (.gets ?_) ?_
    · rintro x _ ⟨⟨-, -⟩⟩
      rfl
    · rintro closed _ rfl
      refine .ite Iff.rfl (fun _ => .pure rfl) fun _ => hraw.ensure (.modify ?_)
      rintro x _ ⟨h⟩
      exact .of (x := ({ released := true }, x.2)) h

end Wire.Reading

end ServiceClient
