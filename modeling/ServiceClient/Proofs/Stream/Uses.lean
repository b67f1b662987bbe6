/-
**The uses of a stream that is read.**

A stream may be read in several ways and closed, in any order and any number of times; each use may
fail, and the next one comes all the same.  Two streams whose reads are alike stay alike behind a
buffer, whatever the buffer asks of them.  A stream is *sealed* by its close if reading neither
closes nor reopens it and every close leaves it closed, also one that fails.

Main definitions:

* `ServiceClient.StreamUse`, `ServiceClient.Source.use`, `ServiceClient.Source.after`: what may be
  done with a stream, and doing it;
* `ServiceClient.Source.ReadAlike`, `ServiceClient.Source.CloseAlike`: streams whose reads are
  alike, and streams whose closes are;
* `ServiceClient.Source.Sealed`: streams that a close closes for good.

Main results:

* `ServiceClient.Source.after_alike`: **streams of which every use is alike give the same**;
* `ServiceClient.Source.buffered_readAlike`: **a buffer keeps what is alike**;
* `ServiceClient.Source.buffered_use_of_closed`: a stream that is closed is not read any more;
* `ServiceClient.Source.Sealed.buffered`, `ServiceClient.Source.Sealed.within`: a buffer, and a
  larger state, keep the seal;
* `ServiceClient.Source.Sealed.isClosed_after`: **a sealed stream is closed exactly if it was
  closed**.
-/

import ServiceClient.Proofs.Action.Meets
import ServiceClient.Stream.Buffered

set_option autoImplicit false

namespace ServiceClient

open ServiceClient.Action (Along Keeps Meets)

variable {ε σ τ υ ω : Type}

/-! ### Uses -/

/-- What may be done with a stream. -/
inductive StreamUse
  | read (n : Nat)
  | readInto (n : Nat)
  | readAll
  | readLine
  | close
  deriving DecidableEq, Repr

/-- Uses that follow each other, each with the failure that is in flight at the time. -/
abbrev StreamUses := List (StreamUse × Option Failure)

def StreamUses.close (us : StreamUses) : Bool :=
  us.any fun u => u.1 == .close

@[simp] theorem StreamUses.close_nil : StreamUses.close [] = false := rfl

theorem StreamUses.close_append (us vs : StreamUses) :
    StreamUses.close (us ++ vs) = (us.close || vs.close) :=
  List.any_append

@[simp] theorem StreamUses.close_singleton (u : StreamUse) (g : Option Failure) :
    StreamUses.close [(u, g)] = (u == .close) := by
  simp [StreamUses.close]

namespace Source

/-- One use, and the bytes that it gives. -/
def use (a : Source σ) : StreamUse → Action σ Bytes
  | .read n => a.read n
  | .readInto n => a.readInto n
  | .readAll => a.readAll
  | .readLine => a.readLine
  | .close => do
      a.close
      pure []

def after (a : Source σ) (us : StreamUses) (s : σ) : σ :=
  us.foldl (fun s u => (a.use u.1 u.2 s).2) s

def results (a : Source σ) : StreamUses → σ → List (Except Failure Bytes)
  | [], _ => []
  | (u, g) :: us, s => (a.use u g s).1 :: results a us (a.use u g s).2

/-- Closing gives no bytes. -/
theorem use_close (a : Source σ) (g : Option Failure) (s : σ) :
    (a.use .close g s).2 = (a.close g s).2 := by
  rw [use, Action.run_bind]
  generalize a.close g s = x
  obtain ⟨f | u, s'⟩ := x
  · rfl
  · rfl

@[simp] theorem after_nil (a : Source σ) (s : σ) : a.after [] s = s := rfl

theorem after_concat (a : Source σ) (us : StreamUses) (u : StreamUse) (g : Option Failure) (s : σ) :
    a.after (us ++ [(u, g)]) s = (a.use u g (a.after us s)).2 := by
  simp [after]

/-! ### Streams that are alike -/

/-- Sources whose reads are alike, and which tell the same of related states. -/
structure ReadAlike (S : σ → τ → Prop) (a : Source σ) (b : Source τ) : Prop where
  read (n : Nat) : Action.Alike S Eq (a.read n) (b.read n)
  readInto (n : Nat) : Action.Alike S Eq (a.readInto n) (b.readInto n)
  readAll : Action.Alike S Eq a.readAll b.readAll
  readLine : Action.Alike S Eq a.readLine b.readLine
  isClosed {s : σ} {t : τ} : S s t → a.isClosed s = b.isClosed t
  extent {s : σ} {t : τ} : S s t → a.extent s = b.extent t

/-- The same, and closing them is alike. -/
structure UsedAlike (S : σ → τ → Prop) (a : Source σ) (b : Source τ) : Prop
    extends ReadAlike S a b where
  close : Action.Alike S Eq a.close b.close

/-- Sources whose closes are alike, and which are closed together. -/
structure CloseAlike (S : σ → τ → Prop) (a : Source σ) (b : Source τ) : Prop where
  isClosed {s : σ} {t : τ} : S s t → a.isClosed s = b.isClosed t
  close : Action.Alike S Eq a.close b.close

/-- A state beside something else that is the same. -/
def Beside (S : σ → τ → Prop) (p : ε × σ) (q : ε × τ) : Prop :=
  p.1 = q.1 ∧ S p.2 q.2

variable {S : σ → τ → Prop} {a : Source σ} {b : Source τ}

/-- Every stream is used like itself. -/
theorem usedAlike_refl (a : Source σ) : UsedAlike Eq a a where
  read _ := .refl _
  readInto _ := .refl _
  readAll := .refl _
  readLine := .refl _
  isClosed := congrArg _
  extent := congrArg _
  close := .refl _

theorem ReadAlike.use (h : ReadAlike S a b) {u : StreamUse} (hu : u ≠ .close) :
    Action.Alike S Eq (a.use u) (b.use u) := by
  cases u with
  | read n => exact h.read n
  | readInto n => exact h.readInto n
  | readAll => exact h.readAll
  | readLine => exact h.readLine
  | close => exact absurd rfl hu

theorem UsedAlike.use (h : UsedAlike S a b) (u : StreamUse) :
    Action.Alike S Eq (a.use u) (b.use u) := by
  by_cases hu : u = .close
  · subst hu
    exact h.close.bind fun _ _ _ => .pure rfl
  · exact h.toReadAlike.use hu

/-- Reads that keep an invariant are like themselves along it. -/
theorem ReadAlike.of_keeps {I : σ → Prop} (hread : ∀ n, Keeps I (a.read n))
    (hreadInto : ∀ n, Keeps I (a.readInto n)) (hreadAll : Keeps I a.readAll)
    (hreadLine : Keeps I a.readLine) : ReadAlike (Along I) a a where
  read n := (hread n).alike
  readInto n := (hreadInto n).alike
  readAll := hreadAll.alike
  readLine := hreadLine.alike
  isClosed hs := congrArg _ hs.1
  extent hs := congrArg _ hs.1

theorem UsedAlike.toCloseAlike (h : UsedAlike S a b) : CloseAlike S a b :=
  ⟨h.isClosed, h.close⟩

/-- Streams of which every use is alike give the same, and stay alike. -/
theorem after_alike (h : ∀ u, Action.Alike S Eq (a.use u) (b.use u)) (us : StreamUses) {s : σ}
    {t : τ} (hs : S s t) : a.results us s = b.results us t ∧ S (a.after us s) (b.after us t) := by
  induction us generalizing s t with
  | nil => exact ⟨rfl, hs⟩
  | cons ug us ih =>
      obtain ⟨u, g⟩ := ug
      have hu := h u g s t hs
      simp only [results, Source.after, List.foldl_cons] at ih ⊢
      generalize a.use u g s = x, b.use u g t = y at hu
      cases hu with
      | ok hab hst => exact ⟨by rw [hab, (ih hst).1], (ih hst).2⟩
      | error hst => exact ⟨by rw [(ih hst).1], (ih hst).2⟩

theorem UsedAlike.after (h : UsedAlike S a b) (us : StreamUses) {s : σ} {t : τ} (hs : S s t) :
    a.results us s = b.results us t ∧ S (a.after us s) (b.after us t) :=
  after_alike h.use us hs

section Within

variable {T : υ → ω → Prop} {part : Part υ σ} {part' : Part ω τ}
  (hget : ∀ u v, T u v → S (part.get u) (part'.get v))
  (hset : ∀ u v s t, T u v → S s t → T (part.set s u) (part'.set t v))

include hget hset

theorem ReadAlike.within (h : ReadAlike S a b) :
    ReadAlike T (a.within part) (b.within part') where
  read n := (h.read n).within hget hset
  readInto n := (h.readInto n).within hget hset
  readAll := h.readAll.within hget hset
  readLine := h.readLine.within hget hset
  isClosed ht := h.isClosed (hget _ _ ht)
  extent ht := h.extent (hget _ _ ht)

theorem CloseAlike.within (h : CloseAlike S a b) :
    CloseAlike T (a.within part) (b.within part') where
  isClosed ht := h.isClosed (hget _ _ ht)
  close := h.close.within hget hset

theorem UsedAlike.within (h : UsedAlike S a b) :
    UsedAlike T (a.within part) (b.within part') :=
  { h.toReadAlike.within hget hset with close := h.close.within hget hset }

end Within

/-- In a part of a larger state, reads keep what they keep in the part. -/
theorem ReadAlike.within_along {I : σ → Prop} {J : υ → Prop} {part : Part υ σ}
    (hget : ∀ u, J u → I (part.get u)) (hset : ∀ u s, J u → I s → J (part.set s u))
    (h : ReadAlike (Along I) a a) : ReadAlike (Along J) (a.within part) (a.within part) :=
  h.within (fun u _ hu => ⟨congrArg _ hu.1, hget u hu.2⟩)
    fun u _ s _ hu hs => ⟨by rw [hu.1, hs.1], hset u s hu.2 hs.2⟩

/-! ### Behind a buffer -/

theorem within_second_alike {α : Type} {m : Action σ α} {m' : Action τ α}
    (h : Action.Alike S Eq m m') :
    Action.Alike (Beside S) Eq (m.within (.second : Part (ε × σ) σ)) (m'.within .second) :=
  h.within (fun _ _ hp => hp.2) fun _ _ _ _ hp hs => ⟨hp.1, hs⟩

theorem gather_alike (direct : Nat → Option Nat) (h : ReadAlike S a b) (fuel want filled : Nat) :
    Action.Alike S Eq (gather direct a fuel want filled) (gather direct b fuel want filled) := by
  -- by induction on the fuel: what one round brings decides how the next one asks
  induction fuel generalizing want filled with
  | zero => exact .pure rfl
  | succ fuel ih =>
      have hnext (got : Bytes) (filled' : Nat) :
          Action.Alike S Eq
            (if got.isEmpty then pure []
              else do
                let rest ← gather direct a fuel (want - got.length) filled'
                pure (got ++ rest))
            (if got.isEmpty then pure []
              else do
                let rest ← gather direct b fuel (want - got.length) filled'
                pure (got ++ rest)) := by
        exact .ite Iff.rfl (fun _ => .pure rfl) fun _ =>
          (ih _ _).bind fun _ _ e => .pure (e ▸ rfl)
      rw [gather, gather]
      refine .ite Iff.rfl (fun _ => .pure rfl) fun _ => ?_
      cases direct want with
      | some size => exact (h.readInto size).bind fun got _ e => e ▸ hnext got filled
      | none =>
          exact (h.readInto (blockSize - filled)).bind fun got _ e =>
            e ▸ hnext got (filled + got.length)

theorem gatherLine_alike (h : ReadAlike S a b) (fuel : Nat) :
    Action.Alike S Eq (gatherLine a fuel) (gatherLine b fuel) := by
  induction fuel with
  | zero => exact .pure rfl
  | succ fuel ih =>
      rw [gatherLine, gatherLine]
      refine (h.readInto blockSize).bind ?_
      rintro got _ rfl
      refine .ite Iff.rfl (fun _ => .pure rfl) fun _ => ?_
      cases splitLine? got with
      | some split => exact .pure rfl
      | none => exact ih.bind fun _ _ e => .pure (e ▸ rfl)

theorem demandOpen_alike (h : ∀ {s t}, S s t → a.isClosed s = b.isClosed t) :
    Action.Alike (Beside S) Eq a.demandOpen b.demandOpen := by
  refine Action.Alike.bind (R := Eq) (.gets fun p q hp => ?_) ?_
  · simp only [hp.1, h hp.2]
  · rintro x _ rfl
    exact .ite Iff.rfl (fun _ => .raise closedStream) fun _ => .pure rfl

theorem peek_alike : Action.Alike (Beside S) Eq buffered.peek buffered.peek :=
  .gets fun _ _ hp => congrArg Buffer.bytes hp.1

theorem fill_alike (bytes : Bytes) :
    Action.Alike (Beside S) Eq (buffered.fill bytes) (buffered.fill bytes) :=
  .modify fun _ _ hp => ⟨congrArg (fun b : Buffer => { b with bytes }) hp.1, hp.2⟩

theorem take_alike (direct : Nat → Option Nat) (h : ReadAlike S a b) (n : Nat) :
    Action.Alike (Beside S) Eq (buffered.take direct a n) (buffered.take direct b n) := by
  refine (demandOpen_alike h.isClosed).bind fun _ _ _ => peek_alike.bind ?_
  rintro held _ rfl
  refine .ite Iff.rfl (fun _ => (fill_alike _).bind fun _ _ _ => .pure rfl) fun _ => ?_
  refine (fill_alike _).bind fun _ _ _ => ?_
  refine (within_second_alike (gather_alike direct h _ _ _)).bind ?_
  rintro got _ rfl
  exact (fill_alike _).bind fun _ _ _ => .pure rfl

/-- Reading to the end needs no more of a stream than reading it to the end. -/
theorem buffered_readAll_alike (name : String)
    (hclosed : ∀ {s t}, S s t → a.isClosed s = b.isClosed t)
    (hread : Action.Alike S Eq a.readAll b.readAll) :
    Action.Alike (Beside S) Eq (a.buffered name).readAll (b.buffered name).readAll := by
  refine (demandOpen_alike hclosed).bind fun _ _ _ => peek_alike.bind ?_
  rintro held _ rfl
  exact (fill_alike _).bind fun _ _ _ =>
    (within_second_alike hread).bind fun _ _ e => .pure (e ▸ rfl)

theorem buffered_closeAlike (name : String) (h : CloseAlike S a b) :
    CloseAlike (Beside S) (a.buffered name) (b.buffered name) where
  isClosed hp := h.isClosed hp.2
  close := by
    refine Action.Alike.bind (R := Eq) (.gets fun _ _ hp => h.isClosed hp.2) ?_
    rintro closed _ rfl
    exact .ite Iff.rfl (fun _ => .pure rfl) fun _ =>
      (within_second_alike h.close).ensure (.modify fun _ _ hp => ⟨rfl, hp.2⟩)

/-- **A buffer keeps what is alike.** -/
theorem buffered_readAlike (name : String) (h : ReadAlike S a b) :
    ReadAlike (Beside S) (a.buffered name) (b.buffered name) where
  read := take_alike wholeBlocks h
  readInto := take_alike beyondBlock h
  readAll := buffered_readAll_alike name h.isClosed h.readAll
  readLine := by
    refine (demandOpen_alike h.isClosed).bind fun _ _ _ => peek_alike.bind ?_
    rintro held _ rfl
    cases splitLine? held with
    | some split => exact (fill_alike _).bind fun _ _ _ => .pure rfl
    | none =>
        refine (fill_alike _).bind fun _ _ _ => ?_
        refine (Action.Alike.gets fun _ _ hp => h.extent hp.2).bind ?_
        rintro left _ rfl
        refine (within_second_alike (gatherLine_alike h _)).bind ?_
        rintro split _ rfl
        exact (fill_alike _).bind fun _ _ _ => .pure rfl
  isClosed hp := h.isClosed hp.2
  extent hp := by simp only [buffered, hp.1, h.extent hp.2]

/-- Behind a buffer, reads keep what they keep of the raw stream. -/
theorem buffered_readAlike_along (name : String) {I : σ → Prop} (h : ReadAlike (Along I) a a) :
    ReadAlike (Along fun p : Buffer × σ => I p.2) (a.buffered name) (a.buffered name) := by
  have hsame : (Beside (Along I) : Buffer × σ → Buffer × σ → Prop) = Along fun p => I p.2 := by
    funext p q
    simp [Beside, Along, Prod.ext_iff, and_assoc]
  exact hsame ▸ buffered_readAlike name h

/-! ### Streams that are closed -/

theorem demandOpen_of_closed {p : Buffer × σ} (h : (p.1.released || a.isClosed p.2) = true)
    (g : Option Failure) : a.demandOpen g p = (.error (closedStream.raisedDuring g), p) := by
  rw [demandOpen, Action.run_bind_ok (Action.run_gets ..), if_pos h]
  rfl

/-- Reading a stream that is closed fails, and changes nothing. -/
theorem buffered_use_of_closed (name : String) {p : Buffer × σ} (h : a.isClosed p.2 = true)
    {u : StreamUse} (hu : u ≠ .close) (g : Option Failure) :
    (a.buffered name).use u g p = (.error (closedStream.raisedDuring g), p) := by
  have hclosed : (p.1.released || a.isClosed p.2) = true := by rw [h, Bool.or_true]
  have hdemand := demandOpen_of_closed hclosed g
  cases u with
  | close => exact absurd rfl hu
  | _ => exact Action.run_bind_error hdemand

/-! ### Streams that a close closes for good -/

/-- Where the state is as it should be, it stays so; reading neither closes nor reopens the stream,
and every close leaves it closed, also one that fails. -/
structure Sealed (V : σ → Prop) (a : Source σ) : Prop where
  reads (closed : Bool) : ReadAlike (Along fun s => V s ∧ a.isClosed s = closed) a a
  close :
    Meets V a.close (fun _ s => V s ∧ a.isClosed s = true) fun _ s => V s ∧ a.isClosed s = true

namespace Sealed

variable {V : σ → Prop}

/-- The condition may be put into other words. -/
theorem congr {V' : σ → Prop} (h : Sealed V a) (hV : ∀ s, V s ↔ V' s) : Sealed V' a :=
  (funext fun s => propext (hV s) : V = V') ▸ h

/-- One use of a sealed stream. -/
theorem use (h : Sealed V a) (u : StreamUse) (g : Option Failure) {s : σ} (hV : V s) :
    V (a.use u g s).2 ∧ a.isClosed (a.use u g s).2 = (a.isClosed s || u == .close) := by
  by_cases hu : u = .close
  · subst hu
    rw [use_close, beq_self_eq_true, Bool.or_true]
    exact (h.close g s hV).snd
  · have hend := Action.keeps_of_alike ((h.reads (a.isClosed s)).use hu) g s ⟨hV, rfl⟩
    rwa [beq_eq_false_iff_ne.mpr hu, Bool.or_false]

/-- **A sealed stream is closed exactly if it was closed.** -/
theorem isClosed_after (h : Sealed V a) (us : StreamUses) {s : σ} (hV : V s) :
    a.isClosed (a.after us s) = (a.isClosed s || us.close) := by
  induction us generalizing s with
  | nil => simp
  | cons ug us ih =>
      obtain ⟨u, g⟩ := ug
      obtain ⟨hV', hclosed⟩ := h.use u g hV
      have hrest := ih hV'
      rw [hclosed] at hrest
      simpa [Source.after, StreamUses.close, Bool.or_assoc] using hrest

/-- A buffer keeps the seal. -/
theorem buffered (name : String) (h : Sealed V a) :
    Sealed (fun p : Buffer × σ => V p.2) (a.buffered name) where
  reads closed := buffered_readAlike_along name (h.reads closed)
  close := by
    refine Meets.bind (Q := fun closed p => V p.2 ∧ a.isClosed p.2 = closed)
      (.gets fun _ hp => ⟨hp, rfl⟩) fun closed => ?_
    cases closed with
    | true =>
        rw [if_pos rfl]
        exact .pure fun _ hp => hp
    | false =>
        rw [if_neg Bool.false_ne_true]
        -- giving up the buffer leaves the raw stream as it is
        have hclose := h.close.within_second (β := Buffer)
        exact (hclose.weaken (fun _ hp => hp.1) (fun _ _ hp => hp) fun _ _ hp => hp).ensure
          (fun _ => .modify fun _ hp => hp) fun _ => .modify fun _ hp => hp

/-- In a part of a larger state the seal stays, as long as the part can be replaced there. -/
theorem within {W : τ → Prop} {part : Part τ σ} (hget : ∀ t s, W t → part.get (part.set s t) = s)
    (hset : ∀ t s, W t → W (part.set s t)) (h : Sealed V a) :
    Sealed (fun t => W t ∧ V (part.get t)) (a.within part) where
  reads closed := by
    refine (h.reads closed).within_along (fun t ht => ⟨ht.1.2, ht.2⟩) fun t s ht hs => ?_
    have hs' : part.get (part.set s t) = s := hget t s ht.1.1
    exact ⟨⟨hset t s ht.1.1, by rw [hs']; exact hs.1⟩, by simp only [Source.within, hs', hs.2]⟩
  close := (h.close.within hget hset).weaken (fun _ ht => ht)
    (fun _ _ ht => ⟨⟨ht.1, ht.2.1⟩, ht.2.2⟩) fun _ _ ht => ⟨⟨ht.1, ht.2.1⟩, ht.2.2⟩

/-- The same in a part that every state has. -/
theorem within_all (part : Part τ σ) (hget : ∀ t s, part.get (part.set s t) = s)
    (h : Sealed V a) : Sealed (fun t => V (part.get t)) (a.within part) :=
  (h.within (fun t s (_ : True) => hget t s) fun _ _ _ => trivial).congr fun _ =>
    iff_of_eq (true_and _)

end Sealed

end Source

end ServiceClient
