/-
**Using the stream that is handed out.**

Closing a lease looks at whether the stream is closed.  If it is, nothing is done; otherwise the
stream is closed and the connection is disconnected, also if the close fails.  So a close that fails
and leaves the stream open lets the next one disconnect again, and a stream that something else has
closed is never disconnected.  In between there is nothing: the connection is disconnected once,
with the first close, exactly if at every close the stream is closed if and only if it was closed
before.

Main definitions:

* `ServiceClient.Lease.watched`: a lease whose connection and whose stream are watched;
* `ServiceClient.Lease.DisconnectsOnce`: the connection is disconnected once, with the first close;
* `ServiceClient.Lease.StaysClosed`: every close finds the stream closed exactly if it was closed.

Main results:

* `ServiceClient.openResponse_ok`: what a call that succeeds has done;
* `ServiceClient.Lease.watched_usedAlike`: watching a lease changes nothing;
* `ServiceClient.Lease.disconnectsOnce_iff`: **the stream alone decides whether using it disconnects
  once**;
* `ServiceClient.Lease.staysClosed_of_sealed`: a stream that a close closes for good.
-/

import ServiceClient.Proofs.Action.Runs
import ServiceClient.Proofs.Exchange.Leasing
import ServiceClient.Proofs.Stream.Uses
import Mathlib.Data.List.Induction

set_option autoImplicit false

namespace ServiceClient

open ServiceClient.Action (Along Alike Keeps Meets Records)

variable {σ τ : Type} {S : σ → τ → Prop}

/-! ### The parts of a lease -/

namespace Lease

/-- The stream of a lease before it is closed together with the connection. -/
def buffered (l : Lease σ) : Source (LeaseState × σ) :=
  (l.raw.buffered streamName).within layout

theorem close_stream (l : Lease σ) :
    l.stream.close = (do
      if ← Action.gets l.buffered.isClosed then pure ()
      else l.buffered.close.ensure ((disconnecting l.connection).within .second)) := rfl

/-- Closing a lease that is closed does nothing. -/
theorem close_of_closed {l : Lease σ} {p : LeaseState × σ} (h : l.stream.isClosed p = true)
    (g : Option Failure) : l.stream.close g p = (.ok (), p) := by
  rw [close_stream, Action.run_bind_ok (Action.run_gets _ g p)]
  exact congrFun (congrFun (if_pos h) g) p

/-- Closing a lease that is open closes its stream and disconnects. -/
theorem close_of_open {l : Lease σ} {p : LeaseState × σ} (h : l.stream.isClosed p = false)
    (g : Option Failure) : l.stream.close g p =
      l.buffered.close.ensure ((disconnecting l.connection).within .second) g p := by
  rw [close_stream, Action.run_bind_ok (Action.run_gets _ g p)]
  exact congrFun (congrFun (if_neg (by rw [show l.buffered.isClosed p = false from h]; nofun)) g) p

/-- Apart from its close, a lease is read as its stream is. -/
theorem stream_readAlike_of_buffered {l : Lease σ} {k : Lease τ}
    {T : LeaseState × σ → LeaseState × τ → Prop}
    (h : Source.ReadAlike T l.buffered k.buffered) : Source.ReadAlike T l.stream k.stream :=
  ⟨h.read, h.readInto, h.readAll, h.readLine, h.isClosed, h.extent⟩

/-- Whatever is done with a lease that is closed changes nothing, and a read fails. -/
theorem use_of_closed {l : Lease σ} {p : LeaseState × σ} (h : l.stream.isClosed p = true)
    (u : StreamUse) (g : Option Failure) :
    l.stream.use u g p =
      (if u = .close then .ok [] else .error (closedStream.raisedDuring g), p) := by
  by_cases hu : u = .close
  · subst hu
    exact Action.run_bind_ok (close_of_closed h g)
  · have hraw := Source.buffered_use_of_closed (a := l.raw) streamName
      (p := (p.1.buffer, p.1.emptyClosed, p.2)) h hu g
    have hwithin : l.stream.use u g p = ((l.raw.buffered streamName).use u).within layout g p := by
      cases u with
      | close => exact absurd rfl hu
      | _ => rfl
    rw [hwithin, if_neg hu, Action.within]
    simp only [layout, hraw]

/-! ### Leases that are used alike -/

/-- What a part of a lease has in common with that of another one. -/
theorem layout_get {p : LeaseState × σ} {q : LeaseState × τ} (h : Source.Beside S p q) :
    Source.Beside (Source.Beside S) (layout.get p) (layout.get q) := by
  obtain ⟨ls, s⟩ := p
  obtain ⟨_, t⟩ := q
  obtain ⟨rfl, hst⟩ := h
  exact ⟨rfl, rfl, hst⟩

theorem layout_set {x : Buffer × Bool × σ} {y : Buffer × Bool × τ}
    (h : Source.Beside (Source.Beside S) x y) (p : LeaseState × σ) (q : LeaseState × τ) :
    Source.Beside S (layout.set x p) (layout.set y q) := by
  obtain ⟨b, e, s⟩ := x
  obtain ⟨_, _, t⟩ := y
  obtain ⟨hb, he, hst⟩ := h
  cases hb
  cases he
  exact ⟨rfl, hst⟩

/-- The source without bytes beside states that are related. -/
theorem emptySource_usedAlike :
    Source.UsedAlike (Source.Beside S) (emptySource.within .first) (emptySource.within .first) :=
  (Source.usedAlike_refl emptySource).within (fun _ _ hp => hp.1) fun _ _ _ _ hp hs => ⟨hs, hp.2⟩

theorem raw_readAlike {l : Lease σ} {k : Lease τ}
    (h : Option.Rel (Source.ReadAlike S) l.source k.source) :
    Source.ReadAlike (Source.Beside S) l.raw k.raw := by
  obtain ⟨c, a⟩ := l
  obtain ⟨d, b⟩ := k
  cases h with
  | none => exact emptySource_usedAlike.toReadAlike
  | some h => exact h.within (fun _ _ hp => hp.2) fun _ _ _ _ hp hs => ⟨hp.1, hs⟩

theorem raw_closeAlike {l : Lease σ} {k : Lease τ}
    (h : Option.Rel (Source.CloseAlike S) l.source k.source) :
    Source.CloseAlike (Source.Beside S) l.raw k.raw := by
  obtain ⟨c, a⟩ := l
  obtain ⟨d, b⟩ := k
  cases h with
  | none => exact emptySource_usedAlike.toCloseAlike
  | some h => exact h.within (fun _ _ hp => hp.2) fun _ _ _ _ hp hs => ⟨hp.1, hs⟩

/-- **Leases of streams that are read alike are read alike.** -/
theorem stream_readAlike {l : Lease σ} {k : Lease τ}
    (h : Option.Rel (Source.ReadAlike S) l.source k.source) :
    Source.ReadAlike (Source.Beside S) l.stream k.stream :=
  stream_readAlike_of_buffered ((Source.buffered_readAlike streamName (raw_readAlike h)).within
    (fun _ _ => layout_get) fun p q _ _ _ hx => layout_set hx p q)

/-- **Leases of streams that are closed alike, over connections that are disconnected alike, are
closed alike.** -/
theorem stream_closeAlike {l : Lease σ} {k : Lease τ}
    (h : Option.Rel (Source.CloseAlike S) l.source k.source)
    (hdisconnect : Action.Alike S Eq (disconnecting l.connection) (disconnecting k.connection)) :
    Source.CloseAlike (Source.Beside S) l.stream k.stream := by
  have hbuffered : Source.CloseAlike (Source.Beside S) l.buffered k.buffered :=
    (Source.buffered_closeAlike streamName (raw_closeAlike h)).within (fun _ _ => layout_get)
      fun p q _ _ _ hx => layout_set hx p q
  refine ⟨hbuffered.isClosed, ?_⟩
  rw [close_stream, close_stream]
  refine (Alike.gets fun _ _ hp => hbuffered.isClosed hp).bind ?_
  rintro closed _ rfl
  exact .ite Iff.rfl (fun _ => .pure rfl) fun _ =>
    hbuffered.close.ensure (Source.within_second_alike hdisconnect)

/-- **Leases of streams that are used alike, over connections that are alike, are used alike.** -/
theorem stream_usedAlike {l : Lease σ} {k : Lease τ}
    (hsource : Option.Rel (Source.UsedAlike S) l.source k.source)
    (hconnection : l.connection.AnswersAlike S k.connection) :
    Source.UsedAlike (Source.Beside S) l.stream k.stream := by
  have hdisconnect := disconnecting_alike hconnection
  obtain ⟨c, a⟩ := l
  obtain ⟨d, b⟩ := k
  cases hsource with
  | none =>
      have hclose := stream_closeAlike .none hdisconnect
      exact { stream_readAlike .none with close := hclose.close }
  | some h =>
      have hclose := stream_closeAlike (.some h.toCloseAlike) hdisconnect
      exact { stream_readAlike (.some h.toReadAlike) with close := hclose.close }

/-! ### What reading a lease keeps -/

theorem raw_readAlike_along {l : Lease σ} {I : σ → Prop}
    (h : ∀ a, l.source = some a → Source.ReadAlike (Along I) a a) :
    Source.ReadAlike (Along fun p : Bool × σ => I p.2) l.raw l.raw := by
  obtain ⟨c, _ | a⟩ := l
  · have hempty {α : Type} (m : Action Bool α) :
        Keeps (fun p : Bool × σ => I p.2) (m.within .first) := .within (fun _ _ hp => hp) m
    exact .of_keeps (fun _ => hempty _) (fun _ => hempty _) (hempty _) (hempty _)
  · exact (h a rfl).within_along (fun _ hp => hp) fun _ _ _ hs => hs

/-- Reading a lease keeps what reading its stream keeps. -/
theorem stream_readAlike_along {l : Lease σ} {I : σ → Prop}
    (h : ∀ a, l.source = some a → Source.ReadAlike (Along I) a a) :
    Source.ReadAlike (Along fun p : LeaseState × σ => I p.2) l.stream l.stream := by
  have hbuffered : Source.ReadAlike (Along fun p : LeaseState × σ => I p.2) l.buffered l.buffered :=
    (Source.buffered_readAlike_along streamName (raw_readAlike_along h)).within_along
      (fun _ hp => hp) fun _ _ _ hs => hs
  exact stream_readAlike_of_buffered hbuffered

theorem buffered_close_keeps {l : Lease σ} {I : σ → Prop}
    (h : ∀ a, l.source = some a → Keeps I a.close) :
    Keeps (fun p : LeaseState × σ => I p.2) l.buffered.close := by
  have hraw : Keeps (fun p : Bool × σ => I p.2) l.raw.close := by
    obtain ⟨c, _ | a⟩ := l
    · exact .within (fun _ _ hp => hp) _
    · exact (h a rfl).within_of (fun _ hp => hp) fun _ _ _ hs => hs
  have hclose : Keeps (fun p : Buffer × Bool × σ => I p.2.2) (l.raw.buffered streamName).close := by
    refine .bind (.gets _) fun closed => ?_
    cases closed with
    | true => exact .pure ()
    | false =>
        have hwithin : Keeps (fun p : Buffer × Bool × σ => I p.2.2) (l.raw.close.within .second) :=
          hraw.within_of (fun _ hp => hp) fun _ _ _ hs => hs
        rw [if_neg Bool.false_ne_true]
        exact hwithin.ensure (.modify fun _ hp => hp)
  exact hclose.within_of (fun _ hp => hp) fun _ _ _ hs => hs

/-! ### What a close seals -/

theorem raw_sealed {l : Lease σ} {V : σ → Prop}
    (h : ∀ a, l.source = some a → Source.Sealed V a) :
    Source.Sealed (fun p : Bool × σ => V p.2) l.raw := by
  obtain ⟨c, _ | a⟩ := l
  · have hempty {α : Type} (m : Action Bool α) (closed : Bool) (hm : Keeps (· = closed) m) :
        Keeps (fun p : Bool × σ => V p.2 ∧ p.1 = closed) (m.within .first) :=
      hm.within_of (fun _ hp => hp.2) fun _ _ hp hs => ⟨hp.1, hs⟩
    refine { reads := fun closed => .of_keeps (fun _ => ?_) (fun _ => ?_) ?_ ?_, close := ?_ }
    · exact hempty _ closed (.pure _)
    · exact hempty _ closed (.pure _)
    · exact hempty _ closed (.pure _)
    · exact hempty _ closed (.pure _)
    · exact fun _ _ hp => .ok ⟨hp, rfl⟩
  · exact (h a rfl).within_all .second fun _ _ => rfl

/-- A lease is sealed as its stream is, if disconnecting does not open the stream again. -/
theorem stream_sealed {l : Lease σ} {V : σ → Prop}
    (h : ∀ a, l.source = some a → Source.Sealed V a)
    (hdisconnect : Keeps (fun p : LeaseState × σ => V p.2 ∧ l.stream.isClosed p = true)
      ((disconnecting l.connection).within .second)) :
    Source.Sealed (fun p : LeaseState × σ => V p.2) l.stream := by
  have hbuffered : Source.Sealed (fun p : LeaseState × σ => V p.2) l.buffered :=
    ((raw_sealed h).buffered streamName).within_all layout fun _ _ => rfl
  refine ⟨fun closed => stream_readAlike_of_buffered (hbuffered.reads closed), ?_⟩
  rw [close_stream]
  refine Meets.bind (Q := fun closed p => V p.2 ∧ l.stream.isClosed p = closed)
    (.gets fun _ hp => ⟨hp, rfl⟩) fun closed => ?_
  cases closed with
  | true => exact .pure fun _ hp => hp
  | false =>
      rw [if_neg Bool.false_ne_true]
      -- disconnecting starts from a closed stream, however the close ended
      exact (hbuffered.close.weaken (fun _ hp => hp.1) (fun _ _ hp => hp) fun _ _ hp => hp).ensure
        (fun _ => hdisconnect.meets) fun _ => hdisconnect.meets

end Lease

/-! ### Watching a lease -/

def Watched.disconnects (n : Nat) (w : Watched σ) : Nat :=
  w.events.countP (Event.disconnects n)

/-- Operations other than disconnecting disconnect nothing. -/
theorem watching_disconnects {α : Type} (n k : Nat) {operation : Operation}
    (h : operation ≠ .disconnect) (shown : α → Reply) (m : Action σ α) :
    Keeps (fun w => w.disconnects n = k) (watching n operation shown m) := by
  intro g w hw
  simpa [watching, Watched.disconnects, Event.disconnects, h] using hw

/-- What an operation gives when it is watched, and the record after it. -/
theorem watching_ok {α : Type} {m : Action σ α} {g : Option Failure} {w : Watched σ} {a : α} {s : σ}
    (h : m g w.state = (.ok a, s)) (n : Nat) (operation : Operation) (shown : α → Reply) :
    watching n operation shown m g w =
      (.ok a, { w with
        state := s
        events := w.events ++ [⟨n, operation, g, .ok (shown a)⟩] }) := by
  simp only [watching, h]
  rfl

/-- Disconnecting disconnects once, also where it fails. -/
theorem disconnecting_disconnects (n k : Nat) (c : Connection σ) :
    Meets (fun w => w.disconnects n = k) (disconnecting (c.watched n))
      (fun _ w => w.disconnects n = k + 1) fun _ w => w.disconnects n = k + 1 := by
  intro g w hw
  obtain ⟨d, w', h⟩ := Records.disconnecting n c g w
  have hcount : w'.disconnects n = k + 1 := by
    rw [← hw]
    simp [Watched.disconnects, h.events_eq, Event.disconnects]
  rw [h.run]
  cases d with
  | ok u => exact .ok hcount
  | error f => exact .error hcount

namespace Source

/-- Watching a stream changes nothing. -/
theorem watched_usedAlike (n : Nat) (a : Source σ) :
    (a.watched n).UsedAlike (fun w s => w.state = s) a where
  read _ := watching_alike _ _ _ _
  readInto _ := watching_alike _ _ _ _
  readAll := watching_alike _ _ _ _
  readLine := watching_alike _ _ _ _
  isClosed := congrArg _
  extent := congrArg _
  close := watching_alike _ _ _ _

/-- Reading disconnects nothing. -/
theorem watched_readAlike_along (n k : Nat) (a : Source σ) :
    (a.watched n).ReadAlike (Along fun w => w.disconnects n = k) (a.watched n) :=
  have hread : Operation.read ≠ .disconnect := nofun
  have hreadAll : Operation.readAll ≠ .disconnect := nofun
  .of_keeps (fun _ => watching_disconnects n k hread _ _)
    (fun _ => watching_disconnects n k hread _ _) (watching_disconnects n k hreadAll _ _)
    (watching_disconnects n k hread _ _)

end Source

namespace Lease

/-- A lease whose connection and whose stream are watched. -/
def watched (n : Nat) (l : Lease σ) : Lease (Watched σ) where
  connection := l.connection.watched n
  source := l.source.map (·.watched n)

/-- **Watching a lease changes nothing.** -/
theorem watched_usedAlike (n : Nat) (l : Lease σ) :
    (l.watched n).stream.UsedAlike (Source.Beside fun w s => w.state = s) l.stream := by
  refine stream_usedAlike ?_ (l.connection.watched_alike n).toAnswersAlike
  obtain ⟨c, _ | a⟩ := l
  · exact .none
  · exact .some (a.watched_usedAlike n)

/-- One use of a lease disconnects exactly if it closes a stream that is open. -/
theorem disconnects_use (n : Nat) (l : Lease σ) (u : StreamUse) (g : Option Failure)
    (p : LeaseState × Watched σ) :
    ((l.watched n).stream.use u g p).2.2.disconnects n =
      p.2.disconnects n + if u = .close ∧ (l.watched n).stream.isClosed p = false then 1 else 0 := by
  have hsource (a : Source (Watched σ)) (ha : (l.watched n).source = some a) :
      ∃ b : Source σ, a = b.watched n := by
    obtain ⟨b, -, rfl⟩ := Option.map_eq_some_iff.mp ha
    exact ⟨b, rfl⟩
  by_cases hu : u = .close
  · subst hu
    rw [Source.use_close]
    rcases hclosed : (l.watched n).stream.isClosed p with _ | _
    · have hstream : Keeps (fun q : LeaseState × Watched σ => q.2.disconnects n = p.2.disconnects n)
          (l.watched n).buffered.close := buffered_close_keeps fun a ha => by
        obtain ⟨b, rfl⟩ := hsource a ha
        have hother : Operation.closeInput ≠ .disconnect := nofun
        exact watching_disconnects n (p.2.disconnects n) hother _ _
      have hdisconnect := (disconnecting_disconnects n (p.2.disconnects n)
        l.connection).within_second (β := LeaseState)
      rw [close_of_open hclosed]
      exact (hstream.meets.ensure (fun _ => hdisconnect) (fun _ => hdisconnect) g p rfl).snd
    · rw [close_of_closed hclosed]
      simp
  · have hread := stream_readAlike_along (l := l.watched n)
      (I := fun w => w.disconnects n = p.2.disconnects n) fun a ha => by
        obtain ⟨b, rfl⟩ := hsource a ha
        exact b.watched_readAlike_along n _
    rw [if_neg fun h => hu h.1]
    exact Action.keeps_of_alike (hread.use hu) g p rfl

/-- From a state on, the connection is disconnected once, with the first close. -/
def DisconnectsOnce (n : Nat) (l : Lease (Watched σ)) (p : LeaseState × Watched σ)
    (us : StreamUses) : Prop :=
  ∀ vs : StreamUses, vs <+: us →
    (l.stream.after vs p).2.disconnects n = p.2.disconnects n + if vs.close then 1 else 0

/-- Every close finds the stream closed exactly if it was closed before. -/
def StaysClosed (l : Lease σ) (p : LeaseState × σ) (us : StreamUses) : Prop :=
  ∀ (vs : StreamUses) (g : Option Failure), vs ++ [(.close, g)] <+: us →
    l.stream.isClosed (l.stream.after vs p) = vs.close

/-- **Using a lease disconnects once, with the first close, exactly if every close finds the stream
closed if and only if it was closed before.** -/
theorem disconnectsOnce_iff (n : Nat) (l : Lease σ) (ls : LeaseState) (w : Watched σ)
    (us : StreamUses) :
    (l.watched n).DisconnectsOnce n (ls, w) us ↔ l.StaysClosed (ls, w.state) us := by
  have hclosed (vs : StreamUses) :
      (l.watched n).stream.isClosed ((l.watched n).stream.after vs (ls, w)) =
        l.stream.isClosed (l.stream.after vs (ls, w.state)) :=
    (l.watched_usedAlike n).isClosed ((l.watched_usedAlike n).after vs ⟨rfl, rfl⟩).2
  constructor
  · intro h vs g hvs
    have hbefore := h vs ((List.prefix_append _ _).trans hvs)
    have hafter := h _ hvs
    rw [Source.after_concat, disconnects_use, hbefore, hclosed, StreamUses.close_append] at hafter
    simp only [StreamUses.close_singleton, beq_self_eq_true, Bool.or_true, true_and] at hafter
    cases hv : vs.close <;> cases hl : l.stream.isClosed (l.stream.after vs (ls, w.state)) <;>
      simp_all
  · intro h vs
    induction vs using List.reverseRecOn with
    | nil => simp
    | append_singleton vs ug ih =>
        obtain ⟨u, g⟩ := ug
        intro hvs
        have hbefore := ih ((List.prefix_append _ _).trans hvs)
        rw [Source.after_concat, disconnects_use, hbefore, hclosed, StreamUses.close_append,
          StreamUses.close_singleton]
        by_cases hu : u = .close
        · subst hu
          rw [h vs g hvs]
          cases StreamUses.close vs <;> simp
        · simp [hu]

/-- A stream that a close closes for good stays closed. -/
theorem staysClosed_of_sealed {l : Lease σ} {V : LeaseState × σ → Prop}
    (h : Source.Sealed V l.stream) {p : LeaseState × σ} (hV : V p)
    (hopen : l.stream.isClosed p = false) (us : StreamUses) : l.StaysClosed p us := by
  intro vs g _
  rw [h.isClosed_after vs hV, hopen, Bool.false_or]

end Lease

/-! ### The lease that is handed out -/

theorem ok_of_obtaining {c : Connection σ} {url : String} {g : Option Failure} {s s' : σ}
    {a : Option (Source σ)} (h : obtaining c url g s = (.ok a, s')) :
    c.input g s = (.ok a, s') := by
  rcases hc : c.input g s with ⟨f | b, s₁⟩
  · -- whatever is done about a failure ends in a failure
    rw [obtaining, Action.run_rescue_error hc] at h
    split at h
    · obtain ⟨_, _, _, hrethrow⟩ := Action.ok_of_run_bind h
      cases hrethrow
    · split at h
      · obtain ⟨_, _, _, hraise⟩ := Action.ok_of_run_bind h
        cases hraise
      · cases h
  · rw [obtaining, Action.run_rescue_ok hc] at h
    exact h

/-- **A call that succeeds hands out what was opened, and has disconnected nothing.** -/
theorem openResponse_ok (o : Opener σ) (headers : Option HeaderMap) (url : String)
    (g : Option Failure) (w : Watched σ) {l : Lease σ} {s : σ}
    (h : openResponse o headers url g w.state = (.ok l, s)) :
    ∃ w', openResponse o.watched headers url g w = (.ok (l.watched w.opened), w') ∧
      w'.state = s ∧ w'.opened = w.opened + 1 ∧
        w'.disconnects w.opened = w.disconnects w.opened := by
  rw [openResponse_eq] at h
  obtain ⟨c, s₁, hconnect, h⟩ := Action.ok_of_run_bind h
  obtain ⟨a, s₂, hinput, h⟩ := Action.ok_of_run_bind h
  have hinput := ok_of_obtaining hinput
  let w₁ : Watched σ := { w with state := s₁, opened := w.opened + 1 }
  have hwatched := watching_ok (w := w₁) hinput w.opened .input fun a => .stream a.isSome
  have hobtain : obtaining (c.watched w.opened) url g w₁ = (.ok (a.map (·.watched w.opened)), _) :=
    Action.run_rescue_ok (Action.run_handing (Option.map (Source.watched w.opened)) hwatched)
  rw [openResponse_eq, Action.run_bind_ok (connect_ok hconnect), Action.run_bind_ok hobtain]
  cases a with
  | none =>
      cases h
      exact ⟨_, rfl, rfl, rfl, by simp [Watched.disconnects, Event.disconnects, w₁]⟩
  | some a =>
      obtain ⟨u, s₃, hattach, hend⟩ := Action.ok_of_run_bind h
      cases hend
      refine ⟨_, Action.run_bind_ok (watching_ok hattach w.opened .attachReader fun _ => .done), rfl,
        rfl, ?_⟩
      simp [Watched.disconnects, Event.disconnects, w₁]

end ServiceClient
