/-
**Leases over the wire.**

The stream that a channel hands out is a buffer over a reader of the response.  Reading, to the end
or into a failure, never closes the reader, and the reader notes that it is closed also where
closing the response fails.  So a close closes it for good.  Disconnecting closes the response and
leaves the readers alone.  A lease over the wire therefore disconnects its connection once, with the
first close, whatever the service does; over other connections this depends on their streams.

Main definitions:

* `ServiceClient.Wire.Network.stream`: a stream of a channel of a network;
* `ServiceClient.Wire.Leases`: what a lease over the wire consists of.

Main results:

* `ServiceClient.Wire.Reading.source_sealed`, `ServiceClient.Wire.Network.lease_sealed`: **a close
  closes a reader and a lease for good**;
* `ServiceClient.Wire.Dialer.openResponse_leases`: the leases that are handed out over the wire;
* `ServiceClient.Wire.leases_released`: **when using a lease disconnects once**.
-/

import ServiceClient.Proofs.Exchange.LeaseRelease
import ServiceClient.Proofs.Exchange.LeaseUses
import ServiceClient.Proofs.Wire.Handed
import ServiceClient.Proofs.Wire.Reached
import ServiceClient.Recording

set_option autoImplicit false

namespace ServiceClient

open ServiceClient.Action (Along Keeps Meets)

namespace Wire

variable {α : Type}

/-! ### Readers -/

namespace Reading

variable (closed : Bool)

/-- Closing the response leaves its readers alone. -/
theorem close_response_keeps :
    Keeps (fun p : State => p.2.closed = closed) (Response.close.within .first) :=
  .within (fun _ _ h => h) _

theorem begin_keeps : Keeps (fun p : State => p.2.closed = closed) begin := by
  refine (Keeps.gets id).bind ?_
  rintro ⟨r, k⟩
  simp only
  split
  · split
    · exact Keeps.bind (.modify fun _ h => h) fun _ => .raise _
    · split
      · exact Keeps.bind (.modify fun _ h => h) fun _ => .raise _
      · exact .modify fun _ h => h
  · exact .pure _

theorem nextChunk_keeps : Keeps (fun p : State => p.2.closed = closed) nextChunk := by
  refine (begin_keeps closed).bind fun _ => (Keeps.gets id).bind ?_
  rintro ⟨r, k⟩
  simp only
  split
  · exact .pure _
  · split
    · exact Keeps.bind (.modify fun _ h => h) fun _ => .pure _
    · refine Keeps.bind (.modify fun _ h => h) fun _ => ?_
      cases r.readFailure with
      | some f => exact .raise f
      | none => exact (close_response_keeps closed).bind fun _ => .pure _

theorem read_keeps (n : Nat) : Keeps (fun p : State => p.2.closed = closed) (read n) := by
  refine (Keeps.gets id).bind ?_
  rintro ⟨r, k⟩
  have hgive (chunk : Bytes) : Keeps (fun p : State => p.2.closed = closed) (do
      .modify fun p => (p.1, { p.2 with pending := chunk.drop n })
      pure (chunk.take n)) := Keeps.bind (.modify fun _ h => h) fun _ => .pure _
  simp only
  split
  · exact (nextChunk_keeps closed).bind hgive
  · exact (Keeps.pure k.pending).bind hgive

theorem go_keeps (fuel : Nat) : Keeps (fun p : State => p.2.closed = closed) (readAll.go fuel) := by
  induction fuel with
  | zero => exact .pure _
  | succ fuel ih =>
      refine (nextChunk_keeps closed).bind fun chunk => ?_
      by_cases h : chunk.isEmpty
      · simp only [h, if_true]
        exact .pure _
      · simp only [h]
        exact ih.bind fun _ => .pure _

theorem readAll_keeps : Keeps (fun p : State => p.2.closed = closed) readAll := by
  refine (Keeps.gets id).bind ?_
  rintro ⟨r, k⟩
  exact Keeps.bind (.modify fun _ h => h) fun _ => (go_keeps closed _).bind fun _ => .pure _

/-- **A close closes a reader for good**: nothing else closes it, and it is closed also where the
response cannot be. -/
theorem source_sealed : Source.Sealed (fun _ => True) source where
  reads closed := by
    have hsame : (fun p : State => True ∧ source.isClosed p = closed) = fun p => p.2.closed = closed :=
      funext fun _ => true_and _
    rw [hsame]
    exact .of_keeps (read_keeps closed) (read_keeps closed) (readAll_keeps closed)
      (readAll_keeps closed)
  close := by
    refine Meets.bind (Q := fun closed p => p.2.closed = closed) (.gets fun _ _ => rfl)
      fun closed => ?_
    cases closed with
    | true => exact .pure fun _ h => ⟨trivial, h⟩
    | false =>
        exact (close_response_keeps false).meets.ensure (fun _ => .modify fun _ _ => ⟨trivial, rfl⟩)
          fun _ => .modify fun _ _ => ⟨trivial, rfl⟩

end Reading

/-! ### Streams of channels -/

namespace Channel

/-- A stream that was handed out can be taken out and put back. -/
theorem get_set_streamPart (j : Nat) (c : Channel) (x : Buffer × Reading.State)
    (h : j < c.streams.length) : (streamPart j).get ((streamPart j).set x c) = x := by
  simp [streamPart, h]

theorem lt_set_streamPart (j : Nat) (c : Channel) (x : Buffer × Reading.State)
    (h : j < c.streams.length) : j < ((streamPart j).set x c).streams.length := by
  simpa [streamPart] using h

end Channel

namespace Session

/-- One of the streams that the channel of a session has handed out. -/
def stream (j : Nat) : Source Session :=
  ((Reading.source.buffered Channel.streamName).within (Channel.streamPart j)).within channelPart

/-- A stream that is handed out is a new one. -/
theorem openStream_meets :
    Meets (fun _ => True)
      (do pure (some ((← Channel.openStream.within channelPart).within channelPart)))
      (fun a s => ∃ j, a = some (stream j) ∧ j < s.channel.streams.length ∧
        s.channel.streams.getD j default = default)
      fun _ _ => False := by
  intro g s _
  refine .ok ⟨s.channel.streams.length, rfl, ?_, ?_⟩
  · exact List.length_append ▸ Nat.lt_succ_self _
  · change (s.channel.streams ++ [default]).getD s.channel.streams.length default = default
    simp

/-- A response without a body has no stream; any other one has a stream of its own. -/
theorem input_meets :
    Meets (fun _ => True) input
      (fun a s => ∀ b, a = some b → ∃ j, b = stream j ∧ j < s.channel.streams.length ∧
        s.channel.streams.getD j default = default)
      fun _ _ => True := by
  refine (Meets.trivial respond).bind fun response => ?_
  by_cases herror : response.isError
  · simp only [herror, if_true]
    exact (Meets.trivial _).bind fun url => .raise fun _ _ _ => trivial
  · simp only [herror]
    by_cases hbody : response.hasBody
    · simp only [hbody, if_true]
      refine openStream_meets.weaken (fun _ h => h) ?_ fun _ _ => False.elim
      rintro _ s ⟨j, rfl, h⟩ b hb
      exact ⟨j, (Option.some.inj hb).symm, h⟩
    · simp only [hbody]
      exact .pure fun _ _ => nofun

end Session

namespace Network

def stream (i j : Nat) : Source Network :=
  (Session.stream j).within (session i)

/-- The channel is there and has handed out the stream. -/
def Holds (n : Network) (i j : Nat) : Prop :=
  i < n.channels.length ∧ j < (n.channels.getD i default).streams.length

/-- The stream is a new one: nothing was done with it. -/
def Unused (n : Network) (i j : Nat) : Prop :=
  n.Holds i j ∧ (n.channels.getD i default).streams.getD j default = default

/-- A new stream is open. -/
theorem Unused.isOpen {n : Network} {i j : Nat} (h : n.Unused i j) :
    (stream i j).isClosed n = false := by
  change ((n.channels.getD i default).streams.getD j default).2.closed = false
  rw [h.2]
  rfl

/-- A channel that is there can be taken out and put back. -/
theorem get_set_of_lt (i : Nat) (n : Network) (s : Session) (h : i < n.channels.length) :
    (session i).get ((session i).set s n) = s := by
  simp [session, h]

theorem lt_set_of_lt (i : Nat) (n : Network) (s : Session) (h : i < n.channels.length) :
    i < ((session i).set s n).channels.length := by
  simpa [session] using h

theorem lt_opening (c : Channel) (n : Network) :
    n.channels.length < (n.opening c).channels.length := by
  simp [opening]

/-- **A close closes a stream of a channel for good.** -/
theorem stream_sealed (i j : Nat) : Source.Sealed (Holds · i j) (stream i j) := by
  have hchannel : Source.Sealed (fun c : Channel => j < c.streams.length ∧ True)
      ((Reading.source.buffered Channel.streamName).within (Channel.streamPart j)) :=
    (Reading.source_sealed.buffered _).within (Channel.get_set_streamPart j)
      (Channel.lt_set_streamPart j)
  have hsession := hchannel.within_all Session.channelPart fun _ _ => rfl
  rw [stream, Session.stream]
  refine (hsession.within (get_set_of_lt i) (lt_set_of_lt i)).congr fun n => ?_
  simp [Holds, session, Session.channelPart]

/-- Preparing a stream for reading does nothing with it. -/
theorem attach_meets (i j : Nat) :
    Meets (·.Unused i j) (stream i j).attach (fun _ n => n.Unused i j) fun _ _ => False := by
  have hraw : Meets (fun x : Buffer × Reading.State => (x.1, x.2.2) = default) (pure ())
      (fun _ x => (x.1, x.2.2) = default) fun _ _ => False := .pure fun _ h => h
  have hchannel := hraw.within (Channel.get_set_streamPart j) (Channel.lt_set_streamPart j)
  change Meets _ ((((pure () : Action (Buffer × Reading.State) Unit).within
    (Channel.streamPart j)).within Session.channelPart).within (session i)) _ _
  refine ((hchannel.within_all Session.channelPart fun _ _ => rfl).within (get_set_of_lt i)
    (lt_set_of_lt i)).weaken (fun _ h => ⟨h.1.1, h.1.2, h.2⟩)
    (fun _ _ h => ⟨⟨h.1, h.2.1⟩, h.2.2⟩) fun _ _ h => h.2.2

/-- The stream of a channel's response, if there is one, is one of its streams, and new. -/
theorem input_meets (url : String) (i : Nat) :
    Meets (fun n => i < n.channels.length) ((Session.connection url).within (session i)).input
      (fun a n => ∀ b, a = some b → ∃ j, b = stream i j ∧ n.Unused i j) fun _ _ => True := by
  have hinput := (Session.input_meets.within (get_set_of_lt i) (lt_set_of_lt i)).weaken
    (fun _ h => ⟨h, trivial⟩) (fun _ _ h => h) fun _ _ _ => trivial
  refine hinput.handing ?_
  rintro a n ⟨hi, ha⟩ b hb
  obtain ⟨b, rfl, rfl⟩ := Option.map_eq_some_iff.mp hb
  obtain ⟨j, rfl, hj, hnew⟩ := ha b rfl
  exact ⟨j, rfl, ⟨hi, hj⟩, hnew⟩

/-! ### Disconnecting -/

/-- Disconnecting leaves the streams of its channel alone. -/
theorem disconnecting_keeps (url : String) (i : Nat) (K : List (Buffer × Reading) → Prop) :
    Keeps (fun n => i < n.channels.length ∧ K (n.channels.getD i default).streams)
      (disconnecting ((Session.connection url).within (session i))) := by
  have hchannel : Keeps (fun c : Channel => K c.streams) Channel.disconnect := by
    refine (Keeps.gets id).bind fun c => ?_
    by_cases h : c.disconnected
    · simp only [h, if_true]
      exact .pure _
    · simp only [h]
      refine Keeps.bind (.modify fun _ h => h) fun _ => Keeps.ensure ?_ (.modify fun _ h => h)
      by_cases hresponse : c.response.isSome
      · simp only [hresponse, if_true]
        exact .within (fun _ _ h => h) _
      · simp only [hresponse]
        exact .pure _
  have hsession : Keeps (fun s : Session => K s.channel.streams)
      (Channel.disconnect.within Session.channelPart) :=
    hchannel.within_of (fun _ h => h) fun _ _ _ h => h
  have hnetwork : Keeps (fun n => i < n.channels.length ∧ K (n.channels.getD i default).streams)
      ((Session.connection url).within (session i)).disconnect :=
    hsession.within_of (fun _ h => h.2) fun n s h hs =>
      ⟨lt_set_of_lt i n s h.1, by rw [← get_set_of_lt i n s h.1] at hs; exact hs⟩
  refine hnetwork.rescue fun f => ?_
  by_cases hf : f.isExchangeFailure
  · simp only [hf, if_true]
    exact .raiseFrom _ f
  · simp only [hf]
    exact .rethrow f

end Network

/-! ### Leases -/

/-- The lease of a stream over the connection of its channel. -/
def Network.lease (url : String) (i j : Nat) : Lease Network where
  connection := (Session.connection url).within (Network.session i)
  source := some (Network.stream i j)

/-- **A close closes such a lease for good.** -/
theorem Network.lease_sealed (url : String) (i j : Nat) :
    Source.Sealed (fun p : LeaseState × Network => p.2.Holds i j) (lease url i j).stream := by
  have hdisconnect : Keeps
      (fun p : LeaseState × Network => p.2.Holds i j ∧ (lease url i j).stream.isClosed p = true)
      ((disconnecting (lease url i j).connection).within .second) :=
    (disconnecting_keeps url i fun xs =>
      j < xs.length ∧ (xs.getD j default).2.closed = true).within_of
      (fun _ h => ⟨h.1.1, h.1.2, h.2⟩) fun _ _ _ hn => ⟨⟨hn.1, hn.2.1⟩, hn.2.2⟩
  exact Lease.stream_sealed (V := (Holds · i j))
    (fun a ha => by cases ha; exact stream_sealed i j) hdisconnect

/-- The leases over a network: a new stream of a channel, or none, and its channel. -/
inductive Leases (n : Network) : Lease Network → Prop
  | empty (url : String) (i : Nat) :
      Leases n { connection := (Session.connection url).within (Network.session i), source := none }
  | stream (url : String) {i j : Nat} : n.Unused i j → Leases n (Network.lease url i j)

/-- **What is handed out over the wire is such a lease.** -/
theorem Dialer.openResponse_leases (d : Dialer) (headers : Option HeaderMap) (url : String)
    (g : Option Failure) (n : Network) {l : Lease Network} {n' : Network}
    (h : openResponse d.opener headers url g n = (.ok l, n')) : Leases n' l := by
  rw [openResponse_eq] at h
  obtain ⟨c, n₁, hconnect, h⟩ := Action.ok_of_run_bind h
  obtain ⟨a, n₂, hobtain, h⟩ := Action.ok_of_run_bind h
  cases hprepare : d.prepare url with
  | error f =>
      obtain ⟨f', n', hfails, -⟩ := connect_error hprepare (headers.getD []) g n
      rw [hfails] at hconnect
      cases hconnect
  | ok u =>
      rw [connect_ok hprepare] at hconnect
      cases hconnect
      have hinput := Network.input_meets url n.channels.length g _ (Network.lt_opening
        { url, proxyUrl := d.proxyUrl, headers := headers.getD [] } n)
      rw [ok_of_obtaining hobtain] at hinput
      obtain ⟨ha⟩ := hinput
      cases a with
      | none =>
          cases h
          exact .empty url _
      | some b =>
          obtain ⟨j, rfl, hb⟩ := ha b rfl
          obtain ⟨u, n₃, hattach, hend⟩ := Action.ok_of_run_bind h
          cases hend
          have hattached := Network.attach_meets n.channels.length j g n₂ hb
          rw [hattach] at hattached
          obtain ⟨hnew⟩ := hattached
          exact .stream url hnew

/-- **A lease over the wire is closed exactly if it was closed.** -/
theorem Leases.staysClosed {n : Network} {l : Lease Network} (h : Leases n l) (us : StreamUses) :
    l.StaysClosed ({}, n) us := by
  cases h with
  | empty url i =>
      have hsealed := Lease.stream_sealed (V := fun _ : Network => True)
        (l := ⟨(Session.connection url).within (Network.session i), none⟩) nofun
        (.within (fun _ _ h => ⟨trivial, h.2⟩) _)
      exact Lease.staysClosed_of_sealed hsealed trivial rfl us
  | @stream url i j hnew =>
      exact Lease.staysClosed_of_sealed (p := ({}, n)) (Network.lease_sealed url i j) hnew.1
        hnew.isOpen us

/-- **When using a lease disconnects once.**  The call that hands it out has disconnected nothing,
and watching the lease changes nothing of what its uses give.  The connection is disconnected once,
with the first close, exactly if every close finds the stream closed if and only if it was closed
before; over the wire it always is. -/
theorem leases_released (headers : Option HeaderMap) (url : String) (g : Option Failure) :
    (∀ {σ : Type} (o : Opener σ) (w : Watched σ) (l : Lease σ) (s : σ),
      openResponse o headers url g w.state = (.ok l, s) →
      ∃ w', openResponse o.watched headers url g w = (.ok (l.watched w.opened), w') ∧
        w'.state = s ∧ w'.disconnects w.opened = w.disconnects w.opened ∧
        ∀ us : StreamUses,
          ((l.watched w.opened).stream.results us ({}, w') = l.stream.results us ({}, s) ∧
            Source.Beside (fun w s => w.state = s) ((l.watched w.opened).stream.after us ({}, w'))
              (l.stream.after us ({}, s))) ∧
          ((l.watched w.opened).DisconnectsOnce w.opened ({}, w') us ↔ l.StaysClosed ({}, s) us)) ∧
    ∀ (d : Dialer) (w : Watched Network) (l : Lease Network) (n : Network),
      openResponse d.opener headers url g w.state = (.ok l, n) →
      ∃ w', openResponse d.opener.watched headers url g w = (.ok (l.watched w.opened), w') ∧
        ∀ us : StreamUses, (l.watched w.opened).DisconnectsOnce w.opened ({}, w') us := by
  constructor
  · intro σ o w l s h
    obtain ⟨w', hrun, rfl, -, hcount⟩ := openResponse_ok o headers url g w h
    refine ⟨w', hrun, rfl, hcount, fun us => ⟨?_, l.disconnectsOnce_iff w.opened {} w' us⟩⟩
    exact (l.watched_usedAlike w.opened).after us ⟨rfl, rfl⟩
  · intro d w l n h
    obtain ⟨w', hrun, rfl, -, -⟩ := openResponse_ok d.opener headers url g w h
    refine ⟨w', hrun, fun us => ?_⟩
    have hstays := (d.openResponse_leases headers url g w.state h).staysClosed us
    exact (l.disconnectsOnce_iff w.opened {} w' us).mpr hstays

/-- A service that answers, and a recording connection. -/
theorem leases_released_answering :
    let w := answering (.answers {})
    let v : Watched Recorder := { state := { connections := [{}] } }
    (∃ l n, openResponse (Dialer.opener {}) none "http://svc.local/x" none w.state = (.ok l, n) ∧
      ∃ w', openResponse (Dialer.opener {}).watched none "http://svc.local/x" none w =
          (.ok (l.watched 0), w') ∧ ∀ us, (l.watched 0).DisconnectsOnce 0 ({}, w') us) ∧
    ∃ l s, openResponse Recorder.opener none "http://svc.local/x" none v.state = (.ok l, s) ∧
      ∃ v', openResponse Recorder.opener.watched none "http://svc.local/x" none v =
          (.ok (l.watched 0), v') ∧
        ∀ us, (l.watched 0).DisconnectsOnce 0 ({}, v') us ↔ l.StaysClosed ({}, s) us := by
  intro w v
  have hwire : (openResponse (Dialer.opener {}) none "http://svc.local/x" none w.state).1.isOk := by
    decide +kernel
  have hrecorder :
      (openResponse Recorder.opener none "http://svc.local/x" none v.state).1.isOk := by
    decide +kernel
  constructor
  · rcases h : openResponse (Dialer.opener {}) none "http://svc.local/x" none w.state with ⟨f | l, n⟩
    · rw [h] at hwire
      cases hwire
    · exact ⟨l, n, rfl, (leases_released none "http://svc.local/x" none).2 {} w l n h⟩
  · rcases h : openResponse Recorder.opener none "http://svc.local/x" none v.state with ⟨f | l, s⟩
    · rw [h] at hrecorder
      cases hrecorder
    · obtain ⟨v', hrun, -, -, hall⟩ :=
        (leases_released none "http://svc.local/x" none).1 Recorder.opener v l s h
      exact ⟨l, s, rfl, v', hrun, fun us => (hall us).2⟩

/-- A stream whose first close fails and leaves it open is closed twice, and its connection is
disconnected twice. -/
theorem lease_disconnected_twice :
    let w : Watched Recorder :=
      { state := { connections := [{ responseStream := some { closeFailure := some (.plain .io) } }] } }
    ∃ l w', openResponse Recorder.opener.watched none "http://svc.local/x" none w = (.ok l, w') ∧
      w'.disconnects 0 = 0 ∧
      (l.stream.after [(.close, none)] ({}, w')).2.disconnects 0 = 1 ∧
      (l.stream.after [(.close, none), (.close, none)] ({}, w')).2.disconnects 0 = 2 := by
  intro w
  have hcounts : (match openResponse Recorder.opener.watched none "http://svc.local/x" none w with
      | (.ok l, w') => [w'.disconnects 0, (l.stream.after [(.close, none)] ({}, w')).2.disconnects 0,
          (l.stream.after [(.close, none), (.close, none)] ({}, w')).2.disconnects 0]
      | (.error _, _) => []) = [0, 1, 2] := by
    decide +kernel
  generalize openResponse Recorder.opener.watched none "http://svc.local/x" none w = x at hcounts
  obtain ⟨f | l, w'⟩ := x
  · cases hcounts
  · simp only [List.cons.injEq, and_true] at hcounts
    exact ⟨l, w', rfl, hcounts⟩

end Wire

end ServiceClient
