/-
**Bodies are delivered whole.**

What a reader delivers piece by piece is the body in its order.  So what is made of all pieces knows
nothing of where the body was cut: the text of a response, what a call comes to, and what is read
from a lease, whatever is read and in whatever order.  For a lease that is open the bytes may lie in
other places, in the two buffers, the reader and the chunks, and reads cannot tell; its close looks
at no byte; and once it is closed nothing can be read from it any more.

Main definitions:

* `ServiceClient.Wire.Channel.Beneath`, `ServiceClient.Wire.Network.Beneath`: channels and networks
  that agree in a stream;
* `ServiceClient.Wire.Network.Indistinct`: states of a lease that its uses cannot tell apart.

Main results:

* `ServiceClient.Wire.Network.lease_use_alike`: **one use of a lease cannot tell where the bytes are
  cut**;
* `ServiceClient.Wire.Leases.results_recut`: neither can any uses;
* `ServiceClient.Wire.bodies_delivered`: **what is delivered of a body, and what comes of it**.
-/

import ServiceClient.Proofs.Wire.Recut

set_option autoImplicit false

namespace ServiceClient

open ServiceClient.Action (Alike EndsAlike)

namespace Wire

open Reading (Cut Framed)

/-! ### Streams of channels -/

namespace Reading.Framed

variable {x y : Buffer × Reading.State}

theorem response (h : Framed x y) : x.2.1.Agree (fun _ _ => True) y.2.1 := by
  obtain ⟨⟨-, -⟩⟩ := h
  exact .of trivial

theorem withResponse (h : Framed x y) {r r' : Response} (hr : r.Agree (fun _ _ => True) r') :
    Framed (x.1, (r, x.2.2)) (y.1, (r', y.2.2)) := by
  obtain ⟨⟨-, -⟩⟩ := h
  obtain ⟨-⟩ := hr
  exact .of (.of trivial trivial)

end Reading.Framed

section Beneath

variable {T : Buffer × Reading.State → Buffer × Reading.State → Prop} {i j : Nat}

/-- Channels that have handed out a stream and agree in it, and which have a response and are
disconnected together. -/
structure Channel.Beneath (T : Buffer × Reading.State → Buffer × Reading.State → Prop) (j : Nat)
    (c d : Channel) : Prop where
  left_handed : j < c.streams.length
  right_handed : j < d.streams.length
  stream : T ((streamPart j).get c) ((streamPart j).get d)
  disconnected_eq : c.disconnected = d.disconnected
  isSome_eq : c.response.isSome = d.response.isSome

/-- Networks that have a channel, and agree in a stream of it. -/
structure Network.Beneath (T : Buffer × Reading.State → Buffer × Reading.State → Prop) (i j : Nat)
    (n m : Network) : Prop where
  left_lt : i < n.channels.length
  right_lt : i < m.channels.length
  channel : (n.channels.getD i default).Beneath T j (m.channels.getD i default)

namespace Channel.Beneath

variable {c d : Channel}

theorem weaken {U : Buffer × Reading.State → Buffer × Reading.State → Prop}
    (h : c.Beneath T j d) (hU : ∀ x y, T x y → U x y) : c.Beneath U j d :=
  { h with stream := hU _ _ h.stream }

theorem set_stream (h : c.Beneath T j d) {x y : Buffer × Reading.State} (hxy : T x y) :
    ((streamPart j).set x c).Beneath T j ((streamPart j).set y d) where
  left_handed := lt_set_streamPart j c x h.left_handed
  right_handed := lt_set_streamPart j d y h.right_handed
  stream := by
    rwa [get_set_streamPart j c x h.left_handed, get_set_streamPart j d y h.right_handed]
  disconnected_eq := h.disconnected_eq
  isSome_eq := rfl

/-- Closing the response leaves a stream as it is, apart from the response. -/
theorem set_response (h : c.Beneath Framed j d) {r r' : Response}
    (hr : r.Agree (fun _ _ => True) r') :
    (responsePart.set r c).Beneath Framed j (responsePart.set r' d) where
  left_handed := h.left_handed
  right_handed := h.right_handed
  stream := h.stream.withResponse hr
  disconnected_eq := h.disconnected_eq
  isSome_eq := rfl

end Channel.Beneath

/-- Disconnecting looks at no byte of a stream. -/
theorem Channel.disconnect_framed (j : Nat) :
    Alike (Beneath Framed j) Eq disconnect disconnect := by
  refine Alike.bind (R := Beneath Framed j) (.gets fun _ _ h => h) fun c d h => ?_
  refine .ite (by rw [h.disconnected_eq]) (fun _ => .pure rfl) fun _ => ?_
  refine Alike.bind (R := Eq) (.modify fun _ _ h => { h with disconnected_eq := rfl }) ?_
  refine fun _ _ _ => Alike.ensure ?_ (.modify fun _ _ h => { h with })
  refine .ite (by rw [h.isSome_eq]) (fun _ => ?_) fun _ => .pure rfl
  exact (Response.close_alike fun _ _ => True).within (fun _ _ h => h.stream.response)
    fun _ _ _ _ h hr => h.set_response hr

namespace Network

variable {n m : Network}

theorem Beneath.weaken {U : Buffer × Reading.State → Buffer × Reading.State → Prop}
    (h : n.Beneath T i j m) (hU : ∀ x y, T x y → U x y) : n.Beneath U i j m :=
  { h with channel := h.channel.weaken hU }

theorem Beneath.set_session (h : n.Beneath T i j m) {s t : Session}
    (hst : s.channel.Beneath T j t.channel) :
    ((session i).set s n).Beneath T i j ((session i).set t m) where
  left_lt := lt_set_of_lt i n s h.left_lt
  right_lt := lt_set_of_lt i m t h.right_lt
  channel := by
    change ((session i).get ((session i).set s n)).channel.Beneath T j
      ((session i).get ((session i).set t m)).channel
    rwa [get_set_of_lt i n s h.left_lt, get_set_of_lt i m t h.right_lt]

/-- What is alike of channels is alike of their networks. -/
theorem within_beneath {m m' : Action Channel Unit}
    (h : Alike (Channel.Beneath T j) Eq m m') :
    Alike (Beneath T i j) Eq ((m.within Session.channelPart).within (session i))
      ((m'.within Session.channelPart).within (session i)) := by
  have hsession : Alike (fun s t : Session => s.channel.Beneath T j t.channel) Eq
      (m.within Session.channelPart) (m'.within Session.channelPart) :=
    h.within (fun _ _ hst => hst) fun _ _ _ _ _ hcd => hcd
  exact hsession.within (fun _ _ h => h.channel) fun _ _ _ _ h => h.set_session

theorem stream_cut (i j : Nat) : (stream i j).ReadAlike (Beneath Cut i j) (stream i j) := by
  have hchannel := (Reading.buffered_cut Channel.streamName).within
    (T := Channel.Beneath Cut j) (fun _ _ h => h.stream) fun _ _ _ _ h => h.set_stream
  have hsession : Source.ReadAlike (fun s t : Session => s.channel.Beneath Cut j t.channel)
      (Session.stream j) (Session.stream j) :=
    hchannel.within (fun _ _ h => h) fun _ _ _ _ _ h => h
  exact hsession.within (fun _ _ h => h.channel) fun _ _ _ _ h => h.set_session

theorem stream_framed (i j : Nat) : (stream i j).CloseAlike (Beneath Framed i j) (stream i j) := by
  have hchannel := (Reading.buffered_framed Channel.streamName).within
    (T := Channel.Beneath Framed j) (fun _ _ h => h.stream) fun _ _ _ _ h => h.set_stream
  have hsession : Source.CloseAlike (fun s t : Session => s.channel.Beneath Framed j t.channel)
      (Session.stream j) (Session.stream j) :=
    hchannel.within (fun _ _ h => h) fun _ _ _ _ _ h => h
  exact hsession.within (fun _ _ h => h.channel) fun _ _ _ _ h => h.set_session

end Network

end Beneath

/-! ### Leases -/

namespace Network

variable {n m : Network} {i j : Nat}

theorem lease_cut (url : String) (i j : Nat) :
    Source.ReadAlike (Source.Beside (Beneath Cut i j)) (lease url i j).stream
      (lease url i j).stream :=
  Lease.stream_readAlike (.some (stream_cut i j))

theorem lease_framed (url : String) (i j : Nat) :
    Source.CloseAlike (Source.Beside (Beneath Framed i j)) (lease url i j).stream
      (lease url i j).stream :=
  Lease.stream_closeAlike (.some (stream_framed i j))
    (reporting_alike _ (within_beneath (Channel.disconnect_framed j)))

/-- States of a lease that its uses cannot tell apart: they differ in where the bytes are cut, or
the lease is closed in both. -/
def Indistinct (url : String) (i j : Nat) (p q : LeaseState × Network) : Prop :=
  Source.Beside (Beneath Cut i j) p q ∨
    (lease url i j).stream.isClosed p = true ∧ (lease url i j).stream.isClosed q = true

/-- **One use of a lease cannot tell where the bytes are cut.** -/
theorem lease_use_alike (url : String) (i j : Nat) (u : StreamUse) :
    Alike (Indistinct url i j) Eq ((lease url i j).stream.use u)
      ((lease url i j).stream.use u) := by
  rintro g p q (h | ⟨hp, hq⟩)
  · by_cases hu : u = .close
    · subst hu
      have hframed : Source.Beside (Beneath Framed i j) p q :=
        ⟨h.1, h.2.weaken fun _ _ => Cut.framed⟩
      have hend : EndsAlike (Source.Beside (Beneath Framed i j)) Eq
          ((lease url i j).stream.use .close g p) ((lease url i j).stream.use .close g q) :=
        (lease_framed url i j).close.bind (fun _ _ _ => .pure rfl) g p q hframed
      -- the close has closed both
      have hp := ((lease_sealed url i j).use .close g ⟨h.2.left_lt, h.2.channel.left_handed⟩).2
      have hq := ((lease_sealed url i j).use .close g ⟨h.2.right_lt, h.2.channel.right_handed⟩).2
      rw [beq_self_eq_true, Bool.or_true] at hp hq
      exact .of_eq hend.fst (.inr ⟨hp, hq⟩)
    · have hend := (lease_cut url i j).use hu g p q h
      exact .of_eq hend.fst (.inl hend.snd)
  · rw [Lease.use_of_closed hp, Lease.use_of_closed hq]
    exact .of_eq rfl (.inr ⟨hp, hq⟩)

end Network

/-- In a stream that is new, channels agree whose bodies are cut in different ways. -/
theorem Channel.Recut.beneath {c d : Channel} {j : Nat} (h : c.Recut d)
    (hj : j < c.streams.length) (hnew : c.streams.getD j default = default) :
    c.Beneath Cut j d := by
  obtain @⟨response, hresponse⟩ := h
  have hr := getD_recut hresponse
  refine ⟨hj, hj, ?_, rfl, isSome_eq hresponse⟩
  simp only [streamPart, hnew]
  generalize c.response.getD {} = r, response.getD {} = r' at hr ⊢
  obtain ⟨hchunks⟩ := hr
  exact .of_chunks hchunks rfl rfl

/-- **A lease that was handed out gives the same, whatever is done with it, however the bodies are
cut.** -/
theorem Leases.results_recut {n m : Network} {l : Lease Network} (h : Leases n l) (hnm : n.Recut m)
    (us : StreamUses) : l.stream.results us ({}, n) = l.stream.results us ({}, m) := by
  cases h with
  | empty url i =>
      let l : Lease Network := ⟨(Session.connection url).within (Network.session i), none⟩
      have hempty := Lease.stream_usedAlike (l := l) (k := l) .none
        (Network.connection_recut url i).toAnswersAlike
      have hsame : Source.Beside Network.Recut (({} : LeaseState), n) ({}, m) := ⟨rfl, hnm⟩
      exact (hempty.after us hsame).1
  | @stream url i j hnew =>
      have hbeneath : n.Beneath Cut i j m :=
        ⟨hnew.1.1, hnm.length_eq ▸ hnew.1.1, (hnm.channel i).beneath hnew.1.2 hnew.2⟩
      have hsame : Network.Indistinct url i j ({}, n) ({}, m) := .inl ⟨rfl, hbeneath⟩
      exact (Source.after_alike (Network.lease_use_alike url i j) us hsame).1

/-! ### What is delivered -/

/-- **What is delivered of a body, and what comes of it.**  Over a response that has been neither
read nor closed, what was delivered in any pieces is a beginning of the body.  The next call puts
bytes that follow at the beginning of its buffer, leaves the rest of the buffer as it is, and brings
none exactly if all was delivered; it fails only then, and only if the body breaks off or the
response cannot be closed.  So the text that is read of a response, what a call comes to, the lease
that is handed out and whatever is read from it do not depend on how the bodies are cut. -/
theorem bodies_delivered :
    (∀ (r : Response) (buffers : List (Bytes × Option Failure)) (buffer : Bytes)
      (g : Option Failure), r.consumed = false → r.closed = false →
      (∀ b ∈ buffers, b.1 ≠ []) → buffer ≠ [] →
      let x := Reading.source.fillAll buffers (r, {})
      x.1 <+: r.chunks.flatten ∧
        ((∃ piece q, Reading.source.fill buffer g x.2 =
            (.ok (piece.length, piece ++ buffer.drop piece.length), q) ∧
          piece.length ≤ buffer.length ∧ x.1 ++ piece <+: r.chunks.flatten ∧
          (piece.length = 0 ↔ x.1 = r.chunks.flatten)) ∨
        ∃ f q, Reading.source.fill buffer g x.2 = (.error f, q) ∧ x.1 = r.chunks.flatten ∧
          (r.readFailure ≠ none ∨ r.closeFailure ≠ none))) ∧
    (∀ (url : String) (s t : Session) (g : Option Failure), s.Recut t →
      (readResponse (Session.connection url) g s).1 =
        (readResponse (Session.connection url) g t).1) ∧
    ∀ (d : Dialer) (n m : Network) (g : Option Failure), n.Recut m →
      (∀ c : Call, (c.perform d.opener g n).1 = (c.perform d.opener g m).1) ∧
      ∀ (headers : Option HeaderMap) (url : String),
        let x := openResponse d.opener headers url g n
        let y := openResponse d.opener headers url g m
        x.1 = y.1 ∧ ∀ l, x.1 = .ok l → ∀ us : StreamUses,
          l.stream.results us ({}, x.2) = l.stream.results us ({}, y.2) := by
  refine ⟨?_, ?_, ?_⟩
  · intro r buffers buffer g hunread hunclosed hbuffers hbuffer x
    have hserving := Reading.Serving.fillAll hunread hunclosed hbuffers (.fresh rfl)
    rw [List.nil_append] at hserving
    refine ⟨hserving.isPrefix, ?_⟩
    rcases hserving.fill hunread hunclosed hbuffer g with
      ⟨piece, q, hfill, hlength, hnone, hq⟩ | ⟨f, q, hfill, hgot, hfails, -⟩
    · rw [← List.length_eq_zero_iff] at hnone
      exact .inl ⟨piece, q, hfill, hlength, hq.isPrefix, hnone⟩
    · exact .inr ⟨f, q, hfill, hgot, hfails⟩
  · intro url s t g hst
    exact (readResponse_alike (Session.connection_recut url).toAnswersAlike g s t hst).fst
  · intro d n m g hnm
    refine ⟨fun c => (c.perform_alike d.opener_recut g n m hnm).fst, ?_⟩
    intro headers url x y
    have hopen := d.openResponse_recut headers url g n m hnm
    refine ⟨hopen.fst, fun l hl us => ?_⟩
    exact (d.openResponse_leases headers url g n (Prod.ext hl rfl)).results_recut hopen.snd us

/-- A body in pieces, with empty chunks around them, and the same body in one piece. -/
theorem bodies_delivered_pieces :
    let r : Response := { chunks := [[], [79], [], [75], []] }
    let whole : Response := { chunks := [[79, 75]] }
    let session (r : Response) : Session :=
      { channel := { url := "http://svc.local/x" }, service := { script := [.answers r] } }
    let network (r : Response) : Network := { service := { script := [.answers r] } }
    let x := Reading.source.fillAll [([0, 0], none)] (r, {})
    (x.1 <+: r.chunks.flatten ∧ ∃ piece q, Reading.source.fill [0, 0] none x.2 =
      (.ok (piece.length, piece ++ [0, 0].drop piece.length), q) ∧ piece.length ≠ 0) ∧
    (∃ result, (readResponse (Session.connection "http://svc.local/x") none (session r)).1 =
        .ok result ∧ result.text = "OK\n" ∧
      (readResponse (Session.connection "http://svc.local/x") none (session whole)).1 =
        .ok result) ∧
    ∃ l n m, openResponse (Dialer.opener {}) none "http://svc.local/x" none (network r) =
        (.ok l, n) ∧
      openResponse (Dialer.opener {}) none "http://svc.local/x" none (network whole) = (.ok l, m) ∧
      ∀ us : StreamUses, l.stream.results us ({}, n) = l.stream.results us ({}, m) := by
  intro r whole session network x
  have hscript : Service.Recut { script := [.answers r] } { script := [.answers whole] } :=
    .of (.cons (.answers (.of rfl)) .nil)
  obtain ⟨hpieces, hread, hnetworks⟩ := bodies_delivered
  refine ⟨?_, ?_, ?_⟩
  · have hbuffers : ∀ b ∈ [(([0, 0] : Bytes), (none : Option Failure))], b.1 ≠ [] := by simp
    have hmore : x.1 ≠ r.chunks.flatten := by decide +kernel
    obtain ⟨hdelivered, ⟨piece, q, hfill, -, -, hnone⟩ | ⟨f, q, -, hall, -⟩⟩ :=
      hpieces r [([0, 0], none)] [0, 0] none rfl rfl hbuffers (by simp)
    · exact ⟨hdelivered, piece, q, hfill, fun hlength => hmore (hnone.mp hlength)⟩
    · exact absurd hall hmore
  · have htext :
        (readResponse (Session.connection "http://svc.local/x") none (session r)).1.toOption.map
          ResponseResult.text = some "OK\n" := by
      decide +kernel
    have hsessions : (session r).Recut (session whole) := ⟨.refl _, hscript, rfl⟩
    have hsame := hread "http://svc.local/x" _ _ none hsessions
    rcases hr : (readResponse (Session.connection "http://svc.local/x") none (session r)).1 with
      f | result
    · rw [hr] at htext
      cases htext
    · rw [hr] at htext hsame
      exact ⟨result, rfl, Option.some.inj htext, hsame.symm⟩
  · have hnm : (network r).Recut (network whole) := ⟨rfl, fun _ => .refl _, hscript, rfl⟩
    obtain ⟨hsame, hresults⟩ := (hnetworks {} _ _ none hnm).2 none "http://svc.local/x"
    have hok :
        (openResponse (Dialer.opener {}) none "http://svc.local/x" none (network r)).1.isOk := by
      decide +kernel
    rcases hx : openResponse (Dialer.opener {}) none "http://svc.local/x" none (network r) with
      ⟨f | l, n⟩
    · rw [hx] at hok
      cases hok
    · rw [hx] at hsame hresults
      refine ⟨l, n, _, rfl, ?_, hresults l rfl⟩
      exact Prod.ext hsame.symm rfl

end Wire

end ServiceClient
