/-
**Bodies that are cut in another way.**

Nothing but reading looks at the chunks of a response, and what is read to the end does not depend
on them.  So a service whose bodies are cut in another way is the same service, as far as an
exchange goes: it answers the same requests, follows the same redirects, and gives the same texts
and the same failures.  The relation of the two runs is carried up from a response over its readers,
the service and the session to the network; each action respects it, so whole calls do.

Main definitions:

* `ServiceClient.Wire.Response.Recut`, `ServiceClient.Wire.Service.Recut`: the same response and the
  same service, bodies cut in another way;
* `ServiceClient.Wire.Session.Recut`, `ServiceClient.Wire.Network.Recut`: the same for whole runs.

Main results:

* `ServiceClient.Wire.Reading.readAll_recut`: reading to the end cannot tell how a body is cut;
* `ServiceClient.Wire.Service.send_recut`: neither can sending a request;
* `ServiceClient.Wire.Session.connection_recut`, `ServiceClient.Wire.Dialer.opener_recut`: **nor can
  an exchange over a connection or a call**;
* `ServiceClient.Wire.Dialer.openResponse_recut`: **the lease that is handed out is the same**.
-/

import Mathlib.Data.List.Forall2
import ServiceClient.Proofs.Exchange.Outcome
import ServiceClient.Proofs.Wire.Buffering
import ServiceClient.Proofs.Wire.Lease

set_option autoImplicit false

namespace ServiceClient

open ServiceClient.Action (Alike EndsAlike)

/-! ### Streams that are handed out -/

/-- A stream that is handed out, or none: it is the same one, and an exchange cannot tell apart the
states in which it is used. -/
def Offered {σ : Type} (S : σ → σ → Prop) (a b : Option (Source σ)) : Prop :=
  a = b ∧ ∀ source, a = some source → source.Alike S source

theorem Offered.rel {σ : Type} {S : σ → σ → Prop} {a b : Option (Source σ)} (h : Offered S a b) :
    Option.Rel (Source.Alike S) a b := by
  obtain ⟨rfl, hsource⟩ := h
  cases a with
  | none => exact .none
  | some source => exact .some (hsource source rfl)

namespace Wire

variable {α : Type}

/-! ### Responses -/

/-- The same response, its body cut in another way. -/
abbrev Response.Recut (r r' : Response) : Prop :=
  r.Agree (fun chunks chunks' => chunks'.flatten = chunks.flatten) r'

theorem Response.Recut.refl (r : Response) : r.Recut r :=
  .of rfl

namespace Reading

variable {p q : State}

/-- The same reader over the same response, the body cut in another way. -/
abbrev Recut (p q : State) : Prop :=
  Agree (fun chunks chunks' => chunks'.flatten = chunks.flatten)
    (fun bytes bytes' => bytes' = bytes) p q

theorem Recut.of_response {r r' : Response} (h : r.Recut r') (k : Reading) :
    Recut (r, k) (r', k) := by
  obtain ⟨hchunks⟩ := h
  exact .of hchunks rfl

theorem Recut.response (h : Recut p q) : p.1.Recut q.1 := by
  obtain ⟨hchunks, -⟩ := h
  exact .of hchunks

theorem Recut.reader_eq (h : Recut p q) : p.2 = q.2 := by
  obtain ⟨-, rfl⟩ := h
  rfl

theorem go_recut_of_running (h : Recut p q) (hphase : p.2.phase = .running)
    (hpending : p.2.pending = []) {fuel fuel' : Nat} (hfuel : p.1.chunks.length < fuel)
    (hfuel' : q.1.chunks.length < fuel') (g : Option Failure) :
    EndsAlike Recut Eq (readAll.go fuel g p) (readAll.go fuel' g q) := by
  obtain ⟨hchunks, rfl⟩ := h
  have hsame : finish p.1.chunks.flatten g ({ p.1 with chunks := _ }, p.2) =
      finish p.1.chunks.flatten g p := finish_congr rfl _
  rw [go_of_running fuel hfuel hphase hpending, go_of_running fuel' hfuel' hphase hpending, hchunks,
    hsame]
  exact .of_eq rfl (.of rfl rfl)

/-- Fetching all chunks cannot tell how they are cut, if there is fuel for all of them. -/
theorem go_recut (h : Recut p q) (hpending : p.2.pending = []) {fuel fuel' : Nat}
    (hfuel : p.1.chunks.length < fuel + 1) (hfuel' : q.1.chunks.length < fuel' + 1)
    (g : Option Failure) :
    EndsAlike Recut Eq (readAll.go (fuel + 1) g p) (readAll.go (fuel' + 1) g q) := by
  rcases phase_cases p with hfresh | hrunning | hover
  · obtain ⟨r, k⟩ := p
    obtain ⟨hchunks, rfl⟩ := h
    rw [go_begins fuel, go_begins fuel']
    rcases begin_cases g hfresh with ⟨-, f, hbegin⟩ | hbegin
    · rw [Action.run_bind_error (hbegin r.chunks), Action.run_bind_error (hbegin _)]
      exact .error (.of hchunks rfl)
    · -- both readers are running now
      let r' : Response := { r with consumed := true }
      let k' : Reading := { k with phase := .running }
      have hrunning : Recut (r', k') ({ r' with chunks := _ }, k') := .of hchunks rfl
      rw [Action.run_bind_ok (hbegin r.chunks), Action.run_bind_ok (hbegin _)]
      exact go_recut_of_running hrunning rfl hpending hfuel hfuel' g
  · exact go_recut_of_running h hrunning hpending hfuel hfuel' g
  · have hover' : q.2.phase = .over := by
      obtain ⟨-, rfl⟩ := h
      exact hover
    rw [go_of_over hover fuel, go_of_over hover' fuel']
    exact .ok rfl h

/-- **Reading to the end cannot tell how a body is cut.** -/
theorem readAll_recut : Alike Recut Eq readAll readAll := by
  rintro g p _ ⟨hchunks, rfl⟩
  have hgo := go_recut (p := (p.1, { p.2 with pending := [] })) (.of hchunks rfl) rfl
    (Nat.lt_succ_self _) (Nat.lt_succ_self _) g
  rw [readAll_eq, readAll_eq, Action.run_bind, Action.run_bind]
  generalize readAll.go _ g (p.1, { p.2 with pending := [] }) = x at hgo ⊢
  generalize readAll.go _ g _ = y at hgo ⊢
  cases hgo with
  | ok hbytes hstate => exact .ok (by rw [hbytes]) hstate
  | error hstate => exact .error hstate

theorem closed_eq (h : Recut p q) : source.isClosed p = source.isClosed q := by
  obtain ⟨-, rfl⟩ := h
  rfl

/-- An exchange reads a stream to its end and closes it, and cannot tell how the body is cut. -/
theorem buffered_recut (name : String) :
    (source.buffered name).Alike (Source.Beside Recut) (source.buffered name) where
  attach := .pure rfl
  readAll := Source.buffered_readAll_alike name closed_eq readAll_recut
  close := (Source.buffered_closeAlike name ⟨closed_eq, close_alike _ _⟩).close

end Reading

/-! ### Services -/

/-- The same answer, its body cut in another way. -/
inductive Reply.Recut : Reply → Reply → Prop
  | fails (f : Failure) : Recut (.fails f) (.fails f)
  | answers {r r' : Response} : r.Recut r' → Recut (.answers r) (.answers r')

namespace Service

/-- The same service, the bodies of its answers cut in another way. -/
inductive Recut (s : Service) : Service → Prop
  | of {script : List Reply} : List.Forall₂ Reply.Recut s.script script → Recut s { s with script }

theorem transmit_recut (request : Request) :
    Alike Recut Response.Recut (transmit request) (transmit request) := by
  rw [transmit]
  refine .ite Iff.rfl (fun _ => ?_) fun _ => .raise _
  refine Alike.bind (R := Recut) (.gets fun _ _ hs => hs) ?_
  rintro s _ ⟨hscript⟩
  refine Alike.bind (R := Eq) (.modify ?_) fun _ _ _ => ?_
  · rintro t _ ⟨hscript⟩
    have htail := List.forall₂_drop 1 hscript
    simp only [List.drop_one] at htail
    exact @Recut.of { t with script := _, reached := _ } _ htail
  · -- the two scripts go on alike
    generalize s.script = script at hscript ⊢
    rcases hscript with _ | ⟨hreply, -⟩
    · exact .raise _
    · rcases hreply with f | hr
      · exact .raise f
      · obtain ⟨hchunks⟩ := hr
        simp only [answer]
        by_cases hscheme : request.url.scheme.isEmpty
        · simp only [hscheme, if_true]
          exact .raise _
        · simp only [hscheme]
          exact .pure (.of hchunks)

theorem leaving_recut {r r' : Response} (hr : r.Recut r') {m : Action Reading.State Unit}
    (hm : Alike Reading.Recut Eq m m) : Alike Recut Eq (leaving r m) (leaving r' m) := by
  intro g s t hs
  have hclosing := hm.rescue fun f =>
    (Reading.close_response_alike _ _).bind fun _ _ _ => .rethrow f
  obtain ⟨hchunks⟩ := hr
  exact .of_eq (hclosing g (r, {}) ({ r with chunks := _ }, {}) (.of hchunks rfl)).fst hs

theorem advance_recut (request : Request) :
    Alike Recut (fun x y => x.1.Recut y.1 ∧ x.2 = y.2) (advance request) (advance request) := by
  refine (transmit_recut request).bind ?_
  rintro r _ @⟨chunks, hchunks⟩
  have hr : r.Recut { r with chunks } := .of hchunks
  refine .ite Iff.rfl (fun _ => ?_) fun _ => .pure ⟨hr, rfl⟩
  have hsame : request.redirect { r with chunks } = request.redirect r := rfl
  rw [hsame]
  cases request.redirect r with
  | error f => exact (leaving_recut hr (.raise f)).bind fun _ _ _ => .raise f
  | ok next =>
      have hskip : Alike Recut Eq (skip r) (skip { r with chunks }) :=
        leaving_recut hr (Reading.readAll_recut.bind fun _ _ _ => .pure rfl)
      exact hskip.bind fun _ _ _ => .pure ⟨hr, rfl⟩

theorem follow_recut (left : Nat) (request : Request) :
    Alike Recut Response.Recut (follow left request) (follow left request) := by
  induction left generalizing request with
  | zero =>
      refine (advance_recut request).bind ?_
      rintro ⟨r, _ | next⟩ ⟨r', _⟩ ⟨hr, rfl⟩
      · exact .pure hr
      · exact .raise _
  | succ left ih =>
      refine (advance_recut request).bind ?_
      rintro ⟨r, _ | next⟩ ⟨r', _⟩ ⟨hr, rfl⟩
      · exact .pure hr
      · exact ih next

/-- **Sending a request cannot tell how the bodies are cut.** -/
theorem send_recut (request : Request) :
    Alike Recut Response.Recut (send request) (send request) := by
  refine Alike.bind (R := Eq) (.modify ?_) fun _ _ _ => follow_recut _ _
  rintro s _ ⟨hscript⟩
  exact .of hscript

end Service

/-! ### Channels -/

namespace Channel

/-- The same channel, the body of its response cut in another way. -/
inductive Recut (c : Channel) : Channel → Prop
  | of {response : Option Response} : Option.Rel Response.Recut c.response response →
      Recut c { c with response }

theorem Recut.refl (c : Channel) : c.Recut c := by
  refine .of ?_
  cases c.response with
  | none => exact .none
  | some r => exact .some (.refl r)

theorem Recut.url_eq {c d : Channel} (h : c.Recut d) : c.url = d.url := by
  obtain ⟨-⟩ := h
  rfl

theorem Recut.response_rel {c d : Channel} (h : c.Recut d) :
    Option.Rel Response.Recut c.response d.response := by
  obtain ⟨hresponse⟩ := h
  exact hresponse

theorem Recut.withResponse {c d : Channel} (h : c.Recut d) {r r' : Response} (hr : r.Recut r') :
    Recut { c with response := some r } { d with response := some r' } := by
  obtain ⟨-⟩ := h
  exact .of (c := { c with response := some r }) (.some hr)

/-- Both channels have a response, or neither has. -/
theorem isSome_eq {response response' : Option Response}
    (h : Option.Rel Response.Recut response response') : response.isSome = response'.isSome := by
  cases h <;> rfl

theorem getD_recut {response response' : Option Response}
    (h : Option.Rel Response.Recut response response') :
    (response.getD {}).Recut (response'.getD {}) := by
  cases h with
  | none => exact .refl _
  | some h => exact h

/-- A stream of a channel, as far as an exchange uses it. -/
theorem stream_recut (j : Nat) :
    ((Reading.source.buffered streamName).within (streamPart j)).Alike Recut
      ((Reading.source.buffered streamName).within (streamPart j)) := by
  refine (Reading.buffered_recut streamName).within ?_ ?_
  · rintro c _ ⟨hresponse⟩
    exact ⟨rfl, .of_response (getD_recut hresponse) _⟩
  · rintro c _ ⟨b, p⟩ ⟨b', q⟩ @⟨response, -⟩ ⟨hb, hp⟩
    obtain rfl : b = b' := hb
    have hreader : p.2 = q.2 := Reading.Recut.reader_eq hp
    have hset : (streamPart j).set (b, q) { c with response } =
        { (streamPart j).set (b, p) c with response := some q.1 } := by
      simp only [streamPart, hreader]
    exact hset ▸ .of (.some (Reading.Recut.response hp))

/-- A request body is written and closed as before. -/
theorem sink_recut :
    (RequestBody.sink.within bodyPart).Alike Recut (RequestBody.sink.within bodyPart) := by
  have hsame (m : Action RequestBody Unit) :
      Alike Recut Eq (m.within bodyPart) (m.within bodyPart) := by
    refine (Alike.refl m).within ?_ ?_
    · rintro c _ ⟨-⟩
      rfl
    · rintro c _ b _ ⟨hresponse⟩ rfl
      exact .of hresponse
  exact ⟨rfl, hsame _, fun _ => hsame _, hsame _⟩

theorem openOutput_recut : Alike Recut (Sink.Alike Recut) openOutput openOutput := by
  refine Alike.bind (R := Recut) (.gets fun _ _ hc => hc) ?_
  rintro c _ ⟨hresponse⟩
  refine .ite Iff.rfl (fun _ => .raise _) fun _ => ?_
  refine .ite (by rw [isSome_eq hresponse]) (fun _ => .raise _) fun _ => ?_
  refine Alike.bind (R := Eq) (.modify ?_) fun _ _ _ => .pure sink_recut
  rintro c _ ⟨hresponse⟩
  exact .of hresponse

theorem disconnect_recut : Alike Recut Eq disconnect disconnect := by
  refine Alike.bind (R := Recut) (.gets fun _ _ hc => hc) ?_
  rintro c _ ⟨hresponse⟩
  refine .ite Iff.rfl (fun _ => .pure rfl) fun _ => ?_
  refine Alike.bind (R := Eq) (.modify ?_) fun _ _ _ => Alike.ensure ?_ (.modify ?_)
  · rintro c _ ⟨hresponse⟩
    exact .of hresponse
  · refine .ite (by rw [isSome_eq hresponse]) (fun _ => ?_) fun _ => .pure rfl
    refine Alike.within (S := Response.Recut) (Response.close_alike _) ?_ ?_
    · rintro c _ ⟨hresponse⟩
      exact getD_recut hresponse
    · exact fun _ _ _ _ hc hr => hc.withResponse hr
  · rintro c _ ⟨hresponse⟩
    exact .of hresponse

/-- The stream that is handed out is the same. -/
theorem openStream_recut :
    Alike Recut (fun a b => a = b ∧ a.Alike Recut a) openStream openStream := by
  refine Alike.bind (R := Eq) (.gets ?_) ?_
  · rintro c _ ⟨-⟩
    rfl
  · rintro index _ rfl
    refine Alike.bind (R := Eq) (.modify ?_) fun _ _ _ => .pure ⟨rfl, stream_recut index⟩
    rintro c _ ⟨hresponse⟩
    exact .of hresponse

end Channel

/-! ### Sessions -/

namespace Session

/-- The same session, all bodies cut in another way. -/
structure Recut (s t : Session) : Prop where
  channel : s.channel.Recut t.channel
  service : s.service.Recut t.service
  log_eq : s.log = t.log

/-- What an action of the channel does in its session. -/
theorem within_channel_recut {β : Type} {R : α → β → Prop} {m : Action Channel α}
    {m' : Action Channel β} (h : Alike Channel.Recut R m m') :
    Alike Recut R (m.within channelPart) (m'.within channelPart) :=
  h.within (fun _ _ hs => hs.channel) fun _ _ _ _ hs hc => ⟨hc, hs.service, hs.log_eq⟩

theorem note_recut (event : LogEvent) {s t : Session} (h : s.Recut t) :
    (s.note event).Recut (t.note event) :=
  ⟨h.channel, h.service, by rw [note, note, h.log_eq]⟩

theorem unreached_recut (f : Failure) : Alike Recut Response.Recut (unreached f) (unreached f) := by
  refine Alike.bind (R := Channel.Recut) (.gets fun _ _ hs => hs.channel) ?_
  rintro ⟨url, proxyUrl, method, outputEnabled, headers, body, _, streams, disconnected,
    closings⟩ _ ⟨-⟩
  cases proxyUrl with
  | none => exact .rethrow f
  | some proxyUrl =>
      refine .ite Iff.rfl (fun _ => ?_) fun _ => .rethrow f
      exact Alike.bind (R := Eq) (.modify fun _ _ hs => note_recut _ hs) fun _ _ _ =>
        Alike.bind (R := Eq) (.modify fun _ _ hs => note_recut _ hs) fun _ _ _ => .raiseFrom _ f

/-- **The response that a session comes to** is the same, its body cut in another way. -/
theorem respond_recut : Alike Recut Response.Recut respond respond := by
  refine Alike.bind (R := Channel.Recut) (.gets fun _ _ hs => hs.channel) ?_
  rintro ⟨url, proxyUrl, method, outputEnabled, headers, body, response, streams, disconnected,
    closings⟩ _ @⟨response', hresponse⟩
  have hsend (request : Request) : Alike Recut Response.Recut
      (((Service.send request).within servicePart).rescue unreached)
      (((Service.send request).within servicePart).rescue unreached) :=
    ((Service.send_recut request).within (fun _ _ hs => hs.service) fun _ _ _ _ hs hservice =>
      ⟨hs.channel, hservice, hs.log_eq⟩).rescue unreached_recut
  -- either both have a response or neither has
  cases hresponse with
  | some hr => exact .pure hr
  | none =>
      refine .ite Iff.rfl (fun _ => .raise _) fun _ => ?_
      cases Channel.request _ with
      | error f => exact .raise f
      | ok request =>
          refine (hsend request).bind fun r r' hr => Alike.bind (R := Eq) (.modify ?_) fun _ _ _ =>
            .pure hr
          exact fun _ _ hs => ⟨hs.channel.withResponse hr, hs.service, hs.log_eq⟩

theorem openStream_recut :
    Alike Recut (Offered Recut)
      (do pure (some ((← Channel.openStream.within channelPart).within channelPart)))
      (do pure (some ((← Channel.openStream.within channelPart).within channelPart))) := by
  refine (within_channel_recut Channel.openStream_recut).bind ?_
  rintro source _ ⟨rfl, hsource⟩
  refine .pure ⟨rfl, ?_⟩
  rintro _ ⟨⟩
  exact hsource.within (fun _ _ hs => hs.channel) fun _ _ _ _ hs hc => ⟨hc, hs.service, hs.log_eq⟩

/-- **The stream of a response** that is handed out is the same. -/
theorem input_recut : Alike Recut (Offered Recut) input input := by
  refine respond_recut.bind ?_
  rintro r _ ⟨hchunks⟩
  refine .ite Iff.rfl (fun _ => ?_) fun _ => ?_
  · refine Alike.bind (R := Eq) (.gets fun _ _ hs => hs.channel.url_eq) ?_
    rintro url _ rfl
    exact .raise _
  · exact .ite Iff.rfl (fun _ => openStream_recut) fun _ => .pure ⟨rfl, nofun⟩

theorem errorInput_recut : Alike Recut (Offered Recut) errorInput errorInput := by
  refine Alike.bind (R := Option.Rel Response.Recut)
    (.gets fun _ _ hs => hs.channel.response_rel) ?_
  rintro a b hresponse
  cases hresponse with
  | none => exact .pure ⟨rfl, nofun⟩
  | some hr =>
      obtain ⟨hchunks⟩ := hr
      exact .ite Iff.rfl (fun _ => openStream_recut) fun _ => .pure ⟨rfl, nofun⟩

/-- **An exchange over a connection cannot tell how the bodies are cut.** -/
theorem connection_recut (url : String) : (connection url).Alike Recut (connection url) := by
  refine { url := rfl, status := ?_, input := ?_, errorInput := ?_, disconnect := ?_, log := ?_,
           enableOutput := ?_, setMethod := ?_, output := ?_ }
  · refine respond_recut.bind ?_
    rintro r _ ⟨hchunks⟩
    exact .pure rfl
  · exact input_recut.weaken fun _ _ h => h.rel
  · exact errorInput_recut.weaken fun _ _ h => h.rel
  · exact within_channel_recut Channel.disconnect_recut
  · exact fun event _ _ hs => note_recut event hs
  · rintro ⟨c, service, log⟩ ⟨d, service', log'⟩ ⟨hchannel, hservice, hlog⟩
    obtain ⟨hresponse⟩ : c.Recut d := hchannel
    exact ⟨.of (c := { c with outputEnabled := true }) hresponse, hservice, hlog⟩
  · rintro method ⟨c, service, log⟩ ⟨d, service', log'⟩ ⟨hchannel, hservice, hlog⟩
    obtain ⟨hresponse⟩ : c.Recut d := hchannel
    exact ⟨.of (c := { c with method }) hresponse, hservice, hlog⟩
  · refine (within_channel_recut Channel.openOutput_recut).bind fun a b hab => .pure ?_
    exact hab.within (fun _ _ hs => hs.channel) fun _ _ _ _ hs hc => ⟨hc, hs.service, hs.log_eq⟩

end Session

/-! ### Networks -/

/-- The same network, all bodies cut in another way. -/
structure Network.Recut (n m : Network) : Prop where
  length_eq : n.channels.length = m.channels.length
  channel (i : Nat) : (n.channels.getD i default).Recut (m.channels.getD i default)
  service : n.service.Recut m.service
  log_eq : n.log = m.log

namespace Network

variable {n m : Network}

theorem Recut.session (h : n.Recut m) (i : Nat) :
    ((session i).get n).Recut ((session i).get m) :=
  ⟨h.channel i, h.service, h.log_eq⟩

/-- A channel that is there can be replaced in both networks. -/
theorem Recut.set_session (h : n.Recut m) (i : Nat) {s t : Session} (hst : s.Recut t) :
    ((Network.session i).set s n).Recut ((Network.session i).set t m) where
  length_eq := by simpa [Network.session] using h.length_eq
  channel j := by
    have hj := h.channel j
    simp only [Network.session, List.getD_eq_getElem?_getD, List.getElem?_set] at hj ⊢
    by_cases hij : i = j
    · subst hij
      rw [if_pos rfl, if_pos rfl, h.length_eq]
      by_cases hi : i < m.channels.length
      · rw [if_pos hi, if_pos hi]
        exact hst.channel
      · rw [if_neg hi, if_neg hi]
        exact .refl _
    · rwa [if_neg hij, if_neg hij]
  service := hst.service
  log_eq := hst.log_eq

/-- A connection of a network cannot tell how the bodies are cut. -/
theorem connection_recut (url : String) (i : Nat) :
    ((Session.connection url).within (session i)).Alike Recut
      ((Session.connection url).within (session i)) :=
  (Session.connection_recut url).within (fun _ _ h => h.session i) fun _ _ _ _ h => h.set_session i

theorem input_recut (url : String) (i : Nat) :
    Alike Recut (Offered Recut) ((Session.connection url).within (session i)).input
      ((Session.connection url).within (session i)).input := by
  have hinput := Session.input_recut.within (T := Recut) (fun _ _ h => h.session i)
    fun _ _ _ _ h => h.set_session i
  refine hinput.bind ?_
  rintro a _ ⟨rfl, ha⟩
  refine .pure ⟨rfl, fun b hb => ?_⟩
  obtain ⟨source, rfl, rfl⟩ := Option.map_eq_some_iff.mp hb
  exact (ha source rfl).within (fun _ _ h => h.session i) fun _ _ _ _ h => h.set_session i

end Network

namespace Dialer

/-- The connection that is opened is the same. -/
theorem connect_recut (d : Dialer) (url : String) (headers : List (String × String)) :
    Alike Network.Recut
      (fun c c' => ∃ i, c = (Session.connection url).within (Network.session i) ∧ c' = c)
      (d.connect url headers) (d.connect url headers) := by
  rw [connect]
  cases d.prepare url with
  | error f =>
      refine (Alike.raise f).rescue fun f => Alike.ite Iff.rfl (fun _ => ?_) fun _ => .rethrow f
      exact Alike.bind (R := Eq)
        (.modify fun n m h => ⟨h.length_eq, h.channel, h.service, by rw [h.log_eq]⟩)
        fun _ _ _ => .raiseFrom _ f
  | ok u =>
      refine Alike.bind (R := Eq) (.gets fun _ _ h => h.length_eq) ?_
      rintro i _ rfl
      refine Alike.bind (R := Eq) (.modify fun n m h => ?_) fun _ _ _ => .pure ⟨i, rfl, rfl⟩
      refine ⟨?_, fun j => ?_, h.service, h.log_eq⟩
      · rw [List.length_append, List.length_append, h.length_eq]
      · have hj := h.channel j
        simp only [List.getD_eq_getElem?_getD, List.getElem?_append, h.length_eq] at hj ⊢
        by_cases hlt : j < m.channels.length
        · rwa [if_pos hlt, if_pos hlt]
        · rw [if_neg hlt, if_neg hlt]
          exact .refl _

/-- **A call cannot tell how the bodies are cut.** -/
theorem opener_recut (d : Dialer) : d.opener.Alike Network.Recut d.opener where
  connect url headers := by
    refine (d.connect_recut url headers).weaken ?_
    rintro _ _ ⟨i, rfl, rfl⟩
    exact Network.connection_recut url i
  log _ _ _ h := ⟨h.length_eq, h.channel, h.service, congrArg (· ++ _) h.log_eq⟩

/-- **The lease that is handed out is the same.** -/
theorem openResponse_recut (d : Dialer) (headers : Option HeaderMap) (url : String) :
    Alike Network.Recut Eq (openResponse d.opener headers url)
      (openResponse d.opener headers url) := by
  rw [openResponse_eq]
  refine (d.connect_recut url _).bind ?_
  rintro _ _ ⟨i, rfl, rfl⟩
  have hdisconnect := disconnecting_alike (Network.connection_recut url i).toAnswersAlike
  refine (obtaining_alike hdisconnect (Network.input_recut url i) url).bind ?_
  rintro a _ ⟨rfl, ha⟩
  cases a with
  | none => exact .pure rfl
  | some source => exact (ha source rfl).attach.bind fun _ _ _ => .pure rfl

end Dialer

end Wire

end ServiceClient
