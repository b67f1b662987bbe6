/-
**Failures over the wire are errors of the client.**

A call reports what fails on its way: while a connection is opened, while an exchange is made, while
the response is read and while it is released.  Each of these places foresees the failures of an
exchange and turns them into errors of the client.  So if the replies of the service fail in no other
way, nothing else can leave a call, with three exceptions.  The text of a header must be ASCII, or no
request can be built; a URL must name a host, or no answer is taken for it; and no redirect may lead
to what is no URL.  These three fail in ways that no exchange is expected to.

Main definitions:

* `ServiceClient.Failure.Foreseen`: errors of the client, and failures of an exchange;
* `ServiceClient.Wire.Session.reported`: the phases of an exchange with a dependable service.

Main results:

* `ServiceClient.Wire.Session.answers`: **over a channel, each operation leads from its phase to the
  next one or fails in a way that is foreseen**;
* `ServiceClient.Wire.Dialer.prepare_error`: what keeps a channel from being opened;
* `ServiceClient.Wire.Dialer.perform_built`: a call fails with errors of the client unless its
  request strays;
* `ServiceClient.Wire.failures_classified`: **when every failure of a call is an error of the
  client**.
-/

import ServiceClient.Proofs.Exchange.Phases
import ServiceClient.Proofs.Wire.Built
import ServiceClient.Proofs.Wire.Foreseen
import ServiceClient.Proofs.Wire.Lease
import ServiceClient.Proofs.Wire.Refusal

set_option autoImplicit false

namespace ServiceClient

open ServiceClient.Action (Meets)

/-- A failure that is foreseen: an error of the client, or a failure of an exchange. -/
def Failure.Foreseen (f : Failure) : Prop :=
  f.fault.isClient = true ∨ f.isExchangeFailure = true

/-- What is foreseen is told as an error of the client. -/
theorem Told.isClient {f : Failure} (h : Told Failure.Foreseen f) : f.fault.isClient = true := by
  obtain hclient | ⟨hclient | hexchange, hnot⟩ := h
  · exact hclient
  · exact hclient
  · rw [hexchange] at hnot
    cases hnot

namespace Wire

variable {α : Type}

/-! ### Sessions -/

namespace Session

/-- The response of a session, if there is one, fails only as exchanges do. -/
def Tame (s : Session) : Prop :=
  (s.channel.response.getD {}).Tame

theorem tame_of_none {s : Session} (h : s.channel.response = none) : s.Tame := by
  rw [Tame, h]
  exact ⟨nofun, nofun⟩

/-- The response that has come fails only as exchanges do, and nothing was read of it. -/
structure Brought (r : Response) (s : Session) : Prop where
  response_eq : s.channel.response = some r
  tame : r.Tame
  unread : r.Unread

/-- What is known of a session in each phase, if its service is dependable: every failure leaves it
with a response that can still be closed. -/
def reported (q : Request) (service : Service) : Phases Session where
  unasked := Asking (.ok q) service
  answered s := ∃ r, Brought r s
  opened a s := ∃ j, a = stream j ∧ j < s.channel.streams.length ∧
    Reading.Readable ((Channel.streamPart j).get s.channel)
  ended := Tame
  failed := Tame
  left _ := True
  lost _ := True

theorem Brought.session_tame {r : Response} {s : Session} (h : Brought r s) : s.Tame := by
  rw [Tame, h.response_eq]
  exact h.tame

variable {q : Request} {service : Service}

/-- A dependable service answers a request that does not stray, or fails in a way that is foreseen. -/
theorem respond_meets (h : service.Dependable) (hstays : ¬ Service.Strays q service) :
    Meets (reported q service).unasked respond Brought fun f s => f.Foreseen ∧ s.Tame := by
  rintro g s ⟨hnone, hconnected, hrequest, rfl⟩
  have hend := Service.send_ends (g := g) h hstays
  rw [respond_of_request g hnone hconnected hrequest]
  rcases hsend : Service.send q g s.service with ⟨f | response, service⟩
  · obtain ⟨f', log, hmaking, hkind⟩ := making_of_error hsend
    rw [hsend] at hend
    obtain ⟨⟩ | hexchange := hend
    rw [hmaking]
    refine .error ⟨?_, tame_of_none hnone⟩
    obtain rfl | ⟨-, hclient⟩ := hkind
    · exact .inr hexchange
    · exact .inl hclient
  · rw [hsend] at hend
    obtain ⟨htame, hunread⟩ := hend
    rw [making_of_ok hsend]
    exact .ok ⟨rfl, htame, hunread⟩

/-- A response that has come is given again. -/
theorem respond_answered :
    Meets (reported q service).answered respond Brought fun _ _ => False := by
  rintro g s ⟨r, hr⟩
  rw [respond, Action.run_bind_ok (Action.run_gets channel g s), hr.response_eq]
  exact .ok hr

/-- The stream of a response that nothing was read of can be read. -/
theorem openStream_readable (r : Response) :
    Meets (Brought r)
      (do pure (some ((← Channel.openStream.within channelPart).within channelPart)))
      (reported q service).found fun _ _ => False := by
  rintro g s ⟨hresponse, htame, hunread⟩
  rw [run_openStream hresponse]
  have hget : (Channel.streamPart s.channel.streams.length).get
      (s.withStream (default, r, default)).channel = (default, r, default) := by
    simp [Channel.streamPart, withStream]
  refine .ok ⟨s.channel.streams.length, rfl, ?_, ?_⟩
  · simp [withStream]
  · rw [hget]
    exact ⟨rfl, rfl, htame, fun _ => hunread⟩

/-- What is done over a stream, as far as the response is concerned. -/
theorem stream_meets (j : Nat) {m : Action (Buffer × Reading.State) α}
    {P : Buffer × Reading.State → Prop}
    (hm : Meets P m (fun _ x => x.2.1.Tame) fun f x => f.isExchangeFailure = true ∧ x.2.1.Tame) :
    Meets (fun s => P ((Channel.streamPart j).get s.channel))
      ((m.within (Channel.streamPart j)).within channelPart) (fun _ => Tame)
      fun f s => f.Foreseen ∧ s.Tame := by
  intro g s hs
  have hend := hm g _ hs
  simp only [Action.within, channelPart]
  generalize m g ((Channel.streamPart j).get s.channel) = x at hend ⊢
  cases hend with
  | ok htame => exact .ok htame
  | error h => exact .error ⟨.inr h.1, h.2⟩

/-- Disconnecting fails as closing the response does. -/
theorem disconnect_meets :
    Meets Tame (Channel.disconnect.within channelPart) (fun _ _ => True)
      fun f _ => f.Foreseen ∧ True := by
  have hclose : Meets (fun c : Channel => (c.response.getD {}).Tame)
      (Response.close.within Channel.responsePart) (fun _ _ => True)
      fun f _ => f.isExchangeFailure = true ∧ True :=
    (Response.close_meets.within_all Channel.responsePart fun _ _ => rfl).weaken (fun _ h => h)
      (fun _ _ _ => trivial) fun _ _ h => ⟨h.1, trivial⟩
  have hchannel : Meets (fun c : Channel => (c.response.getD {}).Tame) Channel.disconnect
      (fun _ _ => True) fun f _ => f.isExchangeFailure = true ∧ True := by
    refine Meets.bind (Q := fun _ c => (c.response.getD {}).Tame) (.gets fun _ h => h) fun c => ?_
    by_cases hdisconnected : c.disconnected
    · simp only [hdisconnected, if_true]
      exact .pure fun _ _ => trivial
    · simp only [hdisconnected]
      have hclosing : Meets (fun c : Channel => (c.response.getD {}).Tame)
          (if c.response.isSome then Response.close.within Channel.responsePart else pure ())
          (fun _ _ => True) fun f _ => f.isExchangeFailure = true ∧ True := by
        by_cases hresponse : c.response.isSome
        · simp only [hresponse, if_true]
          exact hclose
        · simp only [hresponse]
          exact .pure fun _ _ => trivial
      exact Meets.bind (Q := fun _ c => (c.response.getD {}).Tame) (.modify fun _ h => h) fun _ =>
        hclosing.ensure_all (fun _ => .modify fun _ _ => trivial) (.modify fun _ _ => trivial)
  exact (hchannel.within_all channelPart fun _ _ => rfl).weaken (fun _ h => h) (fun _ _ h => h)
    fun _ _ h => ⟨.inr h.1, h.2⟩

/-- A response that is no error has its stream, or none; one of an error is refused. -/
theorem input_reported :
    Meets (reported q service).answered input (reported q service).found
      fun f s => f.Foreseen ∧ s.Tame := by
  refine (respond_answered.weaken (fun _ hs => hs) (fun _ _ hs => hs) fun _ _ => False.elim).bind
    fun r => ?_
  by_cases herror : r.isError
  · simp only [herror, if_true]
    refine Meets.bind (Q := fun _ => Brought r) (.gets fun _ hr => hr) fun url =>
      .raise fun g s hr => ⟨.inr ?_, hr.session_tame⟩
    exact (Failure.isExchangeFailure_raisedDuring g _).trans rfl
  · simp only [herror]
    by_cases hbody : r.hasBody
    · simp only [hbody, if_true]
      exact (openStream_readable r).weaken (fun _ hr => hr) (fun _ _ hs => hs)
        fun _ _ => False.elim
    · simp only [hbody]
      exact .pure fun _ hr => hr.session_tame

/-- An error has its stream, or none. -/
theorem errorInput_reported :
    Meets (reported q service).answered errorInput (reported q service).found
      fun f s => f.Foreseen ∧ s.Tame := by
  refine Meets.bind (Q := fun found s => ∃ r, found = some r ∧ Brought r s) (.gets ?_)
    fun found => ?_
  · rintro s ⟨r, hr⟩
    exact ⟨r, hr.response_eq, hr⟩
  · rintro g s ⟨r, rfl, hr⟩
    by_cases hgiven : r.isError && r.header? "Content-Length" != some "0"
    · simp only [hgiven, if_true]
      exact (openStream_readable r g s hr).weaken (fun _ _ hs => hs) fun _ _ => False.elim
    · simp only [hgiven]
      exact .ok hr.session_tame

/-- **Over a channel to a dependable service, each operation leads from its phase to the next one,
or fails in a way that is foreseen.** -/
theorem answers (h : service.Dependable) (hstays : ¬ Service.Strays q service) (url : String) :
    (connection url).Answers (reported q service) Failure.Foreseen where
  status := (respond_meets h hstays).bind fun r => .pure fun s hr => ⟨r, hr⟩
  input := input_reported
  errorInput := errorInput_reported
  attach a := by
    rintro g s ⟨j, rfl, hj, hreadable⟩
    refine .ok ⟨j, rfl, Channel.lt_set_streamPart j s.channel _ hj, ?_⟩
    change Reading.Readable ((Channel.streamPart j).get ((Channel.streamPart j).set _ s.channel))
    rw [Channel.get_set_streamPart j s.channel _ hj]
    exact hreadable
  readAll a := by
    rintro g s ⟨j, rfl, hj, hreadable⟩
    exact stream_meets j (Reading.buffered_readAll_meets Channel.streamName) g s hreadable
  close a := by
    rintro ⟨s, j, rfl, hs⟩
    have hclose := stream_meets j (Reading.buffered_close_meets Channel.streamName)
    exact ⟨hclose, hclose⟩
  disconnect_ended := disconnect_meets
  disconnect_failed := disconnect_meets
  failed_of_ended _ hs := hs
  log_found event a s hs := by
    cases a with
    | none => exact hs
    | some a => exact hs
  log_failed event s hs := hs

/-- Reading a response from a dependable service fails with errors of the client. -/
theorem readResponse_classified (h : service.Dependable) (hstays : ¬ Service.Strays q service)
    (url : String) {g : Option Failure} {s : Session} (hs : Asking (.ok q) service s) {f : Failure}
    (hf : (readResponse (connection url) g s).1 = .error f) : f.fault.isClient = true := by
  have hend := (answers h hstays url).readResponse_meets g s hs
  generalize readResponse (connection url) g s = x at hend hf
  cases hend with
  | ok _ => cases hf
  | error htold =>
      cases hf
      exact htold.1.isClient

/-- If there is no response, for a reason that is not foreseen, then that leaves the call. -/
theorem readResponse_unanswered (url : String) {g : Option Failure} {s s' : Session} {f : Failure}
    (hrespond : respond g s = (.error f, s')) (hf : f.isExchangeFailure = false)
    (hnone : s'.channel.response = none) (hconnected : s'.channel.disconnected = false) :
    (readResponse (connection url) g s).1 = .error f := by
  have hstream : responseStream (connection url) g s = (.error f, s') :=
    Action.run_bind_error (Action.run_bind_error hrespond)
  have hreading : reading (connection url) (responseStream (connection url)) g s =
      (.error f, s') := by
    rw [reading, Action.run_rescue_error hstream, if_neg (Bool.eq_false_iff.mp hf)]
    rfl
  -- there is no response that could fail to be closed
  have hdisconnect (g' : Option Failure) : Channel.disconnect g' s'.channel =
      (.ok (),
        { s'.channel with disconnected := true, closings := s'.channel.closings + 1 }) := by
    rw [Channel.disconnect, Action.run_bind_ok (Action.run_gets ..)]
    rw [if_neg (by simp [hconnected]), Action.run_bind_ok (Action.run_modify ..)]
    rw [Action.run_ensure_modify, if_neg (by simp [hnone])]
    rfl
  have hdisconnecting : ∃ t, ∀ g', disconnecting (connection url) g' s' = (.ok (), t) :=
    ⟨_, fun g' => Action.run_rescue_ok (run_channel (hdisconnect g'))⟩
  obtain ⟨t, hdisconnecting⟩ := hdisconnecting
  exact congrArg Prod.fst
    (Action.run_ensure_of_ok (Action.run_bind_error hreading) hdisconnecting)

/-- So it is if no request can be built. -/
theorem readResponse_unbuilt (url : String) (g : Option Failure) {s : Session} {f : Failure}
    (hs : Asking (.error f) service s) (hf : f.isExchangeFailure = false) :
    (readResponse (connection url) g s).1 = .error (f.raisedDuring g) := by
  obtain ⟨hnone, hconnected, hrequest, -⟩ := hs
  have hrespond : respond g s = (.error (f.raisedDuring g), s) := by
    rw [respond, Action.run_bind_ok (Action.run_gets channel g s)]
    simp only [hnone, hconnected, hrequest]
    rfl
  exact readResponse_unanswered url hrespond
    ((Failure.isExchangeFailure_raisedDuring g f).trans hf) hnone hconnected

/-- So it is if the request strays. -/
theorem readResponse_strayed (h : service.Dependable) (hstrays : Service.Strays q service)
    (url : String) (g : Option Failure) {s : Session} (hs : Asking (.ok q) service s) :
    ∃ f, (readResponse (connection url) g s).1 = .error f ∧ f.fault.isClient = false := by
  obtain ⟨hnone, hconnected, hrequest, rfl⟩ := hs
  obtain ⟨f, service, hsend, hfault⟩ := Service.send_of_strays (g := g) h hstrays
  obtain ⟨f', log, hmaking, hkind⟩ := making_of_error hsend
  -- neither of the two failures is one of a proxy or of an exchange
  have hforeign : isProxyFailure f = false ∧ f.isExchangeFailure = false ∧
      f.fault.isClient = false := by
    simp only [isProxyFailure, Failure.isExchangeFailure, Failure.isA]
    obtain hvalue | hurl := hfault
    · rw [hvalue]
      decide
    · rw [hurl]
      decide
  obtain rfl | ⟨hproxy, -⟩ := hkind
  · refine ⟨f', ?_, hforeign.2.2⟩
    exact readResponse_unanswered url
      ((respond_of_request g hnone hconnected hrequest).trans hmaking) hforeign.2.1 hnone hconnected
  · rw [hforeign.1] at hproxy
    cases hproxy

end Session

/-! ### Calls -/

/-- A request to a URL can be built if its headers are ASCII. -/
theorem Request.build_eq {url : String} (h : (Url.parse? url).isSome) (method : String)
    (headers : Headers) (body : Bytes) :
    if headers.isAscii then ∃ q, build method url headers body = .ok q
    else build method url headers body = .error (.plain .encoding) := by
  obtain ⟨u, hu⟩ := Option.isSome_iff_exists.mp h
  rw [build, hu]
  by_cases hascii : headers.isAscii
  · simp [hascii]
  · simp [hascii]

namespace Dialer

variable {d : Dialer} {url : String}

theorem isSome_of_prepare (h : d.prepare url = .ok ()) : (Url.parse? url).isSome := by
  cases hparse : Url.parse? url with
  | none =>
      rw [prepare, hparse] at h
      cases h
  | some u => rfl

theorem options_error {f : Failure} (h : d.options = .error f) :
    f = .plain .invalidUrl ∨ d.timeout.mapM seconds = .error f := by
  cases htimeout : d.timeout.mapM seconds with
  | error f' =>
      rw [options, htimeout] at h
      cases h
      exact .inr rfl
  | ok t =>
      rw [options, htimeout] at h
      refine .inl ?_
      cases hproxy : d.proxyUrl with
      | none =>
          rw [hproxy] at h
          cases h
      | some address =>
          rw [hproxy] at h
          cases hparse : Url.parse? address with
          | none =>
              simp only [Option.mapM_some, proxyAt, hparse] at h
              cases h
              rfl
          | some u =>
              simp only [Option.mapM_some, proxyAt, hparse] at h
              cases h

/-- **What keeps a channel from being opened** is reported, but for what was given to the dialer: a
failure, and a time to wait that is no number. -/
theorem prepare_error {f : Failure} (h : d.prepare url = .error f) :
    isOpenFailure f = true ∨ d.failure = some f ∨ d.timeout.mapM seconds = .error f := by
  cases hparse : Url.parse? url with
  | none =>
      rw [prepare, hparse] at h
      cases h
      exact .inl rfl
  | some target =>
      by_cases hscheme : schemes.contains target.scheme
      · cases hoptions : d.options with
        | error f' =>
            simp only [prepare, hparse, hscheme, hoptions] at h
            cases h
            obtain rfl | htimeout := options_error hoptions
            · exact .inl rfl
            · exact .inr (.inr htimeout)
        | ok o =>
            cases hfailure : d.failure with
            | none =>
              simp only [prepare, hparse, hscheme, hoptions, hfailure] at h
              cases h
            | some f' =>
              simp only [prepare, hparse, hscheme, hoptions, hfailure] at h
              cases h
              exact .inr (.inl rfl)
      · simp only [prepare, hparse, hscheme] at h
        cases h
        exact .inl rfl

/-- A call for which no channel is opened fails with what kept it from being opened. -/
theorem perform_unopened (g : Option Failure) (n : Network) (c : Call) {f : Failure}
    (h : d.prepare c.url = .error f) :
    ∃ f', (c.perform d.opener g n).1 = .error f' ∧
      (f'.fault.isClient = true ↔ isOpenFailure f = true ∨ f.fault.isClient = true) := by
  obtain ⟨f', n', hrun, -, hkind⟩ := perform_unopened_eq g n c h
  exact ⟨f', congrArg Prod.fst hrun, hkind⟩

/-- A call whose request cannot be built fails with that. -/
theorem perform_unbuilt (g : Option Failure) (n : Network) (c : Call)
    (h : d.prepare c.url = .ok ()) (hascii : ¬ Headers.isAscii c.headers = true) :
    (c.perform d.opener g n).1 = .error ((Failure.plain .encoding).raisedDuring g) := by
  obtain ⟨s, hs, hreads⟩ := perform_reads g n c h
  have hbuild := Request.build_eq (isSome_of_prepare h) c.method.name c.headers (Text.encode c.body)
  rw [if_neg hascii] at hbuild
  rw [hbuild] at hs
  exact (hreads _).mpr (Session.readResponse_unbuilt c.url g hs rfl)

/-- The request to a URL that opens has a scheme if the URL names a host. -/
theorem scheme_of_build {method : String} {headers : Headers} {body : Bytes} {q : Request}
    (h : d.prepare url = .ok ()) (hbuild : Request.build method url headers body = .ok q) :
    q.url.scheme = "" ↔ ¬ NamesHost url := by
  obtain ⟨u, hparse, hscheme⟩ := parse_of_prepare h
  have hq : q.url = Request.target u := by
    rw [Request.build, hparse] at hbuild
    dsimp only at hbuild
    split at hbuild <;> cases hbuild
    rfl
  have hnamed : u.scheme ≠ "" := by
    intro hempty
    rw [hempty] at hscheme
    exact absurd hscheme (by decide)
  have hhost : NamesHost url ↔ u.host ≠ "" := by
    simp only [NamesHost, hparse, Option.some.injEq, exists_eq_left']
  rw [hq, hhost, Request.target]
  by_cases hempty : u.host = ""
  · simp [Url.isAbsolute, hempty]
  · simp [Url.isAbsolute, hempty, hnamed]

/-- A request to a URL that opens stays on its way if the URL names a host or there is no answer, and
if no redirect leads to what is no URL. -/
theorem stays_iff {method : String} {headers : Headers} {body : Bytes} {q : Request} {s : Service}
    (hs : s.Dependable) (h : d.prepare url = .ok ())
    (hbuild : Request.build method url headers body = .ok q) :
    ¬ Service.Strays q s ↔ (NamesHost url ∨ ∃ f rest, s.script = .fails f :: rest) ∧
      misled Service.maxRedirects q.authorized s.script = false := by
  obtain ⟨reply, rest, hscript⟩ := hs.lasting.exists_cons
  have hfirst : (¬ ∃ response rest, s.script = .answers response :: rest) ↔
      ∃ f rest, s.script = .fails f :: rest := by
    rw [hscript]
    cases reply <;> simp
  rw [Service.Strays, not_or, not_and_or, scheme_of_build h hbuild, not_not, Bool.not_eq_true, hfirst]

/-- A call whose request is built fails with errors of the client, unless the request strays. -/
theorem perform_built {g : Option Failure} {n : Network} {c : Call} {q : Request}
    (hservice : n.service.Dependable) (h : d.prepare c.url = .ok ())
    (hbuild : Request.build c.method.name c.url c.headers (Text.encode c.body) = .ok q) :
    (∀ f, (c.perform d.opener g n).1 = .error f → f.fault.isClient = true) ↔
      ¬ Service.Strays q n.service := by
  obtain ⟨s, hs, hreads⟩ := perform_reads g n c h
  rw [hbuild] at hs
  constructor
  · intro hclient hstrays
    obtain ⟨f, hf, hforeign⟩ := Session.readResponse_strayed hservice hstrays c.url g hs
    rw [hclient f ((hreads f).mpr hf)] at hforeign
    cases hforeign
  · intro hstays f hf
    exact Session.readResponse_classified hservice hstays c.url hs ((hreads f).mp hf)

end Dialer

end Wire

end ServiceClient
