/-
**Failing statuses.**

Whether a status fails is decided in two places.  Reading a response takes each status from 400 on
for a failing one; the channel hands out the stream of an error, and refuses that of a result, up to
599 only.  In that range the two agree, and the error of a call holds the whole body.  Beyond it the
body is lost, and the stream of the response is handed out as if it were a result.

Main definitions:

* `ServiceClient.Wire.Refusal`: an answer with a failing status and a body that can be read;
* `ServiceClient.Wire.Response.refusalText`: the text that its error holds;
* `ServiceClient.Wire.Session.Asking`, `ServiceClient.Wire.Dialer.Reaches`: sessions that are about
  to ask, and the requests that come to the service.

Main results:

* `ServiceClient.readResponse_streamed`, `ServiceClient.readResponse_absent`: what reading makes of
  a failing status, with and without a stream;
* `ServiceClient.Wire.Session.readResponse_refused`: what it makes of a refusal, over a channel;
* `ServiceClient.Wire.Dialer.perform_reads`: **a call over a network fails as reading the response
  over its channel does**;
* `ServiceClient.Wire.Dialer.perform_refused`, `ServiceClient.Wire.Dialer.openResponse_refused`:
  what the calls make of a refusal;
* `ServiceClient.Wire.refused_iff`: **the error of a call holds the whole body exactly up to 599**,
  and up to there only no stream is handed out.
-/

import ServiceClient.Proofs.Exchange.Outcome
import ServiceClient.Proofs.Exchange.Verdict
import ServiceClient.Proofs.Wire.Handed
import ServiceClient.Proofs.Wire.Reached
import ServiceClient.Proofs.Wire.Reading

set_option autoImplicit false

namespace ServiceClient

open ServiceClient.Reception (concluded)

variable {σ τ α : Type}

/-! ### Reading a failing status -/

section

variable {c : Connection σ} {g : Option Failure} {s s₁ s₂ s₃ s₄ s₅ s₆ : σ} {status : Int}

theorem run_concluding (status : Int) (text : String) (g : Option Failure) (s : σ) :
    concluding status text g s = (concluded g status text, s) := by
  by_cases h : status ≥ failingStatus
  · rw [concluding, concluded, if_pos h, if_pos h]
    rfl
  · rw [concluding, concluded, if_neg h, if_neg h]
    rfl

theorem responseStream_of_ge {source : Option (Source σ)} (hge : 400 ≤ status)
    (hstatus : c.status g s = (.ok status, s₁)) (herror : c.errorInput g s₁ = (.ok source, s₂)) :
    responseStream c g s = (.ok (status, source), c.log (.requestCompleted c.url status) s₂) := by
  rw [responseStream, Action.run_bind_ok hstatus]
  rw [if_pos (show status ≥ failingStatus from hge), Action.run_bind_ok herror]
  rfl

theorem reading_of_ok {m : Action σ α} {a : α} (h : m g s = (.ok a, s₁)) :
    reading c m g s = (.ok a, s₁) :=
  Action.run_rescue_ok h

/-- **A failing status with a stream** is an error that holds all its text. -/
theorem readResponse_streamed {a : Source σ} {bytes : Bytes} (hge : 400 ≤ status)
    (hstatus : c.status g s = (.ok status, s₁)) (herror : c.errorInput g s₁ = (.ok (some a), s₂))
    (hattach : a.attach g (c.log (.requestCompleted c.url status) s₂) = (.ok (), s₃))
    (hread : a.readAll g s₃ = (.ok bytes, s₄)) (hclose : ∀ g', a.close g' s₄ = (.ok (), s₅))
    (hdisconnect : ∀ g', c.disconnect g' s₅ = (.ok (), s₆)) :
    readResponse c g s = (concluded g status (Text.drainBytes bytes), s₆) := by
  have hstream := reading_of_ok (c := c) (responseStream_of_ge hge hstatus herror)
  -- the text is read, then the reader is closed, then the connection is
  have hbody : (do concluding status (Text.drainBytes (← reading c a.readAll))) g s₃ =
      (concluded g status (Text.drainBytes bytes), s₄) :=
    (Action.run_bind_ok (reading_of_ok hread)).trans (run_concluding ..)
  have hclosing := Action.run_ensure_of_ok hbody fun g' =>
    (Action.run_rescue_ok (hclose g') : closing textStreamName a.close g' s₄ = _)
  have hreceiving : receiving c g s = (concluded g status (Text.drainBytes bytes), s₅) :=
    (Action.run_bind_ok hstream).trans ((Action.run_bind_ok (reading_of_ok hattach)).trans hclosing)
  exact Action.run_ensure_of_ok hreceiving fun g' => Action.run_rescue_ok (hdisconnect g')

/-- **A failing status without a stream** is an error that says so. -/
theorem readResponse_absent (hge : 400 ≤ status) (hstatus : c.status g s = (.ok status, s₁))
    (herror : c.errorInput g s₁ = (.ok none, s₂))
    (hdisconnect : ∀ g',
      c.disconnect g' (c.log (.requestCompleted c.url status) s₂) = (.ok (), s₃)) :
    readResponse c g s = (concluded g status noResponse, s₃) := by
  have hstream := reading_of_ok (c := c) (responseStream_of_ge hge hstatus herror)
  have hreceiving : receiving c g s =
      (concluded g status noResponse, c.log (.requestCompleted c.url status) s₂) :=
    (Action.run_bind_ok hstream).trans (run_concluding ..)
  exact Action.run_ensure_of_ok hreceiving fun g' => Action.run_rescue_ok (hdisconnect g')

end

namespace Wire

/-! ### Refusals -/

/-- An answer with a failing status, whose body is not said to be empty and can be read to its
end. -/
structure Refusal (answer : Response) : Prop where
  failing : 400 ≤ answer.status
  present : answer.header? "Content-Length" ≠ some "0"
  unread : answer.consumed = false
  unclosed : answer.closed = false
  unbroken : answer.readFailure = none
  closeable : answer.closeFailure = none

/-- The text that the error for an answer holds: its body, where the channel takes its status for
an error. -/
def Response.refusalText (answer : Response) : String :=
  if answer.isError then Text.drainBytes answer.chunks.flatten else noResponse

def Response.refusalError (answer : Response) : Failure :=
  .client (.ofStatus answer.status (ClientError.statusPreamble ++ answer.refusalText))

namespace Refusal

variable {answer : Response} (h : Refusal answer)

include h

theorem isError_iff : answer.isError = true ↔ answer.status ≤ 599 := by
  have := h.failing
  simp only [Response.isError, Bool.and_eq_true, decide_eq_true_eq]
  omega

theorem not_isRedirect : answer.isRedirect = false := by
  have := h.failing
  simp only [Response.isRedirect, List.contains_cons, List.contains_nil, Bool.or_false,
    Bool.and_eq_false_iff, Bool.or_eq_false_iff, beq_eq_false_iff_ne]
  omega

theorem ready : Reading.Ready (answer, default) :=
  ⟨.inr ⟨rfl, h.unread⟩, h.unclosed, h.unbroken, h.closeable⟩

/-- An answer is a refusal whatever method it answers. -/
theorem with_method (method : String) : Refusal { answer with method } :=
  ⟨h.failing, h.present, h.unread, h.unclosed, h.unbroken, h.closeable⟩

end Refusal

/-! ### Sessions -/

/-- A service after it has answered a request with the first reply of its script. -/
def Service.answered (q : Request) (rest : List Reply) (s : Service) : Service :=
  { script := rest, reached := s.reached ++ [q.authorized], handed := s.handed ++ [q] }

/-- A request that can be sent is answered without a redirect. -/
theorem Service.send_of_answers {q : Request} {answer : Response} {rest : List Reply}
    {g : Option Failure} {s : Service} (hscheme : schemes.contains q.url.scheme = true)
    (hscript : s.script = .answers answer :: rest) (hredirect : answer.isRedirect = false) :
    send q g s = (.ok { answer with method := q.method }, s.answered q rest) := by
  have hauthorized : schemes.contains q.authorized.url.scheme = true := by
    rwa [Request.authorized_url]
  let s₁ : Service := { s with handed := s.handed ++ [q] }
  have htransmit := transmit_eq (takes_of_scheme hauthorized) g s₁
  rw [show s₁.script = _ from hscript, answer_of_scheme hauthorized,
    Request.authorized_method] at htransmit
  have hadvance : advance q.authorized g s₁ =
      (.ok ({ answer with method := q.method }, none),
        { s₁ with script := rest, reached := s₁.reached ++ [q.authorized] }) := by
    rw [advance, Action.run_bind_ok htransmit]
    rw [if_neg (show ¬ ({ answer with method := q.method } : Response).isRedirect = true from
      Bool.eq_false_iff.mp hredirect)]
    rfl
  rw [send, Action.run_bind_ok (Action.run_modify ..), Service.answered]
  exact Action.run_bind_ok hadvance

/-- A session whose request is about to be made, and to be answered. -/
structure Session.Awaits (answer : Response) (s : Session) : Prop where
  unanswered : s.channel.response = none
  connected : s.channel.disconnected = false
  built : ∃ q, s.channel.request = .ok q ∧ schemes.contains q.url.scheme = true
  script : ∃ rest, s.service.script = .answers answer :: rest

/-- A channel with a response that can be closed is disconnected without a failure. -/
theorem Channel.disconnect_ok {c : Channel} {r : Response} (hresponse : c.response = some r)
    (h : r.Closeable) : ∃ c', ∀ g, disconnect g c = (.ok (), c') := by
  obtain ⟨r', -, hclose⟩ := Response.close_ok h
  by_cases hdisc : c.disconnected
  · refine ⟨c, fun g => ?_⟩
    simp [disconnect, Action.run_bind, hdisc]
  · refine ⟨{ c with response := some r', disconnected := true, closings := c.closings + 1 },
      fun g => ?_⟩
    simp [disconnect, Action.run_bind, Action.ensure, Action.within, responsePart, hdisc,
      hresponse, hclose]

namespace Session

variable {answer : Response} {s : Session} (url : String) (g : Option Failure)

theorem disconnect_ok {r : Response} (hresponse : s.channel.response = some r)
    (h : r.Closeable) : ∃ s', ∀ g, (connection url).disconnect g s = (.ok (), s') := by
  obtain ⟨c, hdisconnect⟩ := Channel.disconnect_ok hresponse h
  exact ⟨{ s with channel := c }, fun g => run_channel (hdisconnect g)⟩

def answered (response : Response) (service : Service) (s : Session) : Session :=
  { s with service, channel := { s.channel with response := some response } }

/-- The answer comes as it is, but for the method that it answers. -/
theorem respond_of_awaits (h : s.Awaits answer) (hredirect : answer.isRedirect = false) :
    ∃ method service, respond g s =
      (.ok { answer with method }, s.answered { answer with method } service) := by
  obtain ⟨q, hrequest, hscheme⟩ := h.built
  obtain ⟨rest, hscript⟩ := h.script
  refine ⟨q.method, s.service.answered q rest, ?_⟩
  rw [respond_of_request g h.unanswered h.connected hrequest]
  exact making_of_ok (Service.send_of_answers hscheme hscript hredirect)

/-- The stream of an error, for an answer that the channel takes for one. -/
theorem errorInput_of_isError {service : Service} (hrefusal : Refusal answer)
    (herror : answer.isError = true) :
    errorInput g (s.answered answer service) =
      (.ok (some (s.answered answer service).nextStream),
        (s.answered answer service).withStream (default, answer, default)) := by
  have hresponse : (s.answered answer service).channel.response = some answer := rfl
  have hgiven : (answer.isError && answer.header? "Content-Length" != some "0") = true := by
    simp [herror, hrefusal.present]
  rw [errorInput, Action.run_bind_ok (Action.run_gets ..)]
  simp only [hresponse, hgiven, if_true]
  exact run_openStream hresponse

theorem errorInput_of_not_isError {service : Service} (herror : ¬ answer.isError = true) :
    errorInput g (s.answered answer service) = (.ok none, s.answered answer service) := by
  have hresponse : (s.answered answer service).channel.response = some answer := rfl
  rw [errorInput, Action.run_bind_ok (Action.run_gets ..)]
  simp only [hresponse, herror, Bool.false_and]
  rfl

/-- **What reading makes of a refusal.** -/
theorem readResponse_refused (h : s.Awaits answer) (hrefusal : Refusal answer) :
    (readResponse (connection url) g s).1 = concluded g answer.status answer.refusalText := by
  obtain ⟨method, service, hrespond⟩ := respond_of_awaits g h hrefusal.not_isRedirect
  have hkept := hrefusal.with_method method
  generalize hanswer : ({ answer with method } : Response) = kept at hrespond hkept
  have hstatus : (connection url).status g s = (.ok kept.status, s.answered kept service) :=
    Action.run_bind_ok hrespond
  have hsame : kept.status = answer.status ∧ kept.refusalText = answer.refusalText := by
    subst hanswer
    exact ⟨rfl, rfl⟩
  rw [← hsame.1, ← hsame.2, Response.refusalText]
  by_cases herror : kept.isError
  · rw [if_pos herror]
    let s' := (s.answered kept service).note (.requestCompleted url kept.status)
    obtain ⟨x, hread, hclosed⟩ := Reading.buffered_readAll g Channel.streamName hkept.ready rfl
    obtain ⟨y, hclosed', hclose⟩ := Reading.buffered_close Channel.streamName (.inl hclosed)
    obtain ⟨s'', hdisconnect⟩ := disconnect_ok (s := s'.withStream y) url rfl hclosed'
    let raw := Reading.source.buffered Channel.streamName
    have hattaching : s'.nextStream.attach g (s'.withStream (default, kept, default)) =
        (.ok (), s'.withStream (default, kept, default)) :=
      run_nextStream (m := raw.attach) (g := g) rfl
    have hreading : s'.nextStream.readAll g (s'.withStream (default, kept, default)) =
        (.ok kept.chunks.flatten, s'.withStream x) :=
      run_nextStream (m := raw.readAll) hread
    have hclosing (g' : Option Failure) :
        s'.nextStream.close g' (s'.withStream x) = (.ok (), s'.withStream y) :=
      run_nextStream (m := raw.close) (hclose g')
    rw [readResponse_streamed hkept.failing hstatus (errorInput_of_isError g hkept herror)
      hattaching hreading hclosing hdisconnect]
  · rw [if_neg herror]
    obtain ⟨s'', hdisconnect⟩ := disconnect_ok
      (s := (s.answered kept service).note (.requestCompleted url kept.status)) url rfl
      (.inr hkept.closeable)
    rw [readResponse_absent hkept.failing hstatus (errorInput_of_not_isError g herror) hdisconnect]

/-! ### Calls over a session -/

/-- A new channel whose request is built awaits the next answer. -/
theorem awaits_of_build {c : Channel} {service : Service} {log : List LogEvent}
    {rest : List Reply} (hscript : service.script = .answers answer :: rest)
    (hresponse : c.response = none) (hconnected : c.disconnected = false)
    (hbuilt : ∃ q, c.request = .ok q ∧ schemes.contains q.url.scheme = true) :
    Awaits answer { channel := c, service, log } :=
  ⟨hresponse, hconnected, hbuilt, rest, hscript⟩

theorem readResponse_error (h : s.Awaits answer) (hrefusal : Refusal answer) :
    (readResponse (connection url) g s).1 = .error (answer.refusalError.raisedDuring g) :=
  (readResponse_refused url g h hrefusal).trans
    (Reception.concluded_of_ge answer.refusalText hrefusal.failing)

/-- A session that is about to ask: its request, if it can be built, and the service. -/
structure Asking (request : Except Failure Request) (service : Service) (s : Session) : Prop where
  unanswered : s.channel.response = none
  connected : s.channel.disconnected = false
  request_eq : s.channel.request = request
  service_eq : s.service = service

/-- **A call fails as reading its response does**: the body is sent first, which makes the request
and cannot fail. -/
theorem perform_reads (c : Call) (proxyUrl : Option String) (service : Service)
    (log : List LogEvent) :
    ∃ s : Session,
      Asking (Request.build c.method.name c.url c.headers (Text.encode c.body)) service s ∧
        ∀ f, (c.perform (.single (connection c.url)) g
            { channel := { url := c.url, proxyUrl, headers := c.headers }, service, log }).1 =
              .error f ↔ (readResponse (connection c.url) g s).1 = .error f := by
  have hexchange (headers : HeaderMap) (url : String) (body : List Text.CodePoint)
      (method : Method) :
      ∃ s : Session, Asking (Request.build method.name url headers (Text.encode body)) service s ∧
        ∀ f, (exchange (.single (connection url)) headers url body method g
            { channel := { url, proxyUrl, headers }, service, log }).1 = .error f ↔
          (readResponse (connection url) g s).1 = .error f := by
    let channel : Channel :=
      { url, proxyUrl, headers, method := method.name, outputEnabled := true
        body := some { content := Text.encode body, closed := true } }
    refine ⟨{ channel, service, log }, ⟨rfl, rfl, rfl, rfl⟩, fun f => ?_⟩
    rw [exchange_single, exchanging, Action.run_bind_ok (Action.run_rescue_ok (send_new ..))]
    exact Action.fst_handing_error_iff ResponseResult.text
  cases c with
  | get headers url =>
      let channel : Channel := { url, proxyUrl, headers := (Call.get headers url).headers }
      refine ⟨{ channel, service, log }, ⟨rfl, rfl, rfl, rfl⟩, fun f => ?_⟩
      rw [Call.perform, callEndpoint_single]
      exact (Action.fst_handing_error_iff some).trans
        (Action.fst_handing_error_iff ResponseResult.text)
  | post headers url body content accepted =>
      obtain ⟨s, hs, hreads⟩ := hexchange _ url body .post
      exact ⟨s, hs, fun f => (Action.fst_handing_error_iff some).trans (hreads f)⟩
  | put headers url body media =>
      obtain ⟨s, hs, hreads⟩ := hexchange _ url body .put
      exact ⟨s, hs, fun f => (Action.fst_handing_error_iff some).trans (hreads f)⟩
  | delete headers url =>
      obtain ⟨s, hs, hreads⟩ := hexchange _ url [] .delete
      refine ⟨s, hs, fun f => ?_⟩
      have hdropped := (Action.fst_handing_error_iff fun _ => ()).trans (hreads f)
      exact (Action.fst_handing_error_iff fun _ => none).trans hdropped

/-- The stream of a result is refused for an answer that the channel takes for an error. -/
theorem openResponse_of_isError (headers : Option HeaderMap) (h : s.Awaits answer)
    (hrefusal : Refusal answer) (herror : answer.isError = true) (hurl : s.channel.url = url) :
    ∃ s', openResponse (.single (connection url)) headers url g s =
      (.error (.of (.unobtained url) ((Failure.worded .httpStatus
        (Connection.statusText answer.status url)).raisedDuring g)), s') := by
  obtain ⟨method, service, hrespond⟩ := respond_of_awaits g h hrefusal.not_isRedirect
  let s₁ := s.answered { answer with method } service
  have hinput : (connection url).input g s =
      (.error ((Failure.worded .httpStatus
        (Connection.statusText answer.status url)).raisedDuring g), s₁) := by
    have herror' : ({ answer with method } : Response).isError = true := herror
    change input g s = _
    rw [input, Action.run_bind_ok hrespond, if_pos herror', ← hurl]
    rfl
  obtain ⟨s₂, hdisconnect⟩ := disconnect_ok (s := s₁) url rfl (.inr hrefusal.closeable)
  refine ⟨s₂, ?_⟩
  rw [openResponse_single]
  refine Action.run_bind_error ?_
  rw [obtaining, Action.run_rescue_error hinput]
  have hclient : ((Failure.worded .httpStatus
      (Connection.statusText answer.status url)).raisedDuring g).fault.isClient = false := by
    rw [Failure.fault_raisedDuring]
    rfl
  have hexpected : ((Failure.worded .httpStatus
      (Connection.statusText answer.status url)).raisedDuring g).isExchangeFailure = true := by
    rw [Failure.isExchangeFailure, Failure.isA, Failure.fault_raisedDuring]
    rfl
  rw [if_neg (Bool.eq_false_iff.mp hclient), if_pos hexpected]
  exact Action.run_bind_ok (Action.run_rescue_ok (hdisconnect _))

/-- It is handed out for any other answer. -/
theorem openResponse_of_not_isError (headers : Option HeaderMap) (h : s.Awaits answer)
    (hrefusal : Refusal answer) (herror : ¬ answer.isError = true) :
    ∃ l s', openResponse (.single (connection url)) headers url g s = (.ok l, s') := by
  obtain ⟨method, service, hrespond⟩ := respond_of_awaits g h hrefusal.not_isRedirect
  have herror' : ¬ ({ answer with method } : Response).isError = true := herror
  have hinput : ∃ source s₁, (connection url).input g s = (.ok source, s₁) ∧
      ∀ a, source = some a → ∃ s₂, a.attach g s₁ = (.ok (), s₂) := by
    change ∃ source s₁, input g s = (.ok source, s₁) ∧ _
    rw [input, Action.run_bind_ok hrespond, if_neg herror']
    by_cases hbody : ({ answer with method } : Response).hasBody = true
    · rw [if_pos hbody]
      refine ⟨_, _, run_openStream rfl, ?_⟩
      rintro a ⟨⟩
      exact ⟨_, run_nextStream (m := (Reading.source.buffered Channel.streamName).attach)
        (g := g) rfl⟩
    · rw [if_neg hbody]
      exact ⟨none, _, rfl, nofun⟩
  obtain ⟨source, s₁, hinput, hattach⟩ := hinput
  rw [openResponse_single, Action.run_bind_ok (m := obtaining (connection url) url)
    (Action.run_rescue_ok hinput)]
  cases source with
  | none => exact ⟨_, s₁, rfl⟩
  | some a =>
      obtain ⟨s₂, hattach⟩ := hattach a rfl
      exact ⟨_, s₂, Action.run_bind_ok hattach⟩

end Session

/-! ### Dialers -/

namespace Dialer

/-- A request that comes to the service: the channel to its URL can be opened, the request can be
built from what the channel is given, and sent. -/
structure Reaches (d : Dialer) (method url : String) (headers : Headers) (body : Bytes) : Prop where
  prepared : d.prepare url = .ok ()
  built : ∃ q, Request.build method url headers body = .ok q ∧
    schemes.contains q.url.scheme = true

/-- A call may write to the log before its channel is opened, and does nothing else. -/
theorem announced_log (d : Dialer) (c : Call) (n : Network) :
    ∃ log, c.announced d.opener n = { n with log } := by
  cases c with
  | get headers url => exact ⟨n.log ++ [.callPrepared url], rfl⟩
  | post | put | delete => exact ⟨n.log, rfl⟩

variable {d : Dialer} (g : Option Failure) (n : Network)

/-- A call goes over the channel that is opened for it; only a line of the log may come before. -/
theorem perform_eq (c : Call) (h : d.prepare c.url = .ok ()) :
    ∃ log, c.perform d.opener g n =
      c.perform (.single ((Session.connection c.url).within (Network.session n.channels.length))) g
        (Network.opening { url := c.url, proxyUrl := d.proxyUrl, headers := c.headers }
          { n with log }) := by
  obtain ⟨log, hlog⟩ := announced_log d c n
  refine ⟨log, Call.perform_of_connect ?_⟩
  rw [hlog]
  exact connect_ok h c.headers g { n with log }

/-- A call for which no channel is opened fails with what kept it from being opened, and leaves the
service as it is. -/
theorem perform_unopened_eq (c : Call) {f : Failure} (h : d.prepare c.url = .error f) :
    ∃ f' n', c.perform d.opener g n = (.error f', n') ∧ n'.service = n.service ∧
      (f'.fault.isClient = true ↔ isOpenFailure f = true ∨ f.fault.isClient = true) := by
  have hexchange (headers : HeaderMap) (body : List Text.CodePoint) (method : Method) :
      ∃ f' n', exchange d.opener headers c.url body method g n = (.error f', n') ∧
        n'.service = n.service ∧
          (f'.fault.isClient = true ↔ isOpenFailure f = true ∨ f.fault.isClient = true) := by
    obtain ⟨f', n', hconnect, hsame⟩ := connect_error h headers g n
    exact ⟨f', n', Action.run_bind_error hconnect, hsame⟩
  cases c with
  | get headers url =>
      obtain ⟨f', n', hconnect, hsame⟩ := connect_error h
        (HeaderMap.describe headers (-1) none (some .xml)) g (d.opener.log (.callPrepared url) n)
      have hrun : callEndpoint d.opener headers url g n = (.error f', n') :=
        (Action.run_bind_ok (Action.run_modify ..)).trans (Action.run_bind_error hconnect)
      exact ⟨f', n', Action.run_bind_error hrun, hsame⟩
  | post headers url body content accepted =>
      obtain ⟨f', n', hrun, hsame⟩ := hexchange
        (HeaderMap.describe headers (bodyLength body) content accepted) body .post
      exact ⟨f', n', Action.run_bind_error hrun, hsame⟩
  | put headers url body media =>
      obtain ⟨f', n', hrun, hsame⟩ := hexchange
        (HeaderMap.describe headers (bodyLength body) media media) body .put
      exact ⟨f', n', Action.run_bind_error hrun, hsame⟩
  | delete headers url =>
      obtain ⟨f', n', hrun, hsame⟩ := hexchange
        (HeaderMap.describe headers 0 (some .atomXml) (some .atomXml)) [] .delete
      exact ⟨f', n', Action.run_bind_error (Action.run_bind_error hrun), hsame⟩

/-- **A call over a network fails as reading the response over its channel does.** -/
theorem perform_reads (c : Call) (h : d.prepare c.url = .ok ()) :
    ∃ s : Session,
      s.Asking (Request.build c.method.name c.url c.headers (Text.encode c.body)) n.service ∧
        ∀ f, (c.perform d.opener g n).1 = .error f ↔
          (readResponse (Session.connection c.url) g s).1 = .error f := by
  obtain ⟨log, hrun⟩ := perform_eq g n c h
  let channel : Channel := { url := c.url, proxyUrl := d.proxyUrl, headers := c.headers }
  have halike := c.perform_alike
    (Opener.single_alike (Network.connection_alike channel { n with log } c.url)) g _ _
    (Network.set_session channel { n with log } { channel, service := n.service, log }).symm
  obtain ⟨s, hs, hreads⟩ := Session.perform_reads g c d.proxyUrl n.service log
  refine ⟨s, hs, fun f => ?_⟩
  rw [hrun]
  exact (halike.error_iff f).trans (hreads f)

variable {answer : Response} {rest : List Reply} {n}
  (hscript : n.service.script = .answers answer :: rest) (hrefusal : Refusal answer)

include hscript hrefusal

/-- **What a call over the wire makes of a refusal.** -/
theorem perform_refused (c : Call)
    (h : d.Reaches c.method.name c.url c.headers (Text.encode c.body)) :
    (c.perform d.opener g n).1 = .error (answer.refusalError.raisedDuring g) := by
  obtain ⟨s, hs, hreads⟩ := perform_reads g n c h.prepared
  have hawaits : s.Awaits answer :=
    ⟨hs.unanswered, hs.connected, hs.request_eq ▸ h.built, rest, hs.service_eq ▸ hscript⟩
  exact (hreads _).mpr (Session.readResponse_error c.url g hawaits hrefusal)

/-- **What the call that hands out a stream makes of it**: an error, where the channel takes the
status for one. -/
theorem openResponse_refused (headers : Option HeaderMap) (url : String)
    (h : d.Reaches "GET" url (headers.getD []) []) :
    (∃ f, (openResponse d.opener headers url g n).1 = .error f) ↔ answer.isError = true := by
  let channel : Channel := { url, proxyUrl := d.proxyUrl, headers := headers.getD [] }
  let s : Session := { channel, service := n.service, log := n.log }
  have halike := openResponse_alike
    (Opener.single_alike (Network.connection_alike channel n url)) headers url g _ s
    (Network.set_session channel n s).symm
  have hrun : openResponse d.opener headers url g n = _ :=
    Action.run_bind_ok (connect_ok h.prepared (headers.getD []) g n)
  rw [hrun]
  refine Iff.trans (exists_congr fun f => halike.error_iff f) ?_
  have hawaits : Session.Awaits answer s := Session.awaits_of_build hscript rfl rfl h.built
  by_cases herror : answer.isError = true
  · obtain ⟨s', herr⟩ := Session.openResponse_of_isError url g headers hawaits hrefusal herror rfl
    exact iff_of_true ⟨_, congrArg Prod.fst herr⟩ herror
  · obtain ⟨l, s', hok⟩ := Session.openResponse_of_not_isError url g headers hawaits hrefusal herror
    rw [hok]
    exact iff_of_false nofun herror

end Dialer

/-- **Up to 599, and only up to there, a failing status is treated as one throughout**: the error of
a call holds the whole body, and no stream is handed out. -/
theorem refused_iff (d : Dialer) (g : Option Failure) (n : Network) {answer : Response}
    {rest : List Reply} (hscript : n.service.script = .answers answer :: rest)
    (hrefusal : Refusal answer) :
    (∀ c : Call, d.Reaches c.method.name c.url c.headers (Text.encode c.body) →
      ((∃ f, (c.perform d.opener g n).1 = .error f ∧
          f.fault = .client (.ofStatus answer.status
            (ClientError.statusPreamble ++ Text.drainBytes answer.chunks.flatten))) ↔
        answer.status ≤ 599)) ∧
    ∀ headers url, d.Reaches "GET" url (headers.getD []) [] →
      ((∃ f, (openResponse d.opener headers url g n).1 = .error f) ↔ answer.status ≤ 599) := by
  refine ⟨fun c h => ?_, fun headers url h => ?_⟩
  · rw [Dialer.perform_refused g hscript hrefusal c h, ← hrefusal.isError_iff]
    by_cases herror : answer.isError = true
    · refine iff_of_true ⟨_, rfl, ?_⟩ herror
      rw [Failure.fault_raisedDuring, Response.refusalError, Response.refusalText, if_pos herror]
      rfl
    · refine iff_of_false ?_ herror
      rintro ⟨f, hf, hfault⟩
      cases hf
      -- no body has the text that stands for an absent one
      rw [Failure.fault_raisedDuring, Response.refusalError, Response.refusalText, if_neg herror]
        at hfault
      have htext := congrArg (fun e => (e.text?.getD "").toList) hfault
      simp only [Failure.client, Fault.text?, Option.getD_some, ClientError.ofStatus,
        String.toList_append, List.append_cancel_left_eq] at htext
      exact Text.drainBytes_ne_noResponse _ (String.toList_injective htext.symm)
  · rw [Dialer.openResponse_refused g hscript hrefusal headers url h, hrefusal.isError_iff]

/-- A network whose service answers once, with a status and a body of its own. -/
def boom (status : Int) : Network :=
  { service := { script := [.answers { status, chunks := [[98, 111], [], [111, 109]] }] } }

/-- Its answer can be read to the end. -/
theorem refusal_boom {status : Int} (h : 400 ≤ status) :
    Refusal { status, chunks := [[98, 111], [], [111, 109]] } :=
  ⟨h, nofun, rfl, rfl, rfl, rfl⟩

theorem reaches_call :
    let c := Call.get none "http://svc.local/x"
    Dialer.Reaches {} c.method.name c.url c.headers (Text.encode c.body) := by
  refine ⟨rfl, _, rfl, ?_⟩
  decide +kernel

theorem reaches_stream : Dialer.Reaches {} "GET" "http://svc.local/x" [] [] := by
  refine ⟨rfl, _, rfl, ?_⟩
  decide +kernel

/-- The same body with a status of 500 and with one of 600. -/
theorem refused_boom :
    let c := Call.get none "http://svc.local/x"
    let o := Dialer.opener {}
    (∃ f, (c.perform o none (boom 500)).1 = .error f ∧
      f.fault = .client (.ofStatus 500 "Unable to get response from OData service: boom\n")) ∧
    ¬ ∃ f, (openResponse o none "http://svc.local/x" none (boom 600)).1 = .error f := by
  intro c o
  have htext : ClientError.statusPreamble ++ Text.drainBytes [98, 111, 111, 109] =
      "Unable to get response from OData service: boom\n" := by
    decide +kernel
  constructor
  · rw [← htext]
    exact ((refused_iff {} none (boom 500) rfl (refusal_boom (by decide))).1 c reaches_call).mpr
      (by decide)
  · intro h
    have hle := ((refused_iff {} none (boom 600) rfl (refusal_boom (by decide))).2 none _
      reaches_stream).mp h
    exact absurd hle (by decide)

/-- With a status of 600 the body is lost, and the stream is handed out. -/
theorem refusal_lost :
    let c := Call.get none "http://svc.local/x"
    let o := Dialer.opener {}
    (c.perform o none (boom 600)).1 =
        .error (.client (.ofStatus 600 "Unable to get response from OData service: No Response.")) ∧
      Text.drainBytes [98, 111, 111, 109] = "boom\n" ∧
      ¬ ∃ f, (openResponse o none "http://svc.local/x" none (boom 600)).1 = .error f := by
  intro c o
  have hrefusal := refusal_boom (show 400 ≤ (600 : Int) by decide)
  refine ⟨?_, by decide +kernel, ?_⟩
  · exact Dialer.perform_refused none rfl hrefusal c reaches_call
  · rw [Dialer.openResponse_refused none rfl hrefusal none _ reaches_stream]
    decide

end Wire

end ServiceClient
