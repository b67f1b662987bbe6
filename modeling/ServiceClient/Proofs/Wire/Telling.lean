/-
**What a service tells over the wire.**

An answer that comes whole is told by the channel to which it comes: its status, and its body,
unless responses of its status have none.  The answer must be no redirect; an error must not be said
to be empty, and its status must be one that the channel takes for an error.  So every call comes to
what the answer tells, and the one request of the call has reached the service then, with the
method, the headers and the body of the call.

A URL must lead somewhere by itself for that.  One without a host loses its scheme before the
request is sent, and no service is reached.

Main definitions:

* `ServiceClient.Wire.Response.Whole`, `ServiceClient.Wire.Response.Plain`: answers that come whole,
  and those that are told;
* `ServiceClient.Wire.bodyOf`: the body that a response of a status has;
* `ServiceClient.Wire.Session.telling`: the phases of an exchange with such an answer.

Main results:

* `ServiceClient.Wire.Session.tells`: **a channel tells the answer that comes to it**;
* `ServiceClient.Wire.Dialer.outcome_told`: **every call comes to what the answer tells**, and its
  request has reached the service.
-/

import ServiceClient.Proofs.Exchange.Telling
import ServiceClient.Proofs.Wire.Classified

set_option autoImplicit false

namespace ServiceClient

open ServiceClient.Action (Gives Meets Never)

namespace Wire

/-! ### Answers -/

/-- The body that a response of a status has. -/
def bodyOf (status : Int) (body : Bytes) : Option Bytes :=
  if status < 200 ∨ status = 204 ∨ status = 304 then none else some body

/-- An answer that comes whole: nothing was read of it, it does not break off, and it can be closed.
The body is that of the response as it stands, so it must not be encoded. -/
structure Response.Whole (answer : Response) : Prop where
  unread : answer.consumed = false
  unclosed : answer.closed = false
  unbroken : answer.readFailure = none
  closeable : answer.closeFailure = none
  unencoded : answer.header? "Content-Encoding" = none

/-- An answer that is told: it sends the caller nowhere, and an error has a status of errors and is
not said to be empty. -/
structure Response.Plain (answer : Response) : Prop extends answer.Whole where
  direct : answer.isRedirect = false
  bounded : answer.status ≤ 599
  present : 400 ≤ answer.status → answer.header? "Content-Length" ≠ some "0"

namespace Response.Plain

variable {answer : Response} (h : answer.Plain)

include h

theorem ready : Reading.Ready (answer, default) :=
  ⟨.inr ⟨rfl, h.unread⟩, h.unclosed, h.unbroken, h.closeable⟩

/-- An answer is told whatever method it answers. -/
theorem with_method (method : String) : Response.Plain { answer with method } :=
  ⟨⟨h.unread, h.unclosed, h.unbroken, h.closeable, h.unencoded⟩, h.direct, h.bounded, h.present⟩

theorem isError_iff : answer.isError = true ↔ failingStatus ≤ answer.status := by
  have := h.bounded
  simp only [Response.isError, failingStatus, Bool.and_eq_true, decide_eq_true_eq]
  omega

end Response.Plain

/-- Whether a response has a body, if it answers no request for its head alone. -/
theorem Response.hasBody_iff {r : Response} (h : r.method ≠ "HEAD") (body : Bytes) :
    r.hasBody = (bodyOf r.status body).isSome := by
  by_cases hnone : r.status < 200 ∨ r.status = 204 ∨ r.status = 304
  · rw [bodyOf, if_pos hnone]
    rcases hnone with hlow | heq | heq
    · simp [hasBody, hlow]
    · simp [hasBody, heq]
    · simp [hasBody, heq]
  · rw [bodyOf, if_neg hnone]
    obtain ⟨hlow, h204, h304⟩ : ¬ r.status < 200 ∧ r.status ≠ 204 ∧ r.status ≠ 304 := by omega
    simp [hasBody, h, hlow, h204, h304]

/-! ### Sessions -/

namespace Session

/-- What is known of a session in each phase, if its answer comes and leaves a service behind. -/
def telling (request : Request) (answer : Response) (before after : Service) : Phases Session where
  unasked := Asking (.ok request) before
  answered s := s.channel.response = some answer ∧ s.service = after
  opened a s := bodyOf answer.status answer.chunks.flatten = some answer.chunks.flatten ∧
    ∃ j, a = stream j ∧ j < s.channel.streams.length ∧
      (Channel.streamPart j).get s.channel = (default, answer, default) ∧ s.service = after
  ended s := (∃ r, s.channel.response = some r ∧ r.Closeable) ∧ s.service = after
  failed _ := False
  left s := s.service = after
  lost _ := False

/-- What is done over a stream changes its part of the session. -/
theorem run_stream {α : Type} {j : Nat} {m : Action (Buffer × Reading.State) α}
    {g : Option Failure} {s : Session} {r : Except Failure α} {x : Buffer × Reading.State}
    (h : m g ((Channel.streamPart j).get s.channel) = (r, x)) :
    ((m.within (Channel.streamPart j)).within channelPart) g s =
      (r, { s with channel := (Channel.streamPart j).set x s.channel }) := by
  simp only [Action.within, channelPart, h]

section

variable {q : Request} {answer : Response} {before after : Service}

/-- An answer that has come is given again. -/
theorem respond_again :
    Meets (telling q answer before after).answered respond
      (fun r s => r = answer ∧ (telling q answer before after).answered s) Never := by
  rintro g s ⟨hresponse, hservice⟩
  rw [respond, Action.run_bind_ok (Action.run_gets channel g s), hresponse]
  exact .ok ⟨rfl, hresponse, hservice⟩

/-- Its stream is there to be read. -/
theorem openStream_told
    (hbody : bodyOf answer.status answer.chunks.flatten = some answer.chunks.flatten) :
    Meets (telling q answer before after).answered
      (do pure (some ((← Channel.openStream.within channelPart).within channelPart)))
      (fun a s => a.isSome = true ∧ (telling q answer before after).found a s) Never := by
  rintro g s ⟨hresponse, hservice⟩
  rw [run_openStream hresponse]
  refine .ok ⟨rfl, hbody, s.channel.streams.length, rfl, ?_, ?_, hservice⟩
  · simp [withStream]
  · simp [Channel.streamPart, withStream]

/-- A response that is no error has its stream, if its status has a body. -/
theorem input_told (hplain : answer.Plain) (hhead : answer.method ≠ "HEAD") {Q : Session → Prop}
    (hlt : answer.status < failingStatus)
    (hrespond : Meets Q respond
      (fun r s => r = answer ∧ (telling q answer before after).answered s) Never) :
    Meets Q input
      (fun a s => a.isSome = (bodyOf answer.status answer.chunks.flatten).isSome ∧
        (telling q answer before after).found a s) Never := by
  refine hrespond.bind fun r => .given ?_
  rintro rfl
  have herror : r.isError = false :=
    Bool.eq_false_iff.mpr fun h => absurd (hplain.isError_iff.mp h) (Int.not_le.mpr hlt)
  have hhas := Response.hasBody_iff hhead r.chunks.flatten
  simp only [herror]
  by_cases hbody : r.hasBody
  · simp only [hbody, if_true]
    rw [hbody] at hhas
    rw [← hhas]
    refine openStream_told ?_
    obtain ⟨b, hb⟩ := Option.isSome_iff_exists.mp hhas.symm
    rw [hb]
    unfold bodyOf at hb
    split at hb <;> cases hb
    rfl
  · simp only [hbody]
    rw [Bool.eq_false_iff.mpr hbody] at hhas
    refine .pure fun s hs => ⟨hhas, ⟨r, hs.1, .inr hplain.closeable⟩, hs.2⟩

/-- An error has its stream. -/
theorem errorInput_told (hplain : answer.Plain) (hge : answer.status ≥ failingStatus) :
    Meets (telling q answer before after).answered errorInput
      (fun a s => a.isSome = (bodyOf answer.status answer.chunks.flatten).isSome ∧
        (telling q answer before after).found a s) Never := by
  have hge' : 400 ≤ answer.status := hge
  have hbody : bodyOf answer.status answer.chunks.flatten = some answer.chunks.flatten :=
    if_neg (by omega)
  have hgiven : (answer.isError && answer.header? "Content-Length" != some "0") = true := by
    simp [hplain.isError_iff.mpr hge, hplain.present hge]
  refine Meets.bind (Q := fun found s => found = some answer ∧
    (telling q answer before after).answered s) (.gets fun s hs => ⟨hs.1, hs⟩) fun found =>
      .given ?_
  rintro rfl
  simp only [hgiven, if_true]
  rw [hbody]
  exact openStream_told hbody

/-- What is left of the answer can be closed when the channel is disconnected. -/
theorem disconnect_told :
    Meets (telling q answer before after).ended (Channel.disconnect.within channelPart)
      (fun _ => (telling q answer before after).left) Never := by
  rintro g s ⟨⟨r, hresponse, hr⟩, hservice⟩
  obtain ⟨c, hdisconnect⟩ := Channel.disconnect_ok hresponse hr
  rw [run_channel (hdisconnect g)]
  exact .ok hservice

end

variable {q : Request} {answer : Response} {rest : List Reply} {service : Service}

/-- The answer comes to a session that asks. -/
theorem respond_told (hplain : answer.Plain) (hscheme : schemes.contains q.url.scheme = true)
    (hscript : service.script = .answers answer :: rest) :
    Meets (Asking (.ok q) service) respond
      (fun r s => r = { answer with method := q.method } ∧
        (telling q { answer with method := q.method } service (service.answered q rest)).answered s)
      Never := by
  rintro g s ⟨hnone, hconnected, hrequest, rfl⟩
  rw [respond_of_request g hnone hconnected hrequest,
    making_of_ok (Service.send_of_answers hscheme hscript hplain.direct)]
  exact .ok ⟨rfl, rfl, rfl⟩

/-- **A channel tells the answer that comes to it.** -/
theorem tells (hplain : answer.Plain) (hhead : q.method ≠ "HEAD")
    (hscheme : schemes.contains q.url.scheme = true)
    (hscript : service.script = .answers answer :: rest) (url : String) :
    (connection url).Tells
      (telling q { answer with method := q.method } service (service.answered q rest))
      answer.status (bodyOf answer.status answer.chunks.flatten) where
  status_meets := (respond_told hplain hscheme hscript).bind fun r => .given fun hr =>
    .pure fun s hs => ⟨hr ▸ rfl, hs⟩
  input hlt hQ := by
    refine input_told (hplain.with_method q.method) hhead hlt fun g s hs => ?_
    obtain hasking | hanswered := hQ s hs
    · exact respond_told hplain hscheme hscript g s hasking
    · exact respond_again g s hanswered
  refused hge := by
    refine (respond_told hplain hscheme hscript).of_never.bind fun r => .given ?_
    rintro rfl
    have herror : ({ answer with method := q.method } : Response).isError = true :=
      (hplain.with_method q.method).isError_iff.mpr hge
    simp only [herror, if_true]
    refine Meets.bind (Q := fun _ => (telling q { answer with method := q.method } service
      (service.answered q rest)).answered) (.gets fun _ hs => hs) fun url =>
        .raise fun g s hs => ⟨?_, ⟨_, hs.1, .inr hplain.closeable⟩, hs.2⟩
    exact (Failure.isExchangeFailure_raisedDuring g _).trans rfl
  errorInput hge := errorInput_told (hplain.with_method q.method) hge
  attach a := by
    rintro g s ⟨hbody, j, rfl, hj, hget, hservice⟩
    refine .ok ⟨hbody, j, rfl, Channel.lt_set_streamPart j s.channel _ hj, ?_, hservice⟩
    exact (Channel.get_set_streamPart j s.channel _ hj).trans hget
  unclosed a s := by
    rintro ⟨-, j, rfl, -, hget, -⟩
    exact congrArg (Reading.source.buffered Channel.streamName).isClosed hget
  readAll a := by
    rintro g s ⟨hbody, j, rfl, -, hget, hservice⟩
    obtain ⟨x, hread, hclosed⟩ := Reading.buffered_readAll g Channel.streamName
      (hplain.with_method q.method).ready rfl
    rw [← hget] at hread
    have hrun : (stream j).readAll g s = _ :=
      run_stream (m := (Reading.source.buffered Channel.streamName).readAll) hread
    rw [hrun]
    exact .ok ⟨hbody, ⟨x.2.1, rfl, .inl hclosed⟩, hservice⟩
  close a := by
    rintro ⟨-, -, j, rfl, -⟩ g s ⟨⟨r, hresponse, hr⟩, hservice⟩
    have hget : ((Channel.streamPart j).get s.channel).2.1 = r := by
      simp [Channel.streamPart, hresponse]
    obtain ⟨y, hy, hclose⟩ := Reading.buffered_close Channel.streamName (hget ▸ hr)
    have hrun : (stream j).close g s = _ :=
      run_stream (m := (Reading.source.buffered Channel.streamName).close) (hclose g)
    rw [hrun]
    exact .ok ⟨⟨y.2.1, rfl, hy⟩, hservice⟩
  disconnect := disconnect_told
  log_found event a s hs := by
    cases a with
    | none => exact hs
    | some a => exact hs
  left_of_ended s hs := hs.2

/-- A session over a new channel for a call. -/
def new (v : Verb) (proxyUrl : Option String) (service : Service) (log : List LogEvent) :
    Session where
  channel := { url := v.url, proxyUrl, headers := v.headers }
  service := service
  log := log

/-- What a call sends makes its request. -/
theorem transmit_asks (v : Verb) (proxyUrl : Option String) (service : Service)
    (log : List LogEvent) :
    Meets (· = new v proxyUrl service log) (v.transmit (connection v.url))
      (fun _ => Asking (Request.build v.method.name v.url v.headers (Text.encode v.body)) service)
      Never := by
  rintro g _ rfl
  cases v with
  | call c => cases c <;> exact .ok ⟨rfl, rfl, rfl, rfl⟩
  | lease given url => exact .ok ⟨rfl, rfl, rfl, rfl⟩

end Session

/-! ### Calls -/

namespace Dialer

variable {d : Dialer} {n : Network} {v : Verb} {answer : Response} {rest : List Reply}

/-- A call goes over the session that is opened for it; the service is the same then. -/
theorem outcome_eq (h : d.prepare v.url = .ok ()) (g : Option Failure) (n : Network) :
    ∃ n' : Network, n'.service = n.service ∧ v.outcome d.opener g n =
      v.outcome
        (.single ((Session.connection v.url).within (Network.session n'.channels.length))) g
        ((Network.session n'.channels.length).set (.new v d.proxyUrl n'.service n'.log)
          (n'.opening { url := v.url, proxyUrl := d.proxyUrl, headers := v.headers })) := by
  obtain ⟨log, hlog⟩ : ∃ log, v.announced d.opener n = { n with log } := by
    cases v with
    | call c => exact announced_log d c n
    | lease given url => exact ⟨n.log, rfl⟩
  refine ⟨v.announced d.opener n, by rw [hlog], Verb.outcome_of_connect ?_⟩
  rw [connect_ok h, Network.set_session]
  rfl

/-- **Every call comes to what the answer tells**, and its request has reached the service then. -/
theorem outcome_told (hopens : d.prepare v.url = .ok ()) (hhost : NamesHost v.url)
    (hascii : Headers.isAscii (v.supplied.getD []) = true)
    (hscript : n.service.script = .answers answer :: rest) (hplain : answer.Plain)
    (g : Option Failure) :
    (v.outcome d.opener g n).1.mapError Failure.fault =
        v.told answer.status (bodyOf answer.status answer.chunks.flatten) ∧
      ∃ u, Url.parse? v.url = some u ∧
        (v.outcome d.opener g n).2.service = n.service.answered (v.request u) rest := by
  obtain ⟨u, hparse, hscheme, hbuild⟩ := request_of_prepare hopens hhost hascii
  obtain ⟨n', hservice, hrun⟩ := outcome_eq hopens g n
  rw [← hservice] at hscript ⊢
  have hhead : (v.request u).method ≠ "HEAD" := by
    have hname : ∀ m : Method, m.name ≠ "HEAD" := fun m => by cases m <;> decide
    exact hname v.method
  have hsent := Session.transmit_asks v d.proxyUrl n'.service n'.log
  rw [hbuild] at hsent
  obtain ⟨hresult, s', hstate, hleft⟩ :=
    (Session.tells hplain hhead hscheme hscript v.url).outcome_within
      (Network.get_set_session _ n') (Network.set_set_session _ n') v hsent g rfl
  rw [hrun]
  refine ⟨hresult, u, hparse, ?_⟩
  rw [hstate]
  exact hleft

end Dialer

end Wire

end ServiceClient
