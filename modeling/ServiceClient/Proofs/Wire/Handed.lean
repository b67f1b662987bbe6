/-
**What is handed to the service.**

The body travels through a writer into the channel, is closed twice on the way, and becomes part of
a request when the status or the stream of the response is first asked for.  Its length travels
apart from it, as a header.  Reading a response, whatever the service answers, changes nothing that
a request is built from.

Main definitions:

* `ServiceClient.Wire.Channel.Fixed`: what the requests of a channel are built from;
* `ServiceClient.Wire.Session.Hands`: what was handed to the service so far;
* `ServiceClient.Wire.sentBytes`: the bytes of a body;
* `ServiceClient.Wire.Handed`, `ServiceClient.Wire.HandsOver`: what a call hands over.

Main results:

* `ServiceClient.Wire.Service.handed_send`: sending hands over one request, redirects or not;
* `ServiceClient.Wire.Session.answersAlike`: reading a response keeps all this;
* `ServiceClient.Wire.entities_handed`: **every request that is handed over has the method of the
  call, the bytes of the body and their number**.
-/

import ServiceClient.Proofs.Exchange.Alike
import ServiceClient.Proofs.Header
import ServiceClient.Proofs.Wire.Reached
import ServiceClient.Wire.Dialer

set_option autoImplicit false

namespace ServiceClient.Wire

open ServiceClient.Action (Alike Along Keeps)

variable {α : Type}

/-! ### The service -/

namespace Service

theorem transmit_keeps (handed : List Request) (r : Request) :
    Keeps (fun s : Service => s.handed = handed) (transmit r) := by
  intro g s hs
  cases htakes : takes r with
  | true =>
      rw [transmit_eq htakes]
      exact hs
  | false =>
      rw [transmit_untaken htakes]
      exact hs

/-- **Sending hands over one request, redirects or not.** -/
theorem handed_send (r : Request) (g : Option Failure) (s : Service) :
    (send r g s).2.handed = s.handed ++ [r] := by
  -- the request is handed over first, and nothing after it
  rw [send, Action.run_bind_ok (Action.run_modify ..)]
  exact follow_keeps (transmit_keeps (s.handed ++ [r])) maxRedirects r.authorized g _ rfl

end Service

/-! ### Channels -/

structure Channel.Fixed (method : String) (headers : Headers) (body : Bytes) (c : Channel) :
    Prop where
  method_eq : c.method = method
  headers_eq : c.headers = headers
  body_eq : (c.body.map RequestBody.content).getD [] = body

namespace Channel

variable {method : String} {headers : Headers} {body : Bytes}

/-- An action on what is left of the response changes nothing that a request is built from. -/
theorem response_keeps (m : Action Response α) :
    Keeps (Fixed method headers body) (m.within responsePart) :=
  .within (fun _ _ h => ⟨h.method_eq, h.headers_eq, h.body_eq⟩) m

/-- Neither does one on a stream of the response. -/
theorem stream_keeps (index : Nat) (m : Action (Buffer × Reading.State) α) :
    Keeps (Fixed method headers body) (m.within (streamPart index)) :=
  .within (fun _ _ h => ⟨h.method_eq, h.headers_eq, h.body_eq⟩) m

theorem disconnect_keeps : Keeps (Fixed method headers body) disconnect := by
  refine (Keeps.gets _).bind fun c => ?_
  by_cases h : c.disconnected
  · simp only [h, if_true]
    exact .pure _
  · simp only [h]
    refine Keeps.bind (.modify fun _ h => ⟨h.method_eq, h.headers_eq, h.body_eq⟩) fun _ => ?_
    refine Keeps.ensure ?_ (.modify fun _ h => ⟨h.method_eq, h.headers_eq, h.body_eq⟩)
    by_cases hresponse : c.response.isSome
    · simp only [hresponse, if_true]
      exact response_keeps _
    · simp only [hresponse]
      exact .pure _

end Channel

/-! ### Sessions -/

/-- What was handed to the service after `before`: requests of a method with a body, built from a
channel that is still the same. -/
structure Session.Hands (before : List Request) (method : String) (headers : Headers)
    (body : Bytes) (s : Session) : Prop where
  channel : s.channel.Fixed method headers body
  handed : ∃ new, s.service.handed = before ++ new ∧
    ∀ r ∈ new, r.method = Text.upper method ∧ r.body = body ∧
      r.headers = Request.completeHeaders (Text.upper method) body headers

namespace Session

variable {before : List Request} {method : String} {headers : Headers} {body : Bytes}

theorem channel_keeps {m : Action Channel α} (h : Keeps (Channel.Fixed method headers body) m) :
    Keeps (Hands before method headers body) (m.within channelPart) :=
  .within_of h (fun _ h => h.channel) fun _ _ h hc => ⟨hc, h.handed⟩

theorem note_keeps (event : LogEvent) {s : Session} (h : Hands before method headers body s) :
    Hands before method headers body (note event s) :=
  ⟨h.channel, h.handed⟩

/-- The request that a channel builds. -/
theorem request_eq {c : Channel} (h : c.Fixed method headers body) {r : Request}
    (hr : c.request = .ok r) : r.method = Text.upper method ∧ r.body = body ∧
      r.headers = Request.completeHeaders (Text.upper method) body headers := by
  rw [Channel.request, h.method_eq, h.headers_eq, h.body_eq, Request.build] at hr
  cases hurl : Url.parse? c.url with
  | none => simp [hurl] at hr
  | some u =>
      by_cases hascii : headers.isAscii
      · simp only [hurl, hascii, if_true, Except.ok.injEq] at hr
        subst hr
        exact ⟨rfl, rfl, rfl⟩
      · simp [hurl, hascii] at hr

/-- Sending a request that a channel builds hands over just that. -/
theorem send_keeps {r : Request} (hr : r.method = Text.upper method ∧ r.body = body ∧
      r.headers = Request.completeHeaders (Text.upper method) body headers) :
    Keeps (Hands before method headers body) ((Service.send r).within servicePart) := by
  intro g s hs
  obtain ⟨new, hnew, hall⟩ := hs.handed
  have hsend := Service.handed_send r g s.service
  rw [hnew, List.append_assoc] at hsend
  simp only [Action.within, servicePart]
  generalize Service.send r g s.service = x at hsend ⊢
  refine ⟨hs.channel, new ++ [r], hsend, fun r' hr' => ?_⟩
  · rcases List.mem_append.mp hr' with hr' | hr'
    · exact hall r' hr'
    · rw [List.mem_singleton.mp hr']
      exact hr

theorem unreached_keeps (f : Failure) :
    Keeps (Hands before method headers body) (unreached f) := by
  refine (Keeps.gets _).bind fun c => ?_
  cases c.proxyUrl with
  | none => exact .rethrow f
  | some proxyUrl =>
      by_cases h : isProxyFailure f
      · simp only [h, if_true]
        exact Keeps.bind (.modify fun _ => note_keeps _) fun _ =>
          Keeps.bind (.modify fun _ => note_keeps _) fun _ => .raiseFrom _ f
      · simp only [h]
        exact .rethrow f

/-- Making the exchange hands over the request and keeps the response. -/
theorem making_keeps {r : Request} (hr : r.method = Text.upper method ∧ r.body = body ∧
      r.headers = Request.completeHeaders (Text.upper method) body headers) :
    Keeps (Hands before method headers body) (do
      let response ← ((Service.send r).within servicePart).rescue unreached
      .modify fun s => { s with channel := { s.channel with response := some response } }
      pure response) := by
  refine ((send_keeps hr).rescue unreached_keeps).bind fun response => ?_
  refine Keeps.bind (.modify fun s h => ?_) fun _ => .pure response
  exact ⟨⟨h.channel.method_eq, h.channel.headers_eq, h.channel.body_eq⟩, h.handed⟩

/-- **Whatever the service answers, only requests that the channel builds are handed over.** -/
theorem respond_keeps : Keeps (Hands before method headers body) respond := by
  intro g s hs
  rw [respond, Action.run_bind_ok (Action.run_gets channel g s)]
  -- a response that is there is not asked for again
  cases hresponse : s.channel.response with
  | some response => exact hs
  | none =>
      by_cases hdisc : s.channel.disconnected
      · simp only [hdisc, if_true]
        exact hs
      · rw [if_neg hdisc]
        cases hreq : s.channel.request with
        | error f => exact hs
        | ok r => exact making_keeps (request_eq hs.channel hreq) g s hs

theorem stream_keeps (index : Nat) (m : Action (Buffer × Reading.State) α) :
    Keeps (Hands before method headers body)
      ((m.within (Channel.streamPart index)).within channelPart) :=
  channel_keeps (Channel.stream_keeps index m)

/-- A stream that is handed out keeps all this when it is read. -/
theorem openStream_alike :
    Alike (Along (Hands before method headers body))
      (Option.Rel (Source.Alike (Along (Hands before method headers body))))
      (do pure (some ((← Channel.openStream.within channelPart).within channelPart)))
      (do pure (some ((← Channel.openStream.within channelPart).within channelPart))) := by
  rintro g s _ ⟨rfl, hs⟩
  let raw := Reading.source.buffered Channel.streamName
  refine .ok (.some ?_) ⟨rfl, ?_⟩
  · exact
      { attach := (stream_keeps s.channel.streams.length raw.attach).alike
        readAll := (stream_keeps s.channel.streams.length raw.readAll).alike
        close := (stream_keeps s.channel.streams.length raw.close).alike }
  · exact ⟨⟨hs.channel.method_eq, hs.channel.headers_eq, hs.channel.body_eq⟩, hs.handed⟩

theorem input_alike :
    Alike (Along (Hands before method headers body))
      (Option.Rel (Source.Alike (Along (Hands before method headers body)))) input input := by
  refine respond_keeps.alike.bind ?_
  rintro response _ rfl
  by_cases herror : response.isError
  · simp only [herror, if_true]
    refine (Keeps.gets _).alike.bind ?_
    rintro url _ rfl
    exact .raise _
  · by_cases hbody : response.hasBody
    · simp only [herror, hbody, if_true]
      exact openStream_alike
    · simp only [herror, hbody]
      exact .pure .none

theorem errorInput_alike :
    Alike (Along (Hands before method headers body))
      (Option.Rel (Source.Alike (Along (Hands before method headers body))))
      errorInput errorInput := by
  refine (Keeps.gets _).alike.bind ?_
  rintro response _ rfl
  cases response with
  | none => exact .pure .none
  | some response =>
      by_cases h : response.isError && response.header? "Content-Length" != some "0"
      · simp only [h, if_true]
        exact openStream_alike
      · simp only [h]
        exact .pure .none

/-- **Reading a response changes nothing that a request is built from.** -/
theorem answersAlike (url : String) :
    (connection url).AnswersAlike (Along (Hands before method headers body)) (connection url) where
  url := rfl
  status := (Keeps.bind respond_keeps fun _ => .pure _).alike
  input := input_alike
  errorInput := errorInput_alike
  disconnect := (channel_keeps Channel.disconnect_keeps).alike
  log event := by
    rintro s _ ⟨rfl, hs⟩
    exact ⟨rfl, note_keeps event hs⟩

/-! ### Sending over a new channel -/

/-- A body is sent over a channel that is new. -/
theorem send_new (url : String) (proxyUrl : Option String) (headers : Headers) (service : Service)
    (log : List LogEvent) (body : List Text.CodePoint) (method : String) (g : Option Failure) :
    send (connection url) body method g
        { channel := { url, proxyUrl, headers }, service, log } =
      (.ok (),
        { channel :=
            { url, proxyUrl, headers, method, outputEnabled := true
              body := some { content := Text.encode body, closed := true } }
          service, log }) := rfl

/-- An exchange over a new channel hands over requests with the body only. -/
theorem exchanging_hands (url : String) (proxyUrl : Option String) (headers : Headers)
    (service : Service) (log : List LogEvent) (body : List Text.CodePoint) (method : Method)
    (g : Option Failure) :
    Hands service.handed method.name headers (Text.encode body)
      (exchanging (connection url) body method g
        { channel := { url, proxyUrl, headers }, service, log }).2 := by
  rw [exchanging, Action.run_bind_ok (Action.run_rescue_ok (send_new ..))]
  have hread : Keeps (Hands service.handed method.name headers (Text.encode body))
      (readResponse (connection url)) :=
    Action.keeps_of_alike (readResponse_alike (answersAlike url))
  exact hread.bind (fun r => .pure r.text) g _ ⟨⟨rfl, rfl, rfl⟩, [], by simp, by simp⟩

end Session

/-! ### Networks -/

namespace Network

def opening (c : Channel) (n : Network) : Network :=
  { n with channels := n.channels ++ [c] }

variable (c : Channel) (n : Network)

/-- The last channel of a network, with the service and the log, is a part of it. -/
theorem get_set_session (s : Session) :
    (session n.channels.length).get ((session n.channels.length).set s (n.opening c)) = s := by
  simp [session, opening]

theorem set_set_session (s s' : Session) :
    (session n.channels.length).set s ((session n.channels.length).set s' (n.opening c)) =
      (session n.channels.length).set s (n.opening c) := by
  simp [session, opening]

theorem set_session (s : Session) :
    (session n.channels.length).set s (n.opening c) =
      { n.opening s.channel with service := s.service, log := s.log } := by
  simp [session, opening]

/-- The connection of a channel that was just opened is like that of its session: the channel is the
last one, so the session can be taken out and put back. -/
theorem connection_alike (url : String) :
    ((Session.connection url).within (session n.channels.length)).Alike
      (fun t s => t = (session n.channels.length).set s (n.opening c)) (Session.connection url) :=
  Connection.within_alike (get_set_session c n) (set_set_session c n) _

end Network

namespace Dialer

variable {d : Dialer} {url : String}

theorem connect_ok (h : d.prepare url = .ok ()) (headers : HeaderMap) (g : Option Failure)
    (n : Network) :
    d.opener.connect url headers g n =
      (.ok ((Session.connection url).within (Network.session n.channels.length)),
        n.opening { url, proxyUrl := d.proxyUrl, headers }) := by
  change d.connect url headers g n = _
  rw [connect, h]
  rfl

/-- What keeps a channel from being opened changes the log at most.  It is raised as an error of the
client if it is foreseen. -/
theorem connect_error {f : Failure} (h : d.prepare url = .error f) (headers : HeaderMap)
    (g : Option Failure) (n : Network) :
    ∃ f' n', d.opener.connect url headers g n = (.error f', n') ∧ n'.service = n.service ∧
      (f'.fault.isClient = true ↔ isOpenFailure f = true ∨ f.fault.isClient = true) := by
  change ∃ f' n', d.connect url headers g n = (.error f', n') ∧ _
  have hsame : isOpenFailure (f.raisedDuring g) = isOpenFailure f := by
    simp [isOpenFailure, Failure.isA]
  rw [connect, h]
  by_cases hopen : isOpenFailure f
  · refine ⟨.of .unopened (f.raisedDuring g),
      { n with log := n.log ++ d.report url (f.raisedDuring g) }, ?_, rfl,
      iff_of_true rfl (.inl hopen)⟩
    simp [Action.rescue, hsame, hopen, Action.run_bind_ok (Action.run_modify ..)]
  · refine ⟨f.raisedDuring g, n, by simp [Action.rescue, hsame, hopen], rfl, ?_⟩
    simp [hopen]

end Dialer

/-! ### What is handed over -/

/-- The bytes of a body: a character by its encoding, half of a surrogate pair as a question
mark. -/
def sentBytes (body : List Text.CodePoint) : Bytes :=
  body.flatMap fun
    | .scalar c => String.utf8EncodeChar c
    | .surrogate _ => [63]

theorem sentBytes_eq (body : List Text.CodePoint) : sentBytes body = Text.encode body := by
  rw [sentBytes, Text.encode, Text.encodeChars, List.flatMap_map]
  congr 1
  funext p
  cases p with
  | scalar c => rfl
  | surrogate half => rfl

/-- A call handed over requests with a method and a body, from headers with the length of the
body. -/
structure Handed (method : String) (body : List Text.CodePoint) (given : HeaderMap)
    (n n' : Network) (new : List Request) (c : Channel) : Prop where
  handed_eq : n'.service.handed = n.service.handed ++ new
  channels_eq : n'.channels = n.channels ++ [c]
  method_eq : ∀ r ∈ new, r.method = method
  body_eq : ∀ r ∈ new, r.body = sentBytes body
  headers_eq : ∀ r ∈ new, r.headers = c.headers
  length_eq : HeaderMap.get? "Content-Length" c.headers = some (toString (sentBytes body).length)
  only : given.names.Nodup → c.headers.filter (·.1 == "Content-Length") =
    [("Content-Length", toString (sentBytes body).length)]

/-- Headers with a length are sent as they are. -/
theorem completeHeaders_of_get? {method value : String} {body : Bytes} {headers : HeaderMap}
    (h : headers.get? "Content-Length" = some value) :
    Request.completeHeaders method body headers = headers := by
  have hhas : Headers.has Request.lengthName headers := by
    refine List.any_eq_true.mpr ⟨("Content-Length", value), HeaderMap.mem_of_get? h, ?_⟩
    exact beq_self_eq_true _
  by_cases hbody : body.isEmpty <;> simp [Request.completeHeaders, hhas, hbody]

/-- What an exchange leaves of a network: either nothing was handed over, or what `Handed` says. -/
def HandsOver (method : String) (body : List Text.CodePoint) (given : Option HeaderMap)
    (n n' : Network) : Prop :=
  n'.service.handed = n.service.handed ∨
    ∃ new c, Handed method body (given.getD []) n n' new c

/-- The methods of calls are in upper case. -/
theorem upper_name (method : Method) : Text.upper method.name = method.name := by
  cases method <;> decide +kernel

/-- The exchange is that of a session, in the part of the network where the new channel is. -/
theorem exchanging_handsOver (proxyUrl : Option String) (url : String) (headers : HeaderMap)
    (body : List Text.CodePoint) (method : Method) (g : Option Failure) (n : Network) :
    ∃ s : Session, s.Hands n.service.handed method.name headers (Text.encode body) ∧
      (exchanging ((Session.connection url).within (Network.session n.channels.length)) body method
          g (n.opening { url, proxyUrl, headers })).2 =
        { n.opening s.channel with service := s.service, log := s.log } := by
  let c : Channel := { url, proxyUrl, headers }
  let s₀ : Session := { channel := c, service := n.service, log := n.log }
  have halike := exchanging_alike (Network.connection_alike c n url) body method g (n.opening c) s₀
    (Network.set_session c n s₀).symm
  have hands := Session.exchanging_hands url proxyUrl headers n.service n.log body method g
  refine ⟨_, hands, ?_⟩
  rw [← Network.set_session c n]
  generalize exchanging ((Session.connection url).within _) body method g _ = x,
    exchanging (Session.connection url) body method g _ = y at halike ⊢
  cases halike with
  | ok _ h => exact h
  | error h => exact h

theorem exchange_handsOver (d : Dialer) (given : Option HeaderMap) (url : String)
    (body : List Text.CodePoint) (content accepted : Option MediaType) (method : Method)
    (g : Option Failure) (n : Network) :
    HandsOver method.name body given n
      (exchange d.opener (HeaderMap.describe given (bodyLength body) content accepted) url body
        method g n).2 := by
  have hlength := HeaderMap.get?_describe_length given (bodyLength body) content accepted
  have hnames : (given.getD []).names.Nodup →
      (HeaderMap.describe given (bodyLength body) content accepted).names.Nodup :=
    HeaderMap.nodup_describe (bodyLength body) content accepted
  generalize HeaderMap.describe given (bodyLength body) content accepted = headers
    at hlength hnames ⊢
  rw [exchange_eq]
  -- without a connection nothing is handed over
  cases hprep : d.prepare url with
  | error f =>
      obtain ⟨f', n', hrun, hservice, -⟩ := Dialer.connect_error hprep headers g n
      rw [Action.run_bind_error hrun]
      exact .inl (congrArg Service.handed hservice)
  | ok u =>
      rw [Action.run_bind_ok (Dialer.connect_ok hprep headers g n)]
      obtain ⟨s', hands, hrun⟩ :=
        exchanging_handsOver d.proxyUrl url headers body method g n
      obtain ⟨new, hnew, hall⟩ := hands.handed
      have hhead : s'.channel.headers = headers := hands.channel.headers_eq
      have hcount : toString (sentBytes body).length = toString (bodyLength body) := by
        rw [sentBytes_eq, bodyLength]
      rw [hrun]
      refine .inr ⟨new, s'.channel, ?_⟩
      exact
        { handed_eq := hnew
          channels_eq := rfl
          method_eq := fun r hr => (hall r hr).1.trans (upper_name method)
          body_eq := fun r hr => (hall r hr).2.1.trans (sentBytes_eq body).symm
          headers_eq := fun r hr => by
            rw [(hall r hr).2.2, completeHeaders_of_get? hlength, hhead]
          length_eq := by rw [hhead, hcount]; exact hlength
          only := fun h => by
            rw [hhead, hcount]
            exact HeaderMap.filter_of_get? (hnames h) hlength }

/-- **Every request that is handed over has the method of the call, the bytes of the body and their
number.**  The length is the only header of its name, as long as the caller's headers are a map. -/
theorem entities_handed (d : Dialer) (headers : Option HeaderMap) (url : String)
    (body : List Text.CodePoint) (content accepted : Option MediaType) (g : Option Failure)
    (n : Network) :
    HandsOver "POST" body headers n
        (postEntity d.opener headers url body content accepted g n).2 ∧
      HandsOver "PUT" body headers n (putEntity d.opener headers url body content g n).2 ∧
      HandsOver "DELETE" [] headers n (deleteEntity d.opener headers url g n).2 := by
  have hdelete : HandsOver "DELETE" [] headers n
      (exchange d.opener (HeaderMap.describe headers 0 (some .atomXml) (some .atomXml)) url []
        .delete g n).2 :=
    exchange_handsOver d headers url [] (some .atomXml) (some .atomXml) .delete g n
  refine ⟨?_, ?_, ?_⟩
  · exact exchange_handsOver d headers url body content accepted .post g n
  · exact exchange_handsOver d headers url body content content .put g n
  · generalize hrun : exchange d.opener (HeaderMap.describe headers 0 (some .atomXml)
      (some .atomXml)) url [] .delete g n = x at hdelete
    obtain ⟨r, n'⟩ := x
    rw [deleteEntity, Action.run_handing (fun _ => ()) hrun]
    exact hdelete

end ServiceClient.Wire
