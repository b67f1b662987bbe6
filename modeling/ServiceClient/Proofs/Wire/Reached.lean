/-
**What reaches the service.**

A session asks the service once: it keeps the response, and it asks again only if there was none.
The request is built from the method, the headers and the body that the channel has at that moment;
it reaches the service first, those of redirects follow it.

Main definitions:

* `ServiceClient.Wire.Session.Responds`: the ways in which a session comes to a response, or fails;
* `ServiceClient.Wire.Carries`: what a request carries that reaches the service.

Main results:

* `ServiceClient.Wire.Service.reached_of_send`: an answered request reached the service, and
  redirects come after it;
* `ServiceClient.Wire.Session.responds`: **each way of asking is one of five**;
* `ServiceClient.Wire.carries_of_build`: what a request carries, in terms of what it is built from.
-/

import ServiceClient.Proofs.Action.Keeps
import ServiceClient.Proofs.Action.Runs
import ServiceClient.Wire.Channel

set_option autoImplicit false

namespace ServiceClient.Wire

open ServiceClient.Action (Keeps)

/-! ### The service -/

namespace Service

/-- More requests may have reached the service than some. -/
def Beyond (reached : List Request) (s : Service) : Prop :=
  ∃ more, s.reached = reached ++ more

theorem beyond_refl (s : Service) : Beyond s.reached s :=
  ⟨[], (List.append_nil _).symm⟩

section Taken

variable {r : Request}

/-- What the service does with a request that it takes. -/
theorem transmit_eq (h : takes r = true) (g : Option Failure) (s : Service) :
    transmit r g s =
      ((answer r s.script).mapError (·.raisedDuring g),
        { s with script := s.script.tail, reached := s.reached ++ [r] }) := by
  rw [transmit, if_pos h, Action.run_bind_ok (Action.run_gets ..),
    Action.run_bind_ok (Action.run_modify ..)]
  simp only [id_eq]
  cases answer r s.script with
  | error f => rfl
  | ok response => rfl

/-- A request that is not for the service changes nothing of it. -/
theorem transmit_untaken (h : takes r = false) (g : Option Failure) (s : Service) :
    transmit r g s = (.error ((Failure.plain .unsupportedProtocol).raisedDuring g), s) := by
  rw [transmit, if_neg (Bool.eq_false_iff.mp h)]
  rfl

theorem takes_of_scheme (h : schemes.contains r.url.scheme = true) : takes r = true := by
  rw [takes, h, Bool.or_true]

/-- A request with a scheme of the protocol gets the response of the script. -/
theorem answer_of_scheme (h : schemes.contains r.url.scheme = true) (response : Response)
    (rest : List Reply) :
    answer r (.answers response :: rest) = .ok { response with method := r.method } := by
  refine if_neg fun hempty => ?_
  rw [String.isEmpty_iff] at hempty
  rw [hempty] at h
  exact absurd h (by decide)

end Taken

theorem transmit_beyond (reached : List Request) (r : Request) :
    Keeps (Beyond reached) (transmit r) := by
  rintro g s ⟨more, hmore⟩
  cases htakes : takes r with
  | true =>
      rw [transmit_eq htakes]
      exact ⟨more ++ [r], by rw [hmore, List.append_assoc]⟩
  | false =>
      rw [transmit_untaken htakes]
      exact ⟨more, hmore⟩

theorem leaving_keeps (I : Service → Prop) (response : Response) (m : Action Reading.State Unit) :
    Keeps I (leaving response m) :=
  fun _ _ hs => hs

section Kept

variable {I : Service → Prop} (h : ∀ r, Keeps I (transmit r))

include h

theorem advance_keeps (r : Request) : Keeps I (advance r) := by
  refine (h r).bind fun response => ?_
  by_cases hredirect : response.isRedirect
  · simp only [hredirect, if_true]
    cases r.redirect response with
    | error f => exact (leaving_keeps _ _ _).bind fun _ => .raise f
    | ok next => exact (leaving_keeps _ _ _).bind fun _ => .pure _
  · simp only [hredirect]
    exact .pure _

/-- **What handing over one request keeps, following redirects keeps.** -/
theorem follow_keeps (left : Nat) (r : Request) : Keeps I (follow left r) := by
  -- by induction on the redirects that are left; each of them is one `advance`
  induction left generalizing r with
  | zero =>
      refine (advance_keeps h r).bind fun step => ?_
      rcases step with ⟨response, _ | next⟩
      · exact .pure response
      · exact .raise _
  | succ left ih =>
      refine (advance_keeps h r).bind fun step => ?_
      rcases step with ⟨response, _ | next⟩
      · exact .pure response
      · exact ih next

end Kept

section Answered

variable {r : Request} {response : Response} {g : Option Failure} {s s' : Service}

/-- A request that is answered has reached the service. -/
theorem reached_of_transmit (h : transmit r g s = (.ok response, s')) :
    s'.reached = s.reached ++ [r] := by
  cases htakes : takes r with
  | true =>
      rw [transmit_eq htakes] at h
      exact congrArg (·.2.reached) h.symm
  | false =>
      rw [transmit_untaken htakes] at h
      cases h

theorem beyond_of_advance {step : Response × Option Request}
    (h : advance r g s = (.ok step, s')) : Beyond (s.reached ++ [r]) s' := by
  obtain ⟨first, s₁, htransmit, h⟩ := Action.ok_of_run_bind h
  have hbeyond : Beyond (s.reached ++ [r]) s₁ := by
    rw [← reached_of_transmit htransmit]
    exact beyond_refl s₁
  by_cases hredirect : first.isRedirect
  · simp only [hredirect, if_true] at h
    cases hnext : r.redirect first with
    | error f =>
        rw [hnext] at h
        obtain ⟨_, _, _, h⟩ := Action.ok_of_run_bind h
        cases h
    | ok next =>
        rw [hnext] at h
        -- reading the response of the redirect leaves the service as it is
        obtain ⟨_, s₂, hskip, h⟩ := Action.ok_of_run_bind h
        have hsame : s₂ = s₁ := (congrArg Prod.snd hskip).symm
        cases h
        rw [hsame]
        exact hbeyond
  · simp only [hredirect] at h
    cases h
    exact hbeyond

/-- What is followed has reached the service first. -/
theorem beyond_of_follow {left : Nat} (h : follow left r g s = (.ok response, s')) :
    Beyond (s.reached ++ [r]) s' := by
  cases left with
  | zero =>
      obtain ⟨⟨first, _ | next⟩, s₁, hadvance, h⟩ := Action.ok_of_run_bind h
      · cases h
        exact beyond_of_advance hadvance
      · cases h
  | succ left =>
      obtain ⟨⟨first, _ | next⟩, s₁, hadvance, h⟩ := Action.ok_of_run_bind h
      · cases h
        exact beyond_of_advance hadvance
      · have hfollow : follow left next g s₁ = (.ok response, s') := h
        have hkept := follow_keeps (transmit_beyond _) left next g s₁ (beyond_of_advance hadvance)
        rw [hfollow] at hkept
        exact hkept

/-- **An answered request reached the service**, with the credentials of its URL; requests of
redirects come after it. -/
theorem reached_of_send (h : send r g s = (.ok response, s')) :
    ∃ more, s'.reached = s.reached ++ r.authorized :: more := by
  rw [send, Action.run_bind_ok (Action.run_modify ..)] at h
  obtain ⟨more, hmore⟩ := beyond_of_follow h
  exact ⟨more, by rw [hmore, List.append_assoc, List.singleton_append]⟩

end Answered

end Service

/-! ### Requests -/

/-- How headers are completed by the length of a body: in the end if there is a body, in front if
there is none where the method promises one, and not at all if the length is there already. -/
inductive Completes (method : String) (body : Bytes) (headers : Headers) : Headers → Prop
  | given : headers.has Request.lengthName = true → Completes method body headers headers
  | counted : body ≠ [] → headers.has Request.lengthName = false →
      Completes method body headers
        (headers ++ [(Request.lengthName, toString body.length)])
  | empty : body = [] → method ∈ ["POST", "PUT", "PATCH"] →
      headers.has Request.lengthName = false → headers.has Request.encodingName = false →
      Completes method body headers ((Request.lengthName, "0") :: headers)
  | silent : body = [] → headers.has Request.lengthName = false →
      method ∉ ["POST", "PUT", "PATCH"] ∨ headers.has Request.encodingName = true →
      Completes method body headers headers

/-- How the credentials of a URL join headers: in the place of the first one for authorization, with
none left after it, or in the end. -/
inductive Authorizes (u : Url) (headers : Headers) : Headers → Prop
  | anonymous : u.credentials = ([], []) → Authorizes u headers headers
  | replaced {front back : Headers} {name value : String} : u.credentials ≠ ([], []) →
      headers = front ++ (name, value) :: back →
      front.has Request.authorizationName = false →
      Headers.sameName name Request.authorizationName = true →
      Authorizes u headers
        (front ++ (Request.authorizationName, Request.basic u) ::
          back.without Request.authorizationName)
  | added : u.credentials ≠ ([], []) → headers.has Request.authorizationName = false →
      Authorizes u headers (headers ++ [(Request.authorizationName, Request.basic u)])

namespace Headers

variable {name value : String}

theorem has_cons (h : String × String) (headers : Headers) :
    has name (h :: headers) = (sameName h.1 name || has name headers) := rfl

/-- Setting a header: where there is none of its name it comes last, and otherwise it takes the
place of the first. -/
theorem assign_cases (name value : String) (headers : Headers) :
    headers.has name = false ∧ headers.assign name value = headers ++ [(name, value)] ∨
      ∃ front n v, ∃ back : Headers, headers = front ++ (n, v) :: back ∧ front.has name = false ∧
        sameName n name = true ∧
        headers.assign name value = front ++ (name, value) :: back.without name := by
  induction headers with
  | nil => exact .inl ⟨rfl, rfl⟩
  | cons p rest ih =>
      obtain ⟨n, v⟩ := p
      cases hsame : sameName n name with
      | true => exact .inr ⟨[], n, v, rest, rfl, rfl, hsame, by rw [assign, if_pos hsame]; rfl⟩
      | false =>
          rw [assign, if_neg (Bool.eq_false_iff.mp hsame), has_cons, hsame, Bool.false_or]
          obtain ⟨hhas, hassign⟩ | ⟨front, n', v', back, rfl, hfront, hname, hassign⟩ := ih
          · exact .inl ⟨hhas, by rw [hassign]; rfl⟩
          · refine .inr ⟨(n, v) :: front, n', v', back, rfl, ?_, hname, by rw [hassign]; rfl⟩
            rw [has_cons, hsame, Bool.false_or, hfront]

end Headers

namespace Request

theorem completes (method : String) (body : Bytes) (headers : Headers) :
    Completes method body headers (completeHeaders method body headers) := by
  unfold completeHeaders
  cases hlength : headers.has lengthName with
  | true =>
      have hgiven : Completes method body headers headers := .given hlength
      split <;> simpa using hgiven
  | false =>
      by_cases hbody : body = []
      · rw [if_neg (by simp [hbody])]
        by_cases hneeds : method ∈ ["POST", "PUT", "PATCH"] ∧ headers.has encodingName = false
        · rw [if_pos (by simpa using hneeds)]
          exact .empty hbody hneeds.1 hlength hneeds.2
        · rw [if_neg (by simpa using hneeds)]
          refine .silent hbody hlength ?_
          rw [← Bool.not_eq_false]
          exact Decidable.not_and_iff_not_or_not.mp hneeds
      · rw [if_pos (by simpa using hbody), if_neg Bool.false_ne_true]
        exact .counted hbody hlength

theorem authorizes (r : Request) : Authorizes r.url r.headers r.authorized.headers := by
  unfold authorized
  by_cases h : r.url.credentials = ([], [])
  · rw [if_pos h]
    exact .anonymous h
  · rw [if_neg h]
    obtain ⟨hhas, hassign⟩ | ⟨front, n, v, back, hheaders, hfront, hname, hassign⟩ :=
      Headers.assign_cases authorizationName (basic r.url) r.headers
    · rw [hassign]
      exact .added h hhas
    · rw [hassign]
      exact .replaced h hheaders hfront hname

/-! The credentials of the URL change nothing but the headers. -/

@[simp] theorem authorized_method (r : Request) : r.authorized.method = r.method := by
  unfold authorized
  split <;> rfl

@[simp] theorem authorized_url (r : Request) : r.authorized.url = r.url := by
  unfold authorized
  split <;> rfl

@[simp] theorem authorized_body (r : Request) : r.authorized.body = r.body := by
  unfold authorized
  split <;> rfl

end Request

/-- What a request carries that is made from the URL, the method, the headers and the body of a
channel.  The method is in upper case.  The headers come in their order; the length of the body
joins them where it is needed, and credentials in the URL take the place of headers for
authorization. -/
structure Carries (url method : String) (headers : Headers) (body : Bytes) (q : Request) : Prop where
  method_eq : q.method = Text.upper method
  url_eq : (Url.parse? url).map Request.target = some q.url
  body_eq : q.body = body
  headers_eq : ∃ completed, Completes q.method body headers completed ∧
    Authorizes q.url completed q.headers

/-- A request is not built for what is no URL, nor for headers that are not ASCII. -/
theorem Request.of_build_error {url method : String} {headers : Headers} {body : Bytes} {f : Failure}
    (h : build method url headers body = .error f) :
    Url.parse? url = none ∨ headers.isAscii = false := by
  unfold build at h
  split at h
  · exact .inl ‹_›
  · split at h
    · cases h
    · exact .inr (Bool.eq_false_iff.mpr ‹_›)

/-- **What a built request carries when it reaches the service.** -/
theorem carries_of_build {url method : String} {headers : Headers} {body : Bytes} {r : Request}
    (h : Request.build method url headers body = .ok r) :
    Carries url method headers body r.authorized := by
  unfold Request.build at h
  split at h
  · cases h
  · rename_i u hurl
    split at h
    · cases h
      have hauthorizes := Request.authorizes
        { method := Text.upper method, url := Request.target u
          headers := Request.completeHeaders (Text.upper method) body headers, body }
      exact
        { method_eq := Request.authorized_method _
          url_eq := by rw [hurl, Request.authorized_url]; rfl
          body_eq := Request.authorized_body _
          headers_eq := by
            rw [Request.authorized_method, Request.authorized_url]
            exact ⟨_, Request.completes .., hauthorizes⟩ }
    · cases h

/-! ### Sessions -/

namespace Session

/-- An action of the channel changes the channel only. -/
theorem run_channel {α : Type} {m : Action Channel α} {g : Option Failure} {s : Session}
    {r : Except Failure α} {c : Channel} (h : m g s.channel = (r, c)) :
    (m.within channelPart) g s = (r, { s with channel := c }) := by
  simp only [Action.within, channelPart]
  rw [h]

/-- Failing to make an exchange is noted in the log at most.  The failure stays what it is, but for
one of a proxy, which becomes an error of the client. -/
theorem unreached_eq (f : Failure) (g : Option Failure) (s : Session) :
    ∃ f' log, unreached f g s = (.error f', { s with log }) ∧
      (f' = f ∨ isProxyFailure f = true ∧ f'.fault.isClient = true) := by
  rw [unreached, Action.run_bind_ok (Action.run_gets ..)]
  cases s.channel.proxyUrl with
  | none => exact ⟨f, s.log, rfl, .inl rfl⟩
  | some proxyUrl =>
      by_cases h : isProxyFailure f
      · simp only [h, if_true]
        exact ⟨_, _, rfl, .inr ⟨trivial, rfl⟩⟩
      · simp only [h]
        exact ⟨f, s.log, rfl, .inl rfl⟩

/-- Making the exchange: a request is sent, and its response is kept. -/
def making (r : Request) : Action Session Response := do
  let response ← ((Service.send r).within servicePart).rescue unreached
  .modify fun s => { s with channel := { s.channel with response := some response } }
  pure response

theorem making_of_ok {r : Request} {g : Option Failure} {s : Session} {response : Response}
    {service : Service} (h : Service.send r g s.service = (.ok response, service)) :
    making r g s =
      (.ok response, { s with service, channel := { s.channel with response := some response } }) := by
  have hwithin : ((Service.send r).within servicePart) g s = (.ok response, { s with service }) := by
    simp only [Action.within, servicePart, h]
  rw [making, Action.run_bind_ok (Action.run_rescue_ok hwithin)]
  rfl

theorem making_of_error {r : Request} {g : Option Failure} {s : Session} {f : Failure}
    {service : Service} (h : Service.send r g s.service = (.error f, service)) :
    ∃ f' log, making r g s = (.error f', { s with service, log }) ∧
      (f' = f ∨ isProxyFailure f = true ∧ f'.fault.isClient = true) := by
  have hwithin : ((Service.send r).within servicePart) g s = (.error f, { s with service }) := by
    simp only [Action.within, servicePart, h]
  obtain ⟨f', log, hunreached, hkind⟩ := unreached_eq f (some f) { s with service }
  refine ⟨f', log, ?_, hkind⟩
  rw [making, Action.run_bind_error ((Action.run_rescue_error hwithin).trans hunreached)]

/-- A session that has no response makes the exchange, once its request is built. -/
theorem respond_of_request {r : Request} (g : Option Failure) {s : Session}
    (hresponse : s.channel.response = none) (hconnected : s.channel.disconnected = false)
    (hrequest : s.channel.request = .ok r) : respond g s = making r g s := by
  rw [respond, Action.run_bind_ok (Action.run_gets channel g s)]
  simp only [hresponse, hconnected, hrequest]
  rfl

/-- The ways in which a session comes to a response, or fails. -/
inductive Responds (g : Option Failure) (s : Session) : Except Failure Response × Session → Prop
  /-- The response has been kept. -/
  | kept {response : Response} : s.channel.response = some response →
      Responds g s (.ok response, s)
  /-- The channel is disconnected, and there was no response before. -/
  | disconnected {f : Failure} : s.channel.response = none → s.channel.disconnected = true →
      f.isA .io = true → Responds g s (.error f, s)
  /-- No request can be built. -/
  | unbuilt {f f' : Failure} : s.channel.response = none → s.channel.disconnected = false →
      s.channel.request = .error f' → Responds g s (.error f, s)
  /-- The exchange fails. -/
  | unanswered {r : Request} {f f' : Failure} {service : Service} {log : List LogEvent} :
      s.channel.response = none → s.channel.disconnected = false → s.channel.request = .ok r →
      Service.send r g s.service = (.error f', service) →
      Responds g s (.error f, { s with service, log })
  /-- The exchange is made, and the response is kept. -/
  | answered {r : Request} {response : Response} {service : Service} :
      s.channel.response = none → s.channel.disconnected = false → s.channel.request = .ok r →
      Service.send r g s.service = (.ok response, service) →
      Responds g s
        (.ok response, { s with service, channel := { s.channel with response := some response } })

/-- **Each way of asking is one of five.** -/
theorem responds (g : Option Failure) (s : Session) : Responds g s (respond g s) := by
  rw [respond, Action.run_bind_ok (Action.run_gets channel g s)]
  cases hresponse : s.channel.response with
  | some response => exact .kept hresponse
  | none =>
      by_cases hdisc : s.channel.disconnected
      · simp only [hdisc, if_true]
        refine .disconnected hresponse hdisc ?_
        rw [Failure.isA, Failure.fault_raisedDuring]
        rfl
      · have hopen : s.channel.disconnected = false := Bool.eq_false_iff.mpr hdisc
        simp only [hopen]
        cases hrequest : s.channel.request with
        | error f => exact .unbuilt hresponse hopen hrequest
        | ok r =>
            change Responds g s (making r g s)
            cases hsend : Service.send r g s.service with
            | mk result service =>
                cases result with
                | error f =>
                    obtain ⟨f', log, hmaking, -⟩ := making_of_error hsend
                    rw [hmaking]
                    exact .unanswered hresponse hopen hrequest hsend
                | ok response =>
                    rw [making_of_ok hsend]
                    exact .answered hresponse hopen hrequest hsend

end Session

end ServiceClient.Wire
