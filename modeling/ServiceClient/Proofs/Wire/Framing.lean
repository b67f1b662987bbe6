/-
**What frames a request.**

A service finds the end of a body by its length, and what the body is by its type.  A request whose
headers give one of them twice can be taken in two ways.  Every request that is handed to the
service has the headers of its call, so it can be taken in one way only as long as the headers of
the call can; a request for a stream has just the headers of the caller.

Main results:

* `ServiceClient.Wire.Dialer.perform_hands`, `ServiceClient.Wire.Dialer.openResponse_hands`: **the
  requests of a call have its headers**;
* `ServiceClient.Wire.framing`: **the headers of a call and of its requests are unambiguous exactly
  if the caller's headers leave room**.
-/

import ServiceClient.Proofs.Header.Spelling
import ServiceClient.Proofs.Wire.Built
import ServiceClient.Proofs.Wire.Refusal

set_option autoImplicit false

namespace ServiceClient

namespace Wire

open ServiceClient.Action (Alike Along Keeps)

namespace Session

variable {before : List Request} {method : String} {headers : Headers} {body : Bytes}

/-- A call over a new channel hands over requests with its method, its headers and its body. -/
theorem perform_hands (c : Call) (proxyUrl : Option String) (service : Service)
    (log : List LogEvent) (g : Option Failure) :
    Hands service.handed c.method.name c.headers (Text.encode c.body)
      (c.perform (.single (connection c.url)) g
        { channel := { url := c.url, proxyUrl, headers := c.headers }, service, log }).2 := by
  have hexchange := exchanging_hands c.url proxyUrl c.headers service log c.body c.method g
  cases c with
  | get headers url =>
      have hread : Keeps (Hands service.handed "GET" (Call.get headers url).headers [])
          (readResponse (connection url)) :=
        Action.keeps_of_alike (readResponse_alike (answersAlike url))
      exact (hread.bind fun r => .pure r.text).bind (fun t => .pure (some t)) g _
        ⟨⟨rfl, rfl, rfl⟩, [], by simp, by simp⟩
  | post headers url body content accepted =>
      rw [← Action.snd_handing some] at hexchange
      exact hexchange
  | put headers url body media =>
      rw [← Action.snd_handing some] at hexchange
      exact hexchange
  | delete headers url =>
      rw [← Action.snd_handing fun _ => (), ← Action.snd_handing fun _ => none] at hexchange
      exact hexchange

/-- Getting a stream changes nothing that a request is built from, either. -/
theorem openResponse_keeps (url : String) (given : Option HeaderMap) :
    Keeps (Hands before method headers body)
      (openResponse (.single (connection url)) given url) := by
  have halike : (connection url).AnswersAlike (Along (Hands before method headers body))
      (connection url) := answersAlike url
  refine Action.keeps_of_alike (R := fun _ _ => True) ?_
  rw [openResponse_single]
  refine (obtaining_alike (disconnecting_alike halike) halike.input url).bind fun a b hab => ?_
  cases hab with
  | none => exact .pure trivial
  | some hs => exact hs.attach.bind fun _ _ _ => .pure trivial

end Session

namespace Dialer

variable (d : Dialer) (g : Option Failure) (n : Network)

/-- **The requests of a call have its method and its headers.** -/
theorem perform_hands (c : Call) :
    ∃ new, (c.perform d.opener g n).2.service.handed = n.service.handed ++ new ∧
      ∀ r ∈ new, r.method = c.method.name ∧ r.headers = c.headers := by
  cases hprepare : d.prepare c.url with
  | error f =>
      obtain ⟨f', n', hrun, hservice, -⟩ := perform_unopened_eq g n c hprepare
      exact ⟨[], by rw [hrun, hservice, List.append_nil], nofun⟩
  | ok u =>
      obtain ⟨log, hrun⟩ := perform_eq g n c hprepare
      let channel : Channel := { url := c.url, proxyUrl := d.proxyUrl, headers := c.headers }
      have halike := c.perform_alike
        (Opener.single_alike (Network.connection_alike channel { n with log } c.url)) g _ _
        (Network.set_session channel { n with log } { channel, service := n.service, log }).symm
      have hands := Session.perform_hands c d.proxyUrl n.service log g
      obtain ⟨new, hnew, hall⟩ := hands.handed
      refine ⟨new, ?_, fun r hr => ?_⟩
      · have hstate := halike.snd
        rw [Network.set_session] at hstate
        rw [hrun]
        exact (congrArg (·.service.handed) hstate).trans hnew
      · obtain ⟨hmethod, -, hheaders⟩ := hall r hr
        rw [upper_name] at hmethod hheaders
        exact ⟨hmethod, hheaders.trans (completeHeaders_call c)⟩

/-- **The request for a stream has the headers of the caller.** -/
theorem openResponse_hands (given : Option HeaderMap) (url : String) :
    ∃ new, (openResponse d.opener given url g n).2.service.handed = n.service.handed ++ new ∧
      ∀ r ∈ new, r.method = "GET" ∧ r.headers = given.getD [] := by
  cases hprepare : d.prepare url with
  | error f =>
      obtain ⟨f', n', hconnect, hservice, -⟩ := connect_error hprepare (given.getD []) g n
      have hrun : openResponse d.opener given url g n = (.error f', n') :=
        Action.run_bind_error hconnect
      exact ⟨[], by rw [hrun, hservice, List.append_nil], nofun⟩
  | ok u =>
      let channel : Channel := { url, proxyUrl := d.proxyUrl, headers := given.getD [] }
      let s : Session := { channel, service := n.service, log := n.log }
      have hrun : openResponse d.opener given url g n = _ :=
        Action.run_bind_ok (connect_ok hprepare (given.getD []) g n)
      have halike := openResponse_alike
        (Opener.single_alike (Network.connection_alike channel n url)) given url g _ s
        (Network.set_session channel n s).symm
      have hands : Session.Hands n.service.handed "GET" (given.getD []) []
          (openResponse (.single (Session.connection url)) given url g s).2 :=
        Session.openResponse_keeps url given g s ⟨⟨rfl, rfl, rfl⟩, [], by simp [s], by simp⟩
      have hstate := halike.snd
      rw [Network.set_session] at hstate
      obtain ⟨new, hnew, hall⟩ := hands.handed
      refine ⟨new, ?_, fun r hr => ?_⟩
      · rw [hrun]
        exact (congrArg (·.service.handed) hstate).trans hnew
      · obtain ⟨hmethod, -, hheaders⟩ := hall r hr
        have hupper : Text.upper "GET" = "GET" := upper_name .get
        rw [hupper] at hmethod hheaders
        exact ⟨hmethod, hheaders⟩

end Dialer

/-- **The headers of a call and of its requests are unambiguous exactly if the caller's headers
leave room** for those that are computed.  The request for a stream has none that are computed. -/
theorem framing (d : Dialer) {given : Option HeaderMap}
    (hdistinct : HeaderMap.Distinct (given.getD [])) :
    (∀ length content accepted,
      HeaderMap.Unambiguous length content accepted
          (HeaderMap.describe given length content accepted) ↔
        HeaderMap.LeavesRoom length content accepted (given.getD [])) ∧
    (∀ c : Call, c.supplied = given → ∀ g n, ∃ new,
      (c.perform d.opener g n).2.service.handed = n.service.handed ++ new ∧
        ∀ r ∈ new, r.method = c.method.name ∧
          (HeaderMap.Unambiguous c.length c.content c.accepted r.headers ↔
            HeaderMap.LeavesRoom c.length c.content c.accepted (given.getD []))) ∧
    ∀ url g n, ∃ new,
      (openResponse d.opener given url g n).2.service.handed = n.service.handed ++ new ∧
        ∀ r ∈ new, r.method = "GET" ∧ r.headers = given.getD [] := by
  refine ⟨fun length content accepted => HeaderMap.unambiguous_describe_iff hdistinct, ?_,
    fun url g n => Dialer.openResponse_hands d g n given url⟩
  rintro c rfl g n
  obtain ⟨new, hnew, hall⟩ := Dialer.perform_hands d g n c
  refine ⟨new, hnew, fun r hr => ?_⟩
  obtain ⟨hmethod, hheaders⟩ := hall r hr
  refine ⟨hmethod, ?_⟩
  rw [hheaders, Call.headers_eq]
  exact HeaderMap.unambiguous_describe_iff hdistinct

/-- A caller that names its own length in another spelling leaves no room for a length. -/
theorem framing_lower :
    let given : Option HeaderMap := some [("content-length", "5"), ("X-Tag", "1")]
    HeaderMap.Distinct (given.getD []) ∧
      ¬ HeaderMap.Unambiguous 0 none none (HeaderMap.describe given 0 none none) ∧
      ∃ new, (openResponse (Dialer.opener {}) given "http://svc.local/x" none {}).2.service.handed =
          new ∧ ∀ r ∈ new, r.method = "GET" ∧ r.headers = given.getD [] := by
  have hdistinct : HeaderMap.Distinct
      ((some [("content-length", "5"), ("X-Tag", "1")] : Option HeaderMap).getD []) := by
    decide +kernel
  have hsame : Headers.sameName "content-length" "Content-Length" = true :=
    HeaderMap.sameName_iff_letters.mpr (by decide +kernel)
  obtain ⟨hcomputed, -, hstream⟩ := framing {} hdistinct
  obtain ⟨new, hnew, hall⟩ := hstream "http://svc.local/x" none {}
  refine ⟨hdistinct, fun h => ?_, new, hnew.trans (List.nil_append new), hall⟩
  have hroom := ((hcomputed 0 none none).mp h).length_spelled (by decide)
  have hspelled := hroom ("content-length", "5")
    (HeaderMap.mem_called.mpr ⟨.head _, HeaderMap.sameName_iff.mp hsame⟩)
  exact absurd hspelled (by decide)

/-- An `accept` of the caller and the computed `Accept` are both sent; a length that the caller
supplies is sent along without a body. -/
theorem framing_twice :
    HeaderMap.Distinct [("accept", "text/html")] ∧
      HeaderMap.called "Accept"
          (HeaderMap.describe (some [("accept", "text/html")]) (-1) none (some .xml)) =
        [("accept", "text/html"), ("Accept", "application/xml")] ∧
    HeaderMap.Distinct [("Content-Length", "5")] ∧
      HeaderMap.called "Content-Length"
          (HeaderMap.describe (some [("Content-Length", "5")]) (-1) none none) =
        [("Content-Length", "5")] := by
  have hsame : Headers.sameName "accept" "Accept" = true :=
    HeaderMap.sameName_iff_letters.mpr (by decide +kernel)
  have haccept : HeaderMap.describe (some [("accept", "text/html")]) (-1) none (some .xml) =
      [("accept", "text/html"), ("Accept", "application/xml")] := by
    decide +kernel
  refine ⟨by decide +kernel, ?_, by decide +kernel, by decide +kernel⟩
  have hself : Headers.sameName "Accept" "Accept" = true := beq_self_eq_true _
  simp only [haccept, HeaderMap.called, List.filter_cons, hsame, hself, if_true, List.filter_nil]

end Wire

end ServiceClient
