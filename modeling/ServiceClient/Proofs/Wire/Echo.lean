/-
**A service that echoes.**

A service that answers with the bytes that it has received gives the body back as a text.  On the
way the body is encoded, with a question mark for half of a surrogate pair, and arrives in pieces;
then it is decoded and drained line by line.  Encoding and decoding undo each other, wherever the
pieces were cut, so only the line ends are changed.

Main definitions:

* `ServiceClient.Text.echoed`: what comes back of a body.

Main results:

* `ServiceClient.Text.drainBytes_encode`: **draining the bytes of a body brings its echo**;
* `ServiceClient.Wire.entities_echoed`: **so does sending it to a service that echoes**.
-/

import ServiceClient.Proofs.Text.Lines
import ServiceClient.Proofs.Text.Utf8
import ServiceClient.Proofs.Wire.Telling

set_option autoImplicit false

namespace ServiceClient

namespace Text

/-- What comes back of a body: its characters, with a question mark for half of a surrogate pair,
each line end a line feed, and a line feed at the end. -/
def echoed (body : List CodePoint) : String :=
  String.ofList (ended (uniform (body.map CodePoint.sent)))

/-- **Draining the bytes of a body brings its echo.** -/
theorem drainBytes_encode (body : List CodePoint) : drainBytes (encode body) = echoed body := by
  rw [drainBytes, encode, decode_encodeChars, drain_lines, echoed]

end Text

namespace Wire

/-- A response of status 200 is told. -/
theorem Response.Whole.plain {answer : Response} (h : answer.Whole)
    (hstatus : answer.status = 200) : answer.Plain where
  toWhole := h
  direct := by simp [isRedirect, hstatus]
  bounded := by omega
  present hge := by omega

section

variable {d : Dialer} {n : Network} {answer : Response} {rest : List Reply}

/-- The request of a call reaches a service that answers so, and an answer that is the body of the
request comes back as the echo of it. -/
theorem Dialer.perform_echoed {c : Call} (hopens : d.prepare c.url = .ok ()) (hhost : NamesHost c.url)
    (hascii : Headers.isAscii (c.supplied.getD []) = true)
    (hscript : n.service.script = .answers answer :: rest) (hstatus : answer.status = 200)
    (hwhole : answer.Whole) (g : Option Failure) {m : Action Network String}
    (hm : c.perform d.opener = do pure (some (← m))) (hgiven : ∀ r, c.given r = some r.text) :
    ∃ q, (m g n).2.service.reached = n.service.reached ++ [q] ∧
      (answer.chunks.flatten = q.body → (m g n).1 = .ok (Text.echoed c.body)) := by
  obtain ⟨hresult, u, -, hservice⟩ := outcome_told (v := .call c) hopens hhost hascii hscript
    (hwhole.plain hstatus) g
  have htold : (Verb.call c).told answer.status
      (bodyOf answer.status answer.chunks.flatten) =
      .ok (.text (some (Text.drainBytes answer.chunks.flatten))) := by
    rw [hstatus]
    exact congrArg (fun t => Except.ok (Yield.text t)) (hgiven _)
  have hrun : (Verb.call c).outcome d.opener =
      (do pure (Yield.text (← (do pure (some (← m)) : Action Network (Option String))))) := by
    rw [Verb.outcome, hm]
  rw [htold, hrun, Action.fst_handing, Action.fst_handing] at hresult
  rw [hrun, Action.snd_handing, Action.snd_handing] at hservice
  refine ⟨_, congrArg Service.reached hservice, fun hecho => ?_⟩
  have hbody : answer.chunks.flatten = Text.encode c.body := by
    rw [hecho, Request.authorized_body]
    rfl
  rw [hbody, Text.drainBytes_encode] at hresult
  generalize (m g n).1 = r at hresult ⊢
  cases r with
  | error f => cases hresult
  | ok text =>
      simp only [Except.map, Except.mapError, Except.ok.injEq, Yield.text.injEq,
        Option.some.injEq] at hresult
      exact congrArg Except.ok hresult

end

end Wire

end ServiceClient
