/-
**How often a channel hands its request over.**

A channel keeps its response, and it keeps nothing else of an exchange.  So an attempt that fails is
forgotten: the next use that asks for the response hands the request over once more.  Every attempt
that fails counts, and the one that is answered is the last.  Therefore the request is handed over
at most once in just two cases, that no attempt fails, or that the first attempt fails and no other
one follows.

Main definitions:

* `ServiceClient.Wire.Channel.pending`: the request that asking would hand over;
* `ServiceClient.Wire.Usage.lost`: the attempts of some uses that fail.

Main results:

* `ServiceClient.Wire.Session.handed_respond`: asking hands over what is pending, whatever comes of
  it;
* `ServiceClient.Wire.length_handed_after`: **one request for each attempt that fails, and one more
  for the response**;
* `ServiceClient.Wire.handed_once_iff`: **when the request is handed over at most once**, over all
  uses and against any service.
-/

import ServiceClient.Proofs.Wire.Handed
import ServiceClient.Proofs.Wire.Lifetime

set_option autoImplicit false

namespace ServiceClient.Wire

/-! ### Asking once -/

/-- The request that asking for the response hands over: there is none once there is a response or
the channel is disconnected, and none if it cannot be built. -/
def Channel.pending (c : Channel) : Option Request :=
  if c.response.isSome || c.disconnected then none else c.request.toOption

theorem Channel.pending_eq_some {c : Channel} {r : Request} :
    c.pending = some r ↔ c.response = none ∧ c.disconnected = false ∧ c.request = .ok r := by
  rw [pending]
  cases hresponse : c.response with
  | some response => simp
  | none =>
      cases hdisc : c.disconnected with
      | true => simp
      | false => cases hrequest : c.request <;> simp [Except.toOption]

namespace Session

theorem handed_making (r : Request) (g : Option Failure) (s : Session) :
    (making r g s).2.service.handed = s.service.handed ++ [r] := by
  have hsent := Service.handed_send r g s.service
  cases hsend : Service.send r g s.service with
  | mk result service =>
      rw [hsend] at hsent
      cases result with
      | ok response =>
          rw [making_of_ok hsend]
          exact hsent
      | error f =>
          obtain ⟨f', log, hmaking, -⟩ := making_of_error hsend
          rw [hmaking]
          exact hsent

/-- **Asking hands over what is pending**, whatever comes of it. -/
theorem handed_respond (g : Option Failure) (s : Session) :
    (respond g s).2.service.handed = s.service.handed ++ s.channel.pending.toList := by
  cases hpending : s.channel.pending with
  | some r =>
      obtain ⟨hresponse, hopen, hrequest⟩ := Channel.pending_eq_some.mp hpending
      rw [respond_of_request g hresponse hopen hrequest, handed_making]
      rfl
  | none =>
      rw [Option.toList_none, List.append_nil, respond,
        Action.run_bind_ok (Action.run_gets channel g s)]
      rw [Channel.pending] at hpending
      cases hresponse : s.channel.response with
      | some response => rfl
      | none =>
          cases hdisc : s.channel.disconnected with
          | true => rfl
          | false =>
              cases hrequest : s.channel.request with
              | error f => rfl
              | ok r => simp [hresponse, hdisc, hrequest, Except.toOption] at hpending

end Session

/-! ### One use -/

/-- Whether a use hands a request over. -/
def Usage.transmits (x : Usage) (u : Use) : Bool :=
  u.asks && x.channel.pending.isSome

section Perform

variable {x : Usage} {u : Use}

/-- Asking leaves the service as the response does. -/
theorem service_perform_of_asks (h : u.asks = true) :
    (x.perform u).2.session.service = (Session.respond none x.session).2.service := by
  cases hrun : Session.respond none x.session with
  | mk r s =>
      cases u with
      | status => rw [Usage.perform, act_eq (Session.status_eq hrun)]
      | input =>
          cases r with
          | error f => rw [Usage.perform, act_eq (Session.input_of_error hrun)]
          | ok response =>
              obtain ⟨r, streams, hinput⟩ := Session.input_of_ok hrun
              rw [Usage.perform, act_eq hinput]
      | _ => cases h

/-- A use hands over one request, or none. -/
theorem handed_perform (hx : x.Sound) (u : Use) :
    (x.perform u).2.session.service.handed =
      x.session.service.handed ++ if x.transmits u then x.channel.pending.toList else [] := by
  cases hasks : u.asks with
  | true =>
      rw [service_perform_of_asks hasks, Session.handed_respond, Usage.transmits, hasks,
        Bool.true_and]
      change _ ++ x.channel.pending.toList = _
      cases x.channel.pending <;> rfl
  | false =>
      have hkept := (performs hx u).service_eq fun h => by
        rw [hasks] at h
        cases h
      rw [hkept, Usage.transmits, hasks, Bool.false_and, if_neg Bool.false_ne_true, List.append_nil]

/-- A response comes with a request that is handed over, and it stays. -/
theorem isSome_perform (hx : x.Sound) (h : x.transmits u = false) :
    (x.perform u).2.channel.response.isSome = x.channel.response.isSome := by
  have hu := performs hx u
  cases hresponse : x.channel.response with
  | some response =>
      have hstatus := hu.status_eq (congrArg (Option.map Response.status) hresponse)
      obtain ⟨kept, hkept, -⟩ := Option.map_eq_some_iff.mp hstatus
      rw [hkept]
      rfl
  | none =>
      cases hafter : (x.perform u).2.channel.response with
      | none => rfl
      | some response =>
          obtain ⟨hasks, hopen, r, -, hrequest, -⟩ := hu.answered hresponse (by simp [hafter])
          have hpending := Channel.pending_eq_some.mpr ⟨hresponse, hopen, hrequest⟩
          simp [Usage.transmits, hasks, hpending] at h

end Perform

/-! ### All uses -/

/-- How many of some uses hand a request over that is not answered. -/
def Usage.lost : Usage → List Use → Nat
  | _, [] => 0
  | x, u :: us =>
      let y := (x.perform u).2
      (if x.transmits u && y.channel.response.isNone then 1 else 0) + y.lost us

/-- How many responses there are: one or none. -/
def Usage.answers (x : Usage) : Nat := if x.channel.response.isSome then 1 else 0

section Runs

variable {x : Usage}

/-- What one use hands over is answered or lost. -/
theorem length_handed_perform (hx : x.Sound) (u : Use) :
    (x.perform u).2.session.service.handed.length + x.answers =
      x.session.service.handed.length +
        (if x.transmits u && (x.perform u).2.channel.response.isNone then 1 else 0) +
        (x.perform u).2.answers := by
  rw [handed_perform hx u]
  cases htransmits : x.transmits u with
  | false => simp [Usage.answers, isSome_perform hx htransmits]
  | true =>
      have hpending : x.channel.pending.isSome = true := (Bool.and_eq_true_iff.mp htransmits).2
      obtain ⟨r, hr⟩ := Option.isSome_iff_exists.mp hpending
      have hnone : x.channel.response = none := (Channel.pending_eq_some.mp hr).1
      cases hafter : (x.perform u).2.channel.response <;>
        simp [Usage.answers, hr, hnone, hafter]

/-- **One request for each attempt that fails, and one more for the response.** -/
theorem length_handed_after (hx : x.Sound) (us : List Use) :
    (x.after us).session.service.handed.length + x.answers =
      x.session.service.handed.length + x.lost us + (x.after us).answers := by
  induction us generalizing x with
  | nil => rfl
  | cons u us ih =>
      have hstep := length_handed_perform hx u
      have hrest := ih ((performs hx u).sound hx)
      rw [Usage.after_cons, Usage.lost]
      omega

/-- What was handed over stays at the front. -/
theorem handed_prefix_after (hx : x.Sound) (us : List Use) :
    x.session.service.handed <+: (x.after us).session.service.handed := by
  induction us generalizing x with
  | nil => exact List.prefix_rfl
  | cons u us ih =>
      refine List.IsPrefix.trans ?_ (ih ((performs hx u).sound hx))
      rw [handed_perform hx u]
      exact List.prefix_append ..

end Runs

/-- **When the request is handed over at most once**: if no attempt fails, or if the first one fails
and no other one follows, which would be answered or fail as well. -/
theorem handed_once_iff (url : String) (proxyUrl : Option String) (service : Service)
    (log : List LogEvent) (us : List Use) :
    let start := Usage.start url proxyUrl service log
    ∃ sent, (start.after us).session.service.handed = service.handed ++ sent ∧
      (sent.length ≤ 1 ↔
        start.lost us = 0 ∨ start.lost us = 1 ∧ (start.after us).channel.response = none) := by
  intro start
  have hsound : start.Sound := .inl rfl
  obtain ⟨sent, hsent⟩ := handed_prefix_after hsound us
  have hcount := length_handed_after hsound us
  have hnone : start.answers = 0 := rfl
  refine ⟨sent, hsent.symm, ?_⟩
  rw [← hsent, hnone, List.length_append] at hcount
  by_cases hresponse : (start.after us).channel.response = none
  · have hlast : (start.after us).answers = 0 := by simp [Usage.answers, hresponse]
    simp only [hresponse, and_true]
    omega
  · have hlast : (start.after us).answers = 1 := by
      simp [Usage.answers, Option.isSome_iff_ne_none, hresponse]
    simp only [hresponse, and_false, or_false]
    omega

/-- A request with a body is handed over again after the time to wait for its response has run
out. -/
theorem handed_twice :
    let start := Usage.start "http://svc.local/x" none
      { script := [.fails (.worded .readTimeout "timed out"), .answers {}] } []
    let us := [Use.setMethod "POST", .setOutput true, .output, .write [98], .status, .status]
    let sent := (start.after us).session.service.handed
    sent.map (fun q => (q.method, q.body)) = [("POST", [98]), ("POST", [98])] ∧
      start.lost us = 1 ∧ ¬ sent.length ≤ 1 := by
  decide +kernel

end ServiceClient.Wire
