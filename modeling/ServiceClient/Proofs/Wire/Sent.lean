/-
**No call repeats its request.**

A channel makes its exchange when it is first asked for the status or for the stream of a response,
and keeps the response.  An exchange that fails leaves the channel as it was; so asking once more
would send the request once more, and it matters that no call does.  A channel asks once, in the
sense of the ledger, and every call over the wire leaves a ledger in order.

Main results:

* `ServiceClient.Wire.Session.asksOnce`: **a channel that is new sends one request at most**;
* `ServiceClient.Wire.Dialer.opener_asksOnce`: so do the channels that are opened;
* `ServiceClient.Wire.Dialer.attempt_sends_once`: **every call over the wire sends its request at
  most once, not after the disconnect, and exactly once if it succeeds**.
-/

import ServiceClient.Proofs.Exchange.Ledger
import ServiceClient.Proofs.Wire.Lease
import ServiceClient.Proofs.Wire.Uses

set_option autoImplicit false

namespace ServiceClient.Wire

open ServiceClient.Action (Keeps Meets)

/-! ### Sessions -/

namespace Session

/-- The number of requests that were handed to the service. -/
def sent (s : Session) : Nat :=
  s.service.handed.length

/-- The channel has not made its exchange. -/
def Fresh (s : Session) : Prop :=
  s.channel.response = none

/-- The channel keeps a response. -/
def Kept (s : Session) : Prop :=
  s.channel.response.isSome = true

/-- A new channel makes its exchange, or fails after it was tried once at most. -/
theorem respond_fresh (k : Nat) :
    Meets (fun s => s.Fresh ∧ s.sent = k) respond (fun _ s => s.Kept ∧ s.sent = k + 1)
      fun _ s => ∃ j ≤ 1, s.sent = k + j := by
  rintro g s ⟨hfresh, rfl⟩
  have hnone : s.channel.response = none := hfresh
  by_cases hdisconnected : s.channel.disconnected
  · rw [respond, Action.run_bind_ok (Action.run_gets channel g s)]
    simp only [hnone, hdisconnected, if_true]
    exact .error ⟨0, Nat.zero_le 1, rfl⟩
  · have hconnected : s.channel.disconnected = false := Bool.eq_false_iff.mpr hdisconnected
    cases hrequest : s.channel.request with
    | error f =>
        rw [respond, Action.run_bind_ok (Action.run_gets channel g s)]
        simp only [hnone, hconnected, hrequest]
        exact .error ⟨0, Nat.zero_le 1, rfl⟩
    | ok r =>
        have hlength : (Service.send r g s.service).2.handed.length = s.sent + 1 := by
          rw [Service.handed_send, List.length_append]
          rfl
        rw [respond_of_request g hnone hconnected hrequest]
        rcases hsend : Service.send r g s.service with ⟨f | response, service⟩
        · rw [hsend] at hlength
          obtain ⟨f', log, hmaking, -⟩ := making_of_error hsend
          rw [hmaking]
          exact .error ⟨1, Nat.le_refl 1, hlength⟩
        · rw [hsend] at hlength
          rw [making_of_ok hsend]
          exact .ok ⟨rfl, hlength⟩

/-- A response that is kept is given again. -/
theorem respond_kept (k : Nat) :
    Meets (fun s => s.Kept ∧ s.sent = k) respond (fun _ s => s.Kept ∧ s.sent = k)
      fun _ _ => False := by
  rintro g s ⟨hkept, hk⟩
  obtain ⟨response, hresponse⟩ := Option.isSome_iff_exists.mp hkept
  rw [respond, Action.run_bind_ok (Action.run_gets channel g s), hresponse]
  exact .ok ⟨hkept, hk⟩

/-- What concerns the channel sends nothing. -/
theorem channel_silent {α : Type} (k : Nat) (m : Action Channel α) :
    Keeps (fun s => s.sent = k) (m.within channelPart) :=
  .within (fun _ _ h => h) m

theorem stream_silent (j : Nat) : (stream j).Silent sent :=
  ⟨fun k => channel_silent k _, fun k => channel_silent k _, fun k => channel_silent k _⟩

theorem openStream_silent (k : Nat) :
    Meets (fun s => s.sent = k)
      (do pure (some ((← Channel.openStream.within channelPart).within channelPart)))
      (fun a s => Silent sent a ∧ s.sent = k) fun _ s => s.sent = k := by
  intro g s hs
  refine .ok ⟨?_, hs⟩
  rintro _ ⟨⟩
  exact stream_silent s.channel.streams.length

/-- What follows the response where the stream is asked for. -/
theorem input_of_respond {P : Session → Prop} {E : Session → Prop} {k : Nat}
    (h : Meets P respond (fun _ s => s.sent = k) fun _ => E) (hE : ∀ s, s.sent = k → E s) :
    Meets P input (fun a s => Silent sent a ∧ s.sent = k) fun _ => E := by
  refine h.bind fun response => ?_
  by_cases herror : response.isError
  · simp only [herror, if_true]
    exact Meets.bind (Q := fun _ s => s.sent = k) (.gets fun _ hs => hs) fun _ =>
      .raise fun _ s hs => hE s hs
  · simp only [herror]
    by_cases hbody : response.hasBody
    · simp only [hbody, if_true]
      exact (openStream_silent k).weaken (fun _ hs => hs) (fun _ _ hs => hs) fun _ => hE
    · simp only [hbody]
      exact .pure fun _ hs => ⟨nofun, hs⟩

/-- The stream of an error response. -/
theorem errorInput_silent (k : Nat) :
    Meets (fun s => s.sent = k) errorInput (fun a s => Silent sent a ∧ s.sent = k)
      fun _ s => s.sent = k := by
  refine Meets.bind (Q := fun _ s => s.sent = k) (.gets fun _ hs => hs) fun response => ?_
  cases response with
  | none => exact .pure fun _ hs => ⟨nofun, hs⟩
  | some response =>
      by_cases h : response.isError && response.header? "Content-Length" != some "0"
      · simp only [h, if_true]
        exact openStream_silent k
      · simp only [h]
        exact .pure fun _ hs => ⟨nofun, hs⟩

/-- An action on the body of a request leaves a new channel new. -/
theorem body_fresh {α : Type} (k : Nat) (m : Action RequestBody α) :
    Meets (fun s => s.Fresh ∧ s.sent = k) ((m.within Channel.bodyPart).within channelPart)
      (fun _ s => s.Fresh ∧ s.sent = k) fun _ s => s.Fresh ∧ s.sent = k := by
  have hchannel : Keeps (fun c => c.response = none) (m.within Channel.bodyPart) :=
    .within (fun _ _ hc => hc) m
  have hsession : Keeps (fun s : Session => s.Fresh ∧ s.sent = k)
      ((m.within Channel.bodyPart).within channelPart) :=
    fun g s hs => ⟨hchannel g s.channel hs.1, hs.2⟩
  exact hsession.meets

/-- Asking a new channel for its output gives the body of its request. -/
theorem output_fresh (k : Nat) :
    Meets (fun s => s.Fresh ∧ s.sent = k) (Channel.openOutput.within channelPart)
      (fun out s => out = RequestBody.sink.within Channel.bodyPart ∧ s.Fresh ∧ s.sent = k)
      fun _ s => s.Fresh ∧ s.sent = k := by
  rintro g s ⟨hfresh, hk⟩
  obtain ⟨-, -, houtput⟩ | ⟨f, -, -, houtput⟩ := Channel.openOutput_cases g s.channel
  · rw [run_channel houtput]
    exact .ok ⟨rfl, hfresh, hk⟩
  · rw [run_channel houtput]
    exact .error ⟨hfresh, hk⟩

/-- Writing the body leaves a new channel as it is. -/
theorem takes (url : String) (k : Nat) :
    (connection url).Takes (fun s => s.Fresh ∧ s.sent = k) fun s => s.Fresh ∧ s.sent = k where
  enableOutput _ hs := hs
  setMethod _ _ hs := hs
  output := by
    refine (output_fresh k).handing ?_
    rintro _ s ⟨rfl, hs⟩
    exact
      ⟨hs,
        { attach := body_fresh k RequestBody.sink.attach
          write := fun data => body_fresh k (RequestBody.sink.write data)
          close := body_fresh k RequestBody.sink.close
          close_broken := body_fresh k RequestBody.sink.close }⟩
  log _ _ hs := hs

/-- **A channel that is new sends one request at most.** -/
theorem asksOnce (url : String) : (connection url).AsksOnce sent Fresh Kept where
  takes := takes url
  log _ _ := rfl
  status k := (respond_fresh k).bind fun _ => .pure fun _ hs => hs
  input_fresh k := by
    refine input_of_respond ((respond_fresh k).weaken (fun _ hs => hs) (fun _ _ hs => hs.2)
      fun _ _ hs => hs) fun s hs => ⟨1, Nat.le_refl 1, hs⟩
  input_kept k := input_of_respond ((respond_kept k).weaken (fun _ hs => hs) (fun _ _ hs => hs.2)
    fun _ _ => False.elim) fun _ hs => hs
  errorInput_kept k := (errorInput_silent k).weaken (fun _ hs => hs.2) (fun _ _ hs => hs)
    fun _ _ hs => hs
  disconnect k := channel_silent k _

end Session

/-! ### Networks -/

namespace Dialer

/-- The number of requests that were handed to the service of a network. -/
def sent (n : Network) : Nat :=
  n.service.handed.length

/-- **The channels that a dialer opens send one request at most.** -/
theorem opener_asksOnce (d : Dialer) : d.opener.AsksOnce sent where
  connect url headers k := by
    intro g n hn
    cases hprepare : d.prepare url with
    | error f =>
        obtain ⟨f', n', hconnect, hservice, -⟩ := connect_error hprepare headers g n
        rw [hconnect]
        exact .error ((congrArg (·.handed.length) hservice).trans hn)
    | ok u =>
        rw [connect_ok hprepare]
        have hsession := (Session.asksOnce url).within (Network.get_set_of_lt n.channels.length)
          (Network.lt_set_of_lt n.channels.length) fun _ _ => rfl
        refine .ok ⟨_, _, hsession, ⟨Network.lt_opening _ n, ?_⟩, hn⟩
        simp [Session.Fresh, Network.session, Network.opening]
  log _ _ := rfl

/-- **No call repeats its request.**  A ledger that is kept while a call is made changes nothing of
the call.  It tells that at most one request was handed to the service, over a connection that was
opened and not yet disconnected, and none if the body could not be written; and just one if the call
succeeds. -/
theorem attempt_sends_once (d : Dialer) (v : Verb) (g : Option Failure) (n : Network) :
    ∃ new : List Entry,
      v.attempt (d.opener.entered sent) g { state := n } =
        ((v.attempt d.opener g n).1, { state := (v.attempt d.opener g n).2, entries := new }) ∧
      sent (v.attempt d.opener g n).2 = sent n + new.count .sent ∧
      new.count .sent ≤ 1 ∧
      (.opened ∉ new → .sent ∉ new) ∧
      (.unwritten ∈ new → .sent ∉ new) ∧
      ¬ [.disconnected, .sent].Sublist new ∧
      ((v.attempt d.opener g n).1 = .ok () → new.count .sent = 1) := by
  have hend := d.opener_asksOnce.attempt_inOrder (sent n) v g { state := n } ⟨rfl, rfl⟩
  have halike := v.attempt_alike (d.opener.entered_alike sent) g { state := n } n rfl
  generalize v.attempt (d.opener.entered sent) g { state := n } = x, v.attempt d.opener g n = y
    at hend halike ⊢
  have horder {w : Ledger Network} (hw : w.InOrder sent (sent n)) :
      sent w.state = sent n + w.entries.count .sent ∧ w.entries.count .sent ≤ 1 ∧
        (.opened ∉ w.entries → .sent ∉ w.entries) ∧ (.unwritten ∈ w.entries → .sent ∉ w.entries) ∧
        ¬ [.disconnected, .sent].Sublist w.entries :=
    ⟨hw.sent_eq, hw.once, fun h => by simp [hw.opened h], hw.unwritten, hw.disconnected⟩
  cases halike with
  | ok _ hstate =>
      subst hstate
      obtain ⟨hw, hcount⟩ := hend
      obtain ⟨hsent, honce, hopened, hunwritten, hdisconnected⟩ := horder hw
      exact ⟨_, rfl, hsent, honce, hopened, hunwritten, hdisconnected, fun _ => hcount⟩
  | error hstate =>
      subst hstate
      obtain ⟨⟩ | hw := hend
      obtain ⟨hsent, honce, hopened, hunwritten, hdisconnected⟩ := horder hw
      exact ⟨_, rfl, hsent, honce, hopened, hunwritten, hdisconnected, nofun⟩

end Dialer

end ServiceClient.Wire
