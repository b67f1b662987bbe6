/-
**Connections that tell a response.**

A connection that fails in nothing tells a response: its status, and its body, if it has one.  What
a call comes to over it follows from these two alone.  A status that is no failing one brings the
body; a failing one is an error that holds it, or says that there was none.  The call that hands out
a stream does not ask for the status; it is refused the stream where the status fails.

Main definitions:

* `ServiceClient.told`, `ServiceClient.Verb.told`: what reading a response comes to, and a call;
* `ServiceClient.Connection.Tells`: connections that tell a response, along the phases of an
  exchange.

Main results:

* `ServiceClient.Connection.Tells.readResponse_gives`: reading a response comes to what it tells;
* `ServiceClient.Connection.Tells.outcome_gives`, `ServiceClient.Connection.Tells.outcome_within`:
  **so does every call**, also over a connection in a part of a state.
-/

import ServiceClient.Proofs.Action.Gives
import ServiceClient.Proofs.Exchange.Outcome
import ServiceClient.Proofs.Exchange.Phases

set_option autoImplicit false

namespace ServiceClient

open ServiceClient.Action (Gives Meets Never)

variable {σ α : Type}

/-! ### What is told -/

/-- What concludes the reading of a response with a status and a text. -/
def conclusion (status : Int) (text : String) : Except Fault ResponseResult :=
  if status ≥ failingStatus then
    .error (.client (.ofStatus status (ClientError.statusPreamble ++ text)))
  else .ok { statusCode := status, text, isError := false }

/-- What reading a response comes to: its text is that of its body, if it has one. -/
def told (status : Int) (content : Option Bytes) : Except Fault ResponseResult :=
  conclusion status (content.elim noResponse Text.drainBytes)

/-- What a call comes to; a response without a body is an empty stream. -/
def Verb.told (status : Int) (content : Option Bytes) : Verb → Except Fault Yield
  | call c => ((ServiceClient.told status content).map c.given).map .text
  | lease _ url =>
      if status ≥ failingStatus then .error (.client (.unobtained url))
      else .ok (.bytes (content.getD []))

/-- What a call does over its connection before it asks for the response. -/
def Verb.transmit (c : Connection σ) : Verb → Action σ Unit
  | call (.get ..) | lease .. => pure ()
  | call k => send c k.body k.method.name

theorem concluding_gives (P : σ → Prop) (status : Int) (text : String) :
    Gives P (concluding status text) (conclusion status text) P := by
  by_cases h : status ≥ failingStatus
  · rw [concluding, conclusion, if_pos h, if_pos h]
    exact .raise fun _ hs => hs
  · rw [concluding, conclusion, if_neg h, if_neg h]
    exact .pure fun _ hs => hs

/-! ### Connections -/

/-- A connection that tells a response with a status and a body, or with none: each operation leads
from its phase to the next one, and does not fail, but that a stream of a result is refused where
the status fails. -/
structure Connection.Tells (c : Connection σ) (P : Phases σ) (status : Int)
    (content : Option Bytes) : Prop where
  status_meets : Meets P.unasked c.status (fun n s => n = status ∧ P.answered s) Never
  input {Q : σ → Prop} : status < failingStatus → (∀ s, Q s → P.unasked s ∨ P.answered s) →
    Meets Q c.input (fun a s => a.isSome = content.isSome ∧ P.found a s) Never
  refused : status ≥ failingStatus → Meets P.unasked c.input (fun _ _ => False) fun f s =>
    f.isExchangeFailure = true ∧ P.ended s
  errorInput : status ≥ failingStatus → Meets P.answered c.errorInput
    (fun a s => a.isSome = content.isSome ∧ P.found a s) Never
  attach (a : Source σ) : Meets (P.opened a) a.attach (fun _ => P.opened a) Never
  unclosed (a : Source σ) (s : σ) : P.opened a s → a.isClosed s = false
  readAll (a : Source σ) :
    Meets (P.opened a) a.readAll (fun bytes s => content = some bytes ∧ P.ended s) Never
  /-- A stream that was there to be read can be closed after that. -/
  close (a : Source σ) : (∃ s, P.opened a s) → Meets P.ended a.close (fun _ => P.ended) Never
  disconnect : Meets P.ended c.disconnect (fun _ => P.left) Never
  log_found (event : LogEvent) (a : Option (Source σ)) (s : σ) :
    P.found a s → P.found a (c.log event s)
  left_of_ended (s : σ) : P.ended s → P.left s

namespace Connection.Tells

variable {c : Connection σ} {P : Phases σ} {status : Int} {content : Option Bytes}

/-- The status comes, and the stream that it selects. -/
theorem responseStream_meets (h : c.Tells P status content) :
    Meets P.unasked (responseStream c)
      (fun found s => found.1 = status ∧ found.2.isSome = content.isSome ∧ P.found found.2 s)
      Never := by
  refine h.status_meets.bind fun n => .given ?_
  rintro rfl
  have hlogged {m : Action σ (Option (Source σ))}
      (hm : Meets P.answered m (fun a s => a.isSome = content.isSome ∧ P.found a s) Never) :
      Meets P.answered
        (do
          let source ← m
          .modify (c.log (.requestCompleted c.url n))
          pure (n, source))
        (fun found s => found.1 = n ∧ found.2.isSome = content.isSome ∧ P.found found.2 s)
        Never :=
    hm.bind fun a => Meets.bind
      (Q := fun _ s => a.isSome = content.isSome ∧ P.found a s)
      (.modify fun s hs => ⟨hs.1, h.log_found _ a s hs.2⟩) fun _ => .pure fun _ hs => ⟨rfl, hs⟩
  by_cases hstatus : n ≥ failingStatus
  · simp only [if_pos hstatus]
    exact hlogged (h.errorInput hstatus)
  · simp only [if_neg hstatus]
    exact hlogged (h.input (Int.not_le.mp hstatus) fun _ => .inr)

/-- Reading a response up to the disconnect. -/
theorem receiving_gives (h : c.Tells P status content) :
    Gives P.unasked (receiving c) (told status content) P.ended := by
  refine Gives.after (h.responseStream_meets.rescue_of_never _) ?_
  rintro ⟨n, _ | a⟩
  · refine .given fun hn => .given fun hnone => ?_
    have hcontent : content = none := by simpa using hnone.symm
    subst hn hcontent
    exact concluding_gives P.ended n noResponse
  · refine .given fun hn => .given fun _ => ?_
    subst hn
    refine Gives.after ((h.attach a).rescue_of_never _) fun _ g s hs => ?_
    have hread : Gives (P.opened a)
        (do
          let bytes ← reading c a.readAll
          concluding n (Text.drainBytes bytes))
        (told n content) P.ended := by
      refine Gives.after ((h.readAll a).rescue_of_never _) fun bytes => .given ?_
      rintro rfl
      exact concluding_gives P.ended n (Text.drainBytes bytes)
    -- the reader is closed, which changes nothing of this
    have hclose := (h.close a ⟨s, hs⟩).rescue_of_never (E := Never) fun f =>
      if f.isExchangeFailure then .raiseFrom (.unclosed textStreamName) f else .rethrow f
    exact hread.ensure hclose g s hs

/-- **Reading a response comes to what the connection tells.** -/
theorem readResponse_gives (h : c.Tells P status content) :
    Gives P.unasked (readResponse c) (told status content) P.left := by
  rw [readResponse_eq]
  exact h.receiving_gives.ensure (h.disconnect.rescue_of_never _)

/-! ### Leases -/

/-- A stream is got where the status is no failing one. -/
theorem obtaining_gives (h : c.Tells P status content) (url : String) :
    Meets P.unasked (obtaining c url)
      (fun a s => status < failingStatus ∧ a.isSome = content.isSome ∧ P.found a s)
      fun f s => status ≥ failingStatus ∧ f.fault = .client (.unobtained url) ∧ P.left s := by
  by_cases hstatus : status ≥ failingStatus
  · have hrefused := h.refused hstatus
    refine (hrefused.weaken (fun _ hs => hs) (fun _ _ => False.elim) fun _ _ hs => hs).rescue
      fun f => .given fun hf => ?_
    have hclient : ¬ f.fault.isClient = true := fun hclient => by
      rw [Failure.isExchangeFailure_of_isClient hclient] at hf
      cases hf
    rw [if_neg hclient, if_pos hf]
    have hdisconnecting : Meets P.ended (disconnecting c) (fun _ => P.left) Never :=
      h.disconnect.rescue_of_never _
    exact Meets.bind hdisconnecting.of_never fun _ => .raiseFrom fun s hs => ⟨hstatus, rfl, hs⟩
  · have hlt : status < failingStatus := Int.not_le.mp hstatus
    have hinput := h.input hlt (Q := P.unasked) fun _ => .inl
    refine Meets.weaken (hinput.rescue_of_never (E := Never) _) (fun _ hs => hs)
      (fun _ _ hs => ⟨hlt, hs⟩) fun _ _ => False.elim

end Connection.Tells

namespace Lease

/-- A lease over a stream that is open reads that. -/
theorem readAll_some {c : Connection σ} {a : Source σ} {s : σ} (g : Option Failure)
    (h : a.isClosed s = false) : readAll ⟨c, some a⟩ g s = a.readAll g s := by
  have hdemand : (a.within .second).demandOpen g (({} : Buffer), false, s) =
      (.ok (), ({}, false, s)) := by
    rw [Source.demandOpen, Action.run_bind_ok (Action.run_gets ..)]
    simp only [Source.within, Part.second, h]
    rfl
  have hread : ((a.within .second).buffered streamName).readAll g (({} : Buffer), false, s) =
      ((a.readAll g s).1, ({}, false, (a.readAll g s).2)) := by
    have hwithin : ((a.within .second).readAll.within .second) g (({} : Buffer), false, s) =
        ((a.readAll g s).1, ({}, false, (a.readAll g s).2)) := rfl
    simp only [Source.buffered, Source.buffered.peek, Source.buffered.fill]
    rw [Action.run_bind_ok hdemand, Action.run_bind_ok (Action.run_gets ..),
      Action.run_bind_ok (Action.run_modify ..)]
    refine (Action.run_handing _ hwithin).trans ?_
    cases (a.readAll g s).1 <;> rfl
  exact congrArg (fun x => (x.1, x.2.2.2)) hread

end Lease

namespace Connection.Tells

variable {c : Connection σ} {P : Phases σ} {status : Int} {content : Option Bytes}

theorem leasing_meets (h : c.Tells P status content) (a : Option (Source σ)) :
    Meets (P.found a) (leasing c a) (fun l s => l.source = a ∧ P.found a s) Never := by
  cases a with
  | none => exact fun g s hs => .ok ⟨rfl, hs⟩
  | some a => exact (h.attach a).bind fun _ => .pure fun _ hs => ⟨rfl, hs⟩

/-- All bytes of a lease are those of the body; a response without one brings none. -/
theorem lease_meets (h : c.Tells P status content) {l : Lease σ}
    (hsome : l.source.isSome = content.isSome) :
    Meets (P.found l.source) l.readAll (fun bytes s => content.getD [] = bytes ∧ P.ended s)
      Never := by
  obtain ⟨d, _ | a⟩ := l
  · have hcontent : content = none := by simpa using hsome.symm
    subst hcontent
    exact fun g s hs => .ok ⟨rfl, hs⟩
  · intro g s hs
    have hopened : P.opened a s := hs
    rw [Lease.readAll_some g (h.unclosed a s hopened)]
    refine (h.readAll a g s hopened).weaken ?_ fun _ _ => False.elim
    rintro bytes s' ⟨rfl, hended⟩
    exact ⟨rfl, hended⟩

theorem lease_gives (h : c.Tells P status content) (headers : Option HeaderMap) (url : String) :
    Gives P.unasked ((Verb.lease headers url).outcome (.single c))
      ((Verb.lease headers url).told status content) P.left := by
  have hopen : Meets P.unasked (openResponse (.single c) headers url)
      (fun l s => status < failingStatus ∧ l.source.isSome = content.isSome ∧ P.found l.source s)
      fun f s => status ≥ failingStatus ∧ f.fault = .client (.unobtained url) ∧ P.left s := by
    rw [openResponse_single]
    refine (h.obtaining_gives url).bind fun a => .given fun hlt => .given fun hsome => ?_
    refine (h.leasing_meets a).weaken (fun _ hs => hs) ?_ fun _ _ => False.elim
    rintro l s ⟨rfl, hs⟩
    exact ⟨hlt, hsome, hs⟩
  refine Meets.bind (hopen.weaken (fun _ hs => hs) (fun _ _ hs => hs) ?_) fun l =>
    .given fun hlt => .given fun hsome => ?_
  · rintro f s ⟨hge, hf, hs⟩
    rw [Verb.told, if_pos hge, hf]
    exact ⟨rfl, hs⟩
  · rw [Verb.told, if_neg (Int.not_le.mpr hlt)]
    refine (h.lease_meets hsome).of_never.bind fun bytes => .given ?_
    rintro rfl
    exact .pure fun s hs => ⟨rfl, h.left_of_ended s hs⟩

/-- An exchange reads its response once the body is sent. -/
theorem exchanging_gives (h : c.Tells P status content) {fresh : σ → Prop}
    {body : List Text.CodePoint} {method : Method}
    (hsent : Meets fresh (send c body method.name) (fun _ => P.unasked) Never) :
    Gives fresh (exchanging c body method) ((told status content).map (·.text)) P.left :=
  Gives.after (hsent.rescue_of_never _) fun _ => h.readResponse_gives.handing (·.text)

/-- What a call that reads its response comes to. -/
theorem perform_gives (h : c.Tells P status content) {fresh : σ → Prop} (k : Call)
    (hsent : Meets fresh ((Verb.call k).transmit c) (fun _ => P.unasked) Never) :
    Gives fresh (k.perform (.single c)) ((told status content).map k.given) P.left := by
  cases k with
  | get headers url =>
      have hread : Gives fresh (pure () >>= fun _ => readResponse c) (told status content) P.left :=
        Gives.after hsent fun _ => h.readResponse_gives
      exact (hread.handing ResponseResult.text).handing_map some
  | post headers url body content accepted => exact (h.exchanging_gives hsent).handing_map some
  | put headers url body media => exact (h.exchanging_gives hsent).handing_map some
  | delete headers url =>
      exact ((h.exchanging_gives hsent).handing_map fun _ => ()).handing_map fun _ => none

/-- **Every call comes to what the connection tells.** -/
theorem outcome_gives (h : c.Tells P status content) {fresh : σ → Prop} (v : Verb)
    (hsent : Meets fresh (v.transmit c) (fun _ => P.unasked) Never) :
    Gives fresh (v.outcome (.single c)) (v.told status content) P.left := by
  cases v with
  | call k => exact (h.perform_gives k hsent).handing Yield.text
  | lease headers url =>
      have hread := hsent.of_never.bind fun _ => h.lease_gives headers url
      exact hread

/-- The same for a connection in a part of a state. -/
theorem outcome_within {τ : Type} {part : Part τ σ} {t₀ : τ}
    (hget : ∀ s, part.get (part.set s t₀) = s)
    (hset : ∀ s s', part.set s (part.set s' t₀) = part.set s t₀)
    (h : c.Tells P status content) {fresh : σ → Prop} (v : Verb)
    (hsent : Meets fresh (v.transmit c) (fun _ => P.unasked) Never) (g : Option Failure) {s : σ}
    (hs : fresh s) :
    (v.outcome (.single (c.within part)) g (part.set s t₀)).1.mapError Failure.fault =
        v.told status content ∧
      ∃ s', (v.outcome (.single (c.within part)) g (part.set s t₀)).2 = part.set s' t₀ ∧
        P.left s' := by
  obtain ⟨hresult, hleft⟩ := (h.outcome_gives v hsent).run g hs
  have halike := Verb.outcome_within hget hset v c g _ s rfl
  generalize v.outcome (.single (c.within part)) g (part.set s t₀) = x,
    v.outcome (.single c) g s = y at halike hresult hleft ⊢
  cases halike with
  | ok heq hstate =>
      subst heq
      exact ⟨hresult, _, hstate, hleft⟩
  | error hstate => exact ⟨hresult, _, hstate, hleft⟩

end Connection.Tells

end ServiceClient
