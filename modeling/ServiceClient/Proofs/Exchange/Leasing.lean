/-
**The call that hands out the stream of its response.**

Such a call sends no body and does not ask for the status.  If the stream cannot be got, the
connection is disconnected; what is no failure of an exchange and no error of the client goes on
without that.

Main definitions:

* `ServiceClient.Leasing`: how such a call goes.

Main results:

* `ServiceClient.openResponse_leasing`: **whatever the connections do, the call takes one of the
  courses**.
-/

import ServiceClient.Proofs.Exchange.Call

set_option autoImplicit false

namespace ServiceClient

open ServiceClient.Action (Records)

variable {σ τ : Type}

/-- A failure to get the stream of a response. -/
def Failure.unobtained (url : String) (f : Failure) : Failure :=
  f.toldAs (.unobtained url) f.isExchangeFailure

/-- Whether a failure to get a stream lets the connection be disconnected. -/
def Failure.endsLease (f : Failure) : Bool :=
  f.fault.isClient || f.isExchangeFailure

theorem Failure.isExchangeFailure_of_isClient {f : Failure} (h : f.fault.isClient) :
    f.isExchangeFailure = false := by
  rcases f with ⟨e | ⟨cls, wording⟩, behind⟩
  · rfl
  · cases h

/-- How a call that hands out a stream goes; a connection that is disconnected is known by its
URL. -/
inductive Leasing
  /-- No connection is opened. -/
  | unopened (f : Failure)
  /-- The stream cannot be got, and the connection is disconnected. -/
  | refused (connected : String) (f : Failure) (disconnected : Except Failure Unit)
  /-- The stream cannot be got, for a reason that is not expected. -/
  | astray (f : Failure)
  /-- The stream cannot be prepared for reading. -/
  | unattached (f : Failure)
  /-- The stream is handed out; a response without one is empty. -/
  | leased (present : Bool)

namespace Leasing

def opens : Leasing → Nat
  | unopened _ => 0
  | _ => 1

/-- How the call for a URL ends. -/
def result (url : String) : Leasing → Except Failure Unit
  | unopened f | astray f | unattached f => .error f
  | refused connected f disconnected =>
      overruled (.error (f.unobtained url))
        (disconnected.mapError (·.unreleased (.undisconnected connected)))
  | leased _ => .ok ()

def record (n : Nat) (g : Option Failure) : Leasing → List Event
  | unopened _ => []
  | refused _ f disconnected =>
      [⟨n, .input, g, .error f⟩, doing n .disconnect (some f) disconnected]
  | astray f => [⟨n, .input, g, .error f⟩]
  | unattached f => [⟨n, .input, g, .ok (.stream true)⟩, doing n .attachReader g (.error f)]
  | leased true => [⟨n, .input, g, .ok (.stream true)⟩, doing n .attachReader g (.ok ())]
  | leased false => [⟨n, .input, g, .ok (.stream false)⟩]

/-- Whether the connection is disconnected as the failure to get the stream asks for. -/
def Consistent : Leasing → Prop
  | refused _ f _ => f.endsLease = true
  | astray f => f.endsLease = false
  | unopened _ | unattached _ | leased _ => True

end Leasing

/-- The stream is got, or the connection is disconnected. -/
def obtaining (c : Connection σ) (url : String) : Action σ (Option (Source σ)) :=
  c.input.rescue fun f =>
    if f.fault.isClient then do
      disconnecting c
      .rethrow f
    else if f.isExchangeFailure then do
      disconnecting c
      .raiseFrom (.unobtained url) f
    else .rethrow f

/-- A stream is prepared for reading and handed out with its connection. -/
def leasing (c : Connection σ) (source : Option (Source σ)) : Action σ (Lease σ) := do
  match source with
  | some s => s.attach
  | none => pure ()
  pure { connection := c, source }

theorem openResponse_eq (o : Opener σ) (headers : Option HeaderMap) (url : String) :
    openResponse o headers url = (do
      let c ← o.connect url (headers.getD [])
      let source ← obtaining c url
      leasing c source) := rfl

/-- What is done about a stream that cannot be got. -/
theorem refusing_records (n : Nat) (c : Connection σ) (url : String) {g : Option Failure}
    (f : Failure) (w : Watched σ) (h : f.endsLease) :
    ∃ (d : Except Failure Unit) (w' : Watched σ),
      Records
        (if f.fault.isClient then do
            disconnecting (c.watched n)
            .rethrow f
          else if f.isExchangeFailure then do
            disconnecting (c.watched n)
            .raiseFrom (.unobtained url) f
          else .rethrow f : Action (Watched σ) (Option (Source (Watched σ))))
        g w [doing n .disconnect g d]
        (overruled (.error (f.unobtained url)) (d.mapError (·.unreleased (.undisconnected c.url))))
        w' := by
  obtain ⟨d, w', hd⟩ := Records.disconnecting n c g w
  refine ⟨d, w', ?_⟩
  -- an error of the client goes on as it is
  by_cases hclient : f.fault.isClient
  · have hkept : f.unobtained url = f := by
      simp [Failure.unobtained, Failure.toldAs, Failure.isExchangeFailure_of_isClient hclient]
    rw [if_pos hclient, hkept]
    exact hd.bind_failing (.rethrow f)
  · have hexp : f.isExchangeFailure := by simpa [Failure.endsLease, hclient] using h
    have htold : f.unobtained url = .of (.unobtained url) f := by
      simp [Failure.unobtained, Failure.toldAs, hexp]
    rw [if_neg hclient, if_pos hexp, htold]
    exact hd.bind_failing (.raiseFrom _ f)

/-- The stream is got, or the call goes one of its other ways. -/
theorem obtaining_records (n : Nat) (c : Connection σ) (url : String) (g : Option Failure)
    (w : Watched σ) :
    ∃ w',
      (∃ a : Option (Source σ), Records (obtaining (c.watched n) url) g w
        [⟨n, .input, g, .ok (.stream a.isSome)⟩] (.ok (a.map (·.watched n))) w') ∨
      ∃ (k : Leasing) (f : Failure), k.opens = 1 ∧ k.Consistent ∧ k.result url = .error f ∧
        Records (obtaining (c.watched n) url) g w (k.record n g) (.error f) w' := by
  obtain ⟨found, w₁, hin⟩ := Records.watching n .input (.stream ·.isSome) c.input g w
  have hfound := hin.handing fun s => s.map (Source.watched n)
  cases found with
  | ok a => exact ⟨w₁, .inl ⟨a, hfound.rescue_ok⟩⟩
  | error f =>
      by_cases h : f.endsLease
      · obtain ⟨d, w₂, hd⟩ := refusing_records n c url (g := some f) f w₁ h
        cases d with
        | ok u =>
            exact ⟨w₂, .inr ⟨.refused c.url f (.ok u), _, rfl, h, rfl, hfound.rescue_error hd⟩⟩
        | error h' =>
            exact ⟨w₂, .inr ⟨.refused c.url f (.error h'), _, rfl, h, rfl, hfound.rescue_error hd⟩⟩
      · obtain ⟨hclient, hexp⟩ : f.fault.isClient = false ∧ f.isExchangeFailure = false := by
          simpa [Failure.endsLease] using h
        refine ⟨w₁, .inr ⟨.astray f, f, rfl, Bool.eq_false_iff.mpr h, rfl,
          hfound.rescue_error ?_⟩⟩
        simp only [hclient, hexp]
        exact .rethrow f

/-- **Whatever the connections do, the call takes one of the courses.** -/
theorem openResponse_leasing (o : Opener σ) (headers : Option HeaderMap) (url : String)
    (g : Option Failure) (w : Watched σ) :
    ∃ (k : Leasing) (w' : Watched σ), k.Consistent ∧
      w'.events = w.events ++ k.record w.opened g ∧ w'.opened = w.opened + k.opens ∧
        (openResponse o.watched headers url g w).2 = w' ∧
        (openResponse o.watched headers url g w).1.map (fun _ => ()) = k.result url := by
  rw [openResponse_eq]
  rcases hc : o.connect url (headers.getD []) g w.state with ⟨f | c, s⟩
  · refine ⟨.unopened f, { w with state := s }, trivial, by simp [Leasing.record], rfl, ?_⟩
    rw [Action.run_bind_error (connect_error hc)]
    exact ⟨rfl, rfl⟩
  · rw [Action.run_bind_ok (connect_ok hc)]
    obtain ⟨w₁, ⟨a, ha⟩ | ⟨k, f, hopens, hcons, hk, hrec⟩⟩ := obtaining_records w.opened c url g
      { w with state := s, opened := w.opened + 1 }
    · cases a with
      | none =>
          refine ⟨.leased false, w₁, trivial, ha.events_eq, ha.opened_eq, ?_⟩
          rw [Action.run_bind_ok ha.run]
          exact ⟨rfl, rfl⟩
      | some a =>
          obtain ⟨attached, w₂, hatt⟩ :=
            Records.watching w.opened .attachReader (fun _ => .done) a.attach g w₁
          cases attached with
          | error f =>
              have hall := ha.bind (k := leasing (c.watched w.opened)) hatt.bind_error
              refine ⟨.unattached f, w₂, trivial, hall.events_eq, hall.opened_eq, ?_⟩
              rw [hall.run]
              exact ⟨rfl, rfl⟩
          | ok u =>
              have hall := ha.bind (k := leasing (c.watched w.opened)) (hatt.bind (.pure _))
              refine ⟨.leased true, w₂, trivial, hall.events_eq, hall.opened_eq, ?_⟩
              rw [hall.run]
              exact ⟨rfl, rfl⟩
    · refine ⟨k, w₁, hcons, hrec.events_eq, by rw [hrec.opened_eq, hopens], ?_⟩
      rw [Action.run_bind_error hrec.run, hk]
      exact ⟨rfl, rfl⟩

end ServiceClient
