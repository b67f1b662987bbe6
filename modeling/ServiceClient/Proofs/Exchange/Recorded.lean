/-
**What a run adds to the record.**

A run of an action over watched connections adds events to the record and ends in a value or a
failure.  The record of a compound action is put together from those of its parts.  Cleaning up runs
while the failure of the first part is in flight, and its own failure *overrules* how the first part
ended.

Main definitions:

* `ServiceClient.Action.Records`: a run, what it adds to the record, and how it ends;
* `ServiceClient.inFlightAfter`, `ServiceClient.overruled`: what is in flight while something is
  cleaned up, and how it ends then;
* `ServiceClient.Failure.toldAs`: a failure that is expected becomes an error of the client.

Main results:

* `ServiceClient.Action.Records.bind`, `ServiceClient.Action.Records.rescue_error`,
  `ServiceClient.Action.Records.ensure`: the record of a compound action;
* `ServiceClient.Action.Records.reporting`, `ServiceClient.Action.Records.reading`,
  `ServiceClient.Action.Records.sending`: the steps of an exchange.
-/

import ServiceClient.Proofs.Exchange.Watched

set_option autoImplicit false

namespace ServiceClient

variable {σ α β : Type}

/-! ### Ends of actions -/

/-- What is in flight after an action that ended in a given way. -/
def inFlightAfter (g : Option Failure) : Except Failure α → Option Failure
  | .ok _ => g
  | .error f => some f

/-- How an action ends that is cleaned up: a failure to clean up takes the place of the first
end. -/
def overruled (r : Except Failure α) : Except Failure Unit → Except Failure α
  | .ok _ => r
  | .error f => .error f

@[simp] theorem inFlightAfter_ok (g : Option Failure) (a : α) :
    inFlightAfter g (.ok a) = g := rfl

@[simp] theorem inFlightAfter_error (g : Option Failure) (f : Failure) :
    inFlightAfter g (.error f : Except Failure α) = some f := rfl

@[simp] theorem overruled_ok (r : Except Failure α) (u : Unit) : overruled r (.ok u) = r := rfl

@[simp] theorem overruled_error (r : Except Failure α) (f : Failure) :
    overruled r (.error f) = .error f := rfl

@[simp] theorem mapError_ok {ε ε' : Type} (f : ε → ε') (a : α) :
    (Except.ok a : Except ε α).mapError f = .ok a := rfl

@[simp] theorem mapError_error {ε ε' : Type} (f : ε → ε') (e : ε) :
    (Except.error e : Except ε α).mapError f = .error (f e) := rfl

namespace Failure

/-- A failure, or the error of the client that it becomes when it is expected. -/
def toldAs (e : ClientError) (expected : Bool) (f : Failure) : Failure :=
  if expected then .of e f else f

/-- A failure to release something. -/
def unreleased (e : ClientError) (f : Failure) : Failure :=
  f.toldAs e f.isExchangeFailure

def unread (f : Failure) : Failure :=
  f.toldAs (.ofTransport f.fault) f.isExchangeFailure

def unsent (method url : String) (f : Failure) : Failure :=
  f.toldAs (.unwritten method url) f.isWriteFailure

end Failure

/-! ### Runs -/

namespace Action

/-- A run of an action, the events that it adds to the record, and how it ends. -/
structure Records (m : Action (Watched σ) α) (g : Option Failure) (w : Watched σ)
    (events : List Event) (r : Except Failure α) (w' : Watched σ) : Prop where
  run : m g w = (r, w')
  events_eq : w'.events = w.events ++ events
  opened_eq : w'.opened = w.opened

namespace Records

variable {g : Option Failure} {w w₁ w₂ : Watched σ} {es es₁ es₂ : List Event}

theorem pure (a : α) : Records (Pure.pure a) g w [] (.ok a) w :=
  ⟨rfl, by simp, rfl⟩

theorem modify {f : Watched σ → Watched σ} (hev : (f w).events = w.events ++ es)
    (hop : (f w).opened = w.opened) : Records (Action.modify f) g w es (.ok ()) (f w) :=
  ⟨rfl, hev, hop⟩

theorem watching (n : Nat) (operation : Operation) (shown : α → Reply) (m : Action σ α)
    (g : Option Failure) (w : Watched σ) :
    ∃ r w', Records (watching n operation shown m) g w [⟨n, operation, g, r.map shown⟩] r w' :=
  ⟨_, _, rfl, rfl, rfl⟩

theorem bind {m : Action (Watched σ) α} {k : α → Action (Watched σ) β} {a : α}
    {r : Except Failure β} (hm : Records m g w es₁ (.ok a) w₁) (hk : Records (k a) g w₁ es₂ r w₂) :
    Records (m >>= k) g w (es₁ ++ es₂) r w₂ where
  run := by rw [run_bind_ok hm.run, hk.run]
  events_eq := by rw [hk.events_eq, hm.events_eq, List.append_assoc]
  opened_eq := hk.opened_eq.trans hm.opened_eq

theorem bind_error {m : Action (Watched σ) α} {k : α → Action (Watched σ) β} {f : Failure}
    (hm : Records m g w es (.error f) w₁) : Records (m >>= k) g w es (.error f) w₁ where
  run := run_bind_error hm.run
  events_eq := hm.events_eq
  opened_eq := hm.opened_eq

theorem rethrow (f : Failure) : Records (Action.rethrow f : Action (Watched σ) α) g w []
    (.error f) w :=
  ⟨rfl, by simp, rfl⟩

theorem raiseFrom (e : ClientError) (f : Failure) :
    Records (Action.raiseFrom e f : Action (Watched σ) α) g w [] (.error (.of e f)) w :=
  ⟨rfl, by simp, rfl⟩

/-- What follows an action that may fail fails in any case. -/
theorem bind_failing {m : Action (Watched σ) Unit} {k : Unit → Action (Watched σ) α}
    {q : Except Failure Unit} {f : Failure} (hm : Records m g w es q w₁)
    (hk : Records (k ()) g w₁ [] (.error f) w₁) :
    Records (m >>= k) g w es (overruled (.error f) q) w₁ := by
  cases q with
  | ok u => simpa using hm.bind hk
  | error h => exact hm.bind_error

/-- What an action hands out may be put into another form. -/
theorem handing {m : Action (Watched σ) α} {r : Except Failure α} (into : α → β)
    (hm : Records m g w es r w₁) : Records (do Pure.pure (into (← m))) g w es (r.map into) w₁ where
  run := run_handing into hm.run
  events_eq := hm.events_eq
  opened_eq := hm.opened_eq

theorem rescue_ok {m : Action (Watched σ) α} {k : Failure → Action (Watched σ) α} {a : α}
    (hm : Records m g w es (.ok a) w₁) : Records (m.rescue k) g w es (.ok a) w₁ where
  run := run_rescue_ok hm.run
  events_eq := hm.events_eq
  opened_eq := hm.opened_eq

theorem rescue_error {m : Action (Watched σ) α} {k : Failure → Action (Watched σ) α} {f : Failure}
    {r : Except Failure α} (hm : Records m g w es₁ (.error f) w₁)
    (hk : Records (k f) (some f) w₁ es₂ r w₂) : Records (m.rescue k) g w (es₁ ++ es₂) r w₂ where
  run := by rw [run_rescue_error hm.run, hk.run]
  events_eq := by rw [hk.events_eq, hm.events_eq, List.append_assoc]
  opened_eq := hk.opened_eq.trans hm.opened_eq

theorem ensure {m : Action (Watched σ) α} {c : Action (Watched σ) Unit} {r : Except Failure α}
    {q : Except Failure Unit} (hm : Records m g w es₁ r w₁)
    (hc : Records c (inFlightAfter g r) w₁ es₂ q w₂) :
    Records (m.ensure c) g w (es₁ ++ es₂) (overruled r q) w₂ where
  run := by
    -- what is in flight while it is cleaned up depends on how the first part ended
    cases r with
    | ok a =>
        rw [run_ensure_ok hm.run]
        rw [inFlightAfter_ok] at hc
        cases q <;> rw [hc.run] <;> rfl
    | error f =>
        rw [run_ensure_error hm.run]
        rw [inFlightAfter_error] at hc
        cases q <;> rw [hc.run] <;> rfl
  events_eq := by rw [hc.events_eq, hm.events_eq, List.append_assoc]
  opened_eq := hc.opened_eq.trans hm.opened_eq

/-! ### Steps of an exchange -/

theorem reporting {m : Action (Watched σ) α} {r : Except Failure α} (e : ClientError)
    (hm : Records m g w es r w₁) :
    Records (reporting e m) g w es (r.mapError (·.unreleased e)) w₁ := by
  cases r with
  | ok a => exact hm.rescue_ok
  | error f =>
      refine ⟨?_, hm.events_eq, hm.opened_eq⟩
      rw [ServiceClient.reporting, run_rescue_error hm.run]
      by_cases hf : f.isExchangeFailure <;>
        simp [hf, Failure.unreleased, Failure.toldAs]

theorem reading {m : Action (Watched σ) α} {r : Except Failure α} (n : Nat) (c : Connection σ)
    (hm : Records m g w es r w₁) :
    ∃ w₂, Records (reading (c.watched n) m) g w es (r.mapError Failure.unread) w₂ := by
  cases r with
  | ok a => exact ⟨w₁, hm.rescue_ok⟩
  | error f =>
      by_cases hf : f.isExchangeFailure
      · refine ⟨(c.watched n).log (.readFailed c.url f.fault) w₁, ?_, hm.events_eq, hm.opened_eq⟩
        rw [ServiceClient.reading, run_rescue_error hm.run, if_pos hf, run_bind_ok (run_modify ..)]
        simp [hf, Failure.unread, Failure.toldAs, Connection.watched]
      · refine ⟨w₁, ?_, hm.events_eq, hm.opened_eq⟩
        rw [ServiceClient.reading, run_rescue_error hm.run, if_neg hf]
        simp [hf, Failure.unread, Failure.toldAs]

theorem sending {m : Action (Watched σ) α} {r : Except Failure α} (n : Nat) (c : Connection σ)
    (method : String) (hm : Records m g w es r w₁) :
    ∃ w₂, Records (sending (c.watched n) method m) g w es
      (r.mapError (·.unsent method c.url)) w₂ := by
  cases r with
  | ok a => exact ⟨w₁, hm.rescue_ok⟩
  | error f =>
      by_cases hf : f.isWriteFailure
      · refine ⟨(c.watched n).log (.writeFailed c.url method f.fault) w₁, ?_, hm.events_eq,
          hm.opened_eq⟩
        rw [ServiceClient.sending, run_rescue_error hm.run, if_pos hf, run_bind_ok (run_modify ..)]
        simp [hf, Failure.unsent, Failure.toldAs, Connection.watched]
      · refine ⟨w₁, ?_, hm.events_eq, hm.opened_eq⟩
        rw [ServiceClient.sending, run_rescue_error hm.run, if_neg hf]
        simp [hf, Failure.unsent, Failure.toldAs]

/-- Disconnecting is one event. -/
theorem disconnecting (n : Nat) (c : Connection σ) (g : Option Failure) (w : Watched σ) :
    ∃ (d : Except Failure Unit) (w' : Watched σ), Records (disconnecting (c.watched n)) g w
      [⟨n, .disconnect, g, d.map fun _ => .done⟩]
      (d.mapError (·.unreleased (.undisconnected c.url))) w' := by
  obtain ⟨d, w', h⟩ := Records.watching n .disconnect (fun _ => .done) c.disconnect g w
  exact ⟨d, w', h.reporting _⟩

end Records

end Action

end ServiceClient
