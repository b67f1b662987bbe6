/-
**A call that hands out no stream.**

The call that hands out a stream looks at the class of a failure to get one: it disconnects for the
failures that are expected, and lets all others go on over an open connection.  Preparing the stream
for reading may fail as well, and then nothing is disconnected either.  The caller has no stream
then to close, so what is left open stays open.

Main results:

* `ServiceClient.openResponse_failed`: **a call that fails disconnects once if the stream could not
  be got for one of the reasons that are expected, and not at all otherwise**.
-/

import ServiceClient.Proofs.Action.Runs
import ServiceClient.Proofs.Exchange.Leasing
import ServiceClient.Wire.Dialer

set_option autoImplicit false

namespace ServiceClient

variable {σ : Type}

theorem Leasing.connection_of_mem_record {k : Leasing} {n : Nat} {g : Option Failure} {e : Event}
    (he : e ∈ k.record n g) : e.connection = n := by
  rcases k with f | ⟨connected, f, d⟩ | f | f | ⟨_ | _⟩ <;>
    simp only [record, doing, List.mem_cons, List.not_mem_nil, or_false] at he
  case refused => rcases he with rfl | rfl <;> rfl
  case unattached => rcases he with rfl | rfl <;> rfl
  case leased.true => rcases he with rfl | rfl <;> rfl
  all_goals
    subst he
    rfl

/-- A course that fails: no connection is opened, or one step fails, and its failure decides. -/
theorem Leasing.record_of_error {k : Leasing} (hk : k.Consistent) {url : String} {f : Failure}
    (h : k.result url = .error f) (n : Nat) (g : Option Failure) :
    k.opens = 0 ∧ k.record n g = [] ∨
      k.opens = 1 ∧ ∃ e ∈ k.record n g, ∃ cause, e.failure? = some cause ∧
        (e.operation = .input ∨ e.operation = .attachReader) ∧
        (k.record n g).countP (Event.disconnects n) =
          if e.operation = .input ∧ cause.endsLease then 1 else 0 := by
  cases k with
  | unopened f => exact .inl ⟨rfl, rfl⟩
  | refused connected f d =>
      have hf : f.endsLease = true := hk
      refine .inr ⟨rfl, _, .head _, f, rfl, .inl rfl, ?_⟩
      simp [record, doing, Event.disconnects, hf]
  | astray f =>
      have hf : f.endsLease = false := hk
      refine .inr ⟨rfl, _, .head _, f, rfl, .inl rfl, ?_⟩
      simp [record, Event.disconnects, hf]
  | unattached f =>
      refine .inr ⟨rfl, _, .tail _ (.head _), f, rfl, .inr rfl, ?_⟩
      simp [record, doing, Event.disconnects]
  | leased present => cases h

/-- **If the call fails after it opened a connection, then the step that failed is one of two.  The
connection has been disconnected once if the stream could not be got, for a failure of the exchange
or an error of the client, and not at all otherwise.** -/
theorem openResponse_failed (o : Opener σ) (headers : Option HeaderMap) (url : String)
    (g : Option Failure) (w : Watched σ) {f : Failure}
    (h : (openResponse o headers url g w.state).1 = .error f) :
    ∃ (added : List Event) (w' : Watched σ),
      openResponse o.watched headers url g w = (.error f, w') ∧
      w'.state = (openResponse o headers url g w.state).2 ∧
      w'.events = w.events ++ added ∧ (∀ e ∈ added, e.connection = w.opened) ∧
      (w'.opened = w.opened ∧ added = [] ∨
        w'.opened = w.opened + 1 ∧ ∃ e ∈ added, ∃ cause, e.failure? = some cause ∧
          (e.operation = .input ∨ e.operation = .attachReader) ∧
          added.countP (Event.disconnects w.opened) =
            if e.operation = .input ∧ cause.endsLease then 1 else 0) := by
  have halike := openResponse_alike o.watched_alike headers url g w w.state rfl
  have hrun : (openResponse o.watched headers url g w).1 = .error f := (halike.error_iff f).mpr h
  obtain ⟨k, w', hk, hev, hop, hw', hres⟩ := openResponse_leasing o headers url g w
  have hend : k.result url = .error f := by rw [← hres, hrun]; rfl
  refine ⟨k.record w.opened g, w', Prod.ext hrun hw', hw' ▸ halike.snd, hev,
    fun e => Leasing.connection_of_mem_record, ?_⟩
  · rw [hop]
    obtain ⟨hopens, hnone⟩ | ⟨hopens, hone⟩ := Leasing.record_of_error hk hend w.opened g
    · exact .inl ⟨by rw [hopens]; rfl, hnone⟩
    · exact .inr ⟨by rw [hopens], hone⟩

def answering (reply : Wire.Reply) : Watched Wire.Network :=
  { state := { service := { script := [reply] } } }

/-- A service that cannot be reached. -/
theorem openResponse_failed_unreached :
    let o := Wire.Dialer.opener {}
    let w := answering (.fails (.plain .connect))
    ∃ f, (openResponse o none "http://svc.local/x" none w.state).1 = .error f ∧
      ∃ w', openResponse o.watched none "http://svc.local/x" none w = (.error f, w') ∧
        w'.opened = 1 ∧ w'.events.countP (Event.disconnects 0) = 1 := by
  intro o w
  have hfails : (openResponse o none "http://svc.local/x" none w.state).1.isOk = false := by
    decide +kernel
  have hend : (openResponse o.watched none "http://svc.local/x" none w).2.opened = 1 ∧
      (openResponse o.watched none "http://svc.local/x" none w).2.events.countP
        (Event.disconnects 0) = 1 := by
    decide +kernel
  rcases hf : (openResponse o none "http://svc.local/x" none w.state).1 with f | l
  · obtain ⟨added, w', hrun, -⟩ := openResponse_failed o none "http://svc.local/x" none w hf
    rw [hrun] at hend
    exact ⟨f, rfl, w', hrun, hend⟩
  · rw [hf] at hfails
    cases hfails

/-- A header that cannot be encoded leaves the connection open, and nobody can disconnect it. -/
theorem openResponse_unreleased :
    let o := Wire.Dialer.opener {}
    let w := answering (.answers {})
    ∃ f w', openResponse o.watched (some [("X", "é")]) "http://svc.local/x" none w =
        (.error f, w') ∧ f.isA .encoding ∧
      w'.opened = 1 ∧ w'.events.countP (Event.disconnects 0) = 0 ∧ w'.state.serving = 1 := by
  intro o w
  have hfails : (match (openResponse o.watched (some [("X", "é")]) "http://svc.local/x" none w).1 with
      | .error f => f.isA .encoding
      | .ok _ => false) = true := by
    decide +kernel
  have hend :
      let w' := (openResponse o.watched (some [("X", "é")]) "http://svc.local/x" none w).2
      w'.opened = 1 ∧ w'.events.countP (Event.disconnects 0) = 0 ∧ w'.state.serving = 1 := by
    decide +kernel
  generalize openResponse o.watched (some [("X", "é")]) "http://svc.local/x" none w = x
    at hend hfails
  obtain ⟨f | l, w'⟩ := x
  · exact ⟨f, w', rfl, hfails, hend⟩
  · cases hfails

end ServiceClient
