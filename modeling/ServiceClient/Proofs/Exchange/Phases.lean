/-
**The phases of an exchange.**

What a connection does when it is asked depends on what it was asked before.  So a contract of a
connection is told along the *phases* of an exchange: nothing was asked, the status has come, a
stream is there to be read, all was read or something failed, and the connection was left.  If each
operation leads from its phase to the next one, then reading a response leads from the first phase
to the last.  On the way each failure of an operation that is foreseen becomes an error of the
client.

Main definitions:

* `ServiceClient.Phases`: what is known of the state in each phase;
* `ServiceClient.Told`: failures as they are raised when those of the operations are known;
* `ServiceClient.Connection.Answers`: connections whose operations lead through the phases;
* `ServiceClient.Connection.Takes`: connections that take a body.

Main results:

* `ServiceClient.Connection.Answers.readResponse_meets`: **reading a response leads through the
  phases**;
* `ServiceClient.Connection.Takes.send_meets`: sending a body either keeps what is known or fails.
-/

import ServiceClient.Proofs.Action.Meets
import ServiceClient.Proofs.Exchange.Course
import ServiceClient.Proofs.Exchange.Leasing

set_option autoImplicit false

namespace ServiceClient

open ServiceClient.Action (Keeps Meets)

variable {σ α : Type}

/-! ### Failures on the way -/

/-- An error of the client, or a failure of an operation that is not foreseen. -/
def Told (F : Failure → Prop) (f : Failure) : Prop :=
  f.fault.isClient = true ∨ F f ∧ f.isExchangeFailure = false

section

variable {F : Failure → Prop} {P : σ → Prop} {Q : α → σ → Prop} {E : σ → Prop} {m : Action σ α}

/-- What is reported is an error of the client, unless it is not foreseen. -/
theorem reporting_meets (e : ClientError) (h : Meets P m Q fun f s => F f ∧ E s) :
    Meets P (reporting e m) Q fun f s => Told F f ∧ E s := by
  refine h.rescue fun f => ?_
  by_cases hf : f.isExchangeFailure
  · rw [if_pos hf]
    exact .raiseFrom fun s hs => ⟨.inl rfl, hs.2⟩
  · rw [if_neg hf]
    exact .rethrow fun s hs => ⟨.inr ⟨hs.1, Bool.eq_false_iff.mpr hf⟩, hs.2⟩

theorem reading_meets {c : Connection σ} (hlog : ∀ event s, E s → E (c.log event s))
    (h : Meets P m Q fun f s => F f ∧ E s) :
    Meets P (reading c m) Q fun f s => Told F f ∧ E s := by
  refine h.rescue fun f => ?_
  by_cases hf : f.isExchangeFailure
  · rw [if_pos hf]
    exact Meets.bind (Q := fun _ => E) (.modify fun s hs => hlog _ s hs.2) fun _ =>
      .raiseFrom fun s hs => ⟨.inl rfl, hs⟩
  · rw [if_neg hf]
    exact .rethrow fun s hs => ⟨.inr ⟨hs.1, Bool.eq_false_iff.mpr hf⟩, hs.2⟩

end

/-! ### Reading a response -/

/-- What is known of the state in each phase of an exchange. -/
structure Phases (σ : Type) where
  /-- Nothing was asked. -/
  unasked : σ → Prop
  /-- The status has come. -/
  answered : σ → Prop
  /-- A stream is there to be read. -/
  opened : Source σ → σ → Prop
  /-- What there was to read was read. -/
  ended : σ → Prop
  /-- Something has failed. -/
  failed : σ → Prop
  /-- The connection was left after all was read. -/
  left : σ → Prop
  /-- The connection was left after something had failed. -/
  lost : σ → Prop

/-- Where a stream was asked for, it is there to be read, or there is nothing to read. -/
def Phases.found (P : Phases σ) : Option (Source σ) → σ → Prop
  | none => P.ended
  | some a => P.opened a

/-- A connection whose operations lead through the phases of reading; if they fail, they do so in a
known way. -/
structure Connection.Answers (c : Connection σ) (P : Phases σ) (F : Failure → Prop) : Prop where
  status : Meets P.unasked c.status (fun _ => P.answered) fun f s => F f ∧ P.failed s
  input : Meets P.answered c.input P.found fun f s => F f ∧ P.failed s
  errorInput : Meets P.answered c.errorInput P.found fun f s => F f ∧ P.failed s
  attach (a : Source σ) :
    Meets (P.opened a) a.attach (fun _ => P.opened a) fun f s => F f ∧ P.failed s
  readAll (a : Source σ) :
    Meets (P.opened a) a.readAll (fun _ => P.ended) fun f s => F f ∧ P.failed s
  /-- A stream that was there to be read can be closed after that, whatever came of it. -/
  close (a : Source σ) : (∃ s, P.opened a s) →
    Meets P.ended a.close (fun _ => P.ended) (fun f s => F f ∧ P.failed s) ∧
    Meets P.failed a.close (fun _ => P.failed) fun f s => F f ∧ P.failed s
  disconnect_ended : Meets P.ended c.disconnect (fun _ => P.left) fun f s => F f ∧ P.lost s
  disconnect_failed : Meets P.failed c.disconnect (fun _ => P.lost) fun f s => F f ∧ P.lost s
  failed_of_ended (s : σ) : P.ended s → P.failed s
  log_found (event : LogEvent) (a : Option (Source σ)) (s : σ) :
    P.found a s → P.found a (c.log event s)
  log_failed (event : LogEvent) (s : σ) : P.failed s → P.failed (c.log event s)

namespace Connection.Answers

variable {c : Connection σ} {P : Phases σ} {F : Failure → Prop}

theorem responseStream_meets (h : c.Answers P F) :
    Meets P.unasked (responseStream c) (fun found => P.found found.2)
      fun f s => F f ∧ P.failed s := by
  refine h.status.bind fun status => ?_
  have hlogged {m : Action σ (Option (Source σ))}
      (hm : Meets P.answered m P.found fun f s => F f ∧ P.failed s) :
      Meets P.answered
        (do
          let source ← m
          .modify (c.log (.requestCompleted c.url status))
          pure (status, source))
        (fun found => P.found found.2) fun f s => F f ∧ P.failed s :=
    hm.bind fun a => Meets.bind (Q := fun _ => P.found a) (.modify (h.log_found _ a)) fun _ =>
      .pure fun _ hs => hs
  by_cases hstatus : status ≥ failingStatus
  · simp only [if_pos hstatus]
    exact hlogged h.errorInput
  · simp only [if_neg hstatus]
    exact hlogged h.input

/-- The step that concludes raises nothing but errors of the client. -/
theorem concluding_meets (h : c.Answers P F) (status : Int) (text : String) :
    Meets P.ended (concluding status text) (fun _ => P.ended) fun f s => Told F f ∧ P.failed s := by
  by_cases hstatus : status ≥ failingStatus
  · rw [concluding, if_pos hstatus]
    refine .raise fun g s hs => ⟨.inl ?_, h.failed_of_ended s hs⟩
    rw [Failure.fault_raisedDuring]
    rfl
  · rw [concluding, if_neg hstatus]
    exact .pure fun _ hs => hs

theorem closing_meets (h : c.Answers P F) {a : Source σ} (ha : ∃ s, P.opened a s) (name : String) :
    Meets P.ended (closing name a.close) (fun _ => P.ended) (fun f s => Told F f ∧ P.failed s) ∧
    Meets P.failed (closing name a.close) (fun _ => P.failed) fun f s => Told F f ∧ P.failed s :=
  ⟨reporting_meets _ (h.close a ha).1, reporting_meets _ (h.close a ha).2⟩

theorem receiving_meets (h : c.Answers P F) :
    Meets P.unasked (receiving c) (fun _ => P.ended) fun f s => Told F f ∧ P.failed s := by
  refine (reading_meets h.log_failed h.responseStream_meets).bind ?_
  rintro ⟨status, _ | a⟩
  · exact h.concluding_meets status noResponse
  · refine (reading_meets h.log_failed (h.attach a)).bind fun _ => ?_
    have hread : Meets (P.opened a)
        (do
          let bytes ← reading c a.readAll
          concluding status (Text.drainBytes bytes))
        (fun _ => P.ended) fun f s => Told F f ∧ P.failed s :=
      (reading_meets h.log_failed (h.readAll a)).bind fun bytes =>
        h.concluding_meets status (Text.drainBytes bytes)
    intro g s hs
    obtain ⟨hended, hfailed⟩ := h.closing_meets ⟨s, hs⟩ textStreamName
    exact hread.ensure_all (fun _ => hended) hfailed g s hs

/-- **Reading a response leads through the phases**, and raises errors of the client and what is not
foreseen. -/
theorem readResponse_meets (h : c.Answers P F) :
    Meets P.unasked (readResponse c) (fun _ => P.left) fun f s => Told F f ∧ P.lost s := by
  rw [readResponse_eq]
  exact h.receiving_meets.ensure_all (fun _ => reporting_meets _ h.disconnect_ended)
    (reporting_meets _ h.disconnect_failed)

end Connection.Answers

/-! ### Sending a body -/

/-- A sink that takes a body: as long as nothing fails, one condition is kept, and another one holds
after a failure. -/
structure Sink.Takes (out : Sink σ) (taking broken : σ → Prop) : Prop where
  attach : Meets taking out.attach (fun _ => taking) fun _ => broken
  write (data : Bytes) : Meets taking (out.write data) (fun _ => taking) fun _ => broken
  close : Meets taking out.close (fun _ => taking) fun _ => broken
  close_broken : Meets broken out.close (fun _ => broken) fun _ => broken

structure Connection.Takes (c : Connection σ) (taking broken : σ → Prop) : Prop where
  enableOutput (s : σ) : taking s → taking (c.enableOutput s)
  setMethod (method : String) (s : σ) : taking s → taking (c.setMethod method s)
  output : Meets taking c.output (fun out s => taking s ∧ out.Takes taking broken) fun _ => broken
  log (event : LogEvent) (s : σ) : broken s → broken (c.log event s)

section Within

variable {τ : Type} {part : Part τ σ} {V : τ → Prop} {taking broken : σ → Prop}
  (hget : ∀ t s, V t → part.get (part.set s t) = s) (hset : ∀ t s, V t → V (part.set s t))

include hget hset

theorem Sink.Takes.within {out : Sink σ} (h : out.Takes taking broken) :
    (out.within part).Takes (fun t => V t ∧ taking (part.get t))
      fun t => V t ∧ broken (part.get t) where
  attach := h.attach.within hget hset
  write data := (h.write data).within hget hset
  close := h.close.within hget hset
  close_broken := h.close_broken.within hget hset

/-- A part of a larger state takes a body as it does alone. -/
theorem Connection.Takes.within {c : Connection σ} (h : c.Takes taking broken) :
    (c.within part).Takes (fun t => V t ∧ taking (part.get t))
      fun t => V t ∧ broken (part.get t) where
  enableOutput t ht := by
    refine ⟨hset t _ ht.1, ?_⟩
    simpa only [Connection.within, hget t _ ht.1] using h.enableOutput _ ht.2
  setMethod method t ht := by
    refine ⟨hset t _ ht.1, ?_⟩
    simpa only [Connection.within, hget t _ ht.1] using h.setMethod method _ ht.2
  output := by
    refine (h.output.within hget hset).handing ?_
    rintro out t ⟨hV, ht, hout⟩
    exact ⟨⟨hV, ht⟩, hout.within hget hset⟩
  log event t ht := by
    refine ⟨hset t _ ht.1, ?_⟩
    simpa only [Connection.within, hget t _ ht.1] using h.log event _ ht.2

end Within

namespace Connection.Takes

variable {c : Connection σ} {taking broken : σ → Prop}

theorem sending_meets (h : c.Takes taking broken) (method : String) {m : Action σ α}
    {Q : α → σ → Prop} (hm : Meets taking m Q fun _ => broken) :
    Meets taking (sending c method m) Q fun _ => broken := by
  refine hm.rescue fun f => ?_
  by_cases hf : f.isWriteFailure
  · rw [if_pos hf]
    exact Meets.bind (Q := fun _ => broken) (.modify fun s hs => h.log _ s hs) fun _ =>
      .raiseFrom fun _ hs => hs
  · rw [if_neg hf]
    exact .rethrow fun _ hs => hs

theorem closing_meets (name : String) {P : σ → Prop} {m : Action σ Unit}
    (hm : Meets P m (fun _ => P) fun _ => broken) :
    Meets P (closing name m) (fun _ => P) fun _ => broken :=
  (reporting_meets (F := fun _ => True) _ (hm.weaken (fun _ hs => hs) (fun _ _ hs => hs)
    fun _ _ hs => ⟨trivial, hs⟩)).weaken (fun _ hs => hs) (fun _ _ hs => hs) fun _ _ hs => hs.2

/-- **Sending a body keeps what is known, or fails.** -/
theorem send_meets (h : c.Takes taking broken) (body : List Text.CodePoint) (method : String) :
    Meets taking (send c body method) (fun _ => taking) fun _ => broken := by
  refine Meets.bind (Q := fun _ => taking) (.modify h.enableOutput) fun _ => ?_
  refine Meets.bind (Q := fun _ => taking) (.modify (h.setMethod method)) fun _ => ?_
  refine (h.sending_meets method h.output).bind fun out g s hs => ?_
  obtain ⟨hs, hout⟩ := hs
  have hwrite : Meets taking
      ((sending c method (out.write (Text.encode body))).ensure (closing textStreamName out.close))
      (fun _ => taking) fun _ => broken :=
    (h.sending_meets method (hout.write _)).ensure (fun _ => closing_meets _ hout.close)
      fun _ => closing_meets _ hout.close_broken
  have hbody := (h.sending_meets method hout.attach).bind fun _ => hwrite
  exact hbody.ensure (fun _ => closing_meets _ hout.close)
    (fun _ => closing_meets _ hout.close_broken) g s hs

end Connection.Takes

end ServiceClient
