/-
**What comes of sending a body.**

The writer and the stream beneath it are two layers over one resource, and both are closed.  If the
first close fails, the stream is still open, and the second close finds it so and closes it; if the
first close succeeds, the second one has nothing to do.  So the stream is closed in the end,
whatever fails on the way.  A failure to close is met last and counts for more than a failure to
write, and a body that could be written is complete.

Main definitions:

* `ServiceClient.SendVerdict`: what is to come of sending, given what fails;
* `ServiceClient.Sink.Course`: a sink that takes a body, fails as foreseen and can be closed twice;
* `ServiceClient.Tracked.Fresh`: a stream in memory with which nothing was done yet.

Main results:

* `ServiceClient.Sink.Course.send_meets`: **sending ends as what fails says, and the sink is
  released**;
* `ServiceClient.Tracked.course`: a fresh stream is such a sink;
* `ServiceClient.Recording.send_verdict`: **a body that is sent over a recording connection**.
-/

import ServiceClient.Exchange
import ServiceClient.Proofs.Action.Gives
import ServiceClient.Proofs.Recording
import ServiceClient.Recording

set_option autoImplicit false

namespace ServiceClient

open ServiceClient.Action (Meets Never)

variable {σ : Type}

/-! ### Faults that decide -/

namespace Failure

variable {f f' : Failure}

theorem isWriteFailure_congr (h : f.fault = f'.fault) : f.isWriteFailure = f'.isWriteFailure := by
  simp only [isWriteFailure, isA, h]

/-- What the fault of a failure decides is known of every failure with the fault of one that is
set. -/
theorem of_map_fault {p : Failure → Bool} (hp : ∀ f f' : Failure, f.fault = f'.fault → p f = p f')
    {slot : Option Failure} (h : ∀ f, slot = some f → p f = true) (f : Failure)
    (hf : slot.map fault = some f.fault) : p f = true := by
  obtain ⟨f', hset, hfault⟩ := Option.map_eq_some_iff.mp hf
  exact hp f' f hfault ▸ h f' hset

end Failure

/-! ### Verdicts -/

/-- What is to come of sending with a method, given the faults of the write and of the first
close. -/
structure SendVerdict (method : String) (write close : Option Fault) (r : Except Failure Unit) :
    Prop where
  /-- A failure to close comes first. -/
  unreleased : ∀ x, close = some x →
    ∃ error f, r = .error f ∧ f.fault = .client error ∧ error.kind = .resourceRelease ∧
      f.cause? = some x
  /-- A failure to write comes second. -/
  unwritten : close = none → ∀ x, write = some x →
    ∃ error f, r = .error f ∧ f.fault = .client error ∧ error.kind = .generic ∧
      error.message = "Could not perform " ++ method ++ " request." ∧ f.cause? = some x
  /-- Without them it returns. -/
  returns : close = none → write = none → r = .ok ()

namespace SendVerdict

variable {method : String} {write close : Option Fault} {f : Failure}

theorem of_close (name : String) (h : close = some f.fault) :
    SendVerdict method write close (.error (.of (.unclosed name) f)) where
  unreleased x hx := by
    obtain rfl : f.fault = x := Option.some.inj (h.symm.trans hx)
    exact ⟨_, _, rfl, rfl, rfl, rfl⟩
  unwritten hnone := by simp [h] at hnone
  returns hnone := by simp [h] at hnone

theorem of_write (url : String) (hclose : close = none) (h : write = some f.fault) :
    SendVerdict method write close (.error (.of (.unwritten method url) f)) where
  unreleased x hx := by simp [hclose] at hx
  unwritten _ x hx := by
    obtain rfl : f.fault = x := Option.some.inj (h.symm.trans hx)
    exact ⟨_, _, rfl, rfl, rfl, rfl, rfl⟩
  returns _ hnone := by simp [h] at hnone

theorem of_none (hclose : close = none) (hwrite : write = none) :
    SendVerdict method write close (.ok ()) where
  unreleased x hx := by simp [hclose] at hx
  unwritten _ x hx := by simp [hwrite] at hx
  returns _ _ := rfl

end SendVerdict

/-! ### Sinks that take a body -/

/-- A sink that is ready for a body.  The write and the first close may fail, with faults that are
known; the sink is then held, until a close succeeds. -/
structure Sink.Course (out : Sink σ) (data : Bytes) (write close : Option Fault)
    (ready : σ → Prop) (held : Option Fault → σ → Prop) (released : σ → Prop) : Prop where
  attach : Meets ready out.attach (fun _ => ready) Never
  write : Meets ready (out.write data) (fun _ s => write = none ∧ held close s)
    fun f s => write = some f.fault ∧ held close s
  close (pending : Option Fault) :
    Meets (held pending) out.close (fun _ s => pending = none ∧ released s)
      fun f s => pending = some f.fault ∧ held none s
  close_released : Meets released out.close (fun _ => released) Never

namespace Sink.Course

variable {out : Sink σ} {c : Connection σ} {data : Bytes} {body : List Text.CodePoint}
  {method : String} {write close : Option Fault} {ready : σ → Prop}
  {held : Option Fault → σ → Prop} {released : σ → Prop}

/-- What the write raises becomes an error that names the method. -/
theorem sending_meets (h : out.Course data write close ready held released)
    (hlog : ∀ event s, held close s → held close (c.log event s))
    (hwrite : ∀ f : Failure, write = some f.fault → f.isWriteFailure) :
    Meets ready (sending c method (out.write data)) (fun _ s => write = none ∧ held close s)
      fun f s => (∃ f', write = some f'.fault ∧ f = .of (.unwritten method c.url) f') ∧
        held close s := by
  refine h.write.rescue fun f => .given fun hf => ?_
  rw [if_pos (hwrite f hf)]
  exact Meets.bind (Q := fun _ => held close) (.modify fun s hs => hlog _ s hs) fun _ =>
    .raiseFrom fun s hs => ⟨⟨f, hf, rfl⟩, hs⟩

/-- What the first close raises becomes an error too, and the sink is still held. -/
theorem closing_meets (h : out.Course data write close ready held released) (name : String)
    (hclose : ∀ f : Failure, close = some f.fault → f.isExchangeFailure) :
    Meets (held close) (closing name out.close) (fun _ s => close = none ∧ released s)
      fun f s => (∃ f', close = some f'.fault ∧ f = .of (.unclosed name) f') ∧ held none s := by
  refine (h.close close).rescue fun f => .given fun hf => ?_
  rw [if_pos (hclose f hf)]
  exact .raiseFrom fun s hs => ⟨⟨f, hf, rfl⟩, hs⟩

/-- A sink that is released, or of which no close will fail, is closed without a failure. -/
theorem closing_again (h : out.Course data write close ready held released) (name : String) :
    Meets (fun s => released s ∨ held none s) (closing name out.close) (fun _ => released)
      Never := by
  refine Action.Meets.rescue_of_never ?_ _
  rintro g s (hs | hs)
  · exact h.close_released g s hs
  · exact (h.close none g s hs).weaken (fun _ _ hs => hs.2) fun _ _ hs => by cases hs.1

/-- Once the writer is closed, it is settled what sending comes to, and the sink is released or can
be. -/
theorem writing_meets (h : out.Course data write close ready held released)
    (hlog : ∀ event s, held close s → held close (c.log event s))
    (hwrite : ∀ f : Failure, write = some f.fault → f.isWriteFailure)
    (hclose : ∀ f : Failure, close = some f.fault → f.isExchangeFailure) :
    Meets ready
      ((sending c method (out.write data)).ensure (closing textStreamName out.close))
      (fun r s => SendVerdict method write close (.ok r) ∧ released s)
      fun f s => SendVerdict method write close (.error f) ∧ (released s ∨ held none s) := by
  have hclosing := h.closing_meets textStreamName hclose
  refine (h.sending_meets hlog hwrite).ensure (fun _ => .given fun hnone => ?_)
    fun f => .given ?_
  · refine hclosing.weaken (fun _ hs => hs) (fun _ s hs => ⟨.of_none hs.1 hnone, hs.2⟩) ?_
    rintro _ s ⟨⟨f, hf, rfl⟩, hs⟩
    exact ⟨.of_close textStreamName hf, .inr hs⟩
  · rintro ⟨f, hf, rfl⟩
    refine hclosing.weaken (fun _ hs => hs)
      (fun _ s hs => ⟨.of_write c.url hs.1 hf, .inl hs.2⟩) ?_
    rintro _ s ⟨⟨f, hf, rfl⟩, hs⟩
    exact ⟨.of_close textStreamName hf, .inr hs⟩

/-- **Sending ends as what fails says, and the sink is released.** -/
theorem send_meets (h : out.Course (Text.encode body) write close ready held released)
    {P opening : σ → Prop} (henter : ∀ s, P s → opening (c.setMethod method (c.enableOutput s)))
    (hout : Meets opening c.output (fun out' s => out' = out ∧ ready s) Never)
    (hlog : ∀ event s, held close s → held close (c.log event s))
    (hwrite : ∀ f : Failure, write = some f.fault → f.isWriteFailure)
    (hclose : ∀ f : Failure, close = some f.fault → f.isExchangeFailure) :
    Meets P (send c body method)
      (fun r s => SendVerdict method write close (.ok r) ∧ released s)
      fun f s => SendVerdict method write close (.error f) ∧ released s := by
  refine Meets.bind (Q := fun _ s => opening (c.setMethod method s)) (.modify henter) fun _ => ?_
  refine Meets.bind (Q := fun _ => opening) (.modify fun _ hs => hs) fun _ => ?_
  refine Meets.bind (hout.rescue_of_never _) fun out' => .given fun hsame => ?_
  subst out'
  have hagain := h.closing_again out.name
  refine Meets.ensure (Meets.bind (h.attach.rescue_of_never _) fun _ =>
    h.writing_meets hlog hwrite hclose) (fun _ => .given fun hv => ?_)
    fun _ => .given fun hv => ?_
  · exact hagain.weaken (fun _ hs => .inl hs) (fun _ _ hs => ⟨hv, hs⟩) fun _ _ => False.elim
  · exact hagain.weaken (fun _ hs => hs) (fun _ _ hs => ⟨hv, hs⟩) fun _ _ => False.elim

end Sink.Course

/-! ### Streams in memory -/

namespace Tracked

/-- A stream with which nothing was done yet; it may be set to fail. -/
structure Fresh (t : Tracked) : Prop where
  content_eq : t.content = []
  position_eq : t.position = 0
  closed_eq : t.closed = false

variable {data : Bytes} {t : Tracked}

/-- An open stream of which the next close fails as foreseen. -/
structure Held (written : Prop) (data : Bytes) (pending : Option Fault) (t : Tracked) : Prop where
  closed_eq : t.closed = false
  closeFailure_eq : t.closeFailure.map Failure.fault = pending
  content_eq : written → t.content = data

structure Released (written : Prop) (data : Bytes) (t : Tracked) : Prop where
  closed_eq : t.closed = true
  captured_eq : written → t.captured = data

/-- A fresh stream takes any bytes, unless it is set to fail. -/
theorem write_fresh (h : t.Fresh) :
    Meets (t = ·) (write data)
      (fun _ t' => t.writeFailure.map Failure.fault = none ∧
        Held (t.writeFailure = none) data (t.closeFailure.map Failure.fault) t')
      fun f t' => t.writeFailure.map Failure.fault = some f.fault ∧
        Held (t.writeFailure = none) data (t.closeFailure.map Failure.fault) t' := by
  rintro g _ rfl
  cases hwrite : t.writeFailure with
  | some f =>
      have hrun : write data g t = (.error (f.raisedDuring g),
          { t with writeFailure := some (f.raisedDuring g) }) := by
        simp [write, Action.strike, Action.run_bind, hwrite]
      rw [hrun]
      exact .error ⟨by simp, h.closed_eq, rfl, by rintro ⟨⟩⟩
  | none =>
      have hrun : write data g t = (.ok (), put data t) := by
        simp [write, demandOpen, Action.strike, Action.run_bind, hwrite, h.closed_eq]
      have hcontent : (put data t).content = data := by
        simp [put, h.content_eq, h.position_eq]
      rw [hrun]
      exact .ok ⟨rfl, h.closed_eq, rfl, fun _ => hcontent⟩

/-- The first close that is set to fail leaves the stream open; any other one closes it, and what it
holds is kept. -/
theorem close_held (written : Prop) (pending : Option Fault) :
    Meets (Held written data pending) close
      (fun _ t => pending = none ∧ Released written data t)
      fun f t => pending = some f.fault ∧ Held written data none t := by
  rintro g t ⟨hopen, rfl, hcontent⟩
  cases hclose : t.closeFailure with
  | some f =>
      have hrun : close g t = (.error (f.raisedDuring g),
          { t with
            closeCount := t.closeCount + 1, captured := t.content, closeFailure := none }) := by
        simp [close, Action.strike, Action.run_bind, hopen, hclose]
      rw [hrun]
      exact .error ⟨by simp, hopen, rfl, hcontent⟩
  | none =>
      have hrun : close g t = (.ok (),
          { t with closeCount := t.closeCount + 1, captured := t.content, closed := true }) := by
        simp [close, Action.strike, Action.run_bind, hopen, hclose]
      rw [hrun]
      exact .ok ⟨rfl, rfl, hcontent⟩

/-- A closed stream stays as it is. -/
theorem close_released (written : Prop) :
    Meets (Released written data) close (fun _ => Released written data) Never := by
  intro g t ht
  have hrun : close g t = (.ok (), t) := by simp [close, Action.run_bind, ht.closed_eq]
  rw [hrun]
  exact .ok ht

/-- **A fresh stream takes a body**: it fails as it is set to, and can be closed twice. -/
theorem course (h : t.Fresh) (data : Bytes) :
    sink.Course data (t.writeFailure.map Failure.fault) (t.closeFailure.map Failure.fault) (t = ·)
      (Held (t.writeFailure = none) data) (Released (t.writeFailure = none) data) where
  attach := by
    rintro g _ rfl
    have hrun : sink.attach g t = (.ok (), t) := by
      simp [sink, demandOpen, Action.run_bind, h.closed_eq]
    rw [hrun]
    exact .ok rfl
  write := write_fresh h
  close pending := close_held _ pending
  close_released := close_released _

end Tracked

/-! ### Recording connections -/

namespace Recording

variable {url : String} {r : Recording} {t : Tracked} {data : Bytes}

/-- The states of a connection that differ from `r` in the output stream alone, which is as `P`
says. -/
def Holding (r : Recording) (P : Tracked → Prop) (s : Recording × List LogEvent) : Prop :=
  ∃ t, s.1 = outputPart.set t r ∧ P t

theorem holding_and {p : Prop} {P : Tracked → Prop} {s : Recording × List LogEvent}
    (h : Holding r (fun t => p ∧ P t) s) : p ∧ Holding r P s := by
  obtain ⟨t, ht, hp, hP⟩ := h
  exact ⟨hp, t, ht, hP⟩

/-- What is done with the output stream changes nothing else. -/
theorem meets_holding {α : Type} {m : Action Tracked α} {P : Tracked → Prop}
    {Q : α → Tracked → Prop} {E : Failure → Tracked → Prop} (h : Meets P m Q E) :
    Meets (Holding r P) ((m.within outputPart).within .first) (fun a => Holding r (Q a))
      fun f => Holding r (E f) := by
  rintro g ⟨_, log⟩ ⟨t, rfl, ht⟩
  have hend := h g t ht
  simp only [Action.within, Part.first, outputPart, Option.getD_some]
  generalize m g t = x at hend ⊢
  cases hend with
  | ok h => exact .ok ⟨_, rfl, h⟩
  | error h => exact .error ⟨_, rfl, h⟩

def bodyStream : Sink (Recording × List LogEvent) :=
  (Tracked.sink.within outputPart).within .first

/-- A stream takes a body in a connection as it does alone. -/
theorem course_holding {write close : Option Fault} {ready : Tracked → Prop}
    {held : Option Fault → Tracked → Prop} {released : Tracked → Prop}
    (h : Tracked.sink.Course data write close ready held released) :
    bodyStream.Course data write close (Holding r ready) (fun pending => Holding r (held pending))
      (Holding r released) where
  attach := (meets_holding h.attach).weaken (fun _ hs => hs) (fun _ _ hs => hs)
    fun _ _ ⟨_, _, hs⟩ => hs
  write := (meets_holding h.write).weaken (fun _ hs => hs) (fun _ _ => holding_and)
    fun _ _ => holding_and
  close pending := (meets_holding (h.close pending)).weaken (fun _ hs => hs)
    (fun _ _ => holding_and) fun _ _ => holding_and
  close_released := (meets_holding h.close_released).weaken (fun _ hs => hs) (fun _ _ hs => hs)
    fun _ _ ⟨_, _, hs⟩ => hs

theorem openOutput_of_some (henabled : r.outputEnabled = true) (hout : r.output = some t)
    (g : Option Failure) :
    openOutput g r = (.ok (Tracked.sink.within outputPart), outputPart.set t r) := by
  rw [openOutput, Action.run_bind_ok (Action.run_gets ..), if_pos henabled,
    Action.run_bind_ok (Action.run_modify ..), hout]
  rfl

/-- Once output is enabled, the stream that was given takes the body. -/
theorem output_meets (henabled : r.outputEnabled = true) (hout : r.output = some t) :
    Meets (fun s => s.1 = r) (connection url).output
      (fun out s => out = bodyStream ∧ Holding r (t = ·) s) Never := by
  rintro g ⟨r, log⟩ rfl
  have hrun : (connection url).output g (r, log) = (.ok bodyStream, (outputPart.set t r, log)) :=
    Action.run_handing _ (run_first (openOutput_of_some henabled hout g))
  rw [hrun]
  exact .ok ⟨rfl, t, rfl, rfl⟩

/-- **A body that is sent over a recording connection.**  Whatever is in flight, and however the
fresh stream of the connection is set to fail, sending ends as the verdict says.  The stream is
closed, the method and the permission are set, and nothing else of the connection is changed: its
status was not asked for, and it was not disconnected.  If the write is not set to fail, the stream
has captured the whole body. -/
theorem send_verdict (url : String) (body : List Text.CodePoint) (method : String)
    (g : Option Failure) (log : List LogEvent) (hout : r.output = some t) (hfresh : t.Fresh)
    (hwrite : ∀ f, t.writeFailure = some f → f.isWriteFailure)
    (hclose : ∀ f, t.closeFailure = some f → f.isExchangeFailure) :
    ∃ result t' log',
      send (connection url) body method g (r, log) =
        (result, ({ r with method, outputEnabled := true, output := some t' }, log')) ∧
      SendVerdict method (t.writeFailure.map Failure.fault) (t.closeFailure.map Failure.fault)
        result ∧
      t'.closed = true ∧ (t.writeFailure = none → t'.captured = Text.encode body) := by
  have hwrite' := Failure.of_map_fault (fun _ _ => Failure.isWriteFailure_congr) hwrite
  have hclose' := Failure.of_map_fault (fun _ _ => Failure.isExchangeFailure_congr) hclose
  -- entering sets the method and the permission; after that only the stream changes
  have hcourse := course_holding (r := { r with method, outputEnabled := true })
    (Tracked.course hfresh (Text.encode body))
  have hmeets : Meets (fun s => s.1 = r) (send (connection url) body method) _ _ :=
    hcourse.send_meets (fun s hs => by rw [← hs]; rfl) (output_meets rfl hout) (fun _ _ hs => hs)
      hwrite' hclose'
  obtain ⟨hverdict, t', hstate, hreleased⟩ := (hmeets g (r, log) rfl).both
  exact ⟨_, t', _, Prod.ext rfl (Prod.ext hstate rfl), hverdict, hreleased.closed_eq,
    hreleased.captured_eq⟩

/-- The write and the first close both fail, and the close counts. -/
theorem send_verdict_both :
    let t : Tracked :=
      { writeFailure := some (.plain .encoding), closeFailure := some (.plain .remoteProtocol) }
    ∃ error f t' log',
      send (connection "http://localhost/odata.svc") [.scalar 'a', .surrogate 0xD800] "PUT" none
          ({ output := some t }, []) =
        (.error f, ({ method := "PUT", outputEnabled := true, output := some t' }, log')) ∧
      f.fault = .client error ∧ error.kind = .resourceRelease ∧
      f.cause? = some (.system .remoteProtocol none) ∧ t'.closed = true := by
  intro t
  obtain ⟨result, t', log', hrun, hverdict, hclosed, -⟩ :=
    send_verdict "http://localhost/odata.svc" [.scalar 'a', .surrogate 0xD800] "PUT" none []
      (r := { output := some t }) (t := t) rfl ⟨rfl, rfl, rfl⟩ (fun f hf => by cases hf; rfl)
      fun f hf => by cases hf; rfl
  obtain ⟨error, f, rfl, hfault, hkind, hcause⟩ := hverdict.unreleased _ rfl
  exact ⟨error, f, t', log', hrun, hfault, hkind, hcause, hclosed⟩

/-- What was written is kept by the close that fails and by the one that does not. -/
example :
    (send (connection "http://localhost/odata.svc") [.scalar 'a', .surrogate 0xD800] "PUT" none
      ({ output := some { closeFailure := some (.plain .io) } }, [])).2.1.sentBody =
        [0x61, 0x3F] := by decide +kernel

end Recording

end ServiceClient
