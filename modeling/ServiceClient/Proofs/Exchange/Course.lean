/-
**The courses of an exchange.**

An exchange asks one thing of its connection after the other, and each of them may succeed or fail.
A *course* says how each of them went.  It fixes what the exchange adds to the record, how the
exchange ends, and which faults are raised on the way.  Whatever the connection does, an exchange
takes one of these courses; so whatever is to be said of all exchanges is said of the courses.

Main definitions:

* `ServiceClient.Transmission`: how a body is sent;
* `ServiceClient.Reception`: how a response is read, up to the disconnect.

Main results:

* `ServiceClient.send_records`, `ServiceClient.readResponse_records`: **whatever the connection
  does, sending and reading take one of the courses**.
-/

import ServiceClient.Proofs.Exchange.Recorded

set_option autoImplicit false

namespace ServiceClient

open ServiceClient.Action (Records)

variable {σ α : Type}

/-- The event of an operation that gives nothing. -/
def doing (n : Nat) (operation : Operation) (g : Option Failure) (r : Except Failure Unit) :
    Event :=
  ⟨n, operation, g, r.map fun _ => .done⟩

/-! ### Sending a body -/

/-- How a body is sent. -/
inductive Transmission
  /-- The stream that takes the body cannot be got. -/
  | noOutput (f : Failure)
  /-- No writer can be put over the stream; the stream is closed. -/
  | unattached (name : String) (f : Failure) (closed : Except Failure Unit)
  /-- The body is written; the writer is closed, and then the stream. -/
  | written (name : String) (wrote writerClosed closed : Except Failure Unit)

namespace Transmission

/-- How writing ends, with the writer closed. -/
def writing (method url : String) (wrote writerClosed : Except Failure Unit) :
    Except Failure Unit :=
  overruled (wrote.mapError (·.unsent method url))
    (writerClosed.mapError (·.unreleased (.unclosed textStreamName)))

def result (method url : String) : Transmission → Except Failure Unit
  | noOutput f => .error (f.unsent method url)
  | unattached name f closed =>
      overruled (.error (f.unsent method url)) (closed.mapError (·.unreleased (.unclosed name)))
  | written name wrote writerClosed closed =>
      overruled (writing method url wrote writerClosed)
        (closed.mapError (·.unreleased (.unclosed name)))

def record (method url : String) (n : Nat) (g : Option Failure) : Transmission → List Event
  | noOutput f =>
      [doing n .enableOutput none (.ok ()), doing n .setMethod none (.ok ()),
        doing n .output g (.error f)]
  | unattached _ f closed =>
      [doing n .enableOutput none (.ok ()), doing n .setMethod none (.ok ()),
        doing n .output g (.ok ()), doing n .attachWriter g (.error f),
        doing n .closeOutput (some (f.unsent method url)) closed]
  | written _ wrote writerClosed closed =>
      [doing n .enableOutput none (.ok ()), doing n .setMethod none (.ok ()),
        doing n .output g (.ok ()), doing n .attachWriter g (.ok ()), doing n .write g wrote,
        doing n .closeOutput (inFlightAfter g (wrote.mapError (·.unsent method url))) writerClosed,
        doing n .closeOutput (inFlightAfter g (writing method url wrote writerClosed)) closed]

end Transmission

/-- The writer is closed over what was written. -/
theorem writing_records (n : Nat) (c : Connection σ) (method : String) (out : Sink σ)
    (data : Bytes) (g : Option Failure) (w : Watched σ) :
    ∃ (wrote closed : Except Failure Unit) (w' : Watched σ),
      Records
        ((sending (c.watched n) method ((out.watched n).write data)).ensure
          (closing textStreamName (out.watched n).close))
        g w
        [doing n .write g wrote,
          doing n .closeOutput (inFlightAfter g (wrote.mapError (·.unsent method c.url))) closed]
        (Transmission.writing method c.url wrote closed) w' := by
  obtain ⟨wrote, w₁, hwrite⟩ := Records.watching n .write (fun _ => .done) (out.write data) g w
  obtain ⟨w₂, hsend⟩ := hwrite.sending n c method
  obtain ⟨closed, w₃, hclose⟩ := Records.watching n .closeOutput (fun _ => .done) out.close
    (inFlightAfter g (wrote.mapError (·.unsent method c.url))) w₂
  exact ⟨wrote, closed, w₃, hsend.ensure (hclose.reporting _)⟩

/-- **Whatever the connection does, sending a body takes one of the courses.** -/
theorem send_records (n : Nat) (c : Connection σ) (body : List Text.CodePoint) (method : String)
    (g : Option Failure) (w : Watched σ) :
    ∃ (k : Transmission) (w' : Watched σ),
      Records (send (c.watched n) body method) g w (k.record method c.url n g)
        (k.result method c.url) w' := by
  have henable : Records (.modify (c.watched n).enableOutput) g w
      [doing n .enableOutput none (.ok ())] (.ok ()) _ := .modify rfl rfl
  have hmethod (w₁ : Watched σ) : Records (.modify ((c.watched n).setMethod method)) g w₁
      [doing n .setMethod none (.ok ())] (.ok ()) _ := .modify rfl rfl
  obtain ⟨out, w₁, hout⟩ := Records.watching n .output (fun _ => .done) c.output g
    ((c.watched n).setMethod method ((c.watched n).enableOutput w))
  obtain ⟨w₂, hsend⟩ := (hout.handing (Sink.watched n)).sending n c method
  -- without an output there is nothing to close
  cases out with
  | error f => exact ⟨.noOutput f, w₂, henable.bind ((hmethod _).bind hsend.bind_error)⟩
  | ok out =>
      obtain ⟨attached, w₃, hatt⟩ :=
        Records.watching n .attachWriter (fun _ => .done) out.attach g w₂
      obtain ⟨w₄, hattach⟩ := hatt.sending n c method
      cases attached with
      | error f =>
          obtain ⟨closed, w₅, hclose⟩ := Records.watching n .closeOutput (fun _ => .done) out.close
            (some (f.unsent method c.url)) w₄
          exact ⟨.unattached out.name f closed, w₅, henable.bind ((hmethod _).bind
            (hsend.bind (hattach.bind_error.ensure (hclose.reporting _))))⟩
      | ok u =>
          obtain ⟨wrote, writerClosed, w₅, hwrite⟩ :=
            writing_records n c method out (Text.encode body) g w₄
          obtain ⟨closed, w₆, hclose⟩ := Records.watching n .closeOutput (fun _ => .done) out.close
            (inFlightAfter g (Transmission.writing method c.url wrote writerClosed)) w₅
          have hbody := (hattach.bind (k := fun _ => _) hwrite).ensure
            (hclose.reporting (.unclosed out.name))
          exact ⟨.written out.name wrote writerClosed closed, w₆,
            henable.bind ((hmethod _).bind (hsend.bind hbody))⟩

/-! ### Reading a response -/

/-- How a response is read, up to the disconnect. -/
inductive Reception
  /-- The status cannot be got. -/
  | noStatus (f : Failure)
  /-- The stream of the response cannot be got. -/
  | noStream (status : Int) (f : Failure)
  /-- The response has no stream. -/
  | absent (status : Int)
  /-- No reader can be put over the stream. -/
  | unattached (status : Int) (f : Failure)
  /-- The stream is read, and its reader is closed. -/
  | streamed (status : Int) (bytes : Except Failure Bytes) (closed : Except Failure Unit)

namespace Reception

/-- What follows from the status and the text of a response. -/
def concluded (g : Option Failure) (status : Int) (text : String) : Except Failure ResponseResult :=
  if status ≥ failingStatus then
    .error ((Failure.client (.ofStatus status (ClientError.statusPreamble ++ text))).raisedDuring g)
  else .ok { statusCode := status, text, isError := false }

/-- How reading ends, before anything is released. -/
def drained (g : Option Failure) : Reception → Except Failure ResponseResult
  | noStatus f => .error f.unread
  | noStream _ f => .error f.unread
  | absent status => concluded g status noResponse
  | unattached _ f => .error f.unread
  | streamed status (.ok bytes) _ => concluded g status (Text.drainBytes bytes)
  | streamed _ (.error f) _ => .error f.unread

/-- How closing the reader goes; there may be none to close. -/
def readerClosed : Reception → Except Failure Unit
  | streamed _ _ closed => closed
  | _ => .ok ()

/-- How reading ends, with the reader closed. -/
def closed (g : Option Failure) (k : Reception) : Except Failure ResponseResult :=
  overruled (k.drained g) (k.readerClosed.mapError (·.unreleased (.unclosed textStreamName)))

/-- How reading ends, with the connection disconnected. -/
def result (url : String) (g : Option Failure) (k : Reception)
    (disconnected : Except Failure Unit) : Except Failure ResponseResult :=
  overruled (k.closed g) (disconnected.mapError (·.unreleased (.undisconnected url)))

/-- The event of asking for the stream of a response with a given status. -/
def asking (n : Nat) (g : Option Failure) (status : Int) (found : Except Failure Bool) : Event :=
  ⟨n, if status ≥ failingStatus then .errorInput else .input, g, found.map .stream⟩

/-- What reading adds to the record, up to the disconnect. -/
def events (n : Nat) (g : Option Failure) (k : Reception) : List Event :=
  match k with
  | noStatus f => [⟨n, .status, g, .error f⟩]
  | noStream status f => [⟨n, .status, g, .ok (.status status)⟩, asking n g status (.error f)]
  | absent status => [⟨n, .status, g, .ok (.status status)⟩, asking n g status (.ok false)]
  | unattached status f =>
      [⟨n, .status, g, .ok (.status status)⟩, asking n g status (.ok true),
        doing n .attachReader g (.error f)]
  | streamed status bytes closed =>
      [⟨n, .status, g, .ok (.status status)⟩, asking n g status (.ok true),
        doing n .attachReader g (.ok ()), ⟨n, .readAll, g, bytes.map .bytes⟩,
        doing n .closeInput (inFlightAfter g (k.drained g)) closed]

def record (n : Nat) (g : Option Failure) (k : Reception) (disconnected : Except Failure Unit) :
    List Event :=
  k.events n g ++ [doing n .disconnect (inFlightAfter g (k.closed g)) disconnected]

end Reception

/-- The step that concludes leaves the record alone. -/
theorem concluding_records (status : Int) (text : String) (g : Option Failure) (w : Watched σ) :
    Records (concluding status text) g w [] (Reception.concluded g status text) w := by
  refine ⟨?_, by simp, rfl⟩
  by_cases h : status ≥ failingStatus
  · simp [concluding, Reception.concluded, h]
  · simp [concluding, Reception.concluded, h]

/-- One of the two streams of a response is asked for, and that is logged. -/
theorem asking_records (n : Nat) (c : Connection σ) (status : Int)
    {m : Action σ (Option (Source σ))} {operation : Operation}
    (h : operation = if status ≥ failingStatus then .errorInput else .input)
    (g : Option Failure) (w : Watched σ) :
    ∃ (found : Except Failure (Option (Source σ))) (w' : Watched σ),
      Records
        (do
          let source ← (do
            pure ((← watching n operation (.stream ·.isSome) m).map (·.watched n)))
          .modify ((c.watched n).log (.requestCompleted (c.watched n).url status))
          pure (status, source))
        g w [Reception.asking n g status (found.map (·.isSome))]
        (found.map fun s => (status, s.map (·.watched n))) w' := by
  subst h
  obtain ⟨found, w₁, hm⟩ := Records.watching n _ (.stream ·.isSome) m g w
  have hfound := hm.handing fun s => s.map (Source.watched n)
  cases found with
  | error f => exact ⟨.error f, w₁, hfound.bind_error⟩
  | ok s =>
      have hlog : Records (.modify ((c.watched n).log (.requestCompleted c.url status))) g w₁ []
          (.ok ()) _ := .modify (by simp [Connection.watched, Watched.behind]) rfl
      exact ⟨.ok s, _, hfound.bind (hlog.bind (.pure _))⟩

/-- The stream of a response is got in two steps, each of which may fail. -/
theorem responseStream_records (n : Nat) (c : Connection σ) (g : Option Failure) (w : Watched σ) :
    ∃ w',
      (∃ f, Records (responseStream (c.watched n)) g w [⟨n, .status, g, .error f⟩] (.error f) w') ∨
      ∃ (status : Int) (found : Except Failure (Option (Source σ))),
        Records (responseStream (c.watched n)) g w
          [⟨n, .status, g, .ok (.status status)⟩,
            Reception.asking n g status (found.map (·.isSome))]
          (found.map fun s => (status, s.map (·.watched n))) w' := by
  obtain ⟨status, w₁, hstatus⟩ := Records.watching n .status .status c.status g w
  cases status with
  | error f => exact ⟨w₁, .inl ⟨f, hstatus.bind_error⟩⟩
  | ok status =>
      by_cases h : status ≥ failingStatus
      · obtain ⟨found, w₂, hfound⟩ :=
          asking_records n c status (m := c.errorInput) (if_pos h).symm g w₁
        refine ⟨w₂, .inr ⟨status, found, hstatus.bind ?_⟩⟩
        simp only [if_pos h]
        exact hfound
      · obtain ⟨found, w₂, hfound⟩ := asking_records n c status (m := c.input) (if_neg h).symm g w₁
        refine ⟨w₂, .inr ⟨status, found, hstatus.bind ?_⟩⟩
        simp only [if_neg h]
        exact hfound

/-- A stream is read, and its reader is closed. -/
theorem streamed_records (n : Nat) (c : Connection σ) (status : Int) (a : Source σ)
    (g : Option Failure) (w : Watched σ) :
    ∃ (bytes : Except Failure Bytes) (closed : Except Failure Unit) (w' : Watched σ),
      Records
        (Action.ensure
          (do
            let bytes ← reading (c.watched n) (a.watched n).readAll
            concluding status (Text.drainBytes bytes))
          (closing textStreamName (a.watched n).close))
        g w
        [⟨n, .readAll, g, bytes.map .bytes⟩,
          doing n .closeInput
            (inFlightAfter g ((Reception.streamed status bytes closed).drained g)) closed]
        ((Reception.streamed status bytes closed).closed g) w' := by
  obtain ⟨bytes, w₁, hbytes⟩ := Records.watching n .readAll .bytes a.readAll g w
  obtain ⟨w₂, hread⟩ := hbytes.reading n c
  -- how the close goes has no part in what is in flight when it starts
  obtain ⟨closed, w₃, hclose⟩ := Records.watching n .closeInput (fun _ => .done) a.close
    (inFlightAfter g ((Reception.streamed status bytes (.ok ())).drained g)) w₂
  cases bytes with
  | error f => exact ⟨.error f, closed, w₃, hread.bind_error.ensure (hclose.reporting _)⟩
  | ok bytes =>
      have hbody := hread.bind (k := fun bytes => concluding status (Text.drainBytes bytes))
        (concluding_records status (Text.drainBytes bytes) g w₂)
      exact ⟨.ok bytes, closed, w₃, hbody.ensure (hclose.reporting _)⟩

/-- Reading a response, up to the disconnect. -/
def receiving (c : Connection σ) : Action σ ResponseResult := do
  let (status, source) ← reading c (responseStream c)
  match source with
  | none => concluding status noResponse
  | some source => do
      reading c source.attach
      Action.ensure
        (do
          let bytes ← reading c source.readAll
          concluding status (Text.drainBytes bytes))
        (closing textStreamName source.close)

theorem readResponse_eq (c : Connection σ) :
    readResponse c = (receiving c).ensure (disconnecting c) := rfl

theorem receiving_records (n : Nat) (c : Connection σ) (g : Option Failure) (w : Watched σ) :
    ∃ (k : Reception) (w' : Watched σ),
      Records (receiving (c.watched n)) g w (k.events n g) (k.closed g) w' := by
  obtain ⟨w₁, ⟨f, hstream⟩ | ⟨status, found, hstream⟩⟩ := responseStream_records n c g w
  · obtain ⟨w₂, hread⟩ := hstream.reading n c
    exact ⟨.noStatus f, w₂, hread.bind_error⟩
  · obtain ⟨w₂, hread⟩ := hstream.reading n c
    cases found with
    | error f => exact ⟨.noStream status f, w₂, hread.bind_error⟩
    | ok source =>
        cases source with
        | none =>
            exact ⟨.absent status, w₂, hread.bind (concluding_records status noResponse g w₂)⟩
        | some a =>
            obtain ⟨attached, w₃, hatt⟩ :=
              Records.watching n .attachReader (fun _ => .done) a.attach g w₂
            obtain ⟨w₄, hattach⟩ := hatt.reading n c
            cases attached with
            | error f => exact ⟨.unattached status f, w₄, hread.bind hattach.bind_error⟩
            | ok u =>
                obtain ⟨bytes, closed, w₅, hbytes⟩ := streamed_records n c status a g w₄
                exact ⟨.streamed status bytes closed, w₅,
                  hread.bind (hattach.bind (k := fun _ => _) hbytes)⟩

/-- **Whatever the connection does, reading a response takes one of the courses.** -/
theorem readResponse_records (n : Nat) (c : Connection σ) (g : Option Failure) (w : Watched σ) :
    ∃ (k : Reception) (disconnected : Except Failure Unit) (w' : Watched σ),
      Records (readResponse (c.watched n)) g w (k.record n g disconnected)
        (k.result c.url g disconnected) w' := by
  obtain ⟨k, w₁, hk⟩ := receiving_records n c g w
  obtain ⟨d, w₂, hd⟩ := Records.disconnecting n c (inFlightAfter g (k.closed g)) w₁
  refine ⟨k, d, w₂, ?_⟩
  rw [readResponse_eq]
  exact hk.ensure hd

end ServiceClient
