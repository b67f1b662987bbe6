/-
**The uses of a channel.**

A channel may be used in any order: its method and its headers are set, its body is written, it is
asked for the response, and it is disconnected; each use may fail, and the next one comes all the
same.  The stream that takes the body is handed out by the channel, and writing to it needs that
stream.

Main definitions:

* `ServiceClient.Wire.Use`, `ServiceClient.Wire.Outcome`: what may be done, and what comes of it;
* `ServiceClient.Wire.Usage`, `ServiceClient.Wire.Usage.perform`: one who uses a channel, and one
  use;
* `ServiceClient.Wire.Performs`: what a use can do.

Main results:

* `ServiceClient.Wire.performs`: **each use does one of the things that a use can do**.
-/

import ServiceClient.Proofs.Wire.Reached

set_option autoImplicit false

namespace ServiceClient.Wire

/-! ### Uses -/

/-- What may be done with a channel. -/
inductive Use
  | setMethod (method : String)
  | setOutput (enabled : Bool)
  | setHeader (name value : String)
  /-- Asks for the stream that takes the body. -/
  | output
  /-- Writes to that stream. -/
  | write (data : Bytes)
  | closeOutput
  | status
  | input
  | errorInput
  | disconnect
  deriving DecidableEq, Repr

inductive Outcome
  | done
  | status (status : Int)
  /-- A stream is handed out, or none. -/
  | stream (given : Bool)
  | failed (f : Failure)
  /-- There is no stream to write to or to close. -/
  | unavailable
  deriving Repr

def Outcome.of {α : Type} (into : α → Outcome) : Except Failure α → Outcome
  | .ok a => into a
  | .error f => .failed f

/-- Whether the service is asked. -/
def Use.asks : Use → Bool
  | .status | .input => true
  | _ => false

/-- One who uses a channel: its session, and the stream that takes the body once it was handed
out. -/
structure Usage where
  session : Session
  output : Option (Sink Session) := none

namespace Usage

def channel (x : Usage) : Channel := x.session.channel

def withChannel (c : Channel) (x : Usage) : Usage :=
  { x with session := { x.session with channel := c } }

def act {α : Type} (x : Usage) (m : Action Session α) (into : α → Outcome) : Outcome × Usage :=
  let (r, s) := m.run x.session
  (.of into r, { x with session := s })

def perform (x : Usage) : Use → Outcome × Usage
  | .setMethod method => (.done, x.withChannel { x.channel with method })
  | .setOutput enabled => (.done, x.withChannel { x.channel with outputEnabled := enabled })
  | .setHeader name value =>
      x.act ((Channel.setHeader name value).within Session.channelPart) fun _ => .done
  | .output =>
      match (Session.connection x.channel.url).output.run x.session with
      | (.ok sink, s) => (.done, { session := s, output := some sink })
      | (.error f, s) => (.failed f, { x with session := s })
  | .write data =>
      match x.output with
      | some sink => x.act (sink.write data) fun _ => .done
      | none => (.unavailable, x)
  | .closeOutput =>
      match x.output with
      | some sink => x.act sink.close fun _ => .done
      | none => (.unavailable, x)
  | .status => x.act Session.status .status
  | .input => x.act Session.input fun stream => .stream stream.isSome
  | .errorInput => x.act Session.errorInput fun stream => .stream stream.isSome
  | .disconnect => x.act (Channel.disconnect.within Session.channelPart) fun _ => .done

/-- Some uses, one after another. -/
def after (x : Usage) (us : List Use) : Usage :=
  us.foldl (fun x u => (x.perform u).2) x

/-- What is done and what comes of it. -/
def history : Usage → List Use → List (Use × Outcome)
  | _, [] => []
  | x, u :: rest => (u, (x.perform u).1) :: history (x.perform u).2 rest

@[simp] theorem after_cons (x : Usage) (u : Use) (us : List Use) :
    x.after (u :: us) = (x.perform u).2.after us := rfl

theorem after_append (x : Usage) (us vs : List Use) : x.after (us ++ vs) = (x.after us).after vs := by
  simp [after]

theorem map_history (x : Usage) (us : List Use) : (x.history us).map (·.1) = us := by
  induction us generalizing x with
  | nil => rfl
  | cons u us ih => rw [history, List.map_cons, ih]

end Usage

/-! ### What a use can do -/

def bodySink : Sink Session :=
  (RequestBody.sink.within Channel.bodyPart).within Session.channelPart

/-- What a use can do. -/
inductive Performs (x : Usage) : Use → Outcome × Usage → Prop
  | method (method : String) :
      Performs x (.setMethod method) (.done, x.withChannel { x.channel with method })
  | enabled (enabled : Bool) :
      Performs x (.setOutput enabled)
        (.done, x.withChannel { x.channel with outputEnabled := enabled })
  | header (name value : String) : x.channel.response = none →
      Performs x (.setHeader name value)
        (.done, x.withChannel { x.channel with headers := x.channel.headers ++ [(name, value)] })
  /-- No header is taken any more. -/
  | late (name value : String) {f : Failure} : x.channel.response ≠ none →
      Performs x (.setHeader name value) (.failed f, x)
  | opened : x.channel.response = none →
      Performs x .output
        (.done,
          { x.withChannel { x.channel with body := some (x.channel.body.getD {}) } with
            output := some bodySink })
  /-- No stream is handed out, because output is not enabled or the request was sent. -/
  | unopened {f : Failure} : f.isA .io = true → Performs x .output (.failed f, x)
  | written (data : Bytes) {b : RequestBody} : x.channel.body = some b →
      Performs x (.write data)
        (.done, x.withChannel { x.channel with body := some { b with content := b.content ++ data } })
  /-- There is no stream, or it is closed. -/
  | unwritten (data : Bytes) {o : Outcome} : o ≠ .done → Performs x (.write data) (o, x)
  | closed {b : RequestBody} : x.channel.body = some b →
      Performs x .closeOutput
        (.done, x.withChannel { x.channel with body := some { b with closed := true } })
  | unclosed : Performs x .closeOutput (.unavailable, x)
  /-- The session comes to a response or fails; a stream may be handed out. -/
  | asked {u : Use} {o : Outcome} {r : Except Failure Response} {s : Session}
      (streams : List (Buffer × Reading)) : u.asks = true → x.session.Responds none (r, s) →
      (∀ f, r = .error f → o = .failed f) →
      (∀ response, r = .ok response → u = .status → o = .status response.status) →
      Performs x u (o, { x with session := { s with channel := { s.channel with streams } } })
  | errors {o : Outcome} (streams : List (Buffer × Reading)) :
      (x.channel.response = none → o = .stream false) →
      Performs x .errorInput (o, x.withChannel { x.channel with streams })
  | again : x.channel.disconnected = true → Performs x .disconnect (.done, x)
  /-- The response is closed, which may fail, and then what serves the channel. -/
  | disconnected {o : Outcome} {response : Option Response} : x.channel.disconnected = false →
      response.map Response.status = x.channel.response.map Response.status →
      Performs x .disconnect
        (o,
          x.withChannel
            { x.channel with disconnected := true, closings := x.channel.closings + 1, response })

/-! ### The actions of a channel -/

namespace RequestBody

variable {b : RequestBody} {g : Option Failure}

theorem write_of_open (h : b.closed = false) (data : Bytes) :
    sink.write data g b = (.ok (), { b with content := b.content ++ data }) := by
  have hopen : demandOpen g b = (.ok (), b) := by
    rw [demandOpen, Action.run_bind_ok (Action.run_gets ..), if_neg (by simp [h])]
    rfl
  exact Action.run_bind_ok hopen

theorem write_of_closed (h : b.closed = true) (data : Bytes) :
    ∃ f, sink.write data g b = (.error f, b) := by
  have hshut : demandOpen g b = (.error (closedStream.raisedDuring g), b) := by
    rw [demandOpen, Action.run_bind_ok (Action.run_gets ..), if_pos h]
    rfl
  exact ⟨_, Action.run_bind_error hshut⟩

end RequestBody

namespace Channel

variable {c : Channel} {g : Option Failure}

/-- An action of the body changes the body only. -/
theorem run_body {α : Type} {m : Action RequestBody α} {r : Except Failure α} {b b' : RequestBody}
    (hb : c.body = some b) (h : m g b = (r, b')) :
    (m.within bodyPart) g c = (r, { c with body := some b' }) := by
  simp only [Action.within, bodyPart]
  rw [hb, Option.getD_some, h]

theorem setHeader_of_none (h : c.response = none) (name value : String) :
    setHeader name value g c = (.ok (), { c with headers := c.headers ++ [(name, value)] }) := by
  rw [setHeader, Action.run_bind_ok (Action.run_gets ..)]
  rw [if_neg (by simp [h])]
  rfl

theorem setHeader_of_some {response : Response} (h : c.response = some response)
    (name value : String) : ∃ f, setHeader name value g c = (.error f, c) := by
  rw [setHeader, Action.run_bind_ok (Action.run_gets ..)]
  rw [if_pos (by simp [h])]
  exact ⟨_, rfl⟩

/-- The stream that takes the body is handed out before the request is sent, and refused as a
failure of output otherwise, or if output is not enabled. -/
theorem openOutput_cases (g : Option Failure) (c : Channel) :
    (c.response = none ∧ c.outputEnabled = true ∧ openOutput g c =
        (.ok (RequestBody.sink.within bodyPart), { c with body := some (c.body.getD {}) })) ∨
      ∃ f, f.isA .io = true ∧ (c.response ≠ none ∨ c.outputEnabled = false) ∧
        openOutput g c = (.error f, c) := by
  rw [openOutput, Action.run_bind_ok (Action.run_gets ..)]
  have hio (text : String) : ((Failure.worded .io text).raisedDuring g).isA .io = true := by
    rw [Failure.isA, Failure.fault_raisedDuring]
    rfl
  by_cases henabled : c.outputEnabled = true
  · rw [if_neg (by simp [henabled])]
    by_cases hresponse : c.response = none
    · rw [if_neg (by simp [hresponse])]
      exact .inl ⟨hresponse, henabled, rfl⟩
    · rw [if_pos (by simpa [Option.isSome_iff_ne_none] using hresponse)]
      exact .inr ⟨_, hio _, .inl hresponse, rfl⟩
  · rw [if_pos (by simp [henabled])]
    exact .inr ⟨_, hio _, .inr (Bool.eq_false_iff.mpr henabled), rfl⟩

/-- Closing a response keeps its status. -/
theorem close_status (g : Option Failure) (r : Response) :
    (Response.close g r).2.status = r.status := by
  rw [Response.close, Action.run_bind_ok (Action.run_gets ..)]
  by_cases h : r.closed
  · rw [if_pos h]
    rfl
  · rw [if_neg h, Action.run_bind_ok (Action.run_modify ..)]
    cases r.closeFailure <;> simp [Action.strike]

theorem disconnect_again (h : c.disconnected = true) (g : Option Failure) :
    disconnect g c = (.ok (), c) := by
  rw [disconnect, Action.run_bind_ok (Action.run_gets ..), if_pos (by simp [h])]
  rfl

/-- Disconnecting for the first time closes what serves the channel, also if the response cannot be
closed. -/
theorem disconnect_eq (h : c.disconnected = false) (g : Option Failure) :
    ∃ r response, disconnect g c =
        (r, { c with disconnected := true, closings := c.closings + 1, response }) ∧
      response.map Response.status = c.response.map Response.status := by
  rw [disconnect, Action.run_bind_ok (Action.run_gets ..)]
  rw [if_neg (by simp [h]), Action.run_bind_ok (Action.run_modify ..)]
  rw [Action.run_ensure_modify]
  by_cases hresponse : c.response = none
  · rw [if_neg (by simp [hresponse])]
    exact ⟨_, c.response, rfl, rfl⟩
  · obtain ⟨response, hsome⟩ := Option.ne_none_iff_exists'.mp hresponse
    rw [if_pos (by simp [hsome])]
    refine ⟨_, some (Response.close g (c.response.getD {})).2, rfl, ?_⟩
    rw [hsome, Option.getD_some, Option.map_some, Option.map_some, close_status]

end Channel

/-! ### The actions of a session -/

namespace Session

variable {g : Option Failure} {s s' : Session}

theorem status_eq {r : Except Failure Response} (h : respond g s = (r, s')) :
    status g s = (r.map Response.status, s') :=
  Action.run_handing Response.status h

theorem input_of_error {f : Failure} (h : respond g s = (.error f, s')) :
    input g s = (.error f, s') :=
  Action.run_bind_error h

/-- What comes of asking for the stream of a response: the session changes by a stream at most. -/
theorem input_of_ok {response : Response} (h : respond g s = (.ok response, s')) :
    ∃ r streams, input g s = (r, { s' with channel := { s'.channel with streams } }) := by
  rw [input, Action.run_bind_ok h]
  by_cases herror : response.isError
  · rw [if_pos herror]
    exact ⟨_, s'.channel.streams, rfl⟩
  · rw [if_neg herror]
    by_cases hbody : response.hasBody
    · rw [if_pos hbody]
      exact ⟨_, s'.channel.streams ++ [default], rfl⟩
    · rw [if_neg hbody]
      exact ⟨_, s'.channel.streams, rfl⟩

/-- The same for an error response; without a response there is no stream. -/
theorem errorInput_eq (g : Option Failure) (s : Session) :
    ∃ r streams, errorInput g s = (r, { s with channel := { s.channel with streams } }) ∧
      (s.channel.response = none → r = .ok none) := by
  rw [errorInput, Action.run_bind_ok (Action.run_gets ..)]
  cases hresponse : s.channel.response with
  | none => exact ⟨_, s.channel.streams, rfl, fun _ => rfl⟩
  | some response =>
      dsimp only
      split
      · exact ⟨_, s.channel.streams ++ [default], rfl, by simp⟩
      · exact ⟨_, s.channel.streams, rfl, by simp⟩

end Session

/-! ### Each use -/

/-- The stream that was handed out takes the body, and then there is one. -/
def Usage.Sound (x : Usage) : Prop :=
  x.output = none ∨ x.output = some bodySink ∧ ∃ b, x.channel.body = some b

section Performing

variable {x : Usage}

theorem act_eq {α : Type} {m : Action Session α} {r : Except Failure α} {s : Session}
    (h : m none x.session = (r, s)) (into : α → Outcome) :
    x.act m into = (.of into r, { x with session := s }) := by
  rw [Usage.act, Action.run, h]

theorem performs_setHeader (name value : String) :
    Performs x (.setHeader name value) (x.perform (.setHeader name value)) := by
  rw [Usage.perform]
  by_cases hresponse : x.channel.response = none
  · rw [act_eq (Session.run_channel (Channel.setHeader_of_none hresponse name value))]
    exact .header name value hresponse
  · obtain ⟨response, hsome⟩ := Option.ne_none_iff_exists'.mp hresponse
    obtain ⟨f, hrun⟩ := Channel.setHeader_of_some hsome name value
    rw [act_eq (Session.run_channel hrun)]
    exact .late name value hresponse

/-- Asking for the stream that takes the body. -/
theorem output_eq {r : Except Failure (Sink Channel)} {c : Channel}
    (h : Channel.openOutput none x.channel = (r, c)) :
    (Session.connection x.channel.url).output none x.session =
      (r.map (·.within Session.channelPart), { x.session with channel := c }) :=
  Action.run_handing (fun sink : Sink Channel => sink.within Session.channelPart)
    (Session.run_channel h)

theorem output_of_error {f : Failure} (h : Channel.openOutput none x.channel = (.error f, x.channel)) :
    x.perform .output = (.failed f, x) := by
  rw [Usage.perform, Action.run, output_eq h]
  rfl

theorem performs_output : Performs x .output (x.perform .output) := by
  rcases Channel.openOutput_cases none x.channel with ⟨hresponse, -, hrun⟩ | ⟨f, hf, -, hrun⟩
  · rw [Usage.perform, Action.run, output_eq hrun]
    exact .opened hresponse
  · rw [output_of_error hrun]
    exact .unopened hf

/-- A body that is put back as it is changes nothing. -/
theorem withChannel_body {b : RequestBody} (hb : x.channel.body = some b) :
    x.withChannel { x.channel with body := some b } = x := by
  rw [← hb]
  rfl

theorem performs_write (hx : x.Sound) (data : Bytes) :
    Performs x (.write data) (x.perform (.write data)) := by
  rw [Usage.perform]
  rcases hx with hnone | ⟨hsink, b, hb⟩
  · rw [hnone]
    exact .unwritten data (by simp)
  · rw [hsink]
    dsimp only
    have hrun {r : Except Failure Unit} {b' : RequestBody}
        (h : RequestBody.sink.write data none b = (r, b')) :
        x.act (bodySink.write data) (fun _ => .done) =
          (.of (fun _ => .done) r, x.withChannel { x.channel with body := some b' }) :=
      act_eq (Session.run_channel (Channel.run_body hb h)) _
    cases hclosed : b.closed with
    | false =>
        rw [hrun (RequestBody.write_of_open hclosed data)]
        exact .written data hb
    | true =>
        obtain ⟨f, hwrite⟩ := RequestBody.write_of_closed hclosed data
        rw [hrun hwrite, withChannel_body hb]
        exact .unwritten data (by simp [Outcome.of])

theorem performs_closeOutput (hx : x.Sound) : Performs x .closeOutput (x.perform .closeOutput) := by
  rw [Usage.perform]
  rcases hx with hnone | ⟨hsink, b, hb⟩
  · rw [hnone]
    exact .unclosed
  · rw [hsink]
    dsimp only
    have hclose : RequestBody.sink.close none b = (.ok (), { b with closed := true }) := rfl
    have hrun : x.act bodySink.close (fun _ => .done) =
        (.done, x.withChannel { x.channel with body := some { b with closed := true } }) :=
      act_eq (Session.run_channel (Channel.run_body hb hclose)) _
    rw [hrun]
    exact .closed hb

theorem performs_asked {u : Use} (h : u.asks = true) : Performs x u (x.perform u) := by
  have hresponds := Session.responds none x.session
  cases hrun : Session.respond none x.session with
  | mk r s =>
      rw [hrun] at hresponds
      cases u with
      | status =>
          rw [Usage.perform, act_eq (Session.status_eq hrun)]
          refine .asked s.channel.streams rfl hresponds ?_ ?_
          · rintro f rfl
            rfl
          · rintro response rfl _
            rfl
      | input =>
          rw [Usage.perform]
          cases r with
          | error f =>
              rw [act_eq (Session.input_of_error hrun)]
              refine .asked s.channel.streams rfl hresponds ?_ (by simp)
              intro f' hf
              rw [Except.error.inj hf]
              rfl
          | ok response =>
              obtain ⟨r, streams, hinput⟩ := Session.input_of_ok hrun
              rw [act_eq hinput]
              exact .asked streams rfl hresponds (by simp) (by simp)
      | _ => cases h

theorem performs_errorInput : Performs x .errorInput (x.perform .errorInput) := by
  obtain ⟨r, streams, hrun, hnone⟩ := Session.errorInput_eq none x.session
  rw [Usage.perform, act_eq hrun]
  refine .errors streams fun hresponse => ?_
  rw [hnone hresponse]
  rfl

theorem performs_disconnect : Performs x .disconnect (x.perform .disconnect) := by
  rw [Usage.perform]
  cases hdisc : x.channel.disconnected with
  | true =>
      rw [act_eq (Session.run_channel (Channel.disconnect_again hdisc none))]
      exact .again hdisc
  | false =>
      obtain ⟨r, response, hrun, hstatus⟩ := Channel.disconnect_eq hdisc none
      rw [act_eq (Session.run_channel hrun)]
      exact .disconnected hdisc hstatus

/-- **Each use does one of the things that a use can do.** -/
theorem performs (hx : x.Sound) (u : Use) :
    Performs x u ((x.perform u).1, (x.perform u).2) := by
  cases u with
  | setMethod method => exact .method method
  | setOutput enabled => exact .enabled enabled
  | setHeader name value => exact performs_setHeader name value
  | output => exact performs_output
  | write data => exact performs_write hx data
  | closeOutput => exact performs_closeOutput hx
  | status => exact performs_asked rfl
  | input => exact performs_asked rfl
  | errorInput => exact performs_errorInput
  | disconnect => exact performs_disconnect

end Performing

end ServiceClient.Wire
