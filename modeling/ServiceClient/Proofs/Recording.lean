/-
**What recording connections tell.**

A recording connection tells the status and the body that it was prepared with.  A call leaves in it
the method, the headers and the body that it sends: the body is what its stream held when it was
closed, and there is none where nothing is sent.  A recorder hands out such connections in order, so
a call comes to what the next one tells.

Main definitions:

* `ServiceClient.Recording.Prepared`: connections that are prepared;
* `ServiceClient.Recording.Sent`, `ServiceClient.Recording.sent`: what they have recorded;
* `ServiceClient.Recording.telling`: the phases of an exchange over such a connection.

Main results:

* `ServiceClient.Recording.tells`: **a recording connection tells what it was prepared with**;
* `ServiceClient.Recorder.outcome_told`: **every call comes to that**, and what it sends is
  recorded.
-/

import ServiceClient.Proofs.Exchange.Telling
import ServiceClient.Recording

set_option autoImplicit false

namespace ServiceClient

open ServiceClient.Action (Gives Meets Never)

/-! ### Streams -/

namespace Tracked

/-- A stream that is open is read whole. -/
theorem readAll_new (bytes : Bytes) (g : Option Failure) :
    ∃ t, readAll g { content := bytes } = (.ok bytes, t) ∧ t.closeFailure = none := by
  refine ⟨{ content := bytes, position := bytes.length }, ?_, rfl⟩
  simp [readAll, strikeRead, demandOpen, advance, left, Action.strike, Action.run_bind]

/-- A stream can be closed as long as no failure is set for that. -/
theorem close_ok {t : Tracked} (h : t.closeFailure = none) :
    ∃ t', t'.closeFailure = none ∧ ∀ g, close g t = (.ok (), t') := by
  by_cases hclosed : t.closed
  · exact ⟨t, h, fun g => by simp [close, Action.run_bind, hclosed]⟩
  · refine ⟨{ t with closeCount := t.closeCount + 1, captured := t.content, closed := true }, h,
      fun g => ?_⟩
    simp [close, Action.strike, Action.run_bind, hclosed, h]

end Tracked

/-! ### Connections -/

namespace Recording

/-- A connection that is prepared with a status and a body, and fails in nothing. -/
structure Prepared (status : Int) (content : Option Bytes) (r : Recording) : Prop where
  status_eq : r.statusCode = status
  body_eq : r.body = content
  responseStream_eq : r.responseStream = none
  statusFailure_eq : r.statusFailure = none
  disconnectFailure_eq : r.disconnectFailure = none

/-- What a connection has recorded of a request. -/
structure Sent where
  method : String
  headers : List (String × String)
  body : Bytes

/-- The method, the headers and the body that were recorded. -/
def sent (r : Recording) : Sent :=
  ⟨r.method, r.headers, r.sentBody⟩

def stream : Source (Recording × List LogEvent) :=
  (Tracked.source.within responsePart).within .first

/-- What is known in each phase of a connection that keeps what it has recorded. -/
def telling (status : Int) (content : Option Bytes) (sent : Sent) :
    Phases (Recording × List LogEvent) where
  unasked s := s.1.Prepared status content ∧ s.1.sent = sent
  answered s := s.1.Prepared status content ∧ s.1.sent = sent
  opened a s := a = stream ∧
    (∃ bytes, content = some bytes ∧ s.1.responseStream = some { content := bytes }) ∧
    s.1.disconnectFailure = none ∧ s.1.sent = sent
  ended s := (responsePart.get s.1).closeFailure = none ∧ s.1.disconnectFailure = none ∧
    s.1.sent = sent
  failed _ := False
  left s := s.1.sent = sent
  lost _ := False

section

variable {status : Int} {content : Option Bytes} {g : Option Failure} {r r' : Recording}
  {log : List LogEvent}

/-- What is done with a connection leaves the log as it is. -/
theorem run_first {α : Type} {m : Action Recording α} {x : Except Failure α}
    (h : m g r = (x, r')) : (m.within .first) g (r, log) = (x, (r', log)) := by
  simp only [Action.within, Part.first, h]

/-- The stream of the response is made from the body; without one there is none. -/
theorem openResponse_of_prepared (h : r.Prepared status content) :
    openResponse g r =
      (.ok (content.map fun _ => Tracked.source.within responsePart),
        { r with responseStream := content.map fun bytes => { content := bytes } }) := by
  obtain ⟨url, method, outputEnabled, statusCode, body, headers, output, _, disconnectCount,
    statusCalls, _, _⟩ := r
  obtain ⟨rfl, rfl, rfl, rfl, rfl⟩ := h
  cases body <;> rfl

theorem strikeStatus_of_prepared (h : r.Prepared status content) :
    strikeStatus g r = (.ok (), r) := by
  simp [strikeStatus, Action.strike, h.statusFailure_eq]

theorem input_of_prepared (h : r.Prepared status content) (hlt : status < failingStatus) :
    input g r = openResponse g r := by
  rw [input, Action.run_bind_ok (strikeStatus_of_prepared h),
    Action.run_bind_ok (Action.run_gets ..)]
  exact if_neg (Int.not_le.mpr (h.status_eq ▸ hlt)) ▸ rfl

/-- A stream of a result is refused where the status fails. -/
theorem input_of_ge (h : r.Prepared status content) (hge : status ≥ failingStatus) :
    ∃ f, f.isExchangeFailure = true ∧ input g r = (.error f, r) := by
  have hstatus : (id r).statusCode ≥ failingStatus := h.status_eq ▸ hge
  refine ⟨(Failure.worded .io (Connection.statusText r.statusCode r.url)).raisedDuring g,
    (Failure.isExchangeFailure_raisedDuring g _).trans rfl, ?_⟩
  rw [input, Action.run_bind_ok (strikeStatus_of_prepared h),
    Action.run_bind_ok (Action.run_gets ..), if_pos hstatus]
  rfl

theorem errorInput_of_prepared (h : r.Prepared status content) (hge : status ≥ failingStatus) :
    errorInput g r = openResponse g r := by
  have hstatus : ¬ (id r).statusCode < failingStatus := Int.not_lt.mpr (h.status_eq ▸ hge)
  rw [errorInput, Action.run_bind_ok (Action.run_gets ..), if_neg hstatus]

theorem status_of_prepared (h : r.Prepared status content) :
    Recording.status g r = (.ok status, { r with statusCalls := r.statusCalls + 1 }) := by
  simp [Recording.status, strikeStatus, Action.strike, Action.run_bind, h.statusFailure_eq,
    h.status_eq]

theorem disconnect_ok (h : r.disconnectFailure = none) :
    disconnect g r = (.ok (), { r with disconnectCount := r.disconnectCount + 1 }) := by
  simp [disconnect, Action.strike, Action.run_bind, h]

variable {sent : Sent}

/-- Whichever of the two streams is asked for, the response that is prepared is found. -/
theorem asking_told {m : Action Recording (Option (Source Recording))}
    (hm : ∀ g r, Prepared status content r → m g r = openResponse g r) :
    Meets (telling status content sent).answered
      (do pure ((← m.within .first).map (·.within .first)))
      (fun a s => a.isSome = content.isSome ∧
        (telling status content sent).found a s) Never := by
  rintro g ⟨r, log⟩ ⟨hprepared, hsent⟩
  have hopened := (hm g r hprepared).trans (openResponse_of_prepared hprepared)
  rw [Action.run_handing _ (run_first hopened)]
  cases content with
  | none => exact .ok ⟨rfl, rfl, hprepared.disconnectFailure_eq, hsent⟩
  | some bytes => exact .ok ⟨rfl, rfl, ⟨bytes, rfl, rfl⟩, hprepared.disconnectFailure_eq, hsent⟩

theorem get_of_some {t : Tracked} (h : r.responseStream = some t) : responsePart.get r = t := by
  simp [responsePart, h]

/-- What is done over the stream of the response changes nothing else. -/
theorem run_stream {α : Type} {m : Action Tracked α} {t t' : Tracked} {x : Except Failure α}
    (ht : responsePart.get r = t) (h : m g t = (x, t')) :
    ((m.within responsePart).within .first) g (r, log) = (x, (responsePart.set t' r, log)) := by
  subst ht
  exact run_first (by simp only [Action.within, h])

/-- **A recording connection tells what it was prepared with.** -/
theorem tells (status : Int) (content : Option Bytes) (sent : Sent) (url : String) :
    (connection url).Tells (telling status content sent) status content where
  status_meets := by
    rintro g ⟨r, log⟩ ⟨hprepared, hsent⟩
    rw [show (connection url).status g (r, log) = _ from
      run_first (status_of_prepared hprepared)]
    exact .ok ⟨rfl, ⟨hprepared.status_eq, hprepared.body_eq, hprepared.responseStream_eq,
      hprepared.statusFailure_eq, hprepared.disconnectFailure_eq⟩, hsent⟩
  input hlt hQ := (asking_told fun g r hr => input_of_prepared hr hlt).weaken
    (fun s hs => (hQ s hs).elim id id) (fun _ _ hs => hs) fun _ _ => False.elim
  refused hge := by
    rintro g ⟨r, log⟩ ⟨hprepared, hsent⟩
    obtain ⟨f, hf, hinput⟩ := input_of_ge (g := g) hprepared hge
    have hrun : (connection url).input g (r, log) = (.error f, (r, log)) :=
      Action.run_bind_error (run_first hinput)
    rw [hrun]
    refine .error ⟨hf, ?_, hprepared.disconnectFailure_eq, hsent⟩
    exact congrArg (fun t => (t.getD {}).closeFailure) hprepared.responseStream_eq
  errorInput hge := asking_told fun g r hr => errorInput_of_prepared hr hge
  attach a := by
    rintro g ⟨r, log⟩ ⟨rfl, ⟨bytes, hcontent, hstream⟩, hdisconnect, hsent⟩
    have hget := get_of_some hstream
    have hrun : stream.attach g (r, log) = _ :=
      run_stream (m := Tracked.source.attach) hget rfl
    rw [hrun]
    exact .ok ⟨rfl, ⟨bytes, hcontent, rfl⟩, hdisconnect, hsent⟩
  unclosed a s := by
    rintro ⟨rfl, ⟨bytes, -, hstream⟩, -⟩
    exact congrArg Tracked.closed (get_of_some hstream)
  readAll a := by
    rintro g ⟨r, log⟩ ⟨rfl, ⟨bytes, rfl, hstream⟩, hdisconnect, hsent⟩
    have hget := get_of_some hstream
    obtain ⟨t, hread, ht⟩ := Tracked.readAll_new bytes g
    have hrun : stream.readAll g (r, log) = _ :=
      run_stream (m := Tracked.source.readAll) hget hread
    rw [hrun]
    exact .ok ⟨rfl, ht, hdisconnect, hsent⟩
  close a := by
    rintro ⟨-, rfl, -⟩ g ⟨r, log⟩ ⟨hcloseable, hdisconnect, hsent⟩
    obtain ⟨t, ht, hclose⟩ := Tracked.close_ok hcloseable
    have hrun : stream.close g (r, log) = _ :=
      run_stream (m := Tracked.source.close) rfl (hclose g)
    rw [hrun]
    exact .ok ⟨ht, hdisconnect, hsent⟩
  disconnect := by
    rintro g ⟨r, log⟩ ⟨-, hdisconnect, hsent⟩
    rw [show (connection url).disconnect g (r, log) = _ from run_first (disconnect_ok hdisconnect)]
    exact .ok hsent
  log_found event a s hs := by
    cases a with
    | none => exact hs
    | some a => exact hs
  left_of_ended s hs := hs.2.2

end

/-! ### Calls -/

/-- A connection as it is prepared and handed out for a call. -/
def new (v : Verb) (status : Int) (content : Option Bytes) : Recording where
  url := v.url
  statusCode := status
  body := content
  headers := v.headers

def sentBy (v : Verb) : Sent :=
  ⟨v.method.name, v.headers, Text.encode v.body⟩

/-- A body is recorded when its stream is closed, as it is written. -/
theorem send_new (v : Verb) (status : Int) (content : Option Bytes) (log : List LogEvent)
    (body : List Text.CodePoint) (method : String) (g : Option Failure) :
    ∃ r, send (connection v.url) body method g (new v status content, log) = (.ok (), (r, log)) ∧
      r.Prepared status content ∧ r.sent = ⟨method, v.headers, Text.encode body⟩ := by
  refine ⟨_, rfl, ⟨rfl, rfl, rfl, rfl, rfl⟩, ?_⟩
  have hcontent : (Tracked.put (Text.encode body) {}).content = Text.encode body := by
    simp [Tracked.put]
  exact congrArg (Sent.mk method v.headers) hcontent

/-- A call leaves what it sends. -/
theorem transmit_sends (v : Verb) (status : Int) (content : Option Bytes) (log : List LogEvent) :
    Meets (· = (new v status content, log)) (v.transmit (connection v.url))
      (fun _ => (telling status content (sentBy v)).unasked) Never := by
  rintro g _ rfl
  have hsend (body : List Text.CodePoint) (method : Method)
      (hsent : Sent.mk method.name v.headers (Text.encode body) = sentBy v) :
      Action.Ends (fun _ => (telling status content (sentBy v)).unasked) Never
        (send (connection v.url) body method.name g (new v status content, log)) := by
    obtain ⟨r, hrun, hprepared, hr⟩ := send_new v status content log body method.name g
    rw [hrun]
    exact .ok ⟨hprepared, hr.trans hsent⟩
  cases v with
  | call c =>
      cases c with
      | get => exact .ok ⟨⟨rfl, rfl, rfl, rfl, rfl⟩, rfl⟩
      | post | put | delete => exact hsend _ _ rfl
  | lease => exact .ok ⟨⟨rfl, rfl, rfl, rfl, rfl⟩, rfl⟩

end Recording

namespace Recorder

variable {k : Nat} {s : Recorder}

/-- A connection that is there can be taken out and put back. -/
theorem get_set_part (h : k < s.connections.length) (p : Recording × List LogEvent) :
    (part k).get ((part k).set p s) = p := by
  simp [part, h]

theorem set_set_part (p q : Recording × List LogEvent) :
    (part k).set p ((part k).set q s) = (part k).set p s := by
  simp [part]

/-- The next connection is handed out as it is prepared, with the URL and the headers. -/
theorem connect_ok {r : Recording} (hopens : s.openFailure = none)
    (hnext : s.connections[s.opened.length]? = some r) (url : String) (headers : HeaderMap)
    (g : Option Failure) :
    opener.connect url headers g s =
      (.ok ((Recording.connection url).within (part s.opened.length)),
        (part s.opened.length).set ({ r with url, headers := r.headers ++ headers }, s.log)
          { s with opened := s.opened ++ [(url, headers)] }) := by
  obtain ⟨hlt, hget⟩ := List.getElem?_eq_some_iff.mp hnext
  change connect url headers g s = _
  rw [connect, Action.run_bind_ok (Action.run_gets ..)]
  simp only [id, hopens, hlt, if_true]
  simp [Action.run_bind, Action.within, part, hopens, hlt, hget]

section

variable {v : Verb} {status : Int} {content : Option Bytes} (hopens : s.openFailure = none)
  (hnext : s.connections[s.opened.length]? = some { statusCode := status, body := content })
  (g : Option Failure)

include hopens hnext

/-- A call goes over the next connection, which is handed out as it is prepared. -/
theorem outcome_eq :
    ∃ (t : Recorder) (log : List LogEvent), s.opened.length < t.connections.length ∧
      v.outcome opener g s =
        v.outcome (.single ((Recording.connection v.url).within (part s.opened.length))) g
          ((part s.opened.length).set (.new v status content, log) t) := by
  -- only a line of the log may come before
  obtain ⟨log, hlog⟩ : ∃ log, v.announced opener s = { s with log } := by
    cases v with
    | call c => cases c <;> exact ⟨_, rfl⟩
    | lease => exact ⟨s.log, rfl⟩
  have hconnect := connect_ok (s := { s with log }) hopens hnext v.url v.headers g
  obtain ⟨hlt, -⟩ := List.getElem?_eq_some_iff.mp hnext
  refine ⟨{ s with log, opened := s.opened ++ [(v.url, v.headers)] }, log, hlt, ?_⟩
  exact Verb.outcome_of_connect (hlog ▸ hconnect)

/-- **Every call comes to what the next connection was prepared with**, and what it sends is
recorded there. -/
theorem outcome_told :
    (v.outcome opener g s).1.mapError Failure.fault = v.told status content ∧
      ∃ r, (v.outcome opener g s).2.connections[s.opened.length]? = some r ∧
        r.sent = Recording.sentBy v := by
  obtain ⟨t, log, hlt, hrun⟩ := outcome_eq (v := v) hopens hnext g
  obtain ⟨hresult, p, hstate, hleft⟩ :=
    (Recording.tells status content (Recording.sentBy v) v.url).outcome_within
      (get_set_part hlt) set_set_part v (Recording.transmit_sends v status content log) g rfl
  rw [hrun]
  refine ⟨hresult, p.1, ?_, hleft⟩
  rw [hstate]
  simp [part, hlt]

end

end Recorder

end ServiceClient
