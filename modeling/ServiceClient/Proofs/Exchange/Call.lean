/-
**The calls that read their response.**

Such a call opens a connection, sends its body if it has one, and reads the response.  If the body
cannot be sent, the connection is disconnected and the response is not asked for.  A *course* of a
call says how each of these steps went.

Main definitions:

* `ServiceClient.Call`, `ServiceClient.Call.perform`: a call with its arguments, and making it;
* `ServiceClient.Course`: how a call goes.

Main results:

* `ServiceClient.Call.perform_course`: **whatever the connections do, a call takes one of the
  courses**;
* `ServiceClient.Call.perform_alike`: a call cannot tell apart openers that are alike.
-/

import ServiceClient.Proofs.Exchange.Course

set_option autoImplicit false

namespace ServiceClient

open ServiceClient.Action (Records)

variable {σ τ : Type}

/-! ### Calls -/

inductive Call
  | get (headers : Option HeaderMap) (url : String)
  | post (headers : Option HeaderMap) (url : String) (body : List Text.CodePoint)
      (content accepted : Option MediaType)
  | put (headers : Option HeaderMap) (url : String) (body : List Text.CodePoint)
      (media : Option MediaType)
  | delete (headers : Option HeaderMap) (url : String)

namespace Call

/-- Makes a call: the text of the response, where it is given. -/
def perform (o : Opener σ) : Call → Action σ (Option String)
  | get headers url => do pure (some (← callEndpoint o headers url))
  | post headers url body content accepted => do
      pure (some (← postEntity o headers url body content accepted))
  | put headers url body media => do pure (some (← putEntity o headers url body media))
  | delete headers url => do
      deleteEntity o headers url
      pure none

def method : Call → Method
  | get .. => .get
  | post .. => .post
  | put .. => .put
  | delete .. => .delete

/-- What a call gives of a response. -/
def given : Call → ResponseResult → Option String
  | delete .., _ => none
  | _, r => some r.text

/-- **A call cannot tell apart openers that are alike.** -/
theorem perform_alike {S : σ → τ → Prop} {o : Opener σ} {p : Opener τ} (h : o.Alike S p)
    (c : Call) : Action.Alike S Eq (c.perform o) (c.perform p) := by
  cases c with
  | get headers url => exact (callEndpoint_alike h headers url).bind fun _ _ e => .pure (e ▸ rfl)
  | post headers url body content accepted =>
      exact (exchange_alike h _ url body .post).bind fun _ _ e => .pure (e ▸ rfl)
  | put headers url body media =>
      exact (exchange_alike h _ url body .put).bind fun _ _ e => .pure (e ▸ rfl)
  | delete headers url =>
      refine Action.Alike.bind (R := Eq) ?_ fun _ _ _ => .pure rfl
      exact (exchange_alike h _ url [] .delete).bind fun _ _ _ => .pure rfl

end Call

/-! ### Courses of calls -/

/-- How a call goes; a connection that was opened is known by its URL. -/
inductive Course
  /-- No connection is opened. -/
  | unopened (f : Failure)
  /-- The body is not sent, and the connection is disconnected. -/
  | untransmitted (url : String) (sent : Transmission) (f : Failure)
      (disconnected : Except Failure Unit)
  /-- The response is read, after the body was sent if there is one. -/
  | answered (url : String) (sent : Option Transmission) (received : Reception)
      (disconnected : Except Failure Unit)

namespace Course

/-- Whether sending ended as the course says. -/
def Consistent (method : String) : Course → Prop
  | unopened _ => True
  | untransmitted url sent f _ => sent.result method url = .error f
  | answered url sent _ _ => ∀ k ∈ sent, k.result method url = .ok ()

def opens : Course → Nat
  | unopened _ => 0
  | _ => 1

def result (g : Option Failure) : Course → Except Failure ResponseResult
  | unopened f => .error f
  | untransmitted url _ f disconnected =>
      overruled (.error f) (disconnected.mapError (·.unreleased (.undisconnected url)))
  | answered url _ received disconnected => received.result url g disconnected

/-- What sending adds to the record, if there is a body. -/
def sentRecord (method url : String) (n : Nat) (g : Option Failure)
    (sent : Option Transmission) : List Event :=
  (sent.map (·.record method url n g)).getD []

def record (method : String) (n : Nat) (g : Option Failure) : Course → List Event
  | unopened _ => []
  | untransmitted url sent f disconnected =>
      sent.record method url n g ++ [doing n .disconnect (some f) disconnected]
  | answered url sent received disconnected =>
      sentRecord method url n g sent ++ received.record n g disconnected

end Course

/-- A run that took a course, from one watched state to another. -/
structure Takes (method : String) (g : Option Failure) (w : Watched σ) (k : Course)
    (w' : Watched σ) : Prop where
  consistent : k.Consistent method
  events_eq : w'.events = w.events ++ k.record method w.opened g
  opened_eq : w'.opened = w.opened + k.opens

/-! ### Every call takes a course -/

theorem connect_error {o : Opener σ} {url : String} {headers : List (String × String)}
    {g : Option Failure} {w : Watched σ} {f : Failure} {s : σ}
    (h : o.connect url headers g w.state = (.error f, s)) :
    o.watched.connect url headers g w = (.error f, { w with state := s }) := by
  simp [Opener.watched, h]

theorem connect_ok {o : Opener σ} {url : String} {headers : List (String × String)}
    {g : Option Failure} {w : Watched σ} {c : Connection σ} {s : σ}
    (h : o.connect url headers g w.state = (.ok c, s)) :
    o.watched.connect url headers g w =
      (.ok (c.watched w.opened), { w with state := s, opened := w.opened + 1 }) := by
  simp [Opener.watched, h]

theorem callEndpoint_course (o : Opener σ) (headers : Option HeaderMap) (url : String)
    (g : Option Failure) (w : Watched σ) :
    ∃ (k : Course) (w' : Watched σ), Takes Method.get.name g w k w' ∧
      callEndpoint o.watched headers url g w = ((k.result g).map (·.text), w') := by
  have hlog := Action.run_modify (o.watched.log (.callPrepared url)) g w
  rw [callEndpoint, Action.run_bind_ok hlog]
  -- the log is no part of the record
  obtain ⟨w₀, hw₀, hev, hop⟩ : ∃ w₀, w₀ = o.watched.log (.callPrepared url) w ∧
      w₀.events = w.events ∧ w₀.opened = w.opened := ⟨_, rfl, rfl, rfl⟩
  rw [← hw₀]
  rcases hc : o.connect url (HeaderMap.describe headers (-1) none (some .xml)) g w₀.state with
    ⟨f | c, s⟩
  · refine ⟨.unopened f, { w₀ with state := s }, ⟨trivial, ?_, hop⟩, ?_⟩
    · simp [Course.record, hev]
    · exact Action.run_bind_error (connect_error hc)
  · obtain ⟨k, d, w₁, hk⟩ := readResponse_records w₀.opened c g
      { w₀ with state := s, opened := w₀.opened + 1 }
    refine ⟨.answered c.url none k d, w₁, ⟨by simp [Course.Consistent], ?_, ?_⟩, ?_⟩
    · simpa [Course.record, Course.sentRecord, hev, hop] using hk.events_eq
    · simpa [Course.opens, hop] using hk.opened_eq
    · rw [Action.run_bind_ok (connect_ok hc)]
      exact (hk.handing (·.text)).run

/-- A body that cannot be sent is followed by a disconnect. -/
theorem transmitting_records (n : Nat) (c : Connection σ) (body : List Text.CodePoint)
    (method : String) (g : Option Failure) (w : Watched σ) :
    ∃ (k : Transmission) (w' : Watched σ),
      (k.result method c.url = .ok () ∧
        Records ((send (c.watched n) body method).rescue fun f => do
            disconnecting (c.watched n); .rethrow f)
          g w (k.record method c.url n g) (.ok ()) w') ∨
      ∃ (f : Failure) (d : Except Failure Unit), k.result method c.url = .error f ∧
        Records ((send (c.watched n) body method).rescue fun f => do
            disconnecting (c.watched n); .rethrow f)
          g w (k.record method c.url n g ++ [doing n .disconnect (some f) d])
          (overruled (.error f) (d.mapError (·.unreleased (.undisconnected c.url)))) w' := by
  obtain ⟨k, w₁, hk⟩ := send_records n c body method g w
  rcases hr : k.result method c.url with f | u
  · rw [hr] at hk
    obtain ⟨d, w₂, hd⟩ := Records.disconnecting n c (some f) w₁
    exact ⟨k, w₂, .inr ⟨f, d, hr, hk.rescue_error (hd.bind_failing (.rethrow f))⟩⟩
  · rw [hr] at hk
    exact ⟨k, w₁, .inl ⟨hr, hk.rescue_ok⟩⟩

theorem exchange_course (o : Opener σ) (headers : HeaderMap) (url : String)
    (body : List Text.CodePoint) (method : Method) (g : Option Failure) (w : Watched σ) :
    ∃ (k : Course) (w' : Watched σ), Takes method.name g w k w' ∧
      exchange o.watched headers url body method g w = ((k.result g).map (·.text), w') := by
  rw [exchange]
  rcases hc : o.connect url headers g w.state with ⟨f | c, s⟩
  · refine ⟨.unopened f, { w with state := s }, ⟨trivial, ?_, rfl⟩, ?_⟩
    · simp [Course.record]
    · exact Action.run_bind_error (connect_error hc)
  · rw [Action.run_bind_ok (connect_ok hc)]
    obtain ⟨k, w₁, ⟨hr, hk⟩ | ⟨f, d, hr, hk⟩⟩ := transmitting_records w.opened c body method.name g
      { w with state := s, opened := w.opened + 1 }
    · obtain ⟨r, d, w₂, hread⟩ := readResponse_records w.opened c g w₁
      have hall := hk.bind (k := fun _ => _) (hread.handing (·.text))
      refine ⟨.answered c.url (some k) r d, w₂, ⟨?_, hall.events_eq, hall.opened_eq⟩, hall.run⟩
      simpa [Course.Consistent] using hr
    · refine ⟨.untransmitted c.url k f d, w₁, ⟨hr, hk.events_eq, hk.opened_eq⟩, ?_⟩
      cases d <;> exact Action.run_bind_error hk.run

/-- **Whatever the connections do, a call takes one of the courses.** -/
theorem Call.perform_course (o : Opener σ) (c : Call) (g : Option Failure) (w : Watched σ) :
    ∃ (k : Course) (w' : Watched σ), Takes c.method.name g w k w' ∧
      c.perform o.watched g w = ((k.result g).map c.given, w') := by
  -- every call makes its exchange and gives the text, or nothing of it
  have hend {m : Action (Watched σ) String} {k : Course} {w' : Watched σ}
      (into : String → Option String) (h : m g w = ((k.result g).map (·.text), w')) :
      (do pure (into (← m)) : Action (Watched σ) (Option String)) g w =
        ((k.result g).map fun r => into r.text, w') := by
    rw [Action.run_handing into h]
    cases k.result g <;> rfl
  cases c with
  | get headers url =>
      obtain ⟨k, w', hk, hrun⟩ := callEndpoint_course o headers url g w
      exact ⟨k, w', hk, hend some hrun⟩
  | post headers url body content accepted =>
      obtain ⟨k, w', hk, hrun⟩ := exchange_course o
        (HeaderMap.describe headers (bodyLength body) content accepted) url body .post g w
      exact ⟨k, w', hk, hend some hrun⟩
  | put headers url body media =>
      obtain ⟨k, w', hk, hrun⟩ := exchange_course o
        (HeaderMap.describe headers (bodyLength body) media media) url body .put g w
      exact ⟨k, w', hk, hend some hrun⟩
  | delete headers url =>
      obtain ⟨k, w', hk, hrun⟩ := exchange_course o
        (HeaderMap.describe headers 0 (some .atomXml) (some .atomXml)) url [] .delete g w
      refine ⟨k, w', hk, ?_⟩
      have hdrop := Action.run_handing (fun _ => (none : Option String))
        (Action.run_handing (fun _ => ()) hrun)
      rw [Call.perform, deleteEntity]
      cases hr : k.result g <;> rw [hr] at hdrop <;> exact hdrop

end ServiceClient
