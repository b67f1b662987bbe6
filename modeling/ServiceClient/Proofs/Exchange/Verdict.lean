/-
**What comes of reading a response.**

Several steps of reading may fail in one run: a step up to the last byte, the close of the reader
and the disconnect.  The failure that was met last is the one that is reported, and the status
counts only if there is no failure.  A text is returned only if it is the text of the whole
response.

Main definitions:

* `ServiceClient.gotStatus`, `ServiceClient.gotText`: the status and the text according to a record;
* `ServiceClient.Verdict`: what is to come of the events of a record.

Main results:

* `ServiceClient.Text.drainBytes_ne_noResponse`: no text of a stream is the text that stands for an
  absent one;
* `ServiceClient.Reception.verdict`: a course of reading ends as its events say;
* `ServiceClient.readResponse_verdict`: **reading a response takes one of the courses and ends as its
  events say, whatever the connection does**.
-/

import ServiceClient.Proofs.Exchange.Course
import ServiceClient.Recording

set_option autoImplicit false

namespace ServiceClient

variable {σ : Type}

/-! ### What a record tells -/

namespace Event

def status? (e : Event) : Option Int :=
  match e.outcome with
  | .ok (.status status) => some status
  | _ => none

/-- Whether a stream was given, where one was asked for. -/
def stream? (e : Event) : Option Bool :=
  match e.outcome with
  | .ok (.stream present) => some present
  | _ => none

/-- The bytes that were given, where all bytes of a stream were asked for. -/
def bytes? (e : Event) : Option Bytes :=
  match e.outcome with
  | .ok (.bytes data) => if e.operation = .readAll then some data else none
  | _ => none

/-- Whether the failure of an operation, if it failed, is one that an exchange is expected to
have. -/
def expected (e : Event) : Bool :=
  e.failure?.all Failure.isExchangeFailure

variable (n : Nat) (operation : Operation) (g : Option Failure)

@[simp] theorem failure?_ok (reply : Reply) :
    (Event.mk n operation g (.ok reply)).failure? = none := rfl

@[simp] theorem failure?_error (f : Failure) :
    (Event.mk n operation g (.error f)).failure? = some f := rfl

end Event

def Operation.releases : Operation → Bool
  | .closeOutput | .closeInput | .disconnect => true
  | _ => false

def gotStatus (es : List Event) : Option Int :=
  es.findSome? Event.status?

/-- The operation that gives the stream of a response with a status. -/
def streamOperation (status : Int) : Operation :=
  if status ≥ 400 then .errorInput else .input

/-- Whether the response has the stream that its status selects. -/
def gotStream (es : List Event) : Option Bool :=
  (gotStatus es).bind fun status =>
    es.findSome? fun e => if e.operation = streamOperation status then e.stream? else none

/-- The text of the response: what is left of all bytes of its stream, if it has one. -/
def gotText (es : List Event) : Option String :=
  match gotStream es with
  | none => none
  | some false => some noResponse
  | some true => (es.findSome? Event.bytes?).map Text.drainBytes

/-! ### Verdicts -/

/-- What is to come of reading a response from a URL, given the events of the run. -/
structure Verdict (url : String) (es : List Event) (r : Except Failure ResponseResult) : Prop where
  /-- It returns exactly if nothing fails and the status is no failing one. -/
  returns : (∃ x, r = .ok x) ↔
    (∀ e ∈ es, e.failure? = none) ∧ ∃ status, gotStatus es = some status ∧ status < 400
  /-- What it returns is the status and the whole text. -/
  returned : ∀ x, r = .ok x →
    gotStatus es = some x.statusCode ∧ gotText es = some x.text ∧ x.isError = false ∧
      (x.text = "No Response." ↔ gotStream es = some false)
  /-- Otherwise it raises an error of the client. -/
  raises : ∀ f, r = .error f → f.fault.isClient
  /-- A failure to disconnect comes first. -/
  undisconnected : ∀ e ∈ es, e.operation = .disconnect → ∀ f, e.failure? = some f →
    ∃ error, r = .error (.of error f) ∧ error = .undisconnected url ∧ error.kind = .resourceRelease
  /-- A failure to close the reader comes second. -/
  unclosed : (∀ e ∈ es, e.operation = .disconnect → e.failure? = none) →
    ∀ e ∈ es, e.operation = .closeInput → ∀ f, e.failure? = some f →
      ∃ error, r = .error (.of error f) ∧ error = .unclosed textStreamName ∧
        error.kind = .resourceRelease
  /-- A failure of any other step comes third. -/
  failed : (∀ e ∈ es, e.operation.releases → e.failure? = none) →
    ∀ e ∈ es, ∀ f, e.failure? = some f →
      ∃ error, r = .error (.of error f) ∧ error.statusCode = none ∧
        error.kind =
          if f.isA .proxy then .connectionOpen
          else if f.isA .network || f.isA .connection then .socket
          else .generic
  /-- A failing status comes last. -/
  refused : (∀ e ∈ es, e.failure? = none) → ∀ status, gotStatus es = some status → 400 ≤ status →
    ∃ text error h, gotText es = some text ∧ r = .error h ∧ h.fault = .client error ∧
      error.statusCode = some status ∧
      error.message = "Unable to get response from OData service: " ++ text ∧
      error.kind =
        if status = 408 then .timeout else if status = 401 then .unauthorized else .httpStatus

/-! ### Texts of streams -/

/-- A drained text is empty or ends with a line feed. -/
theorem Text.getLast?_drain (ls : List (List Char)) (h : Text.drain ls ≠ []) :
    (Text.drain ls).getLast? = some '\n' := by
  rcases List.eq_nil_or_concat ls with rfl | ⟨init, line, rfl⟩
  · exact absurd rfl h
  · simp [Text.drain]

/-- No text of a stream is the text that stands for an absent one. -/
theorem Text.drainBytes_ne_noResponse (bytes : Bytes) : Text.drainBytes bytes ≠ noResponse := by
  intro h
  have hlist := congrArg String.toList h
  rw [Text.drainBytes, String.toList_ofList] at hlist
  have hlast := Text.getLast?_drain (Text.lines (Text.decode bytes)) (by rw [hlist]; decide)
  rw [hlist] at hlast
  exact absurd hlast (by decide)

/-! ### The verdict on a course -/

namespace Failure

theorem unreleased_of_expected {f : Failure} (h : f.isExchangeFailure) (e : ClientError) :
    f.unreleased e = .of e f := by
  simp [unreleased, toldAs, h]

theorem unread_of_expected {f : Failure} (h : f.isExchangeFailure) :
    f.unread = .of (.ofTransport f.fault) f := by
  simp [unread, toldAs, h]

/-- The error of a failure that an exchange is expected to have. -/
theorem ofTransport_of_expected {f : Failure} (h : f.isExchangeFailure) :
    (ClientError.ofTransport f.fault).statusCode = none ∧
      (ClientError.ofTransport f.fault).kind =
        if f.isA .proxy then .connectionOpen
        else if f.isA .network || f.isA .connection then .socket
        else .generic := by
  rcases f with ⟨e | ⟨cls, wording⟩, behind⟩
  · simp [isExchangeFailure, isA] at h
  · simp only [ClientError.ofTransport, isA]
    by_cases hproxy : (Fault.system cls wording).isA .proxy
    · simp [hproxy]
    · by_cases hsocket : (Fault.system cls wording).isA .network ||
          (Fault.system cls wording).isA .connection
      · simp only [hproxy, hsocket]
        exact ⟨rfl, rfl⟩
      · simp only [hproxy, hsocket]
        exact ⟨rfl, rfl⟩

end Failure

@[simp] theorem operation_doing (n : Nat) (operation : Operation) (g : Option Failure)
    (r : Except Failure Unit) : (doing n operation g r).operation = operation := rfl

@[simp] theorem failure?_doing_ok (n : Nat) (operation : Operation) (g : Option Failure)
    (u : Unit) : (doing n operation g (.ok u)).failure? = none := rfl

@[simp] theorem failure?_doing_error (n : Nat) (operation : Operation) (g : Option Failure)
    (f : Failure) : (doing n operation g (.error f)).failure? = some f := rfl

namespace Reception

/-- The failure of a step that releases nothing. -/
def failed? : Reception → Option Failure
  | noStatus f | noStream _ f | unattached _ f | streamed _ (.error f) _ => some f
  | absent _ | streamed _ (.ok _) _ => none

def unclosed? : Reception → Option Failure
  | streamed _ _ (.error f) => some f
  | _ => none

@[simp] theorem failure?_asking_ok (n : Nat) (g : Option Failure) (status : Int)
    (present : Bool) : (asking n g status (.ok present)).failure? = none := rfl

@[simp] theorem failure?_asking_error (n : Nat) (g : Option Failure) (status : Int)
    (f : Failure) : (asking n g status (.error f)).failure? = some f := rfl

@[simp] theorem releases_asking (n : Nat) (g : Option Failure) (status : Int)
    (found : Except Failure Bool) : (asking n g status found).operation.releases = false := by
  by_cases h : status ≥ failingStatus <;> simp [asking, h, Operation.releases]

variable {k : Reception} {n : Nat} {g : Option Failure} {d : Except Failure Unit} {e : Event}
  {f : Failure}

/-- Every failure up to the disconnect is that of a step or that of the close. -/
theorem failure_cases_of_mem_events (k : Reception) : ∀ e ∈ k.events n g, e.failure? = some f →
    (e.operation = .closeInput ∧ k.unclosed? = some f) ∨
      (e.operation.releases = false ∧ k.failed? = some f) := by
  cases k with
  | noStatus h => simp [events, failed?, Operation.releases]
  | noStream status h => simpa [events, failed?] using Or.inr
  | absent status => simp [events]
  | unattached status h => simp [events, failed?, Operation.releases]
  | streamed status bytes closed =>
      cases bytes <;> cases closed <;>
        simp [events, failed?, unclosed?, Except.map, Operation.releases]

/-- Every failure of a course is that of a step, that of the close or that of the disconnect. -/
theorem failure_cases (he : e ∈ k.record n g d) (hf : e.failure? = some f) :
    (e.operation = .disconnect ∧ d = .error f) ∨
      (e.operation = .closeInput ∧ k.unclosed? = some f) ∨
      (e.operation.releases = false ∧ k.failed? = some f) := by
  rcases List.mem_append.mp he with he | he
  · exact .inr (k.failure_cases_of_mem_events e he hf)
  · obtain rfl := List.mem_singleton.mp he
    cases d with
    | ok u => cases hf
    | error h => exact .inl ⟨rfl, by simpa using hf⟩

theorem exists_of_disconnect : d = .error f →
    ∃ e ∈ k.record n g d, e.operation = .disconnect ∧ e.failure? = some f := by
  rintro rfl
  exact ⟨_, List.mem_append_right _ (List.mem_singleton_self _), rfl, rfl⟩

theorem exists_of_unclosed (h : k.unclosed? = some f) :
    ∃ e ∈ k.record n g d, e.operation = .closeInput ∧ e.failure? = some f := by
  cases k with
  | streamed status bytes closed =>
      cases closed with
      | ok u => cases h
      | error h' =>
          cases h
          exact ⟨_, List.mem_append_left _ (List.mem_of_getLast? rfl), rfl, rfl⟩
  | _ => cases h

theorem exists_of_failed (h : k.failed? = some f) :
    ∃ e ∈ k.record n g d, e.operation.releases = false ∧ e.failure? = some f := by
  have hmem {e : Event} (he : e ∈ k.events n g) : e ∈ k.record n g d := List.mem_append_left _ he
  cases k with
  | noStatus f' => cases h; exact ⟨_, hmem (.head _), rfl, rfl⟩
  | noStream status f' => cases h; exact ⟨_, hmem (.tail _ (.head _)), by simp⟩
  | absent status => cases h
  | unattached status f' => cases h; exact ⟨_, hmem (.tail _ (.tail _ (.head _))), rfl, rfl⟩
  | streamed status bytes closed =>
      cases bytes with
      | ok bytes => cases h
      | error f' =>
          cases h
          exact ⟨_, hmem (.tail _ (.tail _ (.tail _ (.head _)))), rfl, rfl⟩

/-- What follows from the status and the text, if there is no failure. -/
def told (g : Option Failure) : Reception → Except Failure ResponseResult
  | absent status => concluded g status noResponse
  | streamed status (.ok bytes) _ => concluded g status (Text.drainBytes bytes)
  | noStatus f | noStream _ f | unattached _ f | streamed _ (.error f) _ => .error f

theorem drained_eq (k : Reception) :
    k.drained g =
      match k.failed? with
      | some f => .error f.unread
      | none => k.told g := by
  cases k with
  | streamed status bytes closed => cases bytes <;> rfl
  | _ => rfl

theorem closed_eq (k : Reception) :
    k.closed g =
      match k.unclosed? with
      | some f => .error (f.unreleased (.unclosed textStreamName))
      | none => k.drained g := by
  cases k with
  | streamed status bytes closed => cases closed <;> rfl
  | _ => rfl

/-- The last failure that was met counts. -/
def ruled (url : String) (g : Option Failure) (k : Reception) (d : Except Failure Unit) :
    Except Failure ResponseResult :=
  match d, k.unclosed?, k.failed? with
  | .error f, _, _ => .error (.of (.undisconnected url) f)
  | .ok _, some f, _ => .error (.of (.unclosed textStreamName) f)
  | .ok _, none, some f => .error (.of (.ofTransport f.fault) f)
  | .ok _, none, none => k.told g

@[simp] theorem ruled_error (k : Reception) (url : String) (f : Failure) :
    k.ruled url g (.error f) = .error (.of (.undisconnected url) f) := rfl

theorem ruled_unclosed (url : String) (h : k.unclosed? = some f) :
    k.ruled url g (.ok ()) = .error (.of (.unclosed textStreamName) f) := by
  simp only [ruled, h]

theorem ruled_failed (url : String) (hc : k.unclosed? = none) (hs : k.failed? = some f) :
    k.ruled url g (.ok ()) = .error (.of (.ofTransport f.fault) f) := by
  simp only [ruled, hc, hs]

theorem ruled_told (url : String) (hc : k.unclosed? = none) (hs : k.failed? = none) :
    k.ruled url g (.ok ()) = k.told g := by
  simp only [ruled, hc, hs]

/-- How a course ends whose failures are expected ones. -/
theorem result_eq (k : Reception) (d : Except Failure Unit) (url : String)
    (hexp : ∀ e ∈ k.record n g d, e.expected) : k.result url g d = k.ruled url g d := by
  have hone {e : Event} {f : Failure} (he : e ∈ k.record n g d) (hf : e.failure? = some f) :
      f.isExchangeFailure := by
    simpa [Event.expected, hf] using hexp e he
  -- from the disconnect inwards: each failure hides those that were met before it
  cases d with
  | error f =>
      obtain ⟨e, he, -, hf⟩ := exists_of_disconnect (k := k) (n := n) (g := g) (f := f) rfl
      simp [result, Failure.unreleased_of_expected (hone he hf)]
  | ok u =>
      rw [result, closed_eq, drained_eq]
      cases hc : k.unclosed? with
      | some f =>
          obtain ⟨e, he, -, hf⟩ := exists_of_unclosed (n := n) (g := g) (d := .ok ()) hc
          rw [ruled_unclosed url hc]
          simp [Failure.unreleased_of_expected (hone he hf)]
      | none =>
          cases hs : k.failed? with
          | some f =>
              obtain ⟨e, he, -, hf⟩ := exists_of_failed (n := n) (g := g) (d := .ok ()) hs
              rw [ruled_failed url hc hs]
              simp [Failure.unread_of_expected (hone he hf)]
          | none => rw [ruled_told url hc hs]; rfl

/-- The stream that was asked for is the one that the status selects. -/
theorem gotStream_eq (status : Int) (present : Bool) (g : Option Failure) (es : List Event) :
    gotStream (⟨n, .status, g, .ok (.status status)⟩ :: asking n g status (.ok present) :: es) =
      some present := by
  have hfirst : (⟨n, .status, g, .ok (.status status)⟩ : Event).stream? = none := rfl
  have hselected : (asking n g status (.ok present)).operation = streamOperation status := rfl
  have hstream : (asking n g status (.ok present)).stream? = some present := rfl
  simp only [gotStream, gotStatus, List.findSome?_cons, Event.status?, Option.bind_some, hfirst,
    hselected, hstream, ite_self, if_true]

/-- A course without failures has a status and a text, and ends as they say. -/
theorem told_eq (h : k.failed? = none) :
    ∃ status text, gotStatus (k.record n g d) = some status ∧
      gotText (k.record n g d) = some text ∧ k.told g = concluded g status text ∧
      (text = noResponse ↔ gotStream (k.record n g d) = some false) := by
  cases k with
  | absent status =>
      have hstream : gotStream (record n g (absent status) d) = some false :=
        gotStream_eq status false g _
      refine ⟨status, noResponse, rfl, ?_, rfl, iff_of_true rfl hstream⟩
      rw [gotText, hstream]
  | streamed status bytes closed =>
      cases bytes with
      | error f => cases h
      | ok bytes =>
          have hstream :
              gotStream (record n g (streamed status (.ok bytes) closed) d) = some true :=
            gotStream_eq status true g _
          refine ⟨status, Text.drainBytes bytes, rfl, ?_, rfl, ?_⟩
          · rw [gotText, hstream]
            rfl
          · rw [hstream]
            exact iff_of_false (Text.drainBytes_ne_noResponse bytes) nofun
  | _ => cases h

/-! ### Without failures -/

theorem disconnected_of_none
    (h : ∀ e ∈ k.record n g d, e.operation = .disconnect → e.failure? = none) : d = .ok () := by
  cases d with
  | ok u => rfl
  | error f =>
      obtain ⟨e, he, hop, hf⟩ := exists_of_disconnect (k := k) (n := n) (g := g) (f := f) rfl
      simp [h e he hop] at hf

theorem unclosed?_of_none
    (h : ∀ e ∈ k.record n g d, e.operation = .closeInput → e.failure? = none) :
    k.unclosed? = none := by
  cases hc : k.unclosed? with
  | none => rfl
  | some f =>
      obtain ⟨e, he, hop, hf⟩ := exists_of_unclosed (n := n) (g := g) (d := d) hc
      simp [h e he hop] at hf

theorem failed?_of_none (h : ∀ e ∈ k.record n g d, e.failure? = none) : k.failed? = none := by
  cases hs : k.failed? with
  | none => rfl
  | some f =>
      obtain ⟨e, he, -, hf⟩ := exists_of_failed (n := n) (g := g) (d := d) hs
      simp [h e he] at hf

/-- If the record has no failure, the status and the text decide. -/
theorem ruled_of_none (url : String) (h : ∀ e ∈ k.record n g d, e.failure? = none) :
    ∃ status text, gotStatus (k.record n g d) = some status ∧
      gotText (k.record n g d) = some text ∧ k.ruled url g d = concluded g status text ∧
      (text = noResponse ↔ gotStream (k.record n g d) = some false) := by
  obtain rfl := disconnected_of_none fun e he _ => h e he
  obtain ⟨status, text, hstatus, htext, htold, habsent⟩ :=
    told_eq (n := n) (g := g) (d := .ok ()) (failed?_of_none h)
  refine ⟨status, text, hstatus, htext, ?_, habsent⟩
  rw [ruled_told url (unclosed?_of_none fun e he _ => h e he) (failed?_of_none h), htold]

/-- Nothing is returned if the record has a failure. -/
theorem none_of_ruled {url : String} {x : ResponseResult} (h : k.ruled url g d = .ok x) :
    ∀ e ∈ k.record n g d, e.failure? = none := by
  intro e he
  cases hf : e.failure? with
  | none => rfl
  | some f =>
      exfalso
      cases d with
      | error h' => cases h
      | ok u =>
          rcases failure_cases he hf with ⟨-, hd⟩ | ⟨-, hc⟩ | ⟨-, hs⟩
          · cases hd
          · rw [ruled_unclosed url hc] at h
            cases h
          · cases hc : k.unclosed? with
            | some f' => rw [ruled_unclosed url hc] at h; cases h
            | none => rw [ruled_failed url hc hs] at h; cases h

theorem concluded_of_lt {status : Int} (text : String) (h : status < 400) :
    concluded g status text = .ok { statusCode := status, text, isError := false } :=
  if_neg (Int.not_le.mpr h)

theorem concluded_of_ge {status : Int} (text : String) (h : 400 ≤ status) :
    concluded g status text =
      .error ((Failure.client (.ofStatus status (ClientError.statusPreamble ++ text))).raisedDuring
        g) :=
  if_pos h

theorem statusKind_of_ge {status : Int} (h : 400 ≤ status) :
    ClientError.statusKind status =
      if status = 408 then .timeout else if status = 401 then .unauthorized else .httpStatus := by
  simp only [ClientError.statusKind, ClientError.timeoutStatus, ClientError.unauthorizedStatus,
    if_pos (show status > 0 by omega)]

theorem isClient_of_ruled {url : String} {h : Failure} (hr : k.ruled url g d = .error h) :
    h.fault.isClient := by
  have hof {e : ClientError} {f : Failure}
      (heq : (.error (.of e f) : Except Failure ResponseResult) = .error h) : h.fault.isClient := by
    cases heq
    rfl
  cases d with
  | error f => exact hof hr
  | ok u =>
      cases hc : k.unclosed? with
      | some f => exact hof ((ruled_unclosed url hc).symm.trans hr)
      | none =>
          cases hs : k.failed? with
          | some f => exact hof ((ruled_failed url hc hs).symm.trans hr)
          | none =>
              obtain ⟨status, text, -, -, htold, -⟩ :=
                told_eq (n := 0) (g := g) (d := .ok ()) hs
              rw [ruled_told url hc hs, htold] at hr
              by_cases hlt : status < 400
              · rw [concluded_of_lt text hlt] at hr
                cases hr
              · rw [concluded_of_ge text (Int.not_lt.mp hlt)] at hr
                cases hr
                simp [Failure.client, Fault.isClient]

/-- **A course of reading ends as its events say.** -/
theorem verdict (k : Reception) (d : Except Failure Unit) (url : String)
    (hexp : ∀ e ∈ k.record n g d, e.expected) :
    Verdict url (k.record n g d) (k.result url g d) := by
  rw [k.result_eq d url hexp]
  constructor
  case returns =>
    constructor
    · rintro ⟨x, hx⟩
      have hnone := none_of_ruled (n := n) hx
      obtain ⟨status, text, hstatus, -, hr, -⟩ := ruled_of_none url hnone
      refine ⟨hnone, status, hstatus, ?_⟩
      by_cases hlt : status < 400
      · exact hlt
      · rw [hr, concluded_of_ge text (Int.not_lt.mp hlt)] at hx
        cases hx
    · rintro ⟨hnone, status, hstatus, hlt⟩
      obtain ⟨status', text, hstatus', -, hr, -⟩ := ruled_of_none url hnone
      obtain rfl : status = status' := Option.some.inj (hstatus.symm.trans hstatus')
      exact ⟨_, hr.trans (concluded_of_lt text hlt)⟩
  case returned =>
    intro x hx
    obtain ⟨status, text, hstatus, htext, hr, habsent⟩ := ruled_of_none url (none_of_ruled hx)
    by_cases hlt : status < 400
    · rw [hr, concluded_of_lt text hlt] at hx
      cases hx
      exact ⟨hstatus, htext, rfl, habsent⟩
    · rw [hr, concluded_of_ge text (Int.not_lt.mp hlt)] at hx
      cases hx
  case raises => exact fun f => isClient_of_ruled
  case undisconnected =>
    intro e he hop f hf
    rcases failure_cases he hf with ⟨-, rfl⟩ | ⟨hop', -⟩ | ⟨hrel, -⟩
    · exact ⟨_, rfl, rfl, rfl⟩
    · rw [hop] at hop'
      cases hop'
    · simp [hop, Operation.releases] at hrel
  case unclosed =>
    intro hdisc e he hop f hf
    obtain rfl := disconnected_of_none hdisc
    rcases failure_cases he hf with ⟨-, hd⟩ | ⟨-, hc⟩ | ⟨hrel, -⟩
    · cases hd
    · exact ⟨_, ruled_unclosed url hc, rfl, rfl⟩
    · simp [hop, Operation.releases] at hrel
  case failed =>
    intro hreleased e he f hf
    obtain rfl := disconnected_of_none fun e he hop => hreleased e he (by rw [hop]; rfl)
    have hc := unclosed?_of_none fun e he hop => hreleased e he (by rw [hop]; rfl)
    rcases failure_cases he hf with ⟨-, hd⟩ | ⟨-, hc'⟩ | ⟨-, hs⟩
    · cases hd
    · rw [hc] at hc'
      cases hc'
    · have hfexp : f.isExchangeFailure := by simpa [Event.expected, hf] using hexp e he
      exact ⟨_, ruled_failed url hc hs, Failure.ofTransport_of_expected hfexp⟩
  case refused =>
    intro hnone status hstatus hge
    obtain ⟨status', text, hstatus', htext, hr, -⟩ := ruled_of_none url hnone
    obtain rfl : status = status' := Option.some.inj (hstatus.symm.trans hstatus')
    refine ⟨text, .ofStatus status (ClientError.statusPreamble ++ text), _, htext,
      hr.trans (concluded_of_ge text hge), Failure.fault_raisedDuring _ _, rfl, rfl, ?_⟩
    exact statusKind_of_ge hge

end Reception

/-! ### The verdict on a run -/

/-- **Reading a response ends as its events say, whatever the connection does.**  The events are
those of the same run over the watched connection; watching changes nothing.  They are those of a
course: the status is asked for, then the stream that it selects, which is read to its end and closed,
as far as nothing fails; and the connection is disconnected in any case. -/
theorem readResponse_verdict (c : Connection σ) (g : Option Failure) (s : σ)
    (hexp : ∀ e ∈ (readResponse (c.watched 0) g { state := s }).2.events, e.expected) :
    (readResponse (c.watched 0) g { state := s }).2.state = (readResponse c g s).2 ∧
    ∃ (k : Reception) (d : Except Failure Unit),
      (readResponse (c.watched 0) g { state := s }).2.events = k.record 0 g d ∧
      Verdict c.url (k.record 0 g d) (readResponse c g s).1 := by
  have halike := readResponse_alike (c.watched_alike 0).toAnswersAlike g { state := s } s rfl
  obtain ⟨k, d, w', hk⟩ := readResponse_records 0 c g { state := s }
  have hevents : w'.events = k.record 0 g d := by simpa using hk.events_eq
  rw [hk.run, hevents] at hexp
  rw [hk.run] at halike ⊢
  generalize readResponse c g s = end' at halike ⊢
  have hverdict := k.verdict d c.url hexp
  generalize k.result c.url g d = r at halike hverdict
  cases halike with
  | ok hr hs => exact ⟨hs, k, d, hevents, hr ▸ hverdict⟩
  | error hs => exact ⟨hs, k, d, hevents, hverdict⟩

/-- The read, the close of the reader and the disconnect of one run all fail. -/
theorem readResponse_verdict_recording :
    let c := Recording.connection "http://localhost/odata.svc"
    let stream : Tracked :=
      { content := [65], readFailure := some (.plain .read), closeFailure := some (.plain .io) }
    let s : Recording × List LogEvent :=
      ({ responseStream := some stream, disconnectFailure := some (.plain .close) }, [])
    (∀ e ∈ (readResponse (c.watched 0) none { state := s }).2.events, e.expected) ∧
      ∃ (k : Reception) (d : Except Failure Unit),
        (readResponse (c.watched 0) none { state := s }).2.events = k.record 0 none d ∧
        Verdict c.url (k.record 0 none d) (readResponse c none s).1 := by
  intro c stream s
  have hexp : ∀ e ∈ (readResponse (c.watched 0) none { state := s }).2.events, e.expected := by
    decide +kernel
  exact ⟨hexp, (readResponse_verdict c none s hexp).2⟩

end ServiceClient
