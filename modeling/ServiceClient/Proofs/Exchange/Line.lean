/-
**No failure is lost.**

A failure to release something hides the failure that was in flight, and an error of the client
hides the failure that it was built from.  Both stay in the line behind what is raised at the end.
An operation fails *freshly* if nothing stands behind its failure but what was in flight.

Main definitions:

* `ServiceClient.Event.Fresh`: a fresh failure;
* `ServiceClient.Linked`: an end whose line consists of what was raised;
* `ServiceClient.Transmission.raised`, `ServiceClient.Reception.raised`, …: the faults that are
  raised in a course, one after the other;
* `ServiceClient.Verb`, `ServiceClient.Verb.attempt`: every call.

Main results:

* `ServiceClient.Linked.overruled`: cleaning up keeps the line;
* `ServiceClient.Verb.attempt_line`: **whatever a call raises has in its line every failure of an
  operation and every error of the client that was built**.
-/

import ServiceClient.Proofs.Exchange.Leasing
import ServiceClient.Recording

set_option autoImplicit false

namespace ServiceClient

variable {σ α : Type}

/-! ### Lines -/

/-- The faults that a fresh failure finds in flight. -/
def lineOf (g : Option Failure) : List Fault :=
  (g.map Failure.faults).getD []

/-- A failure of the operation, if it failed, was raised just now. -/
def Event.Fresh (e : Event) : Prop :=
  ∀ f, e.failure? = some f → ∃ fault : Fault, f = Failure.raisedDuring e.inFlight { fault }

theorem Failure.faults_raisedDuring (g : Option Failure) (fault : Fault) :
    (Failure.raisedDuring g { fault }).faults = fault :: lineOf g := by
  cases g <;> rfl

/-- An end whose line consists of the faults that were raised, the last one first, and of what was
in flight before. -/
def Linked (g : Option Failure) (raised : List Fault) : Except Failure α → Prop
  | .ok _ => raised = []
  | .error f => f.faults = raised.reverse ++ lineOf g

/-- The faults that are raised where a failure becomes an error of the client, if it is
expected. -/
def Failure.raising (e : ClientError) (expected : Bool) (f : Failure) : List Fault :=
  f.fault :: if expected then [.client e] else []

/-- The faults that are raised by an operation that reads. -/
def unreadFaults : Except Failure α → List Fault
  | .ok _ => []
  | .error f => f.raising (.ofTransport f.fault) f.isExchangeFailure

/-- The faults that are raised by an operation that writes. -/
def unsentFaults (method url : String) : Except Failure α → List Fault
  | .ok _ => []
  | .error f => f.raising (.unwritten method url) f.isWriteFailure

/-- The faults that are raised where something is released. -/
def unreleasedFaults (e : ClientError) : Except Failure α → List Fault
  | .ok _ => []
  | .error f => f.raising e f.isExchangeFailure

/-- The fault that is raised for a failing status. -/
def refusedFaults (status : Int) (text : String) : List Fault :=
  if status ≥ failingStatus then
    [.client (.ofStatus status (ClientError.statusPreamble ++ text))]
  else []

namespace Linked

variable {g : Option Failure} {raised later : List Fault} {r : Except Failure α}
  {q : Except Failure Unit} {n : Nat} {operation : Operation} {f : Failure}

/-- A fresh failure is linked. -/
theorem raw (h : (Event.mk n operation g (.error f)).Fresh) :
    Linked g [f.fault] (.error f : Except Failure α) := by
  obtain ⟨fault, hf⟩ := h f rfl
  rw [hf, Failure.fault_raisedDuring]
  exact Failure.faults_raisedDuring g fault

/-- So it is as an error of the client. -/
theorem toldAs (e : ClientError) (expected : Bool)
    (h : (Event.mk n operation g (.error f)).Fresh) :
    Linked g (f.raising e expected) (.error (f.toldAs e expected) : Except Failure α) := by
  have hraw : Linked g [f.fault] (.error f : Except Failure Unit) := raw h
  have hf : f.faults = f.fault :: lineOf g := hraw
  cases expected with
  | false => exact hf
  | true => simp [Linked, Failure.raising, Failure.toldAs, hf]

theorem unread {shown : α → Reply} (h : (Event.mk n operation g (r.map shown)).Fresh) :
    Linked g (unreadFaults r) (r.mapError Failure.unread) := by
  cases r with
  | ok a => rfl
  | error f => exact toldAs _ _ h

theorem unsent {shown : α → Reply} (method url : String)
    (h : (Event.mk n operation g (r.map shown)).Fresh) :
    Linked g (unsentFaults method url r) (r.mapError (·.unsent method url)) := by
  cases r with
  | ok a => rfl
  | error f => exact toldAs _ _ h

theorem unreleased {shown : α → Reply} (e : ClientError)
    (h : (Event.mk n operation g (r.map shown)).Fresh) :
    Linked g (unreleasedFaults e r) (r.mapError (·.unreleased e)) := by
  cases r with
  | ok a => rfl
  | error f => exact toldAs _ _ h

theorem concluded (g : Option Failure) (status : Int) (text : String) :
    Linked g (refusedFaults status text) (Reception.concluded g status text) := by
  by_cases h : status ≥ failingStatus
  · simp only [refusedFaults, Reception.concluded, if_pos h]
    exact Failure.faults_raisedDuring g _
  · simp only [refusedFaults, Reception.concluded, if_neg h]
    rfl

/-- **Cleaning up keeps the line.** -/
theorem overruled (hr : Linked g raised r) (hq : Linked (inFlightAfter g r) later q) :
    Linked g (raised ++ later) (overruled r q) := by
  cases q with
  | ok u =>
      obtain rfl : later = [] := hq
      simpa using hr
  | error h =>
      cases r with
      | ok a =>
          obtain rfl : raised = [] := hr
          exact hq
      | error f =>
          -- the later failure was raised while the first one was in flight
          have hf : f.faults = raised.reverse ++ lineOf g := hr
          have hh : h.faults = later.reverse ++ f.faults := hq
          simp [Linked, hh, hf]

end Linked

/-! ### The faults of a course -/

namespace Transmission

/-- The faults that are raised while a body is sent. -/
def raised (method url : String) : Transmission → List Fault
  | noOutput f => unsentFaults method url (.error f : Except Failure Unit)
  | unattached name f closed =>
      unsentFaults method url (.error f : Except Failure Unit) ++
        unreleasedFaults (.unclosed name) closed
  | written name wrote writerClosed closed =>
      unsentFaults method url wrote ++
        unreleasedFaults (.unclosed textStreamName) writerClosed ++
        unreleasedFaults (.unclosed name) closed

theorem linked (k : Transmission) {method url : String} {n : Nat} {g : Option Failure}
    (h : ∀ e ∈ k.record method url n g, e.Fresh) :
    Linked g (k.raised method url) (k.result method url) := by
  have hunsent (operation : Operation) (r : Except Failure Unit)
      (hmem : doing n operation g r ∈ k.record method url n g) :
      Linked g (unsentFaults method url r) (r.mapError (·.unsent method url)) :=
    .unsent method url (h _ hmem)
  have hclosed (g' : Option Failure) (name : String) (r : Except Failure Unit)
      (hmem : doing n .closeOutput g' r ∈ k.record method url n g) :
      Linked g' (unreleasedFaults (.unclosed name) r)
        (r.mapError (·.unreleased (.unclosed name))) :=
    .unreleased _ (h _ hmem)
  cases k with
  | noOutput f => exact hunsent .output (.error f) (by simp [record])
  | unattached name f closed =>
      have hattach := hunsent .attachWriter (.error f) (by simp [record])
      exact hattach.overruled
        (hclosed (some (f.unsent method url)) name closed (by simp [record]))
  | written name wrote writerClosed closed =>
      have hwriter := (hunsent .write wrote (by simp [record])).overruled
        (hclosed _ textStreamName writerClosed (by simp [record]))
      exact hwriter.overruled (hclosed _ name closed (by simp [record, writing]))

end Transmission

namespace Reception

/-- The faults that are raised up to the disconnect, apart from the close of the reader. -/
def drainedFaults : Reception → List Fault
  | noStatus f => unreadFaults (.error f : Except Failure Unit)
  | noStream _ f => unreadFaults (.error f : Except Failure Unit)
  | absent status => refusedFaults status noResponse
  | unattached _ f => unreadFaults (.error f : Except Failure Unit)
  | streamed status (.ok bytes) _ => refusedFaults status (Text.drainBytes bytes)
  | streamed _ (.error f) _ => unreadFaults (.error f : Except Failure Unit)

/-- The faults that are raised while a response is read. -/
def raised (url : String) (k : Reception) (disconnected : Except Failure Unit) : List Fault :=
  k.drainedFaults ++ unreleasedFaults (.unclosed textStreamName) k.readerClosed ++
    unreleasedFaults (.undisconnected url) disconnected

theorem drained_linked (k : Reception) {n : Nat} {g : Option Failure}
    (h : ∀ e ∈ k.events n g, e.Fresh) : Linked g k.drainedFaults (k.drained g) := by
  have hunread (operation : Operation) (f : Failure)
      (hmem : (⟨n, operation, g, .error f⟩ : Event) ∈ k.events n g) :
      Linked g (unreadFaults (.error f : Except Failure Unit))
        (.error f.unread : Except Failure ResponseResult) :=
    .toldAs _ _ (h _ hmem)
  cases k with
  | noStatus f => exact hunread _ f (.head _)
  | noStream status f => exact hunread _ f (.tail _ (.head _))
  | absent status => exact .concluded g status noResponse
  | unattached status f => exact hunread _ f (.tail _ (.tail _ (.head _)))
  | streamed status bytes closed =>
      cases bytes with
      | ok bytes => exact .concluded g status (Text.drainBytes bytes)
      | error f => exact hunread _ f (.tail _ (.tail _ (.tail _ (.head _))))

theorem linked (k : Reception) {n : Nat} {url : String} {g : Option Failure}
    {d : Except Failure Unit} (h : ∀ e ∈ k.record n g d, e.Fresh) :
    Linked g (k.raised url d) (k.result url g d) := by
  have hevents : ∀ e ∈ k.events n g, e.Fresh := fun e he => h e (List.mem_append_left _ he)
  have hdisc : (doing n .disconnect (inFlightAfter g (k.closed g)) d).Fresh :=
    h _ (List.mem_append_right _ (List.mem_singleton_self _))
  have hclosed : Linked (inFlightAfter g (k.drained g))
      (unreleasedFaults (.unclosed textStreamName) k.readerClosed)
      (k.readerClosed.mapError (·.unreleased (.unclosed textStreamName))) := by
    -- without a reader there is nothing to close
    cases k with
    | streamed status bytes closed =>
        exact .unreleased _ (hevents _ (List.mem_of_getLast? rfl))
    | _ => rfl
  exact ((k.drained_linked hevents).overruled hclosed).overruled (.unreleased _ hdisc)

end Reception

namespace Course

def raised (method : String) : Course → List Fault
  | unopened f => [f.fault]
  | untransmitted url sent _ disconnected =>
      sent.raised method url ++ unreleasedFaults (.undisconnected url) disconnected
  | answered url sent received disconnected =>
      (sent.map (·.raised method url)).getD [] ++ received.raised url disconnected

theorem sent_linked {sent : Option Transmission} {method url : String} {n : Nat}
    {g : Option Failure} (hk : ∀ k ∈ sent, k.result method url = .ok ())
    (h : ∀ e ∈ sentRecord method url n g sent, e.Fresh) :
    (sent.map (·.raised method url)).getD [] = [] := by
  cases sent with
  | none => rfl
  | some k =>
      have hlinked := k.linked h
      rw [hk k rfl] at hlinked
      exact hlinked

/-- What a call raises over a connection is linked. -/
theorem linked (k : Course) {method : String} {n : Nat} {g : Option Failure}
    (hk : k.Consistent method) (h : ∀ e ∈ k.record method n g, e.Fresh) (hopens : k.opens = 1) :
    Linked g (k.raised method) (k.result g) := by
  cases k with
  | unopened f => cases hopens
  | untransmitted url sent f d =>
      have hsent : Linked g (sent.raised method url) (sent.result method url) :=
        sent.linked fun e he => h e (List.mem_append_left _ he)
      rw [hk] at hsent
      have hraised : Linked g (sent.raised method url)
          (.error f : Except Failure ResponseResult) := hsent
      exact hraised.overruled
        (.unreleased _ (h _ (List.mem_append_right _ (List.mem_singleton_self _))))
  | answered url sent received d =>
      have hreceived : Linked g (received.raised url d) (received.result url g d) :=
        received.linked fun e he => h e (List.mem_append_right _ he)
      rw [raised, sent_linked hk fun e he => h e (List.mem_append_left _ he)]
      exact hreceived

end Course

/-! ### The faults of operations -/

/-- The fault of an operation, if it failed. -/
def Event.faults (e : Event) : List Fault :=
  (e.failure?.map (·.fault)).toList

/-- The faults of the operations that failed. -/
def faultsOf (es : List Event) : List Fault :=
  es.flatMap Event.faults

@[simp] theorem faultsOf_nil : faultsOf [] = [] := rfl

@[simp] theorem faultsOf_cons (e : Event) (es : List Event) :
    faultsOf (e :: es) = e.faults ++ faultsOf es := by
  simp [faultsOf]

@[simp] theorem faultsOf_append (es fs : List Event) :
    faultsOf (es ++ fs) = faultsOf es ++ faultsOf fs := by
  simp [faultsOf]

section Operations

variable {n : Nat} {operation : Operation} {g : Option Failure} {r : Except Failure α}
  {shown : α → Reply}

@[simp] theorem Event.faults_ok (reply : Reply) :
    (Event.mk n operation g (.ok reply)).faults = [] := rfl

@[simp] theorem Event.faults_error (f : Failure) :
    (Event.mk n operation g (.error f)).faults = [f.fault] := rfl

@[simp] theorem faults_doing_ok (u : Unit) : (doing n operation g (.ok u)).faults = [] := rfl

@[simp] theorem faults_asking_ok (status : Int) (present : Bool) :
    (Reception.asking n g status (.ok present)).faults = [] := rfl

@[simp] theorem faults_doing_error (f : Failure) :
    (doing n operation g (.error f)).faults = [f.fault] := rfl

theorem faults_sublist_unsent (method url : String) :
    (Event.mk n operation g (r.map shown)).faults.Sublist (unsentFaults method url r) := by
  cases r <;> simp [Except.map, unsentFaults, Failure.raising]

theorem faults_sublist_unreleased (e : ClientError) :
    (Event.mk n operation g (r.map shown)).faults.Sublist (unreleasedFaults e r) := by
  cases r <;> simp [Except.map, unreleasedFaults, Failure.raising]

end Operations

theorem Transmission.faults_sublist (k : Transmission) (method url : String) (n : Nat)
    (g : Option Failure) :
    (faultsOf (k.record method url n g)).Sublist (k.raised method url) := by
  cases k with
  | noOutput f =>
      simp only [record, faultsOf_cons, faultsOf_nil, faults_doing_ok, List.nil_append,
        List.append_nil]
      exact faults_sublist_unsent method url
  | unattached name f closed =>
      simp only [record, faultsOf_cons, faultsOf_nil, faults_doing_ok, List.nil_append,
        List.append_nil]
      exact (faults_sublist_unsent method url).append (faults_sublist_unreleased _)
  | written name wrote writerClosed closed =>
      simp only [record, faultsOf_cons, faultsOf_nil, faults_doing_ok, List.nil_append,
        List.append_nil, ← List.append_assoc]
      exact ((faults_sublist_unsent method url).append (faults_sublist_unreleased _)).append
        (faults_sublist_unreleased _)

theorem singleton_sublist_unread (f : Failure) (later : List Fault) :
    [f.fault].Sublist (unreadFaults (.error f : Except Failure Unit) ++ later) := by
  simp [unreadFaults, Failure.raising]

theorem Reception.faults_sublist (k : Reception) (url : String) (n : Nat) (g : Option Failure)
    (d : Except Failure Unit) : (faultsOf (k.record n g d)).Sublist (k.raised url d) := by
  have hevents : (faultsOf (k.events n g)).Sublist
      (k.drainedFaults ++ unreleasedFaults (.unclosed textStreamName) k.readerClosed) := by
    cases k with
    | noStatus f => exact singleton_sublist_unread f _
    | noStream status f => exact singleton_sublist_unread f _
    | absent status => exact List.nil_sublist _
    | unattached status f => exact singleton_sublist_unread f _
    | streamed status bytes closed =>
        simp only [events, faultsOf_cons, faultsOf_nil, Event.faults_ok, faults_asking_ok,
          faults_doing_ok, List.nil_append, List.append_nil]
        refine List.Sublist.append ?_ (faults_sublist_unreleased _)
        cases bytes with
        | ok bytes => exact List.nil_sublist _
        | error f =>
            have hread := singleton_sublist_unread f []
            rw [List.append_nil] at hread
            exact hread
  rw [record, faultsOf_append, raised]
  refine hevents.append ?_
  simp only [faultsOf_cons, faultsOf_nil, List.append_nil]
  exact faults_sublist_unreleased _

/-- Every failure of an operation is raised. -/
theorem Course.faults_sublist (k : Course) (method : String) (n : Nat) (g : Option Failure) :
    (faultsOf (k.record method n g)).Sublist (k.raised method) := by
  cases k with
  | unopened f => exact List.nil_sublist _
  | untransmitted url sent f d =>
      rw [record, faultsOf_append, raised]
      refine (sent.faults_sublist method url n g).append ?_
      simp only [faultsOf_cons, faultsOf_nil, List.append_nil]
      exact faults_sublist_unreleased _
  | answered url sent received d =>
      rw [record, faultsOf_append, raised]
      refine List.Sublist.append ?_ (received.faults_sublist url n g d)
      cases sent with
      | none => exact List.nil_sublist _
      | some k => exact k.faults_sublist method url n g

/-! ### The call that hands out a stream -/

namespace Leasing

/-- The faults that are raised during a call for a URL. -/
def raised (url : String) : Leasing → List Fault
  | unopened f | astray f | unattached f => [f.fault]
  | refused _ f (.ok _) => f.raising (.unobtained url) f.isExchangeFailure
  | refused connected f (.error h) =>
      f.fault :: h.raising (.undisconnected connected) h.isExchangeFailure
  | leased _ => []

/-- What a call raises over a connection is linked. -/
theorem linked (k : Leasing) {url : String} {n : Nat} {g : Option Failure}
    (h : ∀ e ∈ k.record n g, e.Fresh) (hopens : k.opens = 1) :
    Linked g (k.raised url) (k.result url) := by
  cases k with
  | unopened f => cases hopens
  | refused connected f d =>
      have hinput : (Event.mk n .input g (.error f)).Fresh := h _ (.head _)
      have hdisc : (doing n .disconnect (some f) d).Fresh := h _ (.tail _ (.head _))
      cases d with
      | ok u => exact Linked.toldAs _ _ hinput
      | error h' =>
          -- the failure to disconnect was raised while the first one was in flight
          have hraw : Linked g [f.fault] (.error f : Except Failure Unit) := .raw hinput
          exact hraw.overruled (Linked.unreleased (.undisconnected connected) hdisc)
  | astray f => exact Linked.raw (h _ (.head _))
  | unattached f => exact Linked.raw (h _ (.tail _ (.head _)))
  | leased present => rfl

/-- Every failure of an operation is raised. -/
theorem faults_sublist (k : Leasing) (url : String) (n : Nat) (g : Option Failure) :
    (faultsOf (k.record n g)).Sublist (k.raised url) := by
  cases k with
  | unopened f => exact List.nil_sublist _
  | refused connected f d =>
      cases d <;> simp [record, raised, Failure.raising]
  | astray f => exact .refl _
  | unattached f => exact .refl _
  | leased present => cases present <;> exact .refl _

end Leasing

/-! ### Every call -/

/-- A call that reads its response, or one that hands out its stream. -/
inductive Verb
  | call (c : Call)
  | lease (headers : Option HeaderMap) (url : String)

/-- Makes a call, up to its return. -/
def Verb.attempt (o : Opener σ) : Verb → Action σ Unit
  | call c => do
      let _ ← c.perform o
      pure ()
  | lease headers url => do
      let _ ← openResponse o headers url
      pure ()

/-- How a call goes. -/
inductive Going
  | call (method : String) (k : Course)
  | lease (url : String) (k : Leasing)

namespace Going

def record (n : Nat) (g : Option Failure) : Going → List Event
  | call method k => k.record method n g
  | lease _ k => k.record n g

/-- The faults that are raised during a call, in this order: those of the operations that fail,
each of them followed by the error of the client that is built from it, and the error of a failing
status. -/
def raised : Going → List Fault
  | call method k => k.raised method
  | lease url k => k.raised url

def result (g : Option Failure) : Going → Except Failure Unit
  | call _ k => (k.result g).map fun _ => ()
  | lease url k => k.result url

/-- Whether a way is one of a call, and sending ended as it says. -/
def Of (v : Verb) : Going → Prop
  | call method k => k.Consistent method ∧ ∃ c, v = .call c ∧ method = c.method.name
  | lease url _ => ∃ headers, v = .lease headers url

variable {n : Nat} {g : Option Failure} {f : Failure}

/-- Every failure of an operation is raised. -/
theorem faults_sublist (k : Going) : (faultsOf (k.record n g)).Sublist k.raised := by
  cases k with
  | call method k => exact k.faults_sublist method n g
  | lease url k => exact k.faults_sublist url n g

/-- **What a call raises has all faults that were raised in its line, the last one first.** -/
theorem raised_isPrefix {v : Verb} {k : Going} (hk : k.Of v) (h : ∀ e ∈ k.record n g, e.Fresh)
    (hr : k.result g = .error f) : k.raised.reverse <+: f.faults := by
  have hlinked {α : Type} {raised : List Fault} {r : Except Failure α} (hl : Linked g raised r)
      (hf : r = .error f) : raised.reverse <+: f.faults := by
    rw [hf] at hl
    exact ⟨lineOf g, hl.symm⟩
  -- a failure to open a connection is the only fault there is
  have hfirst : [f.fault] <+: f.faults := ⟨f.behind.map (·.2), rfl⟩
  cases k with
  | call method k =>
      have hend : k.result g = .error f := by
        cases hres : k.result g <;> simp [result, hres, Except.map] at hr ⊢
        exact hr
      have hl (hopens : k.opens = 1) : Linked g (k.raised method) (k.result g) :=
        k.linked hk.1 h hopens
      cases k with
      | unopened f' =>
          obtain rfl : f' = f := by simpa [Course.result] using hend
          exact hfirst
      | untransmitted | answered => exact hlinked (hl rfl) hend
  | lease url k =>
      have hl (hopens : k.opens = 1) : Linked g (k.raised url) (k.result url) := k.linked h hopens
      cases k with
      | unopened f' =>
          obtain rfl : f' = f := by simpa [result, Leasing.result] using hr
          exact hfirst
      | refused | astray | unattached | leased => exact hlinked (hl rfl) hr

end Going

/-- Whatever the connections do, a call goes one of its ways. -/
theorem Verb.attempt_going (v : Verb) (o : Opener σ) (g : Option Failure) (w : Watched σ) :
    ∃ k : Going, k.Of v ∧
      (v.attempt o.watched g w).2.events = w.events ++ k.record w.opened g ∧
      (v.attempt o.watched g w).1 = k.result g := by
  cases v with
  | call c =>
      obtain ⟨k, w', ⟨hcons, hev, -⟩, hrun⟩ := c.perform_course o g w
      refine ⟨.call c.method.name k, ⟨hcons, c, rfl, rfl⟩, ?_⟩
      have hdone := Action.run_handing (fun _ => ()) hrun
      rw [attempt, hdone]
      refine ⟨hev, ?_⟩
      cases hr : k.result g <;> simp [Going.result, hr, Except.map]
  | lease headers url =>
      obtain ⟨k, w', -, hev, -, hstate, hend⟩ := openResponse_leasing o headers url g w
      refine ⟨.lease url k, ⟨headers, rfl⟩, ?_⟩
      generalize hrun : openResponse o.watched headers url g w = x at hstate hend
      obtain ⟨r, w₁⟩ := x
      have hdone := Action.run_handing (fun _ => ()) hrun
      rw [attempt, hdone]
      subst hstate
      exact ⟨hev, hend⟩

/-- A call cannot tell apart openers that are alike. -/
theorem Verb.attempt_alike {τ : Type} {S : σ → τ → Prop} {o : Opener σ} {p : Opener τ}
    (h : o.Alike S p) (v : Verb) : Action.Alike S Eq (v.attempt o) (v.attempt p) := by
  cases v with
  | call c => exact (c.perform_alike h).bind fun _ _ _ => .pure rfl
  | lease headers url => exact (openResponse_alike h headers url).bind fun _ _ _ => .pure rfl

/-- **Whatever a call raises has in its line every failure of an operation and every error of the
client that was built.**  The operations are those of the same run over watched connections, each
of which fails freshly if it fails. -/
theorem Verb.attempt_line (v : Verb) (o : Opener σ) (g : Option Failure) (s : σ)
    (hfresh : ∀ e ∈ (v.attempt o.watched g { state := s }).2.events, e.Fresh) :
    (v.attempt o.watched g { state := s }).1 = (v.attempt o g s).1 ∧
    ∃ k : Going, k.Of v ∧
      (v.attempt o.watched g { state := s }).2.events = k.record 0 g ∧
      (v.attempt o g s).1 = k.result g ∧
      ∀ f, (v.attempt o g s).1 = .error f →
        k.raised.reverse <+: f.faults ∧
        (faultsOf (k.record 0 g)).reverse.Sublist f.faults := by
  obtain ⟨k, hof, hev, hend⟩ := v.attempt_going o g { state := s }
  have hsame : (v.attempt o.watched g { state := s }).1 = (v.attempt o g s).1 := by
    have halike := v.attempt_alike o.watched_alike g { state := s } s rfl
    generalize v.attempt o.watched g { state := s } = x, v.attempt o g s = y at halike
    cases halike with
    | ok hr _ => rw [hr]
    | error _ => rfl
  rw [List.nil_append] at hev
  rw [hev] at hfresh
  rw [← hsame]
  refine ⟨rfl, k, hof, hev, hend, fun f hf => ?_⟩
  have hfront := Going.raised_isPrefix hof hfresh (hend.symm.trans hf)
  exact ⟨hfront, (Going.faults_sublist k).reverse.trans hfront.sublist⟩

/-- A recorder whose one connection cannot be read, closed or disconnected. -/
def Recorder.failing : Recorder where
  connections :=
    [{ responseStream := some
         { readFailure := some (.plain .read), closeFailure := some (.plain .io) }
       disconnectFailure := some (.plain .close) }]

/-- Three failures of one call, each of them while the one before it is in flight. -/
theorem Verb.attempt_line_failing :
    let v : Verb := .call (.get none "http://localhost/")
    (∀ e ∈ (v.attempt Recorder.opener.watched none { state := Recorder.failing }).2.events,
      e.Fresh) ∧
    ∃ f, (v.attempt Recorder.opener none Recorder.failing).1 = .error f ∧
      [.system .close none, .system .io none, .system .read none].Sublist f.faults := by
  intro v
  let read := Failure.plain .read
  let unread := Failure.of (.ofTransport read.fault) read
  let close := (Failure.plain .io).raisedDuring (some unread)
  let unclosed := Failure.of (.unclosed textStreamName) close
  let disconnect := (Failure.plain .close).raisedDuring (some unclosed)
  have hattempt {τ : Type} (o : Opener τ) (t : τ) :
      v.attempt o none t =
        (((callEndpoint o none "http://localhost/" none t).1.map some).map fun _ => (),
          (callEndpoint o none "http://localhost/" none t).2) :=
    Action.run_handing (fun _ => ()) (Action.run_handing some rfl)
  have hevents : (callEndpoint Recorder.opener.watched none "http://localhost/" none
        { state := Recorder.failing }).2.events =
      [⟨0, .status, none, .ok (.status 200)⟩, ⟨0, .input, none, .ok (.stream true)⟩,
        ⟨0, .attachReader, none, .ok .done⟩, ⟨0, .readAll, none, .error read⟩,
        ⟨0, .closeInput, some unread, .error close⟩,
        ⟨0, .disconnect, some unclosed, .error disconnect⟩] := rfl
  have hend : (callEndpoint Recorder.opener none "http://localhost/" none Recorder.failing).1 =
      .error (.of (.undisconnected "http://localhost/") disconnect) := rfl
  have hfresh : ∀ e ∈ (v.attempt Recorder.opener.watched none
      { state := Recorder.failing }).2.events, e.Fresh := by
    intro e he f hf
    rw [hattempt, hevents] at he
    simp only [List.mem_cons, List.not_mem_nil, or_false] at he
    rcases he with rfl | rfl | rfl | rfl | rfl | rfl <;> cases hf
    · exact ⟨.system .read none, rfl⟩
    · exact ⟨.system .io none, rfl⟩
    · exact ⟨.system .close none, rfl⟩
  obtain ⟨-, k, -, hrecord, -, hline⟩ :=
    Verb.attempt_line v Recorder.opener none Recorder.failing hfresh
  have hraised : (v.attempt Recorder.opener none Recorder.failing).1 =
      .error (.of (.undisconnected "http://localhost/") disconnect) := by
    rw [hattempt, hend]
    rfl
  have hfaults := (hline _ hraised).2
  rw [hattempt, hevents] at hrecord
  rw [← hrecord] at hfaults
  exact ⟨hfresh, _, hraised, hfaults⟩

end ServiceClient
