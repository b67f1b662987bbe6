/-
**What calls come to.**

A call comes to the text of its response, to nothing, to the bytes of a stream, or to a failure.  It
opens one connection and makes its exchange over that, so what it comes to is told by the connection
alone.  It does not matter either where the connection stands: in a part of a state a call comes to
what it comes to by itself.

Main definitions:

* `ServiceClient.Opener.single`: the opener that has one connection;
* `ServiceClient.Call.url`, `ServiceClient.Call.headers`, `ServiceClient.Call.body`: what a call
  sends, with `ServiceClient.Call.supplied` and others for what its headers are made of;
* `ServiceClient.Verb.url`, `ServiceClient.Verb.headers`, `ServiceClient.Verb.body`: the same for
  every call;
* `ServiceClient.Yield`, `ServiceClient.Verb.outcome`: what calls come to, the bytes of a stream
  read to the end.

Main results:

* `ServiceClient.Verb.outcome_of_connect`: **a call comes to what it comes to over its connection**;
* `ServiceClient.Verb.outcome_within`: **in a part of a state it comes to what it comes to by
  itself**.
-/

import ServiceClient.Proofs.Exchange.LeaseUses
import ServiceClient.Proofs.Exchange.Line

set_option autoImplicit false

namespace ServiceClient

open ServiceClient.Action (Alike)

variable {σ τ : Type} {S : σ → τ → Prop}

/-! ### Calls over one connection -/

namespace Opener

/-- The opener that has one connection, which is open already. -/
def single (c : Connection σ) : Opener σ where
  connect _ _ := pure c
  log _ s := s

theorem single_alike {c : Connection σ} {d : Connection τ} (h : c.Alike S d) :
    (single c).Alike S (single d) where
  connect _ _ := .pure h
  log _ _ _ hs := hs

end Opener

theorem callEndpoint_single (c : Connection σ) (headers : Option HeaderMap) (url : String) :
    callEndpoint (.single c) headers url = (do pure (← readResponse c).text) := rfl

theorem exchange_single (c : Connection σ) (headers : HeaderMap) (url : String)
    (body : List Text.CodePoint) (method : Method) :
    exchange (.single c) headers url body method = exchanging c body method := rfl

theorem openResponse_single (c : Connection σ) (headers : Option HeaderMap) (url : String) :
    openResponse (.single c) headers url = obtaining c url >>= leasing c := rfl

/-! ### What is sent -/

namespace Call

def url : Call → String
  | get _ url | post _ url .. | put _ url .. | delete _ url => url

def headers : Call → HeaderMap
  | get headers _ => HeaderMap.describe headers (-1) none (some .xml)
  | post headers _ body content accepted =>
      HeaderMap.describe headers (bodyLength body) content accepted
  | put headers _ body media => HeaderMap.describe headers (bodyLength body) media media
  | delete headers _ => HeaderMap.describe headers 0 (some .atomXml) (some .atomXml)

def body : Call → List Text.CodePoint
  | post _ _ body .. | put _ _ body _ => body
  | get .. | delete .. => []

def supplied : Call → Option HeaderMap
  | get headers _ | post headers .. | put headers .. | delete headers _ => headers

/-- The length of the body; a call without one has a negative length. -/
def length : Call → Int
  | get .. => -1
  | post _ _ body .. | put _ _ body _ => bodyLength body
  | delete .. => 0

def content : Call → Option MediaType
  | get .. => none
  | post _ _ _ content _ => content
  | put _ _ _ media => media
  | delete .. => some .atomXml

def accepted : Call → Option MediaType
  | get .. => some .xml
  | post _ _ _ _ accepted => accepted
  | put _ _ _ media => media
  | delete .. => some .atomXml

theorem headers_eq (c : Call) :
    c.headers = HeaderMap.describe c.supplied c.length c.content c.accepted := by
  cases c <;> rfl

end Call

namespace Verb

def url : Verb → String
  | call c => c.url
  | lease _ url => url

/-- The method of a call; a stream is got. -/
def method : Verb → Method
  | call c => c.method
  | lease .. => .get

def supplied : Verb → Option HeaderMap
  | call c => c.supplied
  | lease headers _ => headers

/-- The headers of a call; those of the caller are all that a request for a stream has. -/
def headers : Verb → HeaderMap
  | call c => c.headers
  | lease headers _ => headers.getD []

def body : Verb → List Text.CodePoint
  | call c => c.body
  | lease .. => []

end Verb

/-! ### The connection of a call -/

/-- The state in which the connection of a call is opened: one of the calls writes to the log
first. -/
def Call.announced (o : Opener σ) (c : Call) (s : σ) : σ :=
  match c with
  | get _ url => o.log (.callPrepared url) s
  | _ => s

/-- A call is made over the connection that is opened for it. -/
theorem Call.perform_of_connect {o : Opener σ} {c : Call} {k : Connection σ} {g : Option Failure}
    {s s' : σ} (h : o.connect c.url c.headers g (c.announced o s) = (.ok k, s')) :
    c.perform o g s = c.perform (.single k) g s' := by
  cases c with
  | get headers url =>
      refine Action.run_bind_congr ?_ _
      exact (Action.run_bind_ok (Action.run_modify ..)).trans (Action.run_bind_ok h)
  | post headers url body content accepted =>
      exact Action.run_bind_congr (Action.run_bind_ok h) _
  | put headers url body media =>
      exact Action.run_bind_congr (Action.run_bind_ok h) _
  | delete headers url =>
      exact Action.run_bind_congr (Action.run_bind_congr (Action.run_bind_ok h) _) _

/-! ### Outcomes -/

/-- All bytes of a lease that is new. -/
def Lease.readAll (l : Lease σ) : Action σ Bytes := fun g s =>
  ((l.stream.readAll g ({}, s)).1, (l.stream.readAll g ({}, s)).2.2)

/-- What a call yields: a text, if it gives one, or all bytes of a stream. -/
inductive Yield
  | text (text : Option String)
  | bytes (bytes : Bytes)
  deriving DecidableEq, Repr

namespace Verb

/-- Makes a call; a stream is read to its end. -/
def outcome (o : Opener σ) : Verb → Action σ Yield
  | call c => do pure (.text (← c.perform o))
  | lease headers url => do
      let l ← openResponse o headers url
      pure (.bytes (← l.readAll))

/-- The state in which the connection of a call is opened. -/
def announced (o : Opener σ) (v : Verb) (s : σ) : σ :=
  match v with
  | call c => c.announced o s
  | lease .. => s

/-- **A call comes to what it comes to over its connection.** -/
theorem outcome_of_connect {o : Opener σ} {v : Verb} {k : Connection σ} {g : Option Failure}
    {s s' : σ} (h : o.connect v.url v.headers g (v.announced o s) = (.ok k, s')) :
    v.outcome o g s = v.outcome (.single k) g s' := by
  cases v with
  | call c => exact Action.run_bind_congr (Call.perform_of_connect h) _
  | lease headers url => exact Action.run_bind_congr (Action.run_bind_ok h) _

end Verb

/-! ### Connections in a part of a state -/

/-- Getting a stream respects whatever the streams have in common. -/
theorem obtaining_alike {R : Option (Source σ) → Option (Source τ) → Prop} {c : Connection σ}
    {d : Connection τ} (hdisconnect : Alike S Eq (disconnecting c) (disconnecting d))
    (hinput : Alike S R c.input d.input) (url : String) :
    Alike S R (obtaining c url) (obtaining d url) := by
  refine hinput.rescue fun f => ?_
  exact .ite Iff.rfl (fun _ => hdisconnect.bind fun _ _ _ => .rethrow f) fun _ =>
    .ite Iff.rfl (fun _ => hdisconnect.bind fun _ _ _ => .raiseFrom _ f) fun _ => .rethrow f

theorem Lease.readAll_alike {l : Lease σ} {k : Lease τ}
    (h : Source.ReadAlike (Source.Beside S) l.stream k.stream) :
    Action.Alike S Eq l.readAll k.readAll := by
  intro g s t hst
  have hread := h.readAll g ({}, s) ({}, t) ⟨rfl, hst⟩
  simp only [readAll]
  generalize l.stream.readAll g ({}, s) = x, k.stream.readAll g ({}, t) = y at hread
  cases hread with
  | ok hbytes hstate => exact .ok hbytes hstate.2
  | error hstate => exact .error hstate.2

section Within

variable {part : Part τ σ} {t₀ : τ} (hget : ∀ s, part.get (part.set s t₀) = s)
  (hset : ∀ s s', part.set s (part.set s' t₀) = part.set s t₀)

include hget hset

/-- A stream in a part of a state is used as the stream. -/
theorem Source.within_usedAlike (a : Source σ) :
    UsedAlike (fun t s => t = part.set s t₀) (a.within part) a where
  read _ := Action.within_alike hget hset _
  readInto _ := Action.within_alike hget hset _
  readAll := Action.within_alike hget hset _
  readLine := Action.within_alike hget hset _
  close := Action.within_alike hget hset _
  isClosed {_ s} hs := by
    rw [hs]
    exact congrArg a.isClosed (hget s)
  extent {_ s} hs := by
    rw [hs]
    exact congrArg a.extent (hget s)

/-- A lease over a connection in a part of a state is read as one over the connection. -/
theorem openResponse_within_alike (c : Connection σ) (headers : Option HeaderMap) (url : String) :
    Alike (fun t s => t = part.set s t₀)
      (fun l k => Source.ReadAlike (Source.Beside fun t s => t = part.set s t₀) l.stream k.stream)
      (openResponse (.single (c.within part)) headers url)
      (openResponse (.single c) headers url) := by
  have hconnection := (c.within_alike hget hset).toAnswersAlike
  have hinput : Alike (fun t s => t = part.set s t₀) (fun a b => a = b.map (·.within part))
      (c.within part).input c.input :=
    (Action.within_alike hget hset _).handing fun _ => rfl
  rw [openResponse_single, openResponse_single]
  refine (obtaining_alike (disconnecting_alike hconnection) hinput url).bind ?_
  rintro _ (_ | b) rfl
  · exact .pure (Lease.stream_usedAlike .none hconnection).toReadAlike
  · have hstream := Lease.stream_usedAlike (l := ⟨c.within part, some (b.within part)⟩)
      (k := ⟨c, some b⟩) (.some (b.within_usedAlike hget hset)) hconnection
    have hattach : Alike (fun t s => t = part.set s t₀) Eq (b.within part).attach b.attach :=
      Action.within_alike hget hset _
    exact hattach.bind fun _ _ _ => .pure hstream.toReadAlike

/-- **In a part of a state a call comes to what it comes to by itself.** -/
theorem Verb.outcome_within (v : Verb) (c : Connection σ) :
    Alike (fun t s => t = part.set s t₀) Eq (v.outcome (.single (c.within part)))
      (v.outcome (.single c)) := by
  cases v with
  | call k =>
      have hconnection := Opener.single_alike (c.within_alike hget hset)
      exact (k.perform_alike hconnection).bind fun _ _ e => .pure (e ▸ rfl)
  | lease headers url =>
      refine (openResponse_within_alike hget hset c headers url).bind fun l k hread => ?_
      exact (Lease.readAll_alike hread).bind fun _ _ e => .pure (e ▸ rfl)

end Within

end ServiceClient
