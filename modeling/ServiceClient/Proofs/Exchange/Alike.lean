/-
**Exchanges over connections that are alike.**

An exchange knows nothing of a connection but its actions.  So it cannot tell two connections apart
whose actions are alike along a relation of the states: it ends with the same value or the same
failure over both, in related states.  Two uses follow: what is said of a connection holds of it as
a part of a larger state, and what only looks on changes nothing.

Main definitions:

* `ServiceClient.Source.Alike`, `ServiceClient.Sink.Alike`: streams that are alike, as far as an
  exchange uses them;
* `ServiceClient.Connection.AnswersAlike`, `ServiceClient.Connection.Alike`: connections that are
  alike, where a response is read only, and where a body is sent as well;
* `ServiceClient.Opener.Alike`, `ServiceClient.Lease.Alike`: the same for openers and for leases.

Main results:

* `ServiceClient.send_alike`, `ServiceClient.readResponse_alike`,
  `ServiceClient.callEndpoint_alike`, `ServiceClient.exchange_alike`,
  `ServiceClient.openResponse_alike`: exchanges and calls respect it;
* `ServiceClient.Connection.within_alike`: a connection in a part of a state is like the connection;
* `ServiceClient.Connection.Alike.within`: connections that are alike are so in parts of states.
-/

import ServiceClient.Caller
import ServiceClient.Proofs.Action.Alike

set_option autoImplicit false

namespace ServiceClient

open ServiceClient.Action (Alike)

variable {σ τ α : Type} {S : σ → τ → Prop}

/-! ### Streams and connections -/

/-- Sources that are alike, as far as an exchange reads them. -/
structure Source.Alike (S : σ → τ → Prop) (a : Source σ) (b : Source τ) : Prop where
  attach : Action.Alike S Eq a.attach b.attach
  readAll : Action.Alike S Eq a.readAll b.readAll
  close : Action.Alike S Eq a.close b.close

/-- Sinks that are alike, as far as an exchange writes to them. -/
structure Sink.Alike (S : σ → τ → Prop) (a : Sink σ) (b : Sink τ) : Prop where
  name : a.name = b.name
  attach : Action.Alike S Eq a.attach b.attach
  write (data : Bytes) : Action.Alike S Eq (a.write data) (b.write data)
  close : Action.Alike S Eq a.close b.close

namespace Connection

/-- Connections that are alike, as far as a response is read over them. -/
structure AnswersAlike (S : σ → τ → Prop) (c : Connection σ) (d : Connection τ) : Prop where
  url : c.url = d.url
  status : Action.Alike S Eq c.status d.status
  input : Action.Alike S (Option.Rel (Source.Alike S)) c.input d.input
  errorInput : Action.Alike S (Option.Rel (Source.Alike S)) c.errorInput d.errorInput
  disconnect : Action.Alike S Eq c.disconnect d.disconnect
  log (event : LogEvent) (s : σ) (t : τ) : S s t → S (c.log event s) (d.log event t)

structure Alike (S : σ → τ → Prop) (c : Connection σ) (d : Connection τ) : Prop
    extends AnswersAlike S c d where
  enableOutput (s : σ) (t : τ) : S s t → S (c.enableOutput s) (d.enableOutput t)
  setMethod (method : String) (s : σ) (t : τ) :
    S s t → S (c.setMethod method s) (d.setMethod method t)
  output : Action.Alike S (Sink.Alike S) c.output d.output

end Connection

/-- Openers that hand out connections that are alike. -/
structure Opener.Alike (S : σ → τ → Prop) (o : Opener σ) (p : Opener τ) : Prop where
  connect (url : String) (headers : List (String × String)) :
    Action.Alike S (Connection.Alike S) (o.connect url headers) (p.connect url headers)
  log (event : LogEvent) (s : σ) (t : τ) : S s t → S (o.log event s) (p.log event t)

/-- Leases of streams that are alike over connections that are alike. -/
structure Lease.Alike (S : σ → τ → Prop) (k : Lease σ) (l : Lease τ) : Prop where
  connection : Connection.Alike S k.connection l.connection
  source : Option.Rel (Source.Alike S) k.source l.source

/-! ### Releasing -/

theorem reporting_alike (e : ClientError) {m : Action σ α} {m' : Action τ α} (h : Alike S Eq m m') :
    Alike S Eq (reporting e m) (reporting e m') := by
  refine h.rescue fun f => ?_
  exact .ite Iff.rfl (fun _ => .raiseFrom e f) fun _ => .rethrow f

theorem closing_alike (name : String) {m : Action σ Unit} {m' : Action τ Unit}
    (h : Alike S Eq m m') : Alike S Eq (closing name m) (closing name m') :=
  reporting_alike _ h

theorem disconnecting_alike {c : Connection σ} {d : Connection τ} (h : c.AnswersAlike S d) :
    Alike S Eq (disconnecting c) (disconnecting d) := by
  rw [disconnecting, disconnecting, h.url]
  exact reporting_alike _ h.disconnect

/-! ### Reading a response -/

theorem reading_alike {c : Connection σ} {d : Connection τ} (h : c.AnswersAlike S d)
    {β : Type} {R : α → β → Prop} {m : Action σ α} {m' : Action τ β} (hm : Alike S R m m') :
    Alike S R (reading c m) (reading d m') := by
  refine hm.rescue fun f => ?_
  exact .ite Iff.rfl
    (fun _ => (Alike.modify (h.url ▸ h.log _)).bind fun _ _ _ => .raiseFrom _ f)
    fun _ => .rethrow f

theorem responseStream_alike {c : Connection σ} {d : Connection τ} (h : c.AnswersAlike S d) :
    Alike S (fun p q => p.1 = q.1 ∧ Option.Rel (Source.Alike S) p.2 q.2) (responseStream c)
      (responseStream d) := by
  refine h.status.bind ?_
  rintro status _ rfl
  have hlog (a : Option (Source σ)) (b : Option (Source τ))
      (hab : Option.Rel (Source.Alike S) a b) :
      Alike S (fun p q => p.1 = q.1 ∧ Option.Rel (Source.Alike S) p.2 q.2)
        (do .modify (c.log (.requestCompleted c.url status)); pure (status, a))
        (do .modify (d.log (.requestCompleted d.url status)); pure (status, b)) :=
    (Alike.modify (h.url ▸ h.log _)).bind fun _ _ _ => .pure ⟨rfl, hab⟩
  exact .ite Iff.rfl (fun _ => h.errorInput.bind hlog) fun _ => h.input.bind hlog

theorem concluding_alike (status : Int) (text : String) :
    Alike S Eq (concluding status text : Action σ ResponseResult) (concluding status text) := by
  exact .ite Iff.rfl (fun _ => .raise _) fun _ => .pure rfl

/-- **Reading a response cannot tell apart connections that are alike.** -/
theorem readResponse_alike {c : Connection σ} {d : Connection τ} (h : c.AnswersAlike S d) :
    Alike S Eq (readResponse c) (readResponse d) := by
  refine Alike.ensure ?_ (disconnecting_alike h)
  refine (reading_alike h (responseStream_alike h)).bind ?_
  rintro ⟨status, a⟩ ⟨_, b⟩ ⟨rfl, hab⟩
  -- either both have a stream or neither has
  cases hab with
  | none => exact concluding_alike _ _
  | some hs =>
      refine (reading_alike h hs.attach).bind fun _ _ _ => ?_
      refine Alike.ensure ?_ (closing_alike _ hs.close)
      refine (reading_alike h hs.readAll).bind ?_
      rintro bytes _ rfl
      exact concluding_alike _ _

/-! ### Sending a body -/

theorem sending_alike {c : Connection σ} {d : Connection τ} (h : c.AnswersAlike S d)
    (method : String) {β : Type} {R : α → β → Prop} {m : Action σ α} {m' : Action τ β}
    (hm : Alike S R m m') : Alike S R (sending c method m) (sending d method m') := by
  refine hm.rescue fun f => ?_
  rw [h.url]
  exact .ite Iff.rfl (fun _ => (Alike.modify (h.log _)).bind fun _ _ _ => .raiseFrom _ f)
    fun _ => .rethrow f

/-- **Sending a body cannot tell apart connections that are alike.** -/
theorem send_alike {c : Connection σ} {d : Connection τ} (h : c.Alike S d)
    (body : List Text.CodePoint) (method : String) :
    Alike S Eq (send c body method) (send d body method) := by
  have ha := h.toAnswersAlike
  refine (Alike.modify h.enableOutput).bind fun _ _ _ => ?_
  refine (Alike.modify (h.setMethod method)).bind fun _ _ _ => ?_
  refine (sending_alike ha method h.output).bind fun a b hab => ?_
  refine Alike.ensure ?_ (hab.name ▸ closing_alike _ hab.close)
  refine (sending_alike ha method hab.attach).bind fun _ _ _ => ?_
  exact (sending_alike ha method (hab.write _)).ensure (closing_alike _ hab.close)

/-! ### Calls -/

theorem callEndpoint_alike {o : Opener σ} {p : Opener τ} (h : o.Alike S p)
    (headers : Option HeaderMap) (url : String) :
    Alike S Eq (callEndpoint o headers url) (callEndpoint p headers url) := by
  refine (Alike.modify (h.log _)).bind fun _ _ _ => ?_
  refine (h.connect url _).bind fun c d hcd => ?_
  refine (readResponse_alike hcd.toAnswersAlike).bind ?_
  rintro r _ rfl
  exact .pure rfl

/-- An exchange over a connection: a body is sent, and the response is read. -/
def exchanging (c : Connection σ) (body : List Text.CodePoint) (method : Method) :
    Action σ String := do
  (send c body method.name).rescue fun f => do
    disconnecting c
    .rethrow f
  pure (← readResponse c).text

theorem exchange_eq (o : Opener σ) (headers : HeaderMap) (url : String)
    (body : List Text.CodePoint) (method : Method) :
    exchange o headers url body method =
      o.connect url headers >>= fun c => exchanging c body method := rfl

theorem exchanging_alike {c : Connection σ} {d : Connection τ} (hcd : c.Alike S d)
    (body : List Text.CodePoint) (method : Method) :
    Alike S Eq (exchanging c body method) (exchanging d body method) := by
  have hs : Alike S Eq
      ((send c body method.name).rescue fun f => do disconnecting c; .rethrow f)
      ((send d body method.name).rescue fun f => do disconnecting d; .rethrow f) :=
    (send_alike hcd body method.name).rescue fun f =>
      (disconnecting_alike hcd.toAnswersAlike).bind fun _ _ _ => .rethrow f
  refine hs.bind fun _ _ _ => ?_
  refine (readResponse_alike hcd.toAnswersAlike).bind ?_
  rintro r _ rfl
  exact .pure rfl

theorem exchange_alike {o : Opener σ} {p : Opener τ} (h : o.Alike S p) (headers : HeaderMap)
    (url : String) (body : List Text.CodePoint) (method : Method) :
    Alike S Eq (exchange o headers url body method) (exchange p headers url body method) := by
  rw [exchange_eq, exchange_eq]
  exact (h.connect url headers).bind fun c d hcd => exchanging_alike hcd body method

theorem openResponse_alike {o : Opener σ} {p : Opener τ} (h : o.Alike S p)
    (headers : Option HeaderMap) (url : String) :
    Alike S (Lease.Alike S) (openResponse o headers url) (openResponse p headers url) := by
  refine (h.connect url _).bind fun c d hcd => ?_
  have hd := disconnecting_alike hcd.toAnswersAlike
  refine (hcd.input.rescue fun f => ?_).bind fun a b hab => ?_
  · exact .ite Iff.rfl (fun _ => hd.bind fun _ _ _ => .rethrow f) fun _ =>
      .ite Iff.rfl (fun _ => hd.bind fun _ _ _ => .raiseFrom _ f) fun _ => .rethrow f
  · have hl : Lease.Alike S ⟨c, a⟩ ⟨d, b⟩ := ⟨hcd, hab⟩
    cases hab with
    | none => exact .pure hl
    | some hs => exact hs.attach.bind fun _ _ _ => .pure hl

/-! ### Connections in a part of a state -/

section Within

variable {part : Part τ σ} {t₀ : τ}

theorem Source.within_alike (hget : ∀ s, part.get (part.set s t₀) = s)
    (hset : ∀ s s', part.set s (part.set s' t₀) = part.set s t₀) (a : Source σ) :
    (a.within part).Alike (fun t s => t = part.set s t₀) a where
  attach := Action.within_alike hget hset _
  readAll := Action.within_alike hget hset _
  close := Action.within_alike hget hset _

theorem Sink.within_alike (hget : ∀ s, part.get (part.set s t₀) = s)
    (hset : ∀ s s', part.set s (part.set s' t₀) = part.set s t₀) (a : Sink σ) :
    (a.within part).Alike (fun t s => t = part.set s t₀) a where
  name := rfl
  attach := Action.within_alike hget hset _
  write _ := Action.within_alike hget hset _
  close := Action.within_alike hget hset _

/-- **A connection in a part of a state is like the connection.** -/
theorem Connection.within_alike (hget : ∀ s, part.get (part.set s t₀) = s)
    (hset : ∀ s s', part.set s (part.set s' t₀) = part.set s t₀) (c : Connection σ) :
    (c.within part).Alike (fun t s => t = part.set s t₀) c := by
  have hsource (a : Option (Source σ)) :
      Option.Rel (Source.Alike fun t s => t = part.set s t₀) (a.map (·.within part)) a := by
    cases a with
    | none => exact .none
    | some a => exact .some (a.within_alike hget hset)
  refine { url := rfl, status := ?_, input := ?_, errorInput := ?_, disconnect := ?_, log := ?_,
           enableOutput := ?_, setMethod := ?_, output := ?_ }
  · exact Action.within_alike hget hset _
  · exact (Action.within_alike hget hset _).handing hsource
  · exact (Action.within_alike hget hset _).handing hsource
  · exact Action.within_alike hget hset _
  · rintro event _ s rfl
    simp only [Connection.within, hget, hset]
  · rintro _ s rfl
    simp only [Connection.within, hget, hset]
  · rintro method _ s rfl
    simp only [Connection.within, hget, hset]
  · exact (Action.within_alike hget hset _).handing fun a => a.within_alike hget hset

end Within

/-! ### Alike in parts of larger states -/

section Parts

variable {υ ω : Type} {T : υ → ω → Prop} {part : Part υ σ} {part' : Part ω τ}
  (hget : ∀ u v, T u v → S (part.get u) (part'.get v))
  (hset : ∀ u v s t, T u v → S s t → T (part.set s u) (part'.set t v))

include hget hset

theorem Source.Alike.within {a : Source σ} {b : Source τ} (h : a.Alike S b) :
    (a.within part).Alike T (b.within part') where
  attach := h.attach.within hget hset
  readAll := h.readAll.within hget hset
  close := h.close.within hget hset

theorem Sink.Alike.within {a : Sink σ} {b : Sink τ} (h : a.Alike S b) :
    (a.within part).Alike T (b.within part') where
  name := h.name
  attach := h.attach.within hget hset
  write data := (h.write data).within hget hset
  close := h.close.within hget hset

/-- **Connections that are alike are so in parts of larger states.** -/
theorem Connection.Alike.within {c : Connection σ} {d : Connection τ} (h : c.Alike S d) :
    (c.within part).Alike T (d.within part') := by
  have hsource (a : Option (Source σ)) (b : Option (Source τ))
      (hab : Option.Rel (Source.Alike S) a b) :
      Option.Rel (Source.Alike T) (a.map (·.within part)) (b.map (·.within part')) := by
    cases hab with
    | none => exact .none
    | some hab => exact .some (hab.within hget hset)
  refine { url := h.url, status := ?_, input := ?_, errorInput := ?_, disconnect := ?_, log := ?_,
           enableOutput := ?_, setMethod := ?_, output := ?_ }
  · exact h.status.within hget hset
  · exact (h.input.within hget hset).bind fun a b hab => .pure (hsource a b hab)
  · exact (h.errorInput.within hget hset).bind fun a b hab => .pure (hsource a b hab)
  · exact h.disconnect.within hget hset
  · exact fun event u v ht => hset u v _ _ ht (h.log event _ _ (hget u v ht))
  · exact fun u v ht => hset u v _ _ ht (h.enableOutput _ _ (hget u v ht))
  · exact fun method u v ht => hset u v _ _ ht (h.setMethod method _ _ (hget u v ht))
  · exact (h.output.within hget hset).bind fun a b hab => .pure (hab.within hget hset)

end Parts

end ServiceClient
