/-
**Every connection is disconnected once.**

There are two places that disconnect: the handler of a body that could not be sent, and the end of
reading a response.  Calls are made one after another, each in whatever state the calls before it
have left, also after they failed.  Each call that opens a connection disconnects it once, whatever
its operations do, and does nothing with the connections of other calls.

Main definitions:

* `ServiceClient.Made`, `ServiceClient.history`: calls made one after another;
* `ServiceClient.Made.Released`: what a call does with connections.

Main results:

* `ServiceClient.Course.countP_disconnects`: a course disconnects what it opened, once;
* `ServiceClient.Call.perform_released`: the same for one call;
* `ServiceClient.history_released`: **over any sequence of calls, every connection that was opened
  is disconnected once, by the call that opened it**.
-/

import ServiceClient.Proofs.Exchange.Call

set_option autoImplicit false

namespace ServiceClient

variable {σ τ : Type}

/-! ### Sequences of calls -/

/-- A call that was made, with the states around it. -/
structure Made (τ : Type) where
  call : Call
  before : τ
  outcome : Except Failure (Option String)
  after : τ

/-- Makes calls one after another.  Each comes with the failure that is in flight when it is
made. -/
def history (o : Opener τ) : List (Call × Option Failure) → τ → List (Made τ)
  | [], _ => []
  | (c, g) :: calls, s =>
      { call := c, before := s, outcome := (c.perform o g s).1, after := (c.perform o g s).2 } ::
        history o calls (c.perform o g s).2

/-- The state after a sequence of calls. -/
def afterwards (o : Opener τ) : List (Call × Option Failure) → τ → τ
  | [], s => s
  | (c, g) :: calls, s => afterwards o calls (c.perform o g s).2

/-- Calls cannot tell apart openers that are alike. -/
theorem history_alike {S : σ → τ → Prop} {o : Opener σ} {p : Opener τ} (h : o.Alike S p)
    (calls : List (Call × Option Failure)) {s : σ} {t : τ} (hs : S s t) :
    (history o calls s).map (·.outcome) = (history p calls t).map (·.outcome) ∧
      S (afterwards o calls s) (afterwards p calls t) := by
  induction calls generalizing s t with
  | nil => exact ⟨rfl, hs⟩
  | cons cg calls ih =>
      obtain ⟨c, g⟩ := cg
      have hc := c.perform_alike h g s t hs
      simp only [history, afterwards, List.map_cons]
      -- the states stay related, also where a call fails
      generalize c.perform o g s = x, c.perform p g t = y at hc
      cases hc with
      | ok hab hst =>
          obtain ⟨hmap, hend⟩ := ih hst
          exact ⟨by rw [hab, hmap], hend⟩
      | error hst =>
          obtain ⟨hmap, hend⟩ := ih hst
          exact ⟨by rw [hmap], hend⟩

namespace Made

def added (m : Made (Watched σ)) : List Event :=
  m.after.events.drop m.before.events.length

/-- What a call does with connections. -/
structure Released (m : Made (Watched σ)) : Prop where
  /-- The record is only added to. -/
  events_eq : m.after.events = m.before.events ++ m.added
  /-- A call that opens no connection fails and does nothing; any other call opens one and
  disconnects it once. -/
  disconnected :
    (m.after.opened = m.before.opened ∧ m.added = [] ∧ ∃ f, m.outcome = .error f) ∨
      (m.after.opened = m.before.opened + 1 ∧
        m.added.countP (Event.disconnects m.before.opened) = 1)
  /-- Only the connection that the call opened is used. -/
  own : ∀ e ∈ m.added, e.connection = m.before.opened
  /-- If the body cannot be transmitted, the status is not asked for. -/
  unasked : (∃ e ∈ m.added, e.operation.transmits ∧ e.failure?.isSome) →
    ∀ e ∈ m.added, e.operation ≠ .status

end Made

/-! ### The release of a course -/

/-- Sending leaves disconnecting and the status to others. -/
theorem Transmission.mem_record {k : Transmission} {method url : String} {n : Nat}
    {g : Option Failure} {e : Event} (he : e ∈ k.record method url n g) :
    e.connection = n ∧ e.operation ≠ .disconnect ∧ e.operation ≠ .status := by
  cases k <;>
    simp only [Transmission.record, doing, List.mem_cons, List.not_mem_nil, or_false] at he
  case noOutput => rcases he with rfl | rfl | rfl <;> simp
  case unattached => rcases he with rfl | rfl | rfl | rfl | rfl <;> simp
  case written => rcases he with rfl | rfl | rfl | rfl | rfl | rfl | rfl <;> simp

theorem Transmission.writing_ok {method url : String} {wrote closed : Except Failure Unit}
    (h : writing method url wrote closed = .ok ()) : wrote = .ok () ∧ closed = .ok () := by
  cases closed with
  | error f => cases h
  | ok u =>
      cases wrote with
      | error f => cases h
      | ok v => exact ⟨rfl, rfl⟩

/-- If sending does not fail, no part of it failed. -/
theorem Transmission.failure?_of_result_ok {k : Transmission} {method url : String} {n : Nat}
    {g : Option Failure} {e : Event} (h : k.result method url = .ok ())
    (he : e ∈ k.record method url n g) : e.failure? = none := by
  cases k with
  | noOutput f => cases h
  | unattached name f closed => cases closed <;> cases h
  | written name wrote writerClosed closed =>
      cases closed with
      | error f => cases h
      | ok u =>
          obtain ⟨rfl, rfl⟩ := writing_ok h
          simp only [record, doing, List.mem_cons, List.not_mem_nil, or_false] at he
          rcases he with rfl | rfl | rfl | rfl | rfl | rfl | rfl <;> rfl

/-- Reading, up to the disconnect, transmits nothing. -/
theorem Reception.mem_events {k : Reception} {n : Nat} {g : Option Failure} {e : Event}
    (he : e ∈ k.events n g) :
    e.connection = n ∧ e.operation ≠ .disconnect ∧ e.operation.transmits = false := by
  have hasking (status : Int) (found : Except Failure Bool) :
      (asking n g status found).operation ≠ .disconnect ∧
        (asking n g status found).operation.transmits = false := by
    by_cases h : status ≥ failingStatus <;> simp [asking, h, Operation.transmits]
  cases k <;> simp only [events, doing, List.mem_cons, List.not_mem_nil, or_false] at he
  case noStatus => subst he; simp [Operation.transmits]
  case noStream | absent =>
    rcases he with rfl | rfl
    · simp [Operation.transmits]
    · exact ⟨rfl, hasking _ _⟩
  case unattached =>
    rcases he with rfl | rfl | rfl
    · simp [Operation.transmits]
    · exact ⟨rfl, hasking _ _⟩
    · simp [Operation.transmits]
  case streamed =>
    rcases he with rfl | rfl | rfl | rfl | rfl
    · simp [Operation.transmits]
    · exact ⟨rfl, hasking _ _⟩
    all_goals simp [Operation.transmits]

namespace Course

variable {method : String} {n : Nat} {g : Option Failure} {e : Event}

theorem mem_sentRecord {url : String} {sent : Option Transmission}
    (he : e ∈ sentRecord method url n g sent) :
    ∃ k ∈ sent, e ∈ k.record method url n g := by
  cases sent with
  | none => simp [sentRecord] at he
  | some k => exact ⟨k, rfl, he⟩

/-- A call uses its own connection only. -/
theorem connection_of_mem_record {k : Course} (he : e ∈ k.record method n g) :
    e.connection = n := by
  cases k with
  | unopened f => simp [record] at he
  | untransmitted url sent f d =>
      rcases List.mem_append.mp he with he | he
      · exact (Transmission.mem_record he).1
      · simp [doing] at he
        simp [he]
  | answered url sent received d =>
      rcases List.mem_append.mp he with he | he
      · obtain ⟨k, -, hk⟩ := mem_sentRecord he
        exact (Transmission.mem_record hk).1
      · rcases List.mem_append.mp he with he | he
        · exact (Reception.mem_events he).1
        · simp [doing] at he
          simp [he]

/-- A disconnect at the end of events without any is the only one. -/
theorem countP_concat_disconnect {es : List Event} {d : Except Failure Unit} {h : Option Failure}
    (hes : ∀ e ∈ es, e.operation ≠ .disconnect) :
    (es ++ [doing n .disconnect h d]).countP (Event.disconnects n) = 1 := by
  have hzero : es.countP (Event.disconnects n) = 0 := by
    rw [List.countP_eq_zero]
    intro e he
    simp [Event.disconnects, hes e he]
  simp [List.countP_append, hzero, Event.disconnects, doing]

/-- **A course disconnects what it opened, once.** -/
theorem countP_disconnects (k : Course) :
    (k.record method n g).countP (Event.disconnects n) = k.opens := by
  cases k with
  | unopened f => rfl
  | untransmitted url sent f d =>
      exact countP_concat_disconnect fun e he => (Transmission.mem_record he).2.1
  | answered url sent received d =>
      rw [record, Reception.record, ← List.append_assoc]
      refine countP_concat_disconnect fun e he => ?_
      rcases List.mem_append.mp he with he | he
      · obtain ⟨k, -, hk⟩ := mem_sentRecord he
        exact (Transmission.mem_record hk).2.1
      · exact (Reception.mem_events he).2.1

/-- If the body cannot be transmitted, the status is not asked for. -/
theorem operation_ne_status {k : Course} (hk : k.Consistent method)
    (hfailed : ∃ e ∈ k.record method n g, e.operation.transmits ∧ e.failure?.isSome)
    (he : e ∈ k.record method n g) : e.operation ≠ .status := by
  cases k with
  | unopened f => simp [record] at he
  | untransmitted url sent f d =>
      rcases List.mem_append.mp he with he | he
      · exact (Transmission.mem_record he).2.2
      · simp [doing] at he
        simp [he]
  | answered url sent received d =>
      -- the body was transmitted, and reading transmits nothing
      exfalso
      obtain ⟨e', he', htrans, hfail⟩ := hfailed
      rcases List.mem_append.mp he' with he' | he'
      · obtain ⟨k, hsent, hk'⟩ := mem_sentRecord he'
        simp [Transmission.failure?_of_result_ok (hk k hsent) hk'] at hfail
      · rcases List.mem_append.mp he' with he' | he'
        · simp [(Reception.mem_events he').2.2] at htrans
        · simp [doing] at he'
          simp [he', Operation.transmits] at htrans

end Course

/-! ### The release of a call -/

/-- A call releases what it opens. -/
theorem Call.perform_released (o : Opener σ) (c : Call) (g : Option Failure) (w : Watched σ) :
    ({ call := c, before := w, outcome := (c.perform o.watched g w).1,
       after := (c.perform o.watched g w).2 } : Made (Watched σ)).Released := by
  obtain ⟨k, w', ⟨hcons, hev, hop⟩, hrun⟩ := c.perform_course o g w
  rw [hrun]
  have hadded : w'.events.drop w.events.length = k.record c.method.name w.opened g := by
    rw [hev, List.drop_left]
  constructor <;> simp only [Made.added, hadded]
  case events_eq => exact hev
  case own => exact fun e he => Course.connection_of_mem_record he
  case unasked => exact fun hfailed e he => Course.operation_ne_status hcons hfailed he
  case disconnected =>
    cases k with
    | unopened f => exact .inl ⟨hop, rfl, f, rfl⟩
    | untransmitted | answered => exact .inr ⟨hop, Course.countP_disconnects _⟩

namespace Made

variable {m : Made (Watched σ)}

theorem Released.opened_le (h : m.Released) : m.before.opened ≤ m.after.opened := by
  rcases h.disconnected with ⟨hop, -⟩ | ⟨hop, -⟩ <;> omega

/-- A call that used a connection has opened it. -/
theorem Released.opened_eq_of_mem (h : m.Released) {e : Event} (he : e ∈ m.added) :
    m.after.opened = m.before.opened + 1 := by
  rcases h.disconnected with ⟨-, hnone, -⟩ | ⟨hop, -⟩
  · rw [hnone] at he
    cases he
  · exact hop

/-- The disconnects of every connection, after a call. -/
theorem Released.countP_after (h : m.Released) (n : Nat) :
    m.after.events.countP (Event.disconnects n) =
      m.before.events.countP (Event.disconnects n) +
        if m.before.opened ≤ n ∧ n < m.after.opened then 1 else 0 := by
  rw [h.events_eq, List.countP_append]
  congr 1
  rcases h.disconnected with ⟨hop, hnone, -⟩ | ⟨hop, hone⟩
  · rw [hnone, if_neg (by omega)]
    rfl
  -- a call counts for the connection that it opened and for no other
  · by_cases hn : n = m.before.opened
    · rw [hn, hone, if_pos (by omega)]
    · rw [if_neg (by omega), List.countP_eq_zero]
      intro e he
      simp [Event.disconnects, h.own e he, Ne.symm hn]

end Made

/-! ### The release of a sequence of calls -/

/-- What holds of every call, whatever state it finds, holds of every call of a sequence. -/
theorem history_forall {o : Opener τ} {P : Made τ → Prop}
    (h : ∀ c g s, P ⟨c, s, (c.perform o g s).1, (c.perform o g s).2⟩)
    (calls : List (Call × Option Failure)) (s : τ) : ∀ m ∈ history o calls s, P m := by
  induction calls generalizing s with
  | nil => simp [history]
  | cons cg calls ih =>
      obtain ⟨c, g⟩ := cg
      intro m hm
      rcases List.mem_cons.mp hm with rfl | hm
      · exact h c g s
      · exact ih _ m hm

/-- A later call has at least as many connections opened before it. -/
theorem opened_le_of_mem_history (o : Opener σ) (calls : List (Call × Option Failure))
    (w : Watched σ) : ∀ m ∈ history o.watched calls w, w.opened ≤ m.before.opened := by
  induction calls generalizing w with
  | nil => simp [history]
  | cons cg calls ih =>
      obtain ⟨c, g⟩ := cg
      intro m hm
      rcases List.mem_cons.mp hm with rfl | hm
      · exact Nat.le_refl _
      · exact Nat.le_trans (c.perform_released o g w).opened_le (ih _ m hm)

/-- Different calls use different connections. -/
theorem history_pairwise (o : Opener σ) (calls : List (Call × Option Failure)) (w : Watched σ) :
    (history o.watched calls w).Pairwise fun m m' =>
      ∀ e ∈ m.added, ∀ e' ∈ m'.added, e.connection ≠ e'.connection := by
  induction calls generalizing w with
  | nil => exact .nil
  | cons cg calls ih =>
      obtain ⟨c, g⟩ := cg
      have hc := c.perform_released o g w
      refine .cons (fun m' hm' e he e' he' => ?_) (ih _)
      -- the first call opened what it used before any later call was made
      have hm := history_forall (fun c g w => c.perform_released o g w) calls _ m' hm'
      have hle := opened_le_of_mem_history o calls _ m' hm'
      have hopened := hc.opened_eq_of_mem he
      rw [hc.own e he, hm.own e' he']
      simp only at hopened hle ⊢
      omega

/-- A sequence of calls opens no less than was opened before it. -/
theorem opened_le_afterwards (o : Opener σ) (calls : List (Call × Option Failure))
    (w : Watched σ) : w.opened ≤ (afterwards o.watched calls w).opened := by
  induction calls generalizing w with
  | nil => exact Nat.le_refl _
  | cons cg calls ih =>
      obtain ⟨c, g⟩ := cg
      exact Nat.le_trans (c.perform_released o g w).opened_le (ih _)

/-- The disconnects of every connection, after a sequence of calls. -/
theorem countP_afterwards (o : Opener σ) (calls : List (Call × Option Failure)) (w : Watched σ)
    (n : Nat) :
    (afterwards o.watched calls w).events.countP (Event.disconnects n) =
      w.events.countP (Event.disconnects n) +
        if w.opened ≤ n ∧ n < (afterwards o.watched calls w).opened then 1 else 0 := by
  induction calls generalizing w with
  | nil =>
      rw [afterwards, if_neg (by omega)]
      rfl
  | cons cg calls ih =>
      obtain ⟨c, g⟩ := cg
      have hc := c.perform_released o g w
      have hfirst := hc.opened_le
      have hrest := opened_le_afterwards o calls (c.perform o.watched g w).2
      have hcount := hc.countP_after n
      simp only at hfirst hcount
      rw [afterwards, ih, hcount, Nat.add_assoc]
      congr 1
      -- the connections of the first call and those of the rest are neighbouring ranges
      split <;> split <;> split <;> omega

/-- **Over any sequence of calls, every connection that was opened is disconnected once, by the
call that opened it.**  The first two parts say that watching the connections changes nothing. -/
theorem history_released (o : Opener σ) (calls : List (Call × Option Failure)) (w : Watched σ) :
    (history o.watched calls w).map (·.outcome) = (history o calls w.state).map (·.outcome) ∧
    (afterwards o.watched calls w).state = afterwards o calls w.state ∧
    (∀ m ∈ history o.watched calls w, m.Released) ∧
    ((history o.watched calls w).Pairwise fun m m' =>
      ∀ e ∈ m.added, ∀ e' ∈ m'.added, e.connection ≠ e'.connection) ∧
    ∀ n, (afterwards o.watched calls w).events.countP (Event.disconnects n) =
      w.events.countP (Event.disconnects n) +
        if w.opened ≤ n ∧ n < (afterwards o.watched calls w).opened then 1 else 0 := by
  obtain ⟨hout, hstate⟩ := history_alike o.watched_alike calls (rfl : w.state = w.state)
  refine ⟨hout, hstate, ?_, history_pairwise o calls w, countP_afterwards o calls w⟩
  exact history_forall (fun c g w => c.perform_released o g w) calls w

end ServiceClient
