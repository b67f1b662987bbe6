/-
**A ledger of the requests that are sent.**

To say when a call sends its request, a state is put beside a ledger.  An entry is made when a
connection was opened, when a step of writing the body has failed, and when a connection is
disconnected; and there is one entry for each request that was sent, told by a count that the state
keeps.  Keeping the ledger changes nothing.  A connection *asks once* if only its first status or
its first stream makes it send, and then at most one request; whatever is called over such
connections leaves a ledger in order.

Main definitions:

* `ServiceClient.Entry`, `ServiceClient.Ledger`: a state with its ledger;
* `ServiceClient.Connection.entered`, `ServiceClient.Opener.entered`: connections and openers that
  keep the ledger;
* `ServiceClient.Connection.AsksOnce`: connections that send once;
* `ServiceClient.Ledger.InOrder`: at most one request was sent, none after a failure to write and
  none after the disconnect.

Main results:

* `ServiceClient.Opener.entered_alike`: **keeping the ledger changes nothing**;
* `ServiceClient.Connection.AsksOnce.within`: a part of a larger state asks once;
* `ServiceClient.Opener.AsksOnce.attempt_inOrder`: **every call leaves a ledger in order**.
-/

import ServiceClient.Proofs.Exchange.Line
import ServiceClient.Proofs.Exchange.Phases

set_option autoImplicit false

namespace ServiceClient

open ServiceClient.Action (Along Keeps Meets)

/-! ### The ledger -/

inductive Entry
  /-- A connection was opened. -/
  | opened
  /-- A step of writing the body has failed. -/
  | unwritten
  /-- A request was sent. -/
  | sent
  /-- A connection is disconnected. -/
  | disconnected
  deriving DecidableEq, Repr

structure Ledger (σ : Type) where
  state : σ
  entries : List Entry := []

variable {σ α : Type} (sent : σ → Nat)

/-- The entries for the requests that were sent from one state to another. -/
def sentEntries (s s' : σ) : List Entry :=
  List.replicate (sent s' - sent s) .sent

/-- Enters what an action marks, and after it the requests that the action sent. -/
def entering (mark : Except Failure α → List Entry) (m : Action σ α) : Action (Ledger σ) α :=
  fun g w =>
    ((m g w.state).1,
      { state := (m g w.state).2
        entries := w.entries ++ mark (m g w.state).1 ++ sentEntries sent w.state (m g w.state).2 })

/-- Enters the requests that a change of the state sent. -/
def Ledger.change (f : σ → σ) (w : Ledger σ) : Ledger σ :=
  { state := f w.state, entries := w.entries ++ sentEntries sent w.state (f w.state) }

def unmarked (_ : Except Failure α) : List Entry := []

def markUnwritten : Except Failure α → List Entry
  | .ok _ => []
  | .error _ => [.unwritten]

def markOpened : Except Failure α → List Entry
  | .ok _ => [.opened]
  | .error _ => []

/-- A disconnect is marked, also one that fails. -/
def markDisconnected (_ : Except Failure α) : List Entry := [.disconnected]

def Sink.entered (a : Sink σ) : Sink (Ledger σ) where
  name := a.name
  attach := entering sent markUnwritten a.attach
  write data := entering sent markUnwritten (a.write data)
  close := entering sent markUnwritten a.close
  written := entering sent unmarked a.written

/-- A source over a state with a ledger. -/
def Source.entered (a : Source σ) : Source (Ledger σ) where
  name := a.name
  attach := entering sent unmarked a.attach
  read n := entering sent unmarked (a.read n)
  readInto n := entering sent unmarked (a.readInto n)
  readAll := entering sent unmarked a.readAll
  readLine := entering sent unmarked a.readLine
  close := entering sent unmarked a.close
  isClosed w := a.isClosed w.state
  extent w := a.extent w.state

def Connection.entered (c : Connection σ) : Connection (Ledger σ) where
  url := c.url
  enableOutput := Ledger.change sent c.enableOutput
  setMethod method := Ledger.change sent (c.setMethod method)
  output := do pure ((← entering sent markUnwritten c.output).entered sent)
  status := entering sent unmarked c.status
  input := do pure ((← entering sent unmarked c.input).map (·.entered sent))
  errorInput := do pure ((← entering sent unmarked c.errorInput).map (·.entered sent))
  disconnect := entering sent markDisconnected c.disconnect
  log event := Ledger.change sent (c.log event)

def Opener.entered (o : Opener σ) : Opener (Ledger σ) where
  connect url headers := do
    pure ((← entering sent markOpened (o.connect url headers)).entered sent)
  log event := Ledger.change sent (o.log event)

/-! ### Keeping the ledger changes nothing -/

theorem entering_alike (mark : Except Failure α → List Entry) (m : Action σ α) :
    Action.Alike (fun w s => w.state = s) Eq (entering sent mark m) m := by
  rintro g w _ rfl
  simp only [entering]
  generalize m g w.state = x
  obtain ⟨f | a, s⟩ := x
  · exact .error rfl
  · exact .ok rfl rfl

theorem Sink.entered_alike (a : Sink σ) : (a.entered sent).Alike (fun w s => w.state = s) a where
  name := rfl
  attach := entering_alike _ _ _
  write _ := entering_alike _ _ _
  close := entering_alike _ _ _

theorem Source.entered_alike (a : Source σ) :
    (a.entered sent).Alike (fun w s => w.state = s) a where
  attach := entering_alike _ _ _
  readAll := entering_alike _ _ _
  close := entering_alike _ _ _

theorem Connection.entered_alike (c : Connection σ) :
    (c.entered sent).Alike (fun w s => w.state = s) c := by
  have hsource (a : Option (Source σ)) :
      Option.Rel (Source.Alike fun (w : Ledger σ) s => w.state = s) (a.map (·.entered sent)) a := by
    cases a with
    | none => exact .none
    | some a => exact .some (a.entered_alike sent)
  exact
    { url := rfl
      status := entering_alike _ _ _
      input := (entering_alike _ _ _).handing hsource
      errorInput := (entering_alike _ _ _).handing hsource
      disconnect := entering_alike _ _ _
      log := fun _ _ _ h => congrArg _ h
      enableOutput := fun _ _ h => congrArg _ h
      setMethod := fun _ _ _ h => congrArg _ h
      output := (entering_alike _ _ _).handing fun a => a.entered_alike sent }

/-- **Keeping the ledger changes nothing.** -/
theorem Opener.entered_alike (o : Opener σ) :
    (o.entered sent).Alike (fun w s => w.state = s) o where
  connect _ _ := (entering_alike _ _ _).handing fun c => c.entered_alike sent
  log _ _ _ h := congrArg _ h

/-! ### Connections that send once -/

/-- A source that sends nothing. -/
structure Source.Silent (a : Source σ) : Prop where
  attach (k : Nat) : Keeps (fun s => sent s = k) a.attach
  readAll (k : Nat) : Keeps (fun s => sent s = k) a.readAll
  close (k : Nat) : Keeps (fun s => sent s = k) a.close

/-- The streams of a connection, if there are any, send nothing. -/
def Silent (a : Option (Source σ)) : Prop :=
  ∀ b, a = some b → b.Silent sent

/-- A connection that sends once.  Writing the body sends nothing and leaves the connection fresh;
asking a fresh connection for the status or for a stream sends a request, or fails after sending one
at most; asking it again sends nothing, and neither does a disconnect. -/
structure Connection.AsksOnce (c : Connection σ) (fresh kept : σ → Prop) : Prop where
  takes (k : Nat) : c.Takes (fun s => fresh s ∧ sent s = k) fun s => fresh s ∧ sent s = k
  log (event : LogEvent) (s : σ) : sent (c.log event s) = sent s
  status (k : Nat) :
    Meets (fun s => fresh s ∧ sent s = k) c.status (fun _ s => kept s ∧ sent s = k + 1)
      fun _ s => ∃ j ≤ 1, sent s = k + j
  input_fresh (k : Nat) :
    Meets (fun s => fresh s ∧ sent s = k) c.input (fun a s => Silent sent a ∧ sent s = k + 1)
      fun _ s => ∃ j ≤ 1, sent s = k + j
  input_kept (k : Nat) :
    Meets (fun s => kept s ∧ sent s = k) c.input (fun a s => Silent sent a ∧ sent s = k)
      fun _ s => sent s = k
  errorInput_kept (k : Nat) :
    Meets (fun s => kept s ∧ sent s = k) c.errorInput (fun a s => Silent sent a ∧ sent s = k)
      fun _ s => sent s = k
  disconnect (k : Nat) : Keeps (fun s => sent s = k) c.disconnect

section Within

variable {τ : Type} {sent} {part : Part τ σ} {V : τ → Prop}
  (hget : ∀ t s, V t → part.get (part.set s t) = s) (hset : ∀ t s, V t → V (part.set s t))
  (hsent : ∀ t s, sent (part.get (part.set s t)) = sent s)

include hsent

theorem keeps_within {k : Nat} {m : Action σ α} (hm : Keeps (fun s => sent s = k) m) :
    Keeps (fun t => sent (part.get t) = k) (m.within part) :=
  hm.within_of (fun _ ht => ht) fun t s _ hs => (hsent t s).trans hs

theorem Source.Silent.within {a : Source σ} (h : a.Silent sent) :
    (a.within part).Silent fun t => sent (part.get t) where
  attach k := keeps_within hsent (h.attach k)
  readAll k := keeps_within hsent (h.readAll k)
  close k := keeps_within hsent (h.close k)

include hget hset

/-- **A part of a larger state asks once as it does alone.** -/
theorem Connection.AsksOnce.within {c : Connection σ} {fresh kept : σ → Prop}
    (h : c.AsksOnce sent fresh kept) :
    (c.within part).AsksOnce (fun t => sent (part.get t)) (fun t => V t ∧ fresh (part.get t))
      fun t => V t ∧ kept (part.get t) := by
  have hstream {k : Nat} {P : σ → Prop} {E : Failure → σ → Prop} {m : Action σ (Option (Source σ))}
      (hm : Meets P m (fun a s => Silent sent a ∧ sent s = k) E) :
      Meets (fun t => V t ∧ P (part.get t)) (do pure ((← m.within part).map (·.within part)))
        (fun a t => Silent (fun t => sent (part.get t)) a ∧ sent (part.get t) = k)
        fun f t => V t ∧ E f (part.get t) := by
    refine (hm.within hget hset).handing ?_
    rintro a t ⟨-, hsilent, hk⟩
    refine ⟨fun b hb => ?_, hk⟩
    obtain ⟨b, rfl, rfl⟩ := Option.map_eq_some_iff.mp hb
    exact (hsilent b rfl).within hsent
  exact
    { takes := fun k => by
        simpa only [and_assoc] using (h.takes k).within hget hset
      log := fun event t => (hsent t _).trans (h.log event _)
      status := fun k => ((h.status k).within hget hset).weaken (fun _ ht => ⟨ht.1.1, ht.1.2, ht.2⟩)
        (fun _ _ ht => ⟨⟨ht.1, ht.2.1⟩, ht.2.2⟩) fun _ _ ht => ht.2
      input_fresh := fun k => (hstream (h.input_fresh k)).weaken
        (fun _ ht => ⟨ht.1.1, ht.1.2, ht.2⟩) (fun _ _ ht => ht) fun _ _ ht => ht.2
      input_kept := fun k => (hstream (h.input_kept k)).weaken
        (fun _ ht => ⟨ht.1.1, ht.1.2, ht.2⟩) (fun _ _ ht => ht) fun _ _ ht => ht.2
      errorInput_kept := fun k => (hstream (h.errorInput_kept k)).weaken
        (fun _ ht => ⟨ht.1.1, ht.1.2, ht.2⟩) (fun _ _ ht => ht) fun _ _ ht => ht.2
      disconnect := fun k => keeps_within hsent (h.disconnect k) }

end Within

namespace Ledger

/-- So many requests were sent, and these are the entries. -/
def At (n : Nat) (es : List Entry) (w : Ledger σ) : Prop :=
  sent w.state = n ∧ w.entries = es

variable {sent} {k : Nat} {es : List Entry} {P : σ → Prop} {Q : α → σ → Prop}
  {E : Failure → σ → Prop} {m : Action σ α}

/-- What is entered for an action that meets a contract. -/
theorem entering_meets (mark : Except Failure α → List Entry) (es : List Entry)
    (hm : Meets (fun s => P s ∧ sent s = k) m Q E) :
    Meets (fun w => (P w.state ∧ sent w.state = k) ∧ w.entries = es) (entering sent mark m)
      (fun a w => Q a w.state ∧
        w.entries = es ++ mark (.ok a) ++ List.replicate (sent w.state - k) .sent)
      fun f w => E f w.state ∧
        w.entries = es ++ mark (.error f) ++ List.replicate (sent w.state - k) .sent := by
  rintro g w ⟨⟨hP, rfl⟩, rfl⟩
  have h := hm g w.state ⟨hP, rfl⟩
  simp only [entering]
  generalize m g w.state = x at h ⊢
  cases h with
  | ok h => exact .ok ⟨h, rfl⟩
  | error h => exact .error ⟨h, rfl⟩

/-- An action that sends nothing enters what it marks. -/
theorem entering_silent (mark : Except Failure α → List Entry) (n : Nat) (es : List Entry)
    (hm : Keeps (fun s => sent s = n) m) :
    Meets (At sent n es) (entering sent mark m) (fun a => At sent n (es ++ mark (.ok a)))
      fun f => At sent n (es ++ mark (.error f)) := by
  have hmeets : Meets (fun s => True ∧ sent s = n) m (fun _ s => sent s = n)
      fun _ s => sent s = n :=
    hm.meets.weaken (fun _ hs => hs.2) (fun _ _ hs => hs) fun _ _ hs => hs
  refine (entering_meets mark es hmeets).weaken (fun w hw => ⟨⟨trivial, hw.1⟩, hw.2⟩) ?_ ?_
  · rintro a w ⟨hn, he⟩
    exact ⟨hn, by simpa [hn] using he⟩
  · rintro f w ⟨hn, he⟩
    exact ⟨hn, by simpa [hn] using he⟩

theorem entering_unmarked (n : Nat) (es : List Entry) (hm : Keeps (fun s => sent s = n) m) :
    Meets (At sent n es) (entering sent unmarked m) (fun _ => At sent n es)
      fun _ => At sent n es := by
  simpa [unmarked] using entering_silent unmarked n es hm

/-- A change of the state that sends nothing enters nothing. -/
theorem at_change {f : σ → σ} (hf : ∀ s, sent (f s) = sent s) {n : Nat} {w : Ledger σ}
    (h : At sent n es w) : At sent n es (w.change sent f) := by
  obtain ⟨hn, he⟩ := h
  refine ⟨(hf _).trans hn, ?_⟩
  simp [change, sentEntries, hf, he]

end Ledger

/-! ### The phases of a ledger -/

namespace Connection.AsksOnce

variable {sent} {c : Connection σ} {fresh kept : σ → Prop}

/-- The ledger in each phase, where `k` requests were sent before the connection was opened. -/
def phases (sent : σ → Nat) (fresh kept : σ → Prop) (k : Nat) : Phases (Ledger σ) where
  unasked w := (fresh w.state ∧ sent w.state = k) ∧ w.entries = [.opened]
  answered w := (kept w.state ∧ sent w.state = k + 1) ∧ w.entries = [.opened, .sent]
  opened a w := (∃ b : Source σ, a = b.entered sent ∧ b.Silent sent) ∧
    Ledger.At sent (k + 1) [.opened, .sent] w
  ended := Ledger.At sent (k + 1) [.opened, .sent]
  failed w := ∃ j ≤ 1, Ledger.At sent (k + j) (.opened :: .replicate j .sent) w
  left := Ledger.At sent (k + 1) [.opened, .sent, .disconnected]
  lost w := ∃ j ≤ 1, Ledger.At sent (k + j) (.opened :: .replicate j .sent ++ [.disconnected]) w

/-- Asking for a stream after `i` requests, one at most in all. -/
theorem asking_meets {k i : Nat} (hi : i ≤ 1) {P : σ → Prop} {m : Action σ (Option (Source σ))}
    (hm : Meets (fun s => P s ∧ sent s = k + i) m (fun a s => Silent sent a ∧ sent s = k + 1)
      fun _ s => ∃ j, i ≤ j ∧ j ≤ 1 ∧ sent s = k + j) :
    Meets (fun w => (P w.state ∧ sent w.state = k + i) ∧ w.entries = .opened :: .replicate i .sent)
      (do pure ((← entering sent unmarked m).map (·.entered sent)))
      (phases sent fresh kept k).found fun _ w => True ∧ (phases sent fresh kept k).failed w := by
  -- what was sent before and what is sent now stand one after the other
  have hentries {w : Ledger σ} {j : Nat} (hij : i ≤ j) (hsent : sent w.state = k + j)
      (he : w.entries = .opened :: .replicate i .sent ++ unmarked (.ok ()) ++
        .replicate (sent w.state - (k + i)) .sent) :
      Ledger.At sent (k + j) (.opened :: .replicate j .sent) w := by
    refine ⟨hsent, ?_⟩
    rw [he, hsent, unmarked, List.append_nil, List.cons_append, List.replicate_append_replicate,
      show i + (k + j - (k + i)) = j by omega]
  have hentered : Meets
      (fun w => (P w.state ∧ sent w.state = k + i) ∧ w.entries = .opened :: .replicate i .sent)
      (entering sent unmarked m) (fun a w => Silent sent a ∧ (phases sent fresh kept k).ended w)
      fun _ w => True ∧ (phases sent fresh kept k).failed w := by
    refine (Ledger.entering_meets unmarked _ hm).weaken (fun _ hw => hw) ?_ ?_
    · rintro a w ⟨⟨hsilent, hsent⟩, he⟩
      exact ⟨hsilent, hentries hi hsent he⟩
    · rintro f w ⟨⟨j, hij, hj, hsent⟩, he⟩
      exact ⟨trivial, j, hj, hentries hij hsent he⟩
  refine hentered.handing ?_
  rintro a w ⟨hsilent, hw⟩
  cases a with
  | none => exact hw
  | some b => exact ⟨⟨b, rfl, hsilent b rfl⟩, hw⟩

/-- Asking a connection that has answered for a stream. -/
theorem asking_kept (k : Nat) {m : Action σ (Option (Source σ))}
    (hm : ∀ k, Meets (fun s => kept s ∧ sent s = k) m (fun a s => Silent sent a ∧ sent s = k)
      fun _ s => sent s = k) :
    Meets (phases sent fresh kept k).answered
      (do pure ((← entering sent unmarked m).map (·.entered sent)))
      (phases sent fresh kept k).found fun _ w => True ∧ (phases sent fresh kept k).failed w :=
  asking_meets (Nat.le_refl 1) ((hm (k + 1)).weaken (fun _ hs => hs) (fun _ _ hs => hs)
    fun _ _ hs => ⟨1, Nat.le_refl 1, Nat.le_refl 1, hs⟩)

/-- A step of writing the body enters its failure. -/
theorem writing_meets {k : Nat} {m : Action σ α} {Q : α → σ → Prop}
    (hQ : ∀ a s, Q a s → sent s = k)
    (hm : Meets (fun s => fresh s ∧ sent s = k) m Q fun _ s => fresh s ∧ sent s = k)
    (es : List Entry) :
    Meets (fun w => (fresh w.state ∧ sent w.state = k) ∧ w.entries = es)
      (entering sent markUnwritten m) (fun a w => Q a w.state ∧ w.entries = es)
      fun _ w => (fresh w.state ∧ sent w.state = k) ∧ w.entries = es ++ [.unwritten] := by
  refine (Ledger.entering_meets markUnwritten es hm).weaken (fun _ hw => hw) ?_ ?_
  · rintro a w ⟨ha, he⟩
    exact ⟨ha, by simpa [hQ a _ ha, markUnwritten] using he⟩
  · rintro f w ⟨hw, he⟩
    exact ⟨hw, by simpa [hw.2, markUnwritten] using he⟩

/-- After a step of writing has failed: nothing was sent. -/
def broken (sent : σ → Nat) (fresh : σ → Prop) (k : Nat) (w : Ledger σ) : Prop :=
  ∃ j, (fresh w.state ∧ sent w.state = k) ∧ w.entries = .opened :: .replicate (j + 1) .unwritten

/-- A sink that takes a body keeps the ledger in order. -/
theorem sink_takes {k : Nat} {out : Sink σ}
    (h : out.Takes (fun s => fresh s ∧ sent s = k) fun s => fresh s ∧ sent s = k) :
    (out.entered sent).Takes (phases sent fresh kept k).unasked (broken sent fresh k) where
  attach := (writing_meets (fun _ _ hs => hs.2) h.attach [.opened]).weaken (fun _ hw => hw)
    (fun _ _ hw => hw) fun _ _ hw => ⟨0, hw⟩
  write data := (writing_meets (fun _ _ hs => hs.2) (h.write data) [.opened]).weaken
    (fun _ hw => hw) (fun _ _ hw => hw) fun _ _ hw => ⟨0, hw⟩
  close := (writing_meets (fun _ _ hs => hs.2) h.close [.opened]).weaken (fun _ hw => hw)
    (fun _ _ hw => hw) fun _ _ hw => ⟨0, hw⟩
  close_broken := by
    rintro g w ⟨j, hw⟩
    refine (writing_meets (fun _ _ hs => hs.2) h.close_broken _ g w hw).weaken
      (fun _ _ hw => ⟨j, hw⟩) fun _ w hw => ⟨j + 1, hw.1, ?_⟩
    rw [hw.2, List.replicate_succ' (n := j + 1), List.cons_append]

variable (h : c.AsksOnce sent fresh kept) (k : Nat)

include h

/-- **The operations of a connection that asks once lead through the phases of the ledger.** -/
theorem answers : (c.entered sent).Answers (phases sent fresh kept k) fun _ => True where
  status := by
    refine (Ledger.entering_meets unmarked [.opened] (h.status k)).weaken (fun _ hw => hw) ?_ ?_
    · rintro _ w ⟨⟨hkept, hsent⟩, he⟩
      exact ⟨⟨hkept, hsent⟩, by simpa [hsent, unmarked] using he⟩
    · rintro f w ⟨⟨j, hj, hsent⟩, he⟩
      exact ⟨trivial, j, hj, hsent, by simpa [hsent, unmarked] using he⟩
  input := asking_kept k h.input_kept
  errorInput := asking_kept k h.errorInput_kept
  attach a := by
    rintro g w ⟨⟨b, rfl, hb⟩, hw⟩
    exact (Ledger.entering_unmarked (k + 1) _ (hb.attach (k + 1)) g w hw).weaken
      (fun _ _ hw => ⟨⟨b, rfl, hb⟩, hw⟩) fun _ _ hw => ⟨trivial, 1, Nat.le_refl 1, hw⟩
  readAll a := by
    rintro g w ⟨⟨b, rfl, hb⟩, hw⟩
    exact (Ledger.entering_unmarked (k + 1) _ (hb.readAll (k + 1)) g w hw).weaken
      (fun _ _ hw => hw) fun _ _ hw => ⟨trivial, 1, Nat.le_refl 1, hw⟩
  close a := by
    rintro ⟨_, ⟨b, rfl, hb⟩, -⟩
    constructor
    · exact (Ledger.entering_unmarked (k + 1) _ (hb.close (k + 1))).weaken (fun _ hw => hw)
        (fun _ _ hw => hw) fun _ _ hw => ⟨trivial, 1, Nat.le_refl 1, hw⟩
    · rintro g w ⟨j, hj, hw⟩
      exact (Ledger.entering_unmarked (k + j) _ (hb.close (k + j)) g w hw).weaken
        (fun _ _ hw => ⟨j, hj, hw⟩) fun _ _ hw => ⟨trivial, j, hj, hw⟩
  disconnect_ended :=
    (Ledger.entering_silent markDisconnected (k + 1) _ (h.disconnect (k + 1))).weaken
      (fun _ hw => hw) (fun _ _ hw => hw) fun _ _ hw => ⟨trivial, 1, Nat.le_refl 1, hw⟩
  disconnect_failed := by
    rintro g w ⟨j, hj, hw⟩
    exact (Ledger.entering_silent markDisconnected (k + j) _ (h.disconnect (k + j)) g w hw).weaken
      (fun _ _ hw => ⟨j, hj, hw⟩) fun _ _ hw => ⟨trivial, j, hj, hw⟩
  failed_of_ended w hw := ⟨1, Nat.le_refl 1, hw⟩
  log_found event a w hw := by
    cases a with
    | none => exact Ledger.at_change (h.log event) hw
    | some b => exact ⟨hw.1, Ledger.at_change (h.log event) hw.2⟩
  log_failed event w hw := by
    obtain ⟨j, hj, hw⟩ := hw
    exact ⟨j, hj, Ledger.at_change (h.log event) hw⟩

/-- **So does taking a body**: a failure to write it is entered, and nothing is sent. -/
theorem takes_entered :
    (c.entered sent).Takes (phases sent fresh kept k).unasked (broken sent fresh k) where
  enableOutput w hw := by
    have hstate := (h.takes k).enableOutput w.state hw.1
    exact ⟨hstate, by simp [Connection.entered, Ledger.change, sentEntries, hstate.2, hw.1.2, hw.2]⟩
  setMethod method w hw := by
    have hstate := (h.takes k).setMethod method w.state hw.1
    exact ⟨hstate, by simp [Connection.entered, Ledger.change, sentEntries, hstate.2, hw.1.2, hw.2]⟩
  output := by
    have houtput := writing_meets (fun _ _ hs => hs.1.2) (h.takes k).output [.opened]
    refine (houtput.weaken (fun _ hw => hw) (fun _ _ hw => hw) fun _ _ hw => ⟨0, hw⟩).handing ?_
    rintro out w ⟨⟨hw, hout⟩, he⟩
    exact ⟨⟨hw, he⟩, sink_takes hout⟩
  log event w hw := by
    obtain ⟨j, hstate, he⟩ := hw
    exact ⟨j, (h.takes k).log event w.state hstate, by
      simp [Connection.entered, Ledger.change, sentEntries, h.log, he]⟩

/-- Asking a fresh connection for a stream. -/
theorem input_meets :
    Meets (phases sent fresh kept k).unasked (c.entered sent).input (phases sent fresh kept k).found
      fun _ w => True ∧ (phases sent fresh kept k).failed w :=
  asking_meets (Nat.zero_le 1) ((h.input_fresh k).weaken (fun _ hs => hs) (fun _ _ hs => hs)
    fun _ _ ⟨j, hj, hsent⟩ => ⟨j, Nat.zero_le j, hj, hsent⟩)

end Connection.AsksOnce

/-! ### Calls -/

namespace Ledger

/-- A ledger in order, where `k` requests were sent before: the count of the state agrees with it,
at most one request was sent, over an opened connection, and neither after a failure to write nor
after the disconnect. -/
structure InOrder (k : Nat) (w : Ledger σ) : Prop where
  sent_eq : sent w.state = k + w.entries.count .sent
  once : w.entries.count .sent ≤ 1
  opened : .opened ∉ w.entries → w.entries = []
  unwritten : .unwritten ∈ w.entries → .sent ∉ w.entries
  disconnected : ¬ [.disconnected, .sent].Sublist w.entries

variable {sent} {k : Nat} {fresh kept : σ → Prop} {w : Ledger σ}

/-- A ledger without a request is in order. -/
theorem inOrder_of_silent (hsent : sent w.state = k) (hnone : .sent ∉ w.entries)
    (hopened : .opened ∈ w.entries ∨ w.entries = []) : w.InOrder sent k where
  sent_eq := by rw [hsent, List.count_eq_zero_of_not_mem hnone, Nat.add_zero]
  once := by simp [List.count_eq_zero_of_not_mem hnone]
  opened h := hopened.resolve_left h
  unwritten _ := hnone
  disconnected h := hnone (h.subset (by simp))

/-- One request at most, and then perhaps the disconnect. -/
theorem inOrder_of_sent {j : Nat} (hj : j ≤ 1) (hsent : sent w.state = k + j) {es : List Entry}
    (hes : es = [] ∨ es = [.disconnected]) (he : w.entries = .opened :: .replicate j .sent ++ es) :
    w.InOrder sent k ∧ w.entries.count .sent = j := by
  have hcount : w.entries.count .sent = j ∧ (.opened ∉ w.entries → w.entries = []) ∧
      (.unwritten ∈ w.entries → .sent ∉ w.entries) ∧
      ¬ [.disconnected, .sent].Sublist w.entries := by
    rw [he]
    obtain rfl | rfl : j = 0 ∨ j = 1 := by omega
    · rcases hes with rfl | rfl <;> decide
    · rcases hes with rfl | rfl <;> decide
  obtain ⟨hcount, hopened, hunwritten, hdisconnected⟩ := hcount
  exact ⟨⟨by rw [hcount, hsent], hcount ▸ hj, hopened, hunwritten, hdisconnected⟩, hcount⟩

theorem inOrder_of_failed (h : (Connection.AsksOnce.phases sent fresh kept k).failed w) :
    w.InOrder sent k := by
  obtain ⟨j, hj, hsent, he⟩ := h
  exact (inOrder_of_sent hj hsent (.inl rfl) (by rw [he, List.append_nil])).1

theorem inOrder_of_lost (h : (Connection.AsksOnce.phases sent fresh kept k).lost w) :
    w.InOrder sent k := by
  obtain ⟨j, hj, hsent, he⟩ := h
  exact (inOrder_of_sent hj hsent (.inr rfl) he).1

end Ledger

namespace Connection.AsksOnce

variable {sent} {c : Connection σ} {fresh kept : σ → Prop} (h : c.AsksOnce sent fresh kept) (k : Nat)

include h

/-- A connection that could not be written to is disconnected without a request. -/
theorem disconnecting_broken :
    Meets (broken sent fresh k) (disconnecting (c.entered sent)) (fun _ w => w.InOrder sent k)
      fun _ w => w.InOrder sent k := by
  have hentered : Meets (broken sent fresh k) (c.entered sent).disconnect
      (fun _ w => w.InOrder sent k) fun _ w => True ∧ w.InOrder sent k := by
    rintro g w ⟨j, ⟨-, hsent⟩, he⟩
    have horder {w : Ledger σ} (hw : Ledger.At sent k
        (.opened :: .replicate (j + 1) .unwritten ++ [.disconnected]) w) : w.InOrder sent k := by
      refine Ledger.inOrder_of_silent hw.1 ?_ (.inl ?_)
      · simp [hw.2]
      · simp [hw.2]
    exact (Ledger.entering_silent markDisconnected k _ (h.disconnect k) g w ⟨hsent, he⟩).weaken
      (fun _ _ hw => horder hw) fun _ _ hw => ⟨trivial, horder hw⟩
  exact (reporting_meets _ hentered).weaken (fun _ hw => hw) (fun _ _ hw => hw) fun _ _ hw => hw.2

/-- Reading a response over a connection that asks once. -/
theorem readResponse_once :
    Meets (phases sent fresh kept k).unasked (readResponse (c.entered sent))
      (fun _ w => w.InOrder sent k ∧ w.entries.count .sent = 1) fun _ w => w.InOrder sent k :=
  (h.answers k).readResponse_meets.weaken (fun _ hw => hw)
    (fun _ _ hw => Ledger.inOrder_of_sent (Nat.le_refl 1) hw.1 (.inr rfl) hw.2)
    fun _ _ hw => Ledger.inOrder_of_lost hw.2

/-- An exchange over a connection that asks once. -/
theorem exchanging_once (body : List Text.CodePoint) (method : Method) :
    Meets (phases sent fresh kept k).unasked (exchanging (c.entered sent) body method)
      (fun _ w => w.InOrder sent k ∧ w.entries.count .sent = 1) fun _ w => w.InOrder sent k := by
  have hsend : Meets (phases sent fresh kept k).unasked
      ((send (c.entered sent) body method.name).rescue fun f => do
        disconnecting (c.entered sent); .rethrow f)
      (fun _ => (phases sent fresh kept k).unasked) fun _ w => w.InOrder sent k :=
    ((h.takes_entered k).send_meets body method.name).rescue fun f =>
      (h.disconnecting_broken k).bind fun _ => .rethrow fun _ hw => hw
  exact hsend.bind fun _ => (h.readResponse_once k).bind fun r => .pure fun _ hw => hw

/-- The stream of a response over a connection that asks once. -/
theorem leasing_once (url : String) :
    Meets (phases sent fresh kept k).unasked
      (obtaining (c.entered sent) url >>= fun a => leasing (c.entered sent) a)
      (fun _ w => w.InOrder sent k ∧ w.entries.count .sent = 1) fun _ w => w.InOrder sent k := by
  have hdisconnect : Meets (phases sent fresh kept k).failed (disconnecting (c.entered sent))
      (fun _ w => w.InOrder sent k) fun _ w => w.InOrder sent k :=
    (reporting_meets _ (h.answers k).disconnect_failed).weaken (fun _ hw => hw)
      (fun _ _ hw => Ledger.inOrder_of_lost hw) fun _ _ hw => Ledger.inOrder_of_lost hw.2
  have hsent {w : Ledger σ} (hw : Ledger.At sent (k + 1) [.opened, .sent] w) :
      w.InOrder sent k ∧ w.entries.count .sent = 1 :=
    Ledger.inOrder_of_sent (Nat.le_refl 1) hw.1 (.inl rfl) hw.2
  have hobtaining : Meets (phases sent fresh kept k).unasked (obtaining (c.entered sent) url)
      (phases sent fresh kept k).found fun _ w => w.InOrder sent k := by
    refine ((h.input_meets k).weaken (fun _ hw => hw) (fun _ _ hw => hw) fun _ _ hw =>
      hw.2).rescue fun f => ?_
    by_cases hclient : f.fault.isClient
    · rw [if_pos hclient]
      exact hdisconnect.bind fun _ => .rethrow fun _ hw => hw
    · rw [if_neg hclient]
      by_cases hexchange : f.isExchangeFailure
      · rw [if_pos hexchange]
        exact hdisconnect.bind fun _ => .raiseFrom fun _ hw => hw
      · rw [if_neg hexchange]
        exact .rethrow fun _ hw => Ledger.inOrder_of_failed hw
  refine hobtaining.bind fun a => ?_
  cases a with
  | none => exact .pure fun _ hw => hsent hw
  | some a =>
      exact ((h.answers k).attach a).weaken (fun _ hw => hw) (fun _ _ hw => hw)
        (fun _ _ hw => Ledger.inOrder_of_failed hw.2) |>.bind fun _ => .pure fun _ hw => hsent hw.2

end Connection.AsksOnce

/-- An opener of fresh connections that send once. -/
structure Opener.AsksOnce (o : Opener σ) : Prop where
  connect (url : String) (headers : List (String × String)) (k : Nat) :
    Meets (fun s => sent s = k) (o.connect url headers)
      (fun c s => ∃ fresh kept, c.AsksOnce sent fresh kept ∧ fresh s ∧ sent s = k)
      fun _ s => sent s = k
  log (event : LogEvent) (s : σ) : sent (o.log event s) = sent s

namespace Opener.AsksOnce

variable {sent} {o : Opener σ} (h : o.AsksOnce sent) (k : Nat)

include h

/-- A connection is opened, and what is done over it leaves a ledger in order. -/
theorem connect_meets {β : Type} (url : String) (headers : List (String × String))
    (next : Connection (Ledger σ) → Action (Ledger σ) β)
    (hnext : ∀ (c : Connection σ) (fresh kept : σ → Prop), c.AsksOnce sent fresh kept →
      Meets (Connection.AsksOnce.phases sent fresh kept k).unasked (next (c.entered sent))
        (fun _ w => w.InOrder sent k ∧ w.entries.count .sent = 1) fun _ w => w.InOrder sent k) :
    Meets (Ledger.At sent k []) ((o.entered sent).connect url headers >>= next)
      (fun _ w => w.InOrder sent k ∧ w.entries.count .sent = 1) fun _ w => w.InOrder sent k := by
  have hconnect := Ledger.entering_meets markOpened [] (P := fun _ => True)
    ((h.connect url headers k).weaken (fun _ hs => hs.2) (fun _ _ hs => hs) fun _ _ hs => hs)
  have hopened : Meets (Ledger.At sent k []) ((o.entered sent).connect url headers)
      (fun c w => ∃ (d : Connection σ) (fresh kept : σ → Prop), c = d.entered sent ∧
        d.AsksOnce sent fresh kept ∧ (Connection.AsksOnce.phases sent fresh kept k).unasked w)
      fun _ w => w.InOrder sent k := by
    refine (hconnect.weaken (fun w hw => ⟨⟨trivial, hw.1⟩, hw.2⟩) (fun _ _ hw => hw)
      fun f w hw => ?_).handing ?_
    · obtain ⟨hsent, he⟩ := hw
      have he : w.entries = [] := by simpa [hsent, markOpened] using he
      exact Ledger.inOrder_of_silent hsent (by simp [he]) (.inr he)
    · rintro d w ⟨⟨fresh, kept, hd, hfresh, hsent⟩, he⟩
      exact ⟨d, fresh, kept, rfl, hd, ⟨hfresh, hsent⟩, by simpa [hsent, markOpened] using he⟩
  refine hopened.bind ?_
  rintro c g w ⟨d, fresh, kept, rfl, hd, hw⟩
  exact hnext d fresh kept hd g w hw

/-- **Every call leaves a ledger in order**, and one that succeeds has sent one request. -/
theorem attempt_inOrder (v : Verb) :
    Meets (Ledger.At sent k []) (v.attempt (o.entered sent))
      (fun _ w => w.InOrder sent k ∧ w.entries.count .sent = 1) fun _ w => w.InOrder sent k := by
  have hexchange (headers : HeaderMap) (url : String) (body : List Text.CodePoint)
      (method : Method) :=
    h.connect_meets k url headers (fun c => exchanging c body method)
      fun _ _ _ hc => hc.exchanging_once k body method
  cases v with
  | call c =>
      refine Meets.bind ?_ fun _ => .pure fun _ hw => hw
      cases c with
      | get headers url =>
          refine Meets.bind (Q := fun _ w => w.InOrder sent k ∧ w.entries.count .sent = 1) ?_
            fun _ => .pure fun _ hw => hw
          refine Meets.bind (Q := fun _ => Ledger.At sent k [])
            (.modify fun _ hw => Ledger.at_change (h.log _) hw) fun _ => ?_
          exact h.connect_meets k url _ (fun c => do pure (← readResponse c).text)
            fun _ _ _ hc => (hc.readResponse_once k).bind fun _ => .pure fun _ hw => hw
      | post headers url body content accepted =>
          exact (hexchange _ url body .post).bind fun _ => .pure fun _ hw => hw
      | put headers url body media =>
          exact (hexchange _ url body .put).bind fun _ => .pure fun _ hw => hw
      | delete headers url =>
          refine Meets.bind (Q := fun _ w => w.InOrder sent k ∧ w.entries.count .sent = 1) ?_
            fun _ => .pure fun _ hw => hw
          exact (hexchange _ url [] .delete).bind fun _ => .pure fun _ hw => hw
  | lease headers url =>
      refine Meets.bind ?_ fun _ => .pure fun _ hw => hw
      rw [openResponse_eq]
      exact h.connect_meets k url (headers.getD [])
        (fun c => obtaining c url >>= fun a => leasing c a) fun _ _ _ hc => hc.leasing_once k url

end Opener.AsksOnce

end ServiceClient
