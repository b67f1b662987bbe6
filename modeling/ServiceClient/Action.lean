/-
**Actions that may fail.**

An action changes a state and either gives a value or fails; the state outlives the failure.  An
action also knows the failure that is *in flight*, if any: it runs while that failure is being
handled, and whatever it raises leads back to it.

Main definitions:

* `ServiceClient.Action`: actions, with their monad;
* `ServiceClient.Action.raise`, `ServiceClient.Action.raiseFrom`, `ServiceClient.Action.rethrow`;
* `ServiceClient.Action.rescue`: handles a failure;
* `ServiceClient.Action.ensure`: cleans up on every path;
* `ServiceClient.Action.strike`: raises a failure that is kept in the state;
* `ServiceClient.Part`, `ServiceClient.Action.within`: an action on a part of a larger state.

Main results:

* `ServiceClient.Action.run_bind`, `ServiceClient.Action.run_rescue_error`, …: one equation for each
  way to build an action.
-/

import ServiceClient.Failure

set_option autoImplicit false

namespace ServiceClient

/-- Given the failure in flight and a state: a value or a failure, and the state after it. -/
def Action (σ α : Type) : Type :=
  Option Failure → σ → Except Failure α × σ

namespace Action

variable {σ τ α β : Type}

/-- The action without effect. -/
protected def pure (a : α) : Action σ α :=
  fun _ s => (.ok a, s)

/-- One action after another; a failure ends both. -/
protected def bind (m : Action σ α) (k : α → Action σ β) : Action σ β :=
  fun inFlight s =>
    match m inFlight s with
    | (.ok a, s) => k a inFlight s
    | (.error f, s) => (.error f, s)

instance : Monad (Action σ) where
  pure := Action.pure
  bind := Action.bind

/-- Runs an action while nothing is in flight. -/
def run (m : Action σ α) (s : σ) : Except Failure α × σ :=
  m none s

/-! ### State -/

/-- The state, or what a function says about it. -/
def gets (f : σ → α) : Action σ α :=
  fun _ s => (.ok (f s), s)

def modify (f : σ → σ) : Action σ Unit :=
  fun _ s => (.ok (), f s)

/-! ### Failing -/

/-- Raises a failure, in front of the one in flight. -/
def raise (f : Failure) : Action σ α :=
  fun inFlight s => (.error (f.raisedDuring inFlight), s)

/-- Raises an error of the client that names its cause. -/
def raiseFrom (e : ClientError) (cause : Failure) : Action σ α :=
  fun _ s => (.error (.of e cause), s)

/-- Lets a failure go on as it is. -/
def rethrow (f : Failure) : Action σ α :=
  fun _ s => (.error f, s)

/-- Raises the failure kept in a slot of the state, if there is one.  The slot keeps the line that
the failure got. -/
def strike (slot : σ → Option Failure) (keep : Failure → σ → σ) : Action σ Unit :=
  fun inFlight s =>
    match slot s with
    | none => (.ok (), s)
    | some f => (.error (f.raisedDuring inFlight), keep (f.raisedDuring inFlight) s)

/-! ### Handling -/

/-- Handles a failure by an action that runs while the failure is in flight. -/
def rescue (m : Action σ α) (handler : Failure → Action σ α) : Action σ α :=
  fun inFlight s =>
    match m inFlight s with
    | (.ok a, s) => (.ok a, s)
    | (.error f, s) => handler f (some f) s

/-- Runs `cleanup` after an action, whatever the action did; a failure of `cleanup` replaces the
one that was in flight. -/
def ensure (m : Action σ α) (cleanup : Action σ Unit) : Action σ α :=
  fun inFlight s =>
    match m inFlight s with
    | (.ok a, s) =>
        match cleanup inFlight s with
        | (.ok _, s) => (.ok a, s)
        | (.error g, s) => (.error g, s)
    | (.error f, s) =>
        match cleanup (some f) s with
        | (.ok _, s) => (.error f, s)
        | (.error g, s) => (.error g, s)

/-! ### Parts of a state -/

end Action

/-- A part of a larger state: how it is read, and how it is replaced. -/
structure Part (τ σ : Type) where
  get : τ → σ
  set : σ → τ → τ

namespace Part

variable {σ τ υ α : Type}

def trans (outer : Part υ τ) (inner : Part τ σ) : Part υ σ where
  get u := inner.get (outer.get u)
  set s u := outer.set (inner.set s (outer.get u)) u

def second : Part (α × σ) σ where
  get := Prod.snd
  set s p := (p.1, s)

def first : Part (σ × α) σ where
  get := Prod.fst
  set s p := (s, p.2)

/-- The item of a list at an index, `fallback` where there is none. -/
def item (index : Nat) (fallback : σ) : Part (List σ) σ where
  get xs := xs.getD index fallback
  set x xs := xs.set index x

end Part

namespace Action

variable {σ τ α β : Type}

def within (part : Part τ σ) (m : Action σ α) : Action τ α :=
  fun inFlight t =>
    let (r, s) := m inFlight (part.get t)
    (r, part.set s t)

/-! ### Equations -/

@[simp] theorem run_pure (a : α) (g : Option Failure) (s : σ) :
    (pure a : Action σ α) g s = (.ok a, s) := rfl

theorem run_bind (m : Action σ α) (k : α → Action σ β) (g : Option Failure) (s : σ) :
    (m >>= k) g s =
      match m g s with
      | (.ok a, s) => k a g s
      | (.error f, s) => (.error f, s) := rfl

theorem run_bind_ok {m : Action σ α} {k : α → Action σ β} {g : Option Failure} {s s' : σ} {a : α}
    (h : m g s = (.ok a, s')) : (m >>= k) g s = k a g s' := by
  rw [run_bind, h]

theorem run_bind_error {m : Action σ α} {k : α → Action σ β} {g : Option Failure} {s s' : σ}
    {f : Failure} (h : m g s = (.error f, s')) : (m >>= k) g s = (.error f, s') := by
  rw [run_bind, h]

/-- What an action gives may be put into another form. -/
theorem run_handing {m : Action σ α} {g : Option Failure} {s s' : σ} {r : Except Failure α}
    (into : α → β) (h : m g s = (r, s')) :
    (do Pure.pure (into (← m)) : Action σ β) g s = (r.map into, s') := by
  cases r with
  | ok a => exact run_bind_ok h
  | error f => exact run_bind_error h

@[simp] theorem run_gets (f : σ → α) (g : Option Failure) (s : σ) :
    gets f g s = (.ok (f s), s) := rfl

@[simp] theorem run_modify (f : σ → σ) (g : Option Failure) (s : σ) :
    modify f g s = (.ok (), f s) := rfl

@[simp] theorem run_raise (f : Failure) (g : Option Failure) (s : σ) :
    (raise f : Action σ α) g s = (.error (f.raisedDuring g), s) := rfl

@[simp] theorem run_raiseFrom (e : ClientError) (f : Failure) (g : Option Failure) (s : σ) :
    (raiseFrom e f : Action σ α) g s = (.error (.of e f), s) := rfl

@[simp] theorem run_rethrow (f : Failure) (g : Option Failure) (s : σ) :
    (rethrow f : Action σ α) g s = (.error f, s) := rfl

theorem run_rescue_ok {m : Action σ α} {handler : Failure → Action σ α} {g : Option Failure}
    {s s' : σ} {a : α} (h : m g s = (.ok a, s')) : m.rescue handler g s = (.ok a, s') := by
  simp [rescue, h]

theorem run_rescue_error {m : Action σ α} {handler : Failure → Action σ α} {g : Option Failure}
    {s s' : σ} {f : Failure} (h : m g s = (.error f, s')) :
    m.rescue handler g s = handler f (some f) s' := by
  simp [rescue, h]

theorem run_ensure_ok {m : Action σ α} {cleanup : Action σ Unit} {g : Option Failure}
    {s s' : σ} {a : α} (h : m g s = (.ok a, s')) :
    m.ensure cleanup g s =
      match cleanup g s' with
      | (.ok _, s) => (.ok a, s)
      | (.error f, s) => (.error f, s) := by
  simp only [ensure, h]

theorem run_ensure_error {m : Action σ α} {cleanup : Action σ Unit} {g : Option Failure}
    {s s' : σ} {f : Failure} (h : m g s = (.error f, s')) :
    m.ensure cleanup g s =
      match cleanup (some f) s' with
      | (.ok _, s) => (.error f, s)
      | (.error f', s) => (.error f', s) := by
  simp only [ensure, h]

end Action

end ServiceClient
