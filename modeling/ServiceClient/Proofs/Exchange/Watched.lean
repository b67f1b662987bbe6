/-
**Connections that are watched.**

To say what an exchange does with its connections, a state is put beside a record: how many
connections were opened, and every operation on one of them or on a stream of it, with the failure
that was in flight and with what came of it.  Connections are told apart by the number that they got
when they were opened.  Watching changes nothing: an exchange over watched connections ends as it
does without the record.

Main definitions:

* `ServiceClient.Operation`, `ServiceClient.Reply`, `ServiceClient.Event`: what is recorded;
* `ServiceClient.Watched`: a state with its record;
* `ServiceClient.Connection.watched`, `ServiceClient.Opener.watched`: connections and openers that
  keep the record.

Main results:

* `ServiceClient.Connection.watched_alike`, `ServiceClient.Opener.watched_alike`: **watching changes
  nothing**.
-/

import ServiceClient.Proofs.Exchange.Alike

set_option autoImplicit false

namespace ServiceClient

/-! ### The record -/

inductive Operation
  | enableOutput | setMethod | output | attachWriter | write | written | closeOutput
  | status | input | errorInput | attachReader | read | readAll | closeInput
  | disconnect
  deriving DecidableEq, Repr

def Operation.transmits : Operation → Bool
  | .output | .attachWriter | .write | .closeOutput => true
  | _ => false

/-- What an operation gave. -/
inductive Reply
  | done
  | status (status : Int)
  /-- There is a stream, or there is none. -/
  | stream (present : Bool)
  | bytes (data : Bytes)
  deriving DecidableEq, Repr

/-- An operation on a connection. -/
structure Event where
  /-- The number of the connection. -/
  connection : Nat
  operation : Operation
  /-- The failure that was in flight. -/
  inFlight : Option Failure
  outcome : Except Failure Reply

namespace Event

def failure? (e : Event) : Option Failure :=
  match e.outcome with
  | .ok _ => none
  | .error f => some f

def disconnects (n : Nat) (e : Event) : Bool :=
  e.connection == n && e.operation == .disconnect

end Event

/-- A state with the record of what was done. -/
structure Watched (σ : Type) where
  state : σ
  /-- The number of connections that were opened. -/
  opened : Nat := 0
  events : List Event := []

variable {σ α : Type}

/-! ### Watching -/

/-- Records an action on a connection as an operation. -/
def watching (n : Nat) (operation : Operation) (shown : α → Reply) (m : Action σ α) :
    Action (Watched σ) α :=
  fun g w =>
    ((m g w.state).1,
      { w with
        state := (m g w.state).2
        events := w.events ++ [⟨n, operation, g, (m g w.state).1.map shown⟩] })

/-- Records a change of the state as an operation. -/
def Watched.noting (n : Nat) (operation : Operation) (f : σ → σ) (w : Watched σ) : Watched σ :=
  { w with state := f w.state, events := w.events ++ [⟨n, operation, none, .ok .done⟩] }

/-- Changes the state behind the record. -/
def Watched.behind (f : σ → σ) (w : Watched σ) : Watched σ :=
  { w with state := f w.state }

def Sink.watched (n : Nat) (a : Sink σ) : Sink (Watched σ) where
  name := a.name
  attach := watching n .attachWriter (fun _ => .done) a.attach
  write data := watching n .write (fun _ => .done) (a.write data)
  close := watching n .closeOutput (fun _ => .done) a.close
  written := watching n .written .bytes a.written

def Source.watched (n : Nat) (a : Source σ) : Source (Watched σ) where
  name := a.name
  attach := watching n .attachReader (fun _ => .done) a.attach
  read k := watching n .read .bytes (a.read k)
  readInto k := watching n .read .bytes (a.readInto k)
  readAll := watching n .readAll .bytes a.readAll
  readLine := watching n .read .bytes a.readLine
  close := watching n .closeInput (fun _ => .done) a.close
  isClosed w := a.isClosed w.state
  extent w := a.extent w.state

/-- The connection with a number; its operations are recorded. -/
def Connection.watched (n : Nat) (c : Connection σ) : Connection (Watched σ) where
  url := c.url
  enableOutput := Watched.noting n .enableOutput c.enableOutput
  setMethod method := Watched.noting n .setMethod (c.setMethod method)
  output := do pure ((← watching n .output (fun _ => .done) c.output).watched n)
  status := watching n .status .status c.status
  input := do pure ((← watching n .input (.stream ·.isSome) c.input).map (·.watched n))
  errorInput := do
    pure ((← watching n .errorInput (.stream ·.isSome) c.errorInput).map (·.watched n))
  disconnect := watching n .disconnect (fun _ => .done) c.disconnect
  log event := Watched.behind (c.log event)

/-- An opener that numbers its connections and records their operations. -/
def Opener.watched (o : Opener σ) : Opener (Watched σ) where
  connect url headers := fun g w =>
    match o.connect url headers g w.state with
    | (.ok c, s) => (.ok (c.watched w.opened), { w with state := s, opened := w.opened + 1 })
    | (.error f, s) => (.error f, { w with state := s })
  log event := Watched.behind (o.log event)

/-! ### Watching changes nothing -/

theorem watching_alike (n : Nat) (operation : Operation) (shown : α → Reply) (m : Action σ α) :
    Action.Alike (fun w s => w.state = s) Eq (watching n operation shown m) m := by
  rintro g w _ rfl
  simp only [watching]
  generalize m g w.state = x
  obtain ⟨f | a, s⟩ := x
  · exact .error rfl
  · exact .ok rfl rfl

theorem Sink.watched_alike (n : Nat) (a : Sink σ) :
    (a.watched n).Alike (fun w s => w.state = s) a where
  name := rfl
  attach := watching_alike _ _ _ _
  write _ := watching_alike _ _ _ _
  close := watching_alike _ _ _ _

theorem Source.watched_alike (n : Nat) (a : Source σ) :
    (a.watched n).Alike (fun w s => w.state = s) a where
  attach := watching_alike _ _ _ _
  readAll := watching_alike _ _ _ _
  close := watching_alike _ _ _ _

theorem Connection.watched_alike (n : Nat) (c : Connection σ) :
    (c.watched n).Alike (fun w s => w.state = s) c := by
  have hsource (a : Option (Source σ)) :
      Option.Rel (Source.Alike fun (w : Watched σ) s => w.state = s) (a.map (·.watched n)) a := by
    cases a with
    | none => exact .none
    | some a => exact .some (a.watched_alike n)
  exact
    { url := rfl
      status := watching_alike _ _ _ _
      input := (watching_alike _ _ _ _).handing hsource
      errorInput := (watching_alike _ _ _ _).handing hsource
      disconnect := watching_alike _ _ _ _
      log := fun _ _ _ h => congrArg _ h
      enableOutput := fun _ _ h => congrArg _ h
      setMethod := fun _ _ _ h => congrArg _ h
      output := (watching_alike _ _ _ _).handing fun a => a.watched_alike n }

/-- **Watching changes nothing.** -/
theorem Opener.watched_alike (o : Opener σ) : o.watched.Alike (fun w s => w.state = s) o where
  connect url headers := by
    rintro g w _ rfl
    simp only [Opener.watched]
    generalize o.connect url headers g w.state = x
    obtain ⟨f | c, s⟩ := x
    · exact .error rfl
    · exact .ok (c.watched_alike _) rfl
  log _ _ _ h := congrArg _ h

end ServiceClient
