import HingeField.Shell.Host.Machine

/-!
What processes do. A course goes from a state of its own and the machine to a
result, and may wait on the way, while other processes go on. A task is what is
left of a course: it has ended, or waits for something, or starts a process.
-/

namespace HingeField.Shell

/-- What a process may wait for. -/
inductive Event where
  | never
  | readable (pipe : Nat)
  | writable (pipe size : Nat)
  | opened (pipe : Nat) (forReading : Bool)
  | ended (processes : List Nat)

/-- How long a process waits: for something to happen, or up to a time, or for a signal. -/
structure Wait where
  event : Event
  until? : Option Nat := none
  isInterruptible : Bool := false

/-- Why a process goes on. -/
inductive Waking where
  | happened
  | late
  | interrupted
deriving DecidableEq

inductive Task where
  | ended (machine : Machine)
  | waiting (machine : Machine) (wait : Wait) (next : Waking → Machine → Task)
  | forked (machine : Machine) (child : Nat) (body next : Machine → Task)

/-- A course with failures, states and results of certain types. -/
def Course (ε σ α : Type) : Type :=
  σ → Machine → (Except ε α → σ → Machine → Task) → Task

namespace Course

variable {ε σ α β : Type}

@[always_inline, inline]
protected def pure (value : α) : Course ε σ α :=
  fun state machine next => next (.ok value) state machine

@[always_inline, inline]
protected def bind (first : Course ε σ α) (second : α → Course ε σ β) : Course ε σ β :=
  fun state machine next =>
    first state machine fun outcome state machine =>
      match outcome with
      | .ok value => second value state machine next
      | .error stop => next (.error stop) state machine

instance : Monad (Course ε σ) where
  pure := Course.pure
  bind := Course.bind

@[always_inline, inline]
protected def throw (stop : ε) : Course ε σ α :=
  fun state machine next => next (.error stop) state machine

@[always_inline, inline]
protected def tryCatch (first : Course ε σ α) (second : ε → Course ε σ α) : Course ε σ α :=
  fun state machine next =>
    first state machine fun outcome state machine =>
      match outcome with
      | .ok value => next (.ok value) state machine
      | .error stop => second stop state machine next

instance : MonadExceptOf ε (Course ε σ) where
  throw := Course.throw
  tryCatch := Course.tryCatch

instance : MonadStateOf σ (Course ε σ) where
  get := fun state machine next => next (.ok state) state machine
  set state := fun _ machine next => next (.ok ⟨⟩) state machine
  modifyGet change := fun state machine next =>
    let (value, state) := change state
    next (.ok value) state machine

/-- How a course ends, with the reason if it stops. -/
def outcome (course : Course ε σ α) : Course ε σ (Except ε α) :=
  fun state machine next => course state machine fun outcome => next (.ok outcome)

/-- Takes a course and then restores a part of the state before it, even if it stops. -/
def restoring (restore : σ → σ → σ) (course : Course ε σ α) : Course ε σ α :=
  fun before machine next =>
    course before machine fun outcome after => next outcome (restore before after)

/-- Takes a course in a state of its own. -/
def within {δ τ : Type} (state : τ) (course : Course δ τ α) : Course ε σ (Except δ α × τ) :=
  fun outer machine next =>
    course state machine fun outcome inner => next (.ok (outcome, inner)) outer

/-! ### The machine -/

/-- Asks the machine something. -/
def ask (question : Machine → α) : Course ε σ α :=
  fun state machine next =>
    let answer := question machine
    next (.ok answer) state machine

def onMachine (change : Machine → Machine) : Course ε σ Unit :=
  fun state machine next => next (.ok ()) state (change machine)

/-- Changes the machine and takes a value from it. -/
def fromMachine (change : Machine → α × Machine) : Course ε σ α :=
  fun state machine next =>
    let (value, machine) := change machine
    next (.ok value) state machine

def await (wait : Wait) : Course ε σ Waking :=
  fun state machine next =>
    .waiting machine wait fun waking machine => next (.ok waking) state machine

/-- Lets others go on whose time has come. -/
def pause : Course ε σ Unit :=
  fun state machine next =>
    let wait : Wait := { event := .never, until? := some machine.now }
    .waiting machine wait fun _ machine => next (.ok ()) state machine

/-- How much time a process may take before others go on. -/
def patience : Nat := 30

/-- Takes time. -/
def spend (duration : Nat) : Course ε σ Unit :=
  fun state machine next =>
    let machine := machine.spend duration
    if machine.spent < patience then next (.ok ()) state machine
    else pause state machine next

/-- Starts a process that is a copy of the current one but for an arrangement, for a course in a
state; returns its number. The course ends the process. -/
def forkAs {δ τ : Type} (arrange : Process → Process) (state : τ) (course : Course δ τ Ending)
    (failed : δ → Ending) : Course ε σ Nat :=
  fun outer machine next =>
    let (child, machine) := machine.spawn
    let machine := machine.modifyProcess child arrange
    let body := fun machine : Machine =>
      course state machine fun outcome _ machine =>
        let ending :=
          match outcome with
          | .ok ending => ending
          | .error stop => failed stop
        .ended (machine.finish machine.current ending)
    .forked machine child body fun machine => next (.ok child) outer machine

/-- Starts a process that is a copy of the current one. -/
def fork {δ τ : Type} (state : τ) (course : Course δ τ Ending) (failed : δ → Ending) :
    Course ε σ Nat :=
  forkAs id state course failed

end Course

end HingeField.Shell
