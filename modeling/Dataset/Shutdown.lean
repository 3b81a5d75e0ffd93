import Dataset.Store.Basic

/-!
# Shutting down

A signal tells the tasks of the program to end. It is a value with a version, which every sending
raises; a receiver remembers the version that it saw last, and a copy of a receiver remembers the
same. A task waits in one of two ways: for the value, or for a version that its receiver has not
seen.

`shutdown` sends the signal, waits for all tasks that are registered, and closes the store.
-/

namespace Dataset

/-- The signal. -/
structure Signal where
  value : Bool
  version : Nat
  deriving DecidableEq, Repr

/-- A receiver, with the version that it saw last. -/
structure Receiver where
  seen : Nat
  deriving DecidableEq, Repr

/-- A task that runs until it is told to end. -/
inductive Task where
  /-- Waits for the value of the signal. -/
  | waiter
  /-- Waits for a change of the signal, and moves the log of the database in between. -/
  | checkpointer (receiver : Receiver)
  deriving DecidableEq, Repr

namespace Task

/-- What is left of a task that has looked at the signal; nothing if it has ended. One that finds a
    change remembers its version. -/
def turn (s : Signal) : Task → Option Task
  | waiter => if s.value then none else some waiter
  | checkpointer r =>
    if r.seen = s.version then some (checkpointer r)
    else if s.value then none
    else some (checkpointer ⟨s.version⟩)

/-- The task ends under a signal. -/
def ends (s : Signal) (t : Task) : Bool := (t.turn s).isNone

/-- The task is one that is counted when it ends. -/
def isCounted : Task → Bool
  | waiter => true
  | checkpointer _ => false

end Task

/-- The state of the program as far as its end is concerned. -/
structure Shutdown where
  signal : Signal
  /-- The receiver that all others are copies of. -/
  receiver : Receiver
  /-- Receivers that were handed out. -/
  subscribers : List Receiver
  /-- Tasks that are waited for. -/
  tasks : List Task
  /-- How many counted tasks have ended. -/
  finished : Nat
  store : Store
  deriving DecidableEq, Repr

namespace Shutdown

/-- A program that runs on a store. -/
def start (s : Store) : Shutdown := ⟨⟨false, 0⟩, ⟨0⟩, [], [], 0, s⟩

/-- The signal has been sent. -/
def isTriggered (s : Shutdown) : Bool := s.signal.value

/-- The pool of the store is closed. -/
def isClosed (s : Shutdown) : Bool := !s.store.isOpen

/-- What a receiver reads. -/
def read (s : Shutdown) (_ : Receiver) : Bool := s.signal.value

/-- Registers a task. -/
def register (s : Shutdown) (t : Task) : Shutdown := { s with tasks := s.tasks ++ [t] }

/-- A task that moves the log of the database. -/
def checkpointTask (s : Shutdown) : Task := .checkpointer s.receiver

/-- Hands out a receiver. -/
def subscribe (s : Shutdown) : Shutdown := { s with subscribers := s.subscribers ++ [s.receiver] }

/-- Sends the signal. -/
def trigger (s : Shutdown) : Shutdown := { s with signal := ⟨true, s.signal.version + 1⟩ }

/-- Waits for the registered tasks, which are then forgotten. -/
def join (s : Shutdown) : Shutdown :=
  { s with
    tasks := []
    finished := s.finished + (s.tasks.filter fun t => t.isCounted && t.ends s.signal).length }

/-- Sends the signal, waits for the tasks, and closes the store. -/
def shutdown (s : Shutdown) : Shutdown :=
  let s := s.trigger.join
  { s with store := s.store.close }

/-- What can happen to a running program. -/
inductive Step where
  | register
  | registerCheckpoint
  | subscribe
  | trigger
  | shutdown
  deriving DecidableEq, Repr

/-- What a step makes of the program. -/
def step (s : Shutdown) : Step → Shutdown
  | .register => s.register .waiter
  | .registerCheckpoint => s.register s.checkpointTask
  | .subscribe => s.subscribe
  | .trigger => s.trigger
  | .shutdown => s.shutdown

/-- What steps make of the program, one after another. -/
def run (s : Shutdown) (steps : List Step) : Shutdown := steps.foldl step s

end Shutdown

end Dataset
