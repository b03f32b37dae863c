/-!
# Observer lists

Observers are called in the order they subscribed. A notice calls those that
were subscribed when it began: what they subscribe, withdraw or post meanwhile
takes effect on notices that begin later. Ids count up and are never reused.
-/

namespace RelayClient

/-- Subscribed callbacks with their ids, oldest first, and the next id. -/
structure Observers (κ : Type) where
  nextId : Nat := 1
  list : List (Nat × κ) := []
  deriving Inhabited

namespace Observers

variable {κ : Type}

def subscribe (observers : Observers κ) (callback : κ) : Observers κ × Nat :=
  (⟨observers.nextId + 1, observers.list ++ [(observers.nextId, callback)]⟩, observers.nextId)

/-- Withdraws an id and tells whether it was subscribed. -/
def unsubscribe (observers : Observers κ) (id : Nat) : Observers κ × Bool :=
  ({ observers with list := observers.list.filter fun entry => entry.1 != id },
    observers.list.any fun entry => entry.1 == id)

def callbacks (observers : Observers κ) : List κ :=
  observers.list.map (·.2)

end Observers

/-- A call on an observer list whose callbacks are programs of further calls. -/
inductive ObserverCall where
  | subscribe (label : String) (program : List ObserverCall)
  | unsubscribe (id : Nat)
  | notify (value : Int)

/-- A callback given as a program. -/
structure ObserverProgram where
  label : String
  calls : List ObserverCall

/-- An observer list with the calls its observers saw, oldest first. -/
structure ObserverRun where
  observers : Observers ObserverProgram := {}
  log : List (String × Int) := []

/-- What a call gives back. -/
inductive ObserverAnswer where
  | id (id : Nat)
  | withdrawn (found : Bool)
  | done

namespace ObserverRun

/-- Calls one callback: it logs the value and then runs its program. -/
def callback (runProgram : List ObserverCall → ObserverRun → ObserverRun) (value : Int)
    (run : ObserverRun) (program : ObserverProgram) : ObserverRun :=
  runProgram program.calls { run with log := run.log ++ [(program.label, value)] }

/-- Performs one call, with a way to run the programs of the callbacks it calls. -/
def perform (runProgram : List ObserverCall → ObserverRun → ObserverRun) (run : ObserverRun) :
    ObserverCall → ObserverRun × ObserverAnswer
  | .subscribe label program =>
      let added := run.observers.subscribe ⟨label, program⟩
      ({ run with observers := added.1 }, .id added.2)
  | .unsubscribe id =>
      let withdrawn := run.observers.unsubscribe id
      ({ run with observers := withdrawn.1 }, .withdrawn withdrawn.2)
  | .notify value => (run.observers.callbacks.foldl (callback runProgram value) run, .done)

/-- Runs a program. Callbacks run their own programs to a given depth of nesting. -/
def runProgram : (depth : Nat) → List ObserverCall → ObserverRun → ObserverRun
  | 0, _, run => run
  | depth + 1, calls, run => calls.foldl (fun current call => (current.perform (runProgram depth) call).1) run

/-- Performs one call from outside, with callbacks nested to a given depth. -/
def call (depth : Nat) (run : ObserverRun) (call : ObserverCall) : ObserverRun × ObserverAnswer :=
  run.perform (runProgram depth) call

end ObserverRun

end RelayClient
