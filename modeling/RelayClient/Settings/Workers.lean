import RelayClient.Powers
import RelayClient.Settings.Usage

/-!
# Workers

A run starts its worker threads before it reads anything else. The environment
may say how many there are. Only the environment that a run is given counts
here: its environment file is read later. A number of workers that cannot be
started breaks the run off.
-/

namespace RelayClient.Settings.Workers

/-- The variable that says how many workers there are. -/
def countVariable : String := "TOKIO_WORKER_THREADS"

/-- The workers stand in a list of eight bytes each, whose length in bytes stays below `2 ^ 63`. -/
def countBound : Nat := 2 ^ 60

/-- Whether a text says how many workers there are: a whole number, not zero, below the bound. -/
def isCount (text : String) : Bool :=
  match unsigned? text with
  | some count => 0 < count && count < countBound
  | none => false

/-- Whether the workers of a run can be started in an environment. One that does
not say how many leaves the number to the machine. -/
def canStart (environment : Dictionary String) : Bool :=
  (environment.get? countVariable).all isCount

end RelayClient.Settings.Workers
