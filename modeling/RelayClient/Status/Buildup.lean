/-!
# Buildup of a connection

While a connection is made, the user sees how far it has come. Each state of the
buildup starts at a fixed progress; three of them move on by themselves, one
step a period, until they reach their ceiling.
-/

namespace RelayClient

/-- How far an attempt to connect has come. -/
inductive Buildup where
  | new
  /-- A push was sent to wake the device. -/
  | push
  /-- No push is possible, so the user has to open the app. -/
  | manualStart
  | connecting
  | waiting
  | peerHandshake
  | loading
  | done
  | closed
  deriving DecidableEq, Inhabited

namespace Buildup

/-- All states, in the order they are passed. -/
def all : List Buildup :=
  [.new, .push, .manualStart, .connecting, .waiting, .peerHandshake, .loading, .done, .closed]

def name : Buildup → String
  | .new => "new"
  | .push => "push"
  | .manualStart => "manual_start"
  | .connecting => "connecting"
  | .waiting => "waiting"
  | .peerHandshake => "peer_handshake"
  | .loading => "loading"
  | .done => "done"
  | .closed => "closed"

def ofName? (name : String) : Option Buildup :=
  all.find? fun state => state.name == name

theorem ofName?_name (state : Buildup) : ofName? state.name = some state := by
  cases state <;> decide

/-- The progress a state starts at. -/
def initial : Buildup → Nat
  | .new | .push | .manualStart | .closed => 0
  | .connecting => 13
  | .waiting => 14
  | .peerHandshake => 15
  | .loading => 60
  | .done => 100

/-- The milliseconds between two steps of a state that moves on by itself. -/
def period? : Buildup → Option Nat
  | .push => some 800
  | .peerHandshake | .loading => some 500
  | _ => none

theorem period_pos {state : Buildup} {period : Nat} (found : state.period? = some period) : 0 < period := by
  cases state <;> simp [period?] at found <;> omega

/-- The progress after one step, unless the ceiling of the state is reached. -/
def next? (state : Buildup) (progress : Nat) : Option Nat :=
  match state with
  | .push => if progress < 12 then some (progress + 1) else none
  | .peerHandshake =>
      if progress < 40 then some (progress + 5)
      else if progress < 55 then some (progress + 3)
      else if progress < 60 then some (progress + 1)
      else none
  | .loading =>
      if progress < 80 then some (progress + 5)
      else if progress < 90 then some (progress + 2)
      else if progress < 99 then some (progress + 1)
      else none
  | _ => none

end Buildup

end RelayClient
