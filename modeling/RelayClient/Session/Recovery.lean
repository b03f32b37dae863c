import RelayClient.Session.Basic

/-!
# Recovery

Recovery watches the status of a session. When a connection that was up is lost,
it restarts the session with the same keys: over a direct connection at most
twice, each time under a timer, and over the relay once after a pause. Progress
or a good connection calls the timer off.
-/

namespace RelayClient

namespace Recovery

/-- Calls the timer off. -/
def clearTimer (recovery : Recovery) : Recovery :=
  { recovery with timer := none }

/-- How long the restart of a phase may take. -/
def timeout (recovery : Recovery) : RecoveryPhase → Nat
  | .phaseTwo => recovery.times.phaseTwo
  | _ => recovery.times.phaseOne

/-- A restart with the keys of the last good connection, which keeps replicated data. -/
def params (recovery : Recovery) : InitParams :=
  { pair := recovery.keys.map (·.pair)
    trustedPeer := recovery.keys.bind (·.peer)
    resetFields := false }

/-- Enters a phase with a new attempt, in place of any other. There is a runtime to spawn on; without
one nothing would begin, which is left out here. -/
def begin (recovery : Recovery) (phase : RecoveryPhase) (delay now : Nat) : Recovery :=
  let attempt := recovery.attempts + 1
  { recovery with
    phase
    attempts := attempt
    timer := some ⟨attempt, now + recovery.timeout phase⟩
    restart := some ⟨attempt, recovery.params, delay, .spawned⟩ }

/-- The connection is good. -/
def recovered (recovery : Recovery) (carrier : Option CarrierTask) (keys : Option ResumeKeys) : Recovery :=
  { recovery.clearTimer with phase := .idle, carrier, keys }

/-- The buildup has got somewhere. -/
def progressed (recovery : Recovery) : Recovery :=
  match recovery.phase with
  | .phaseOne | .phaseTwo => { recovery.clearTimer with phase := .idle }
  | .idle | .failed => recovery

end Recovery

namespace Session

/-- Begins a phase of recovery. A timer without any time to run is due at once. -/
def beginRecovery (session : Session) (recovery : Recovery) (phase : RecoveryPhase) (delay : Nat) : Session :=
  let begun := recovery.begin phase delay session.now
  let session := { session with recovery := some begun }
  let session := if recovery.timeout phase = 0 then session.spawn (.expire begun.attempts) else session
  session.spawn (.restart begun.attempts)

/-- Recovery learns that a connection that was up is lost. -/
def loseConnection (session : Session) (recovery : Recovery) (state : GlobalState) : Session :=
  let session := { session with replica := { session.replica with data := session.replica.data.clearTyping } }
  match recovery.phase, recovery.carrier, state with
  | .idle, some .relayed, _ => session.beginRecovery recovery .phaseOne recovery.times.restartDelay
  | .idle, some .direct, .error => session.beginRecovery recovery .phaseOne 0
  | _, _, _ => session

/-- Recovery learns of a change of the status. -/
def reactTo (session : Session) (event : StatusEvent) : Session :=
  match session.recovery, event with
  | some recovery, .global change =>
      if change.current = .ok then
        { session with recovery := some (recovery.recovered session.link.task session.resumeKeys) }
      else if change.wasConnected then session.loseConnection recovery change.current
      else session
  | some recovery, .buildup state =>
      if state = .peerHandshake ∨ state = .loading ∨ state = .done then
        { session with recovery := some recovery.progressed }
      else session
  | _, _ => session

/-- Posts events of the status: observers hear of each first, then recovery. -/
def postStatus (session : Session) (events : List StatusEvent) : Session :=
  events.foldl (fun current event => (current.note (.status event)).reactTo event) session

/-- Takes over an updated status and posts its events. -/
def applyStatus (session : Session) (update : Status × List StatusEvent) : Session :=
  { session with status := update.1 }.postStatus update.2

def setBuildup (session : Session) (state : Buildup) : Session :=
  session.applyStatus (session.status.setBuildup state session.now)

def reportSignaling (session : Session) (state : SignalingState) : Session :=
  session.applyStatus (session.status.reportSignaling state)

def reportTask (session : Session) (state : TaskState) : Session :=
  session.applyStatus (session.status.reportTask state)

/-- Returns to the initial status. -/
def resetStatus (session : Session) (forgetUnread : Bool) : Session :=
  session.applyStatus (session.status.reset forgetUnread session.now)

end Session

end RelayClient
