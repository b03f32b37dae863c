import RelayClient.Session.Reports

/-!
# Schedule of tasks

Ready tasks run one after another, in the order they became ready, each until it
ends or has to wait. Time stands still while a task is ready; then it moves to
the next timer that is due.
-/

namespace RelayClient

open Cipher (Key)

namespace Session

/-- Sends the push of a start, and shows it unless the device has appeared. -/
def runPush (session : Session) (publicKey : Key) : Session :=
  let (push, request) := session.push.send publicKey session.now
  let session := { session with push }
  let session := match request with
    | some request => session.note (.push request)
    | none => session
  match session.status.buildup with
  | .new | .connecting | .waiting => session.setBuildup .push
  | _ => session

/-- The session is stopped as the device ended it, and the frontend may be told. Nothing but notes for
the frontend waits for the direct connection to close. -/
def runStopForPeer (session : Session) (reason : DisconnectReason) (tell : Bool) : Session :=
  let session := session.stop (.fromPeer reason)
  if tell then session.note (.peerDisconnected reason) else session

/-- Recovery failed: the session is stopped and the frontend gets the old keys, which is all that waits
for the direct connection to close. -/
def giveUp (session : Session) (keys : Option ResumeKeys) : Session :=
  (session.stop .givingUp).note (.navigate keys)

def failAttempt (session : Session) (attempt : Nat) : Session :=
  match session.recovery with
  | some recovery =>
      if recovery.attempts = attempt ∧ recovery.phase ≠ .failed then
        { session with
          recovery := some { recovery with timer := none, restart := none, phase := .failed } }.giveUp recovery.keys
      else session
  | none => session

/-- The timer of an attempt is due: a direct connection gets a second restart, else recovery failed. -/
def runExpire (session : Session) (attempt : Nat) : Session :=
  match session.recovery with
  | none => session
  | some recovery =>
      if (recovery.timer.map (·.attempt)) = some attempt then
        let recovery := recovery.clearTimer
        match recovery.phase, recovery.carrier with
        | .phaseOne, some .direct => session.beginRecovery recovery .phaseTwo 0
        | .phaseOne, _ | .phaseTwo, _ =>
            { session with
              recovery := some { recovery with restart := none, phase := .failed } }.giveUp recovery.keys
        | .idle, _ | .failed, _ => { session with recovery := some recovery }
      else session

/-- Sets how far the restart of an attempt has come. -/
def setStage (session : Session) (attempt : Nat) (stage : RestartStage) : Session :=
  { session with
    recovery := session.recovery.map fun recovery =>
      { recovery with
        restart := recovery.restart.map fun restart =>
          if restart.attempt = attempt then { restart with stage } else restart } }

/-- A restart learns what its start came to. -/
def finishRestart (session : Session) (attempt : Nat) (result : Except Failure Unit) : Session :=
  match result with
  | .ok _ | .error .stopped => session.setStage attempt .ended
  | .error _ => (session.setStage attempt .ended).failAttempt attempt

/-- A restart sets the session up anew and starts it. -/
def resumeRestart (session : Session) (restart : Restart) : Session :=
  match session.init restart.params with
  | (session, .error _) => (session.setStage restart.attempt .ended).failAttempt restart.attempt
  | (session, .ok _) =>
      let (session, startup) := session.start
      match session.startups[startup]? with
      | some (some result) => session.finishRestart restart.attempt result
      | _ => session.setStage restart.attempt (.starting startup)

/-- How long a restart is held up once the session is taken down: a direct connection may take its
time to close, and the pause comes after that. -/
def holdUp? (session : Session) (restart : Restart) : Option Nat :=
  match session.link.peer, session.surroundings.closing with
  | some _, some closing => some (closing + restart.delay)
  | _, _ => if restart.delay = 0 then none else some restart.delay

/-- A restart goes on until it has to wait. -/
def stepRestart (session : Session) (restart : Restart) : Session :=
  match restart.stage with
  | .spawned =>
      match session.holdUp? restart with
      | none => (session.stop .soft).resumeRestart restart
      | some held => (session.stop .soft).setStage restart.attempt (.paused (session.now + held))
  | .resuming => session.resumeRestart restart
  | .starting startup =>
      match session.startups[startup]? with
      | some (some result) => session.finishRestart restart.attempt result
      | _ => session
  | .paused _ | .ended => session

/-- The restart of an attempt goes on, unless it was called off. -/
def runRestart (session : Session) (attempt : Nat) : Session :=
  match session.recovery.bind (·.restart) with
  | some restart => if restart.attempt = attempt then session.stepRestart restart else session
  | none => session

def runTask (session : Session) : Task → Session
  | .pump transport => session.runPump transport
  | .push publicKey => session.runPush publicKey
  | .stopForPeer reason tell => session.runStopForPeer reason tell
  | .expire attempt => session.runExpire attempt
  | .restart attempt => session.runRestart attempt

/-- Runs ready tasks in order, at most some number of them. -/
def runTasks (session : Session) : Nat → Session
  | 0 => session
  | count + 1 =>
      match session.ready with
      | [] => session
      | task :: rest => ({ session with ready := rest }.runTask task).runTasks count

/-- More tasks than can become ready without a new call: each event leads to a
few, and so does each task. -/
def taskBound (session : Session) : Nat :=
  16 * (session.ready.length + (session.link.pump.map (·.events.length)).getD 0 + 1)

/-- Runs tasks until none is ready. -/
def runReady (session : Session) : Session :=
  session.runTasks session.taskBound

/-- The timer that recovery waits for, and the end of the pause of a restart. -/
def wakeTimes (session : Session) : List (Nat × Task) :=
  match session.recovery with
  | none => []
  | some recovery =>
      (recovery.timer.toList.map fun timer => (timer.due, .expire timer.attempt)) ++
        (match recovery.restart with
          | some ⟨attempt, _, _, .paused due⟩ => [(due, .restart attempt)]
          | _ => [])

/-- The time of the next timer that is due by a time. -/
def nextWake? (session : Session) (limit : Nat) : Option Nat :=
  ((session.wakeTimes.map (·.1)).filter (· ≤ limit)).min?

def moveTo (session : Session) (time : Nat) : Session :=
  { session with now := time, status := session.status.passTo time }

def endPause (session : Session) (task : Task) : Session :=
  match task with
  | .restart attempt => session.setStage attempt .resuming
  | _ => session

/-- Makes the tasks whose timers are due ready. -/
def wake (session : Session) : Session :=
  (session.wakeTimes.filter (·.1 ≤ session.now)).foldl
    (fun current timed => (current.endPause timed.2).spawn timed.2) session

/-- Lets time pass, and stops at most some number of times for timers. -/
def passSteps (session : Session) (limit : Nat) : Nat → Session
  | 0 => session.moveTo limit
  | stops + 1 =>
      match session.nextWake? limit with
      | none => session.moveTo limit
      | some time => ((session.moveTo time).wake.runReady).passSteps limit stops

/-- Timers that can be due in a row: two of recovery, and the pause of a restart. -/
def maxStops : Nat := 8

/-- Lets some milliseconds pass. -/
def pass (session : Session) (duration : Nat) : Session :=
  session.passSteps (session.now + duration) maxStops

/-- Puts recovery to watch over a session, in place of any other. -/
def attachRecovery (session : Session) (times : RecoveryTimes) : Session :=
  { session with recovery := some { times } }

def isRecoveryTask : Task → Bool
  | .expire _ | .restart _ => true
  | _ => false

def detachRecovery (session : Session) : Session :=
  { session with recovery := none, ready := session.ready.filter (!isRecoveryTask ·) }

end Session

end RelayClient
