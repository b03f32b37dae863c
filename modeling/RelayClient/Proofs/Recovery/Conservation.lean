import RelayClient.Proofs.Recovery.Keys

/-!
# What recovery conserves

Over any run in which recovery watches a session, its restarts and its giving up use the
keys of the last good connection, and they touch neither the trusted keys nor the push
token nor replicated data. A restart that was begun before a good connection, and not
called off by it, is the exception: it keeps the keys of the connection before.
-/

namespace RelayClient

namespace Session

/-- What recovery keeps to in a session that it watches over, which was last good at some time. -/
structure Conserves (setUps : Prop) (first : Session) (ok : Option Session) (later : Session) : Prop where
  /-- Whatever tasks are ready, they may run next, and time may pass. -/
  goesOn : later.link.pair.isSome = true →
    IsWatched setUps first later.runReady ∧ ∀ duration, IsWatched setUps first (later.pass duration)
  /-- A restart that is due sets the session up once. -/
  due : ∀ restart, later.recovery.bind (·.restart) = some restart → restart.IsDue later →
    ∃ initiation, (later.runTask (.restart restart.attempt)).creations = later.creations ++ [initiation]
  /-- A restart sets the session up with the keys in use when the connection was last good,
  unless it was begun before and had yet to set the session up then. -/
  restarts : ∀ attempt, ¬ Owes ok attempt → ∃ made,
    (later.runTask (.restart attempt)).creations = later.creations ++ made ∧
      ∀ initiation ∈ made, keysInUse ok = some ⟨initiation.pair, initiation.trustedPeer⟩
  /-- No timer sets the session up by itself. -/
  expiries : ∀ attempt, (later.runTask (.expire attempt)).creations = later.creations
  /-- Restarts and timers leave all belongings alone. Where recovery gives up, and only there, the
  frontend is given the keys in use. -/
  spares : ∀ task, isRecoveryTask task = true → Spares (keysInUse ok) later (later.runTask task)
  /-- So do a push that the start of a restart sends, and recovery that learns of a loss. -/
  pushes : ∀ publicKey, (later.runTask (.push publicKey)).belongings = later.belongings
  reacts : ∀ event, (later.reactTo event).belongings = later.belongings
  /-- The channel of a restart opens without a loss of data, as does any after it, until the
  application sets the session up. -/
  opens : ∀ attempt, (later.runTask (.restart attempt)).transports ≠ later.transports →
    ∀ ok' last, Watched False (later.runTask (.restart attempt)) ok' last →
      last.openChannel.belongings = last.belongings
  /-- As long as only recovery sets the session up, it keeps its key pair. -/
  kept : ¬ setUps → first.link.pair.isSome = true → later.link.pair = first.link.pair
  /-- So it does from a set-up on that the application makes while recovery rests. -/
  settled : later.IsUnarmed → later.IsCalm → ∀ params after, later.init params = (after, .ok ()) →
    ∀ ok' last, Watched False after ok' last → last.link.pair = after.link.pair

variable {ok : Option Session} {first session : Session}

/-- A restart that may go on sets the session up with the keys that recovery retains. -/
theorem Retains.creations (retains : Retains ok session) {attempt : Nat} (owes : ¬ Owes ok attempt) :
    ∃ made, (session.runRestart attempt).creations = session.creations ++ made ∧
      ∀ initiation ∈ made, keysInUse ok = some ⟨initiation.pair, initiation.trustedPeer⟩ := by
  rcases session.runRestart_cases attempt with same | ⟨restart, found, rfl, restarting⟩
  · rw [same]
    exact ⟨[], (List.append_nil _).symm, nofun⟩
  · obtain ⟨made, created, these⟩ := (restarting.resumes found).creations
    refine ⟨made, created, fun initiation mem => ?_⟩
    obtain ⟨due, peer, pair⟩ := these initiation mem
    have params := (retains.begun restart found due).resolve_right owes
    -- recovery that holds a restart has seen a good connection, so there are keys in use
    obtain ⟨recovery, watched, held⟩ := Option.bind_eq_some_iff.mp found
    cases keys : keysInUse ok with
    | none =>
        rw [(retains.idle keys recovery watched).2] at held
        cases held
    | some inUse =>
        rw [keys] at params
        rw [params] at peer pair
        have peer : initiation.trustedPeer = inUse.peer := peer
        rw [peer, pair inUse.pair rfl]

/-- Once a restart has set the session up, nothing forgets replicated data. -/
theorem Retains.isSparing_runRestart (retains : Retains ok session) {attempt : Nat}
    (setUp : (session.runRestart attempt).transports ≠ session.transports) :
    (session.runRestart attempt).IsSparing := by
  rcases session.runRestart_cases attempt with same | ⟨restart, found, -, restarting⟩
  · exact absurd (congrArg Session.transports same) setUp
  · have resumes := restarting.resumes found
    rcases resumes.link with ⟨-, same⟩ | ⟨-, anew⟩
    · exact absurd same setUp
    · refine ⟨anew.resetFields.trans (retains.keeps restart found), ?_⟩
      exact (retains.continues resumes.continues).keeps

theorem conserves_of_watched {times : RecoveryTimes} {setUps : Prop} {later : Session}
    (watched : Watched setUps (session.attachRecovery times) ok later) :
    Conserves setUps (session.attachRecovery times) ok later := by
  have retains := watched.retains (retains_attachRecovery session times)
  constructor
  case goesOn =>
    intro linked
    have here : IsWatched setUps (session.attachRecovery times) later := ⟨linked, ok, watched⟩
    exact ⟨here.runTasks _, fun duration => here.passSteps _ _⟩
  case due => exact fun restart found due => creations_of_isDue found due
  case restarts => exact fun attempt owes => retains.creations owes
  case expiries => exact fun attempt => creations_of_launches (later.launches_runExpire attempt)
  case spares =>
    intro task recovers
    cases task with
    | expire attempt => exact spares_runExpire retains.knows attempt
    | restart attempt =>
        rcases later.runRestart_cases attempt with same | ⟨restart, found, -, restarting⟩
        · rw [runTask, same]
          exact .refl _ later
        · exact (restarting.resumes found).spares _ retains.knows
    | _ => cases recovers
  case pushes => exact fun publicKey => later.belongings_runPush publicKey
  case reacts => exact fun event => later.belongings_reactTo event
  case opens =>
    intro attempt setUp ok' last further
    exact last.belongings_openChannel (further.isSparing (retains.isSparing_runRestart setUp)).link
  case kept =>
    intro never linked
    obtain ⟨pair, held⟩ := Option.isSome_iff_exists.mp linked
    rw [(watched.isLoyal never (isLoyal_attachRecovery held)).linked, held]
  case settled =>
    intro unarmed calm params after succeeded ok' last further
    obtain ⟨pair, held⟩ := Option.isSome_iff_exists.mp (isSetUp_of_init succeeded).linked
    rw [(further.isLoyal id (isLoyal_init unarmed calm succeeded held)).linked, held]

/-- A relayed connection is good. -/
def relayedSession : Session :=
  (startedSession.attachRecovery {}).handleEvent (.taskReady .relayed)

/-- It is lost, and its restart pauses. -/
def pausedSession : Session :=
  (relayedSession.handleEvent (.taskState .disconnected)).runTask (.restart 1)

/-- The pause is over. -/
def wokenSession : Session :=
  (pausedSession.moveTo 500).wake

theorem watched_pausedSession :
    Watched True (startedSession.attachRecovery {}) (some relayedSession) pausedSession := by
  have turns : (startedSession.attachRecovery {}).TurnsGood (.taskReady .relayed) := by
    unfold TurnsGood
    decide +kernel
  have lost : ¬ relayedSession.TurnsGood (.taskState .disconnected) := by
    unfold TurnsGood
    decide +kernel
  have good : Watched True (startedSession.attachRecovery {}) (some relayedSession) relayedSession :=
    Watched.refl.good _ turns rfl
  exact (good.event _ lost).task _ nofun

/-- The restart sets the session up with the pair of the connection that was lost. -/
theorem conserves_wokenSession :
    Conserves True (startedSession.attachRecovery {}) (some relayedSession) wokenSession ∧
      ¬ Owes (some relayedSession) 1 ∧
      (wokenSession.runTask (.restart 1)).creations.map (·.pair) = [⟨default, default⟩, ⟨default, default⟩] := by
  refine ⟨conserves_of_watched ((watched_pausedSession.moveTo 500).wake), ?_, by decide +kernel⟩
  rintro ⟨_, restart, ⟨⟩, found, -⟩
  have none : (relayedSession.recovery.bind (·.restart)).isNone = true := by decide +kernel
  rw [found] at none
  cases none

/-- Another pair of keys. -/
def otherPair : KeyPair :=
  ⟨⟨List.replicate 32 1, rfl⟩, ⟨List.replicate 32 1, rfl⟩⟩

/-- While the restart pauses, the application sets the session up with another pair, and the connection is good. -/
def replacedSession : Session :=
  (pausedSession.init { pair := some otherPair }).1.start.1.handleEvent (.taskReady .relayed)

/-- When the pause is over, the restart all the same sets the session up with the pair before. -/
theorem creations_replacedSession :
    replacedSession.status.global = .ok ∧
      (keysInUse (some replacedSession)).map (·.pair) = some otherPair ∧
      Watched True (startedSession.attachRecovery {}) (some replacedSession) (replacedSession.moveTo 500).wake ∧
      (((replacedSession.moveTo 500).wake).runTask (.restart 1)).creations.map (·.pair) =
        ((replacedSession.moveTo 500).wake).creations.map (·.pair) ++ [⟨default, default⟩] ∧
      otherPair ≠ ⟨default, default⟩ := by
  have turns : (pausedSession.init { pair := some otherPair }).1.start.1.TurnsGood (.taskReady .relayed) := by
    unfold TurnsGood
    decide +kernel
  refine ⟨by decide +kernel, by decide +kernel, ?_, by decide +kernel, by decide +kernel⟩
  have startedAnew := (watched_pausedSession.init trivial { pair := some otherPair }).start
  exact ((startedAnew.good _ turns (by decide +kernel)).moveTo 500).wake

end Session

end RelayClient
