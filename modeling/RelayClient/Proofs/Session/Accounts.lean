import RelayClient.Proofs.Recovery.Watched
import RelayClient.Proofs.Session.Readiness
import RelayClient.Proofs.Session.TakeDown

/-!
# Accounts of a session

Whatever is asked of a session, in any order and with stops under way, it accounts for
its attempts: what it holds belongs to the current one, what it closed belongs to
earlier ones, and nothing was closed twice.
-/

namespace RelayClient

namespace SessionCore

variable {before after : SessionCore} {transport : Nat} {answered : InitStep → Prop} {opened : Prop}

/-- What a transport reports makes no other transport. -/
theorem Moves.transports (moves : Moves transport answered opened before after) :
    after.transports = before.transports := by
  induction moves with
  | refl => rfl
  | step _ move ih =>
      rw [← ih]
      cases move <;> rfl

end SessionCore

namespace Session

/-- A session that was not used yet. -/
structure IsUnused (session : Session) : Prop extends session.IsFresh where
  status : session.status = { clocked := session.status.clocked }
  table : session.messenger.table = {}
  replies : session.messenger.replies = []
  closings : session.closings = []

/-- The sessions that there can be. -/
inductive Lives : Session → Prop
  | unused {session : Session} (unused : session.IsUnused) : Lives session
  | init {session : Session} (former : Lives session) (params : InitParams) : Lives (session.init params).1
  | start {session : Session} (former : Lives session) : Lives session.start.1
  /-- A stop, which may still wait for the direct connection to close. -/
  | takeDown {session : Session} (former : Lives session) (options : StopOptions) : Lives (session.takeDown options)
  | report {session : Session} (former : Lives session) (transport : Nat) (events : List TransportEvent) :
      Lives (session.report transport events).1
  | event {session : Session} (former : Lives session) (runs : session.link.pump.isSome = true)
      (event : TransportEvent) : Lives (session.handleEvent event)
  | task {session : Session} (former : Lives session) (task : Task) : Lives (session.runTask task)
  | wake {session : Session} (former : Lives session) : Lives session.wake
  | moveTo {session : Session} (former : Lives session) (time : Nat) : Lives (session.moveTo time)
  /-- The application calls the status. -/
  | respond {session : Session} (former : Lives session) (call : StatusCall) :
      Lives (session.applyStatus (session.status.respond call))
  /-- The application sends, polls or leaves requests. -/
  | exchange {session : Session} (former : Lives session) {events : List ExchangeEvent} {later : Nat}
      {messenger : Messenger Channel} (step : Messenger.Step session.now session.messenger events later messenger) :
      Lives { session with messenger }
  /-- Whatever else is done leaves the core, the status and the messenger alone, and closes nothing. -/
  | other {session after : Session} (former : Lives session) (core : after.core = session.core)
      (status : after.status = session.status) (messenger : after.messenger = session.messenger)
      (closings : after.closings = session.closings) : Lives after

structure IsAccounted (session : Session) : Prop where
  tracks : ∃ history, session.core.Tracks history
  sound : session.messenger.Sound
  still : session.status.IsStill
  coherent : session.link.IsCoherent
  current : ∀ transport, session.link.transport = some transport → transport < session.transports
  /-- What was closed belongs to an earlier attempt. -/
  former : ∀ closing ∈ session.closings,
    closing.transport < session.transports ∧ session.link.transport ≠ some closing.transport
  once : session.closings.Nodup

variable {session after : Session}

theorem transports_init {params : InitParams} (succeeded : (session.init params).2 = .ok ()) :
    (session.init params).1.transports = session.transports + 1 := by
  have core := (core_pairFor (session.resetStatus false) params).trans (core_resetStatus session false)
  unfold init at succeeded ⊢
  generalize (session.resetStatus false).pairFor params = result at core succeeded ⊢
  obtain ⟨prepared, pair⟩ := result
  have created (initiation : Initiation) : (prepared.note (.create initiation)).transports = session.transports := by
    have counted := congrArg SessionCore.transports (prepared.core_note_eq (.create initiation))
    exact counted.trans (congrArg SessionCore.transports core)
  unfold ask at succeeded ⊢
  dsimp only at succeeded ⊢
  cases refused : prepared.surroundings.failure? .create with
  | some failure =>
      rw [refused] at succeeded
      cases succeeded
  | none => exact congrArg (· + 1) (created _)

theorem IsUnused.isAccounted (unused : session.IsUnused) : session.IsAccounted := by
  obtain ⟨fresh, status, table, replies, closings⟩ := unused
  constructor
  case tracks => exact ⟨[], fresh.tracks⟩
  case sound => exact (Messenger.sound_start session.messenger.limit session.messenger.draw).congr table replies
  case still =>
    rw [status]
    exact fun _ => rfl
  case coherent =>
    rw [fresh.link]
    exact ⟨nofun, nofun⟩
  case current =>
    rw [fresh.link]
    exact nofun
  case former =>
    rw [closings]
    exact nofun
  case once =>
    rw [closings]
    exact .nil

section Accounted

variable (accounted : session.IsAccounted)
include accounted

/-- What stays within the attempt and closes nothing. -/
theorem isAccounted_of_attempt (tracks : ∃ history, after.core.Tracks history) (upholds : Upholds session after)
    (transport : after.link.transport = session.link.transport) (transports : after.transports = session.transports)
    (coherent : after.link.IsCoherent) : after.IsAccounted := by
  constructor
  case tracks => exact tracks
  case sound => exact upholds.sound accounted.sound
  case still => exact upholds.still accounted.still
  case coherent => exact coherent
  case current =>
    rw [transport, transports]
    exact accounted.current
  case former =>
    rw [upholds.closings, transport, transports]
    exact accounted.former
  case once =>
    rw [upholds.closings]
    exact accounted.once

theorem isAccounted_of_core (core : after.core = session.core) (upholds : Upholds session after) :
    after.IsAccounted := by
  have link : after.link = session.link := congrArg SessionCore.link core
  refine isAccounted_of_attempt accounted ?_ upholds (congrArg Link.transport link)
    (congrArg SessionCore.transports core) ?_
  · rw [core]
    exact accounted.tracks
  · rw [link]
    exact accounted.coherent

theorem isAccounted_note {effect : Effect} (quiet : effect.isLaunch = false) (closes : effect.closing? = none) :
    (session.note effect).IsAccounted :=
  isAccounted_of_core accounted (core_note _ quiet) (upholds_note _ closes)

/-- A set-up begins an attempt on a transport that was never used, or leaves the former one. -/
theorem isAccounted_init (params : InitParams) : (session.init params).1.IsAccounted := by
  have upholds := session.upholds_init params
  rcases session.init_cases params with ⟨succeeded, setsUp⟩ | ⟨-, launches, same⟩
  · obtain ⟨history, tracks⟩ := accounted.tracks
    have linked : (session.init params).1.link.transport = some session.transports := setsUp.linked
    have detached : (session.init params).1.link.channel = none := setsUp.channel
    have alone : (session.init params).1.link.peer = none := setsUp.peer
    constructor
    case tracks => exact ⟨_, tracks_setsUp tracks setsUp⟩
    case sound => exact upholds.sound accounted.sound
    case still => exact upholds.still accounted.still
    case coherent =>
      constructor
      · rw [detached]
        exact nofun
      · rw [alone]
        exact nofun
    case current =>
      rw [linked, transports_init succeeded]
      rintro _ ⟨⟩
      exact Nat.lt_succ_self _
    case former =>
      rw [upholds.closings, linked, transports_init succeeded]
      intro closing mem
      have before := (accounted.former closing mem).1
      refine ⟨Nat.lt_succ_of_lt before, fun same => ?_⟩
      rw [Option.some_inj] at same
      omega
    case once =>
      rw [upholds.closings]
      exact accounted.once
  · have link : (session.init params).1.link = session.link := congrArg SessionCore.link same
    have transports : (session.init params).1.transports = session.transports := congrArg SessionCore.transports same
    refine isAccounted_of_attempt accounted ?_ upholds (congrArg Link.transport link) transports ?_
    · obtain ⟨history, tracks⟩ := accounted.tracks
      rw [same]
      exact ⟨history, tracks.of_sameAttempt tracks.waits ⟨rfl, rfl, rfl, rfl, rfl⟩⟩
    · rw [link]
      exact accounted.coherent

theorem isAccounted_start : session.start.1.IsAccounted := by
  obtain ⟨history, tracks⟩ := accounted.tracks
  obtain ⟨-, starts⟩ : SessionCore.Proceeds False (session.core.settle (.error .stopped)) session.start.1.core ∧
      SessionCore.SameAttempt session.core session.start.1.core :=
    proceeds_start tracks.waits
  have transport : session.start.1.link.transport = session.link.transport := starts.transport
  have channel : session.start.1.link.channel = session.link.channel := starts.channel
  have peer : session.start.1.link.peer = session.link.peer := starts.peer
  refine isAccounted_of_attempt accounted ⟨_, (Step.tracks tracks (.start session)).1⟩ session.upholds_start transport
    session.transports_start ⟨?_, ?_⟩
  · rw [transport, channel]
    exact accounted.coherent.channel
  · rw [transport, peer]
    exact accounted.coherent.peer

/-- A stop closes what belongs to the current attempt, and leaves no attempt. -/
theorem isAccounted_takeDown (options : StopOptions) : (session.takeDown options).IsAccounted := by
  obtain ⟨history, tracks⟩ := accounted.tracks
  obtain ⟨ready, down⟩ := session.takeDown_frame options
  have transports : (session.takeDown options).transports = session.transports := by rw [down]
  have link : (session.takeDown options).link = session.link.takenDown := by rw [down]
  have ended {closing : Closing}
      (mem : closing ∈ session.link.endings (options.byUs ∧ session.status.task = .connected)) :
      session.link.transport = some closing.transport :=
    accounted.coherent.transport_of_mem mem
  constructor
  case tracks => exact ⟨_, (Step.tracks tracks (.takeDown session options)).1⟩
  case sound =>
    have detached : session.messenger.detach.Sound := accounted.sound.congr rfl rfl
    rw [down]
    exact detached.clear
  case still =>
    rw [down]
    exact accounted.still.respond (.reset true session.now)
  case coherent =>
    rw [link]
    exact ⟨nofun, nofun⟩
  case current =>
    rw [link]
    exact nofun
  case former =>
    rw [closings_takeDown, transports, link]
    intro closing mem
    refine ⟨?_, nofun⟩
    rcases List.mem_append.mp mem with earlier | mem
    · exact (accounted.former closing earlier).1
    · exact accounted.current _ (ended mem)
  case once =>
    rw [closings_takeDown]
    refine List.nodup_append.mpr ⟨accounted.once, accounted.coherent.nodup_endings _, ?_⟩
    rintro closing earlier _ mem rfl
    exact (accounted.former closing earlier).2 (ended mem)

theorem isAccounted_stop (options : StopOptions) : (session.stop options).IsAccounted := by
  have down := isAccounted_takeDown accounted options
  unfold stop
  dsimp only
  split
  · exact isAccounted_note down rfl rfl
  · exact down

theorem isAccounted_giveUp (keys : Option ResumeKeys) : (session.giveUp keys).IsAccounted :=
  isAccounted_note (isAccounted_stop accounted .givingUp) rfl rfl

theorem isAccounted_runStopForPeer (reason : DisconnectReason) (tell : Bool) :
    (session.runStopForPeer reason tell).IsAccounted := by
  have stopped := isAccounted_stop accounted (.fromPeer reason)
  unfold runStopForPeer
  dsimp only
  split
  · exact isAccounted_note stopped rfl rfl
  · exact stopped

/-- A change of recovery, and of what is ready. -/
theorem isAccounted_recovery (recovery : Option Recovery) (ready : List Task) :
    { session with recovery, ready }.IsAccounted :=
  isAccounted_of_core accounted rfl ⟨rfl, id, id⟩

theorem isAccounted_failAttempt (attempt : Nat) : (session.failAttempt attempt).IsAccounted := by
  rcases session.failAttempt_cases attempt with same | ⟨recovery, -, -, fails⟩
  · rw [same]
    exact accounted
  · rw [fails]
    exact isAccounted_giveUp (isAccounted_recovery accounted _ _) _

theorem isAccounted_runExpire (attempt : Nat) : (session.runExpire attempt).IsAccounted := by
  rcases session.runExpire_cases attempt with same | ⟨recovery, -, -, ⟨-, -, begins⟩ | ⟨-, gaveUp⟩ | same⟩
  · rw [same]
    exact accounted
  · rw [begins]
    exact isAccounted_of_core accounted (core_beginRecovery _ _ _ _) (upholds_beginRecovery _ _ _ _)
  · rw [gaveUp]
    exact isAccounted_giveUp (isAccounted_recovery accounted _ _) _
  · rw [same]
    exact isAccounted_recovery accounted _ _

theorem isAccounted_runRestart (attempt : Nat) : (session.runRestart attempt).IsAccounted := by
  rcases session.runRestart_cases attempt with same | ⟨restart, -, -, restarting⟩
  · rw [same]
    exact accounted
  · generalize session.runRestart attempt = after at restarting
    induction restarting with
    | refl => exact accounted
    | stop former ih => exact isAccounted_stop ih .soft
    | init former due ih => exact isAccounted_init ih restart.params
    | start former ih => exact isAccounted_start ih
    | stage former stage onward ih => exact isAccounted_recovery ih _ _
    | fail former ih => exact isAccounted_failAttempt ih restart.attempt

/-- What the pump is to handle is no part of the accounts. -/
theorem isAccounted_queue {pump : Pump} (runs : session.link.pump = some pump) (events : List TransportEvent) :
    { session with link := { session.link with pump := some ⟨pump.transport, events⟩ } }.IsAccounted := by
  obtain ⟨history, tracks⟩ := accounted.tracks
  exact isAccounted_of_attempt accounted ⟨_, (Step.tracks tracks (.queue session runs events)).1⟩ ⟨rfl, id, id⟩ rfl rfl
    ⟨accounted.coherent.channel, accounted.coherent.peer⟩

theorem isAccounted_report (transport : Nat) (events : List TransportEvent) :
    (session.report transport events).1.IsAccounted := by
  unfold report
  split
  · next pump runs =>
      split
      · next same =>
          rw [← same]
          exact isAccounted_recovery (isAccounted_queue accounted runs _) _ _
      · exact accounted
  · exact accounted

/-- An event fills the link with what belongs to the attempt. -/
theorem isAccounted_handleEvent {pump : Pump} (runs : session.link.pump = some pump) (event : TransportEvent) :
    (session.handleEvent event).IsAccounted ∧ (session.handleEvent event).link.pump = some pump := by
  obtain ⟨history, tracks⟩ := accounted.tracks
  obtain ⟨since, -, sound⟩ := tracks.attempt pump.transport (tracks.pump pump runs)
  have moves := moves_event sound event
  have within := moves.isSound (sound.append _)
  have linked : (session.handleEvent event).link.transport = some pump.transport := within.linked
  refine ⟨isAccounted_of_attempt accounted ⟨_, (Step.tracks tracks (.event session runs event)).1⟩
    (session.upholds_handleEvent event) (linked.trans (tracks.pump pump runs).symm) moves.transports ⟨?_, ?_⟩,
    moves.pump.trans runs⟩
  · intro channel held
    rw [within.channel channel held]
    exact linked
  · intro peer held
    rw [within.peer peer held]
    exact linked

theorem isAccounted_foldl {pump : Pump} (runs : session.link.pump = some pump) (events : List TransportEvent) :
    (events.foldl handleEvent session).IsAccounted := by
  induction events generalizing session with
  | nil => exact accounted
  | cons event rest ih =>
      obtain ⟨handled, stillRuns⟩ := isAccounted_handleEvent accounted runs event
      exact ih handled stillRuns

theorem isAccounted_runPump (transport : Nat) : (session.runPump transport).IsAccounted := by
  unfold runPump
  split
  · next pump runs =>
      split
      · next same =>
          rw [← same]
          exact isAccounted_foldl (isAccounted_queue accounted runs []) rfl _
      · exact accounted
  · exact accounted

theorem isAccounted_runTask (task : Task) : (session.runTask task).IsAccounted := by
  cases task with
  | pump transport => exact isAccounted_runPump accounted transport
  | push publicKey => exact isAccounted_of_core accounted (core_runPush _ _) (upholds_runPush _ _)
  | stopForPeer reason tell => exact isAccounted_runStopForPeer accounted reason tell
  | expire attempt => exact isAccounted_runExpire accounted attempt
  | restart attempt => exact isAccounted_runRestart accounted attempt

end Accounted

theorem Lives.isAccounted (lives : Lives session) : session.IsAccounted := by
  induction lives with
  | unused unused => exact unused.isAccounted
  | init former params ih => exact isAccounted_init ih params
  | start former ih => exact isAccounted_start ih
  | takeDown former options ih => exact isAccounted_takeDown ih options
  | report former transport events ih => exact isAccounted_report ih transport events
  | event former runs event ih =>
      obtain ⟨pump, runs⟩ := Option.isSome_iff_exists.mp runs
      exact (isAccounted_handleEvent ih runs event).1
  | task former task ih => exact isAccounted_runTask ih task
  | wake former ih => exact isAccounted_of_core ih (core_wake _) (upholds_wake _)
  | moveTo former time ih => exact isAccounted_of_core ih rfl (upholds_moveTo _ time)
  | respond former call ih => exact isAccounted_of_core ih (core_applyStatus _ _) (upholds_respond _ call)
  | exchange former step ih => exact isAccounted_of_core ih rfl ⟨rfl, step.sound, id⟩
  | other former core status messenger closings ih =>
      refine isAccounted_of_core ih core ⟨closings, ?_, ?_⟩
      · rw [messenger]
        exact id
      · rw [status]
        exact id

end Session

end RelayClient
