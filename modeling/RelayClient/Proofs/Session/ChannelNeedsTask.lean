import RelayClient.Proofs.Session.BuildupOfEvents
import RelayClient.Proofs.Session.Stopped

/-!
# A channel needs a task

However a session is set up, started, reported to and stopped, it has a channel only
with a task, its buildup comes to the channel only then, and whatever waits for the
initial steps does so for a task that was chosen. A stop and a new attempt begin with
nothing to show.
-/

namespace RelayClient

open Buildup (Rises)

namespace Session

variable {session after : Session}

theorem footing_enterStartup (session : Session) : session.enterStartup.1.footing = session.footing := by
  unfold enterStartup
  cases session.link.startup with
  | none => rfl
  | some former => exact footing_settleStartup _ _ _

/-- A start shows at most that it waits for the device to be woken by hand. -/
theorem footing_start (session : Session) :
    session.start.1.footing = session.footing ∨ session.start.1.footing = session.footing.enter .manualStart := by
  have entered := session.footing_enterStartup
  have connects (transport : Nat) :
      (session.enterStartup.1.note (.connect transport)).footing = session.footing :=
    (footing_note_of_silent _ rfl).trans entered
  have starts := session.startsAs_start
  generalize session.start.1 = after at starts ⊢
  cases starts with
  | unlinked => exact .inl ((footing_settleStartup _ _ _).trans entered)
  | refused transport => exact .inl ((footing_settleStartup _ _ _).trans (connects transport))
  | pushing transport => exact .inl (connects transport)
  | byHand transport =>
      rw [footing_setBuildup, connects transport]
      exact .inr rfl
  | waiting transport => exact .inl (connects transport)

/-- A push shows only on a session that the device has not come to. -/
theorem footing_runPush (session : Session) (publicKey : Cipher.Key) :
    (session.runPush publicKey).footing = session.footing ∨
      (session.runPush publicKey).footing = session.footing.enter .push ∧ Rises session.status.buildup .push := by
  have shows {sent : Session} (same : sent.footing = session.footing) (rises : Rises sent.status.buildup .push) :
      (sent.setBuildup .push).footing = session.footing.enter .push ∧ Rises session.status.buildup .push := by
    have buildup : sent.status.buildup = session.status.buildup :=
      congrArg (fun footing : Footing => footing.display.buildup) same
    rw [footing_setBuildup, same, ← buildup]
    exact ⟨rfl, rises⟩
  unfold runPush
  generalize session.push.send publicKey session.now = sending
  obtain ⟨push, request⟩ := sending
  cases request with
  | none =>
      have same : footing { session with push } = session.footing := rfl
      dsimp only
      split
      · next new => exact .inr (shows same (by rw [new]; decide))
      · next connecting => exact .inr (shows same (by rw [connecting]; decide))
      · next waits => exact .inr (shows same (by rw [waits]; decide))
      · exact .inl same
  | some request =>
      have same := footing_note_of_silent { session with push } (rfl : (Effect.push request).buildup? = none)
      dsimp only
      split
      · next new => exact .inr (shows same (by rw [new]; decide))
      · next connecting => exact .inr (shows same (by rw [connecting]; decide))
      · next waits => exact .inr (shows same (by rw [waits]; decide))
      · exact .inl same

theorem footing_wake (session : Session) : session.wake.footing = session.footing := by
  apply wake_induction (motive := fun current => current.footing = session.footing) rfl
  intro current timed _ same
  rw [← same]
  unfold endPause
  split <;> rfl

theorem footing_moveTo (session : Session) (time : Nat) : (session.moveTo time).footing = session.footing := by
  unfold footing display moveTo
  rw [Status.passTo_buildup]

theorem footing_report (session : Session) (transport : Nat) (events : List TransportEvent) :
    (session.report transport events).1.footing = session.footing := by
  unfold report
  split
  · next pump runs =>
      split
      · unfold footing
        rw [runs]
        rfl
      · rfl
  · rfl

theorem footing_beginRecovery (session : Session) (recovery : Recovery) (phase : RecoveryPhase) (delay : Nat) :
    (session.beginRecovery recovery phase delay).footing = session.footing := by
  obtain ⟨next, ready, same⟩ := session.beginRecovery_frame recovery phase delay
  rw [same]
  rfl

/-- The events that a pump of a transport handles next, in this order. -/
def waiting (session : Session) (transport : Nat) : List TransportEvent :=
  match session.link.pump with
  | some pump =>
      if pump.transport = transport then pump.events.filter (!isSignaling ·) ++ pump.events.filter isSignaling else []
  | none => []

/-- A pump that runs handles the events that wait, once it has taken them. -/
theorem runPump_cases (session : Session) (transport : Nat) :
    session.runPump transport = session ∧ session.waiting transport = [] ∨
      ∃ emptied : Session, emptied.footing = session.footing ∧ emptied.footing.pumps = true ∧
        session.runPump transport = (session.waiting transport).foldl handleEvent emptied := by
  unfold runPump waiting
  cases runs : session.link.pump with
  | none => exact .inl ⟨rfl, rfl⟩
  | some pump =>
      dsimp only
      split
      · refine .inr ⟨{ session with link := { session.link with pump := some ⟨transport, []⟩ } }, ?_, rfl, rfl⟩
        unfold footing
        rw [runs]
        rfl
      · exact .inl ⟨rfl, rfl⟩

/-- A new buildup has not come to the channel. -/
theorem near_of_new (new : session.status.buildup = .new) :
    ¬ (session.footing.display.buildup = .loading ∨ session.footing.display.buildup = .done) := by
  rintro (far | far) <;> cases new.symm.trans far

/-- A session with nothing to show and no channel rests on its gate at most. -/
theorem isRooted_of_new (new : session.status.buildup = .new) (detached : session.link.channel = none)
    (gate : session.link.pump.isSome = true →
      session.replica.gate.IsBacked (fun _ => True) (session.link.task.isSome = true)) :
    session.footing.IsRooted where
  channel attached := by
    change session.link.channel.isSome = true at attached
    rw [detached] at attached
    cases attached
  buildup far := absurd far (near_of_new new)
  gate := gate

/-- Without a pump it rests on nothing. -/
theorem isRooted_of_bare (new : session.status.buildup = .new) (detached : session.link.channel = none)
    (idle : session.link.pump = none) : session.footing.IsRooted := by
  refine isRooted_of_new new detached fun runs => ?_
  rw [idle] at runs
  cases runs

theorem isRooted_stop (session : Session) (options : StopOptions) : (session.stop options).footing.IsRooted := by
  have blank := session.isBlank_stop options
  have link : (session.stop options).link = session.link.takenDown :=
    congrArg SessionCore.link (session.core_stop options)
  refine isRooted_of_bare blank.buildup ?_ blank.pump
  rw [link]
  rfl

theorem isRooted_giveUp (session : Session) (keys : Option ResumeKeys) : (session.giveUp keys).footing.IsRooted := by
  unfold giveUp
  rw [footing_note_of_silent _ rfl]
  exact session.isRooted_stop .givingUp

theorem isRooted_runStopForPeer (session : Session) (reason : DisconnectReason) (tell : Bool) :
    (session.runStopForPeer reason tell).footing.IsRooted := by
  have stopped := session.isRooted_stop (.fromPeer reason)
  unfold runStopForPeer
  dsimp only
  split
  · rw [footing_note_of_silent _ rfl]
    exact stopped
  · exact stopped

theorem init_buildup (session : Session) (params : InitParams) : (session.init params).1.status.buildup = .new := by
  have reset : (session.resetStatus false).status.buildup = .new := by
    rw [resetStatus, status_applyStatus, Status.reset_buildup]
  have prepared := congrArg Watch.status ((session.resetStatus false).watch_pairFor params)
  unfold init
  generalize (session.resetStatus false).pairFor params = chosen at prepared
  obtain ⟨ready, pair⟩ := chosen
  have created (initiation : Initiation) : (ready.note (.create initiation)).status.buildup = .new := by
    have quiet : (Effect.create initiation).isLoss = false := rfl
    have noted : (ready.note (.create initiation)).status = ready.status := congrArg Watch.status (ready.watch_note quiet)
    rw [noted, show ready.status = _ from prepared]
    exact reset
  unfold ask
  dsimp only
  cases ready.surroundings.failure? .create with
  | some failure => exact created _
  | none => exact created _

section Rooted

variable (rooted : session.footing.IsRooted)

include rooted

theorem isRooted_of_footing (same : after.footing = session.footing) : after.footing.IsRooted := by
  rw [same]
  exact rooted

/-- With the same link and gate, a session stands as firm unless it shows more. -/
theorem isRooted_of_link (link : after.link = session.link) (gate : after.replica.gate = session.replica.gate)
    (buildup : after.status.buildup = .new ∨ after.status.buildup = session.status.buildup) :
    after.footing.IsRooted := by
  constructor
  · unfold footing
    rw [link]
    exact rooted.channel
  · intro far
    rcases buildup with new | same
    · exact absurd far (near_of_new new)
    · unfold footing display at far ⊢
      rw [same] at far
      rw [link]
      exact rooted.buildup far
  · unfold footing
    rw [link, gate]
    exact rooted.gate

/-- To enter a state before the channel takes no task. -/
theorem isRooted_of_enter {state : Buildup} (near : ¬ (state = .loading ∨ state = .done))
    (entered : after.footing = session.footing.enter state) : after.footing.IsRooted := by
  have visits : after.footing = session.footing.visit [state] := entered
  rw [visits]
  refine rooted.visit fun other mem far => ?_
  rw [List.mem_singleton.mp mem] at far
  exact absurd far near

/-- A session that is set up has a bare attempt, or the former one and nothing to show of it. -/
theorem isRooted_init (params : InitParams) : (session.init params).1.footing.IsRooted := by
  have new := session.init_buildup params
  rcases session.init_cases params with ⟨-, setsUp⟩ | ⟨-, launches, same⟩
  · refine isRooted_of_new new setsUp.channel fun _ => ?_
    have gate : (session.init params).1.replica.gate = {} := setsUp.gate
    rw [gate]
    exact .empty
  · exact isRooted_of_link rooted (congrArg SessionCore.link same) (congrArg SessionCore.gate same) (.inl new)

theorem isRooted_start : session.start.1.footing.IsRooted := by
  rcases session.footing_start with same | entered
  · exact isRooted_of_footing rooted same
  · exact isRooted_of_enter rooted (by decide) entered

theorem isRooted_runPush (publicKey : Cipher.Key) : (session.runPush publicKey).footing.IsRooted := by
  rcases session.footing_runPush publicKey with same | ⟨entered, -⟩
  · exact isRooted_of_footing rooted same
  · exact isRooted_of_enter rooted (by decide) entered

theorem isRooted_failAttempt (attempt : Nat) : (session.failAttempt attempt).footing.IsRooted := by
  rcases session.failAttempt_cases attempt with same | ⟨recovery, -, -, fails⟩
  · rw [same]
    exact rooted
  · rw [fails]
    exact isRooted_giveUp _ _

theorem isRooted_runExpire (attempt : Nat) : (session.runExpire attempt).footing.IsRooted := by
  rcases session.runExpire_cases attempt with same | ⟨recovery, -, -, ⟨-, -, begins⟩ | ⟨-, gaveUp⟩ | same⟩
  · rw [same]
    exact rooted
  · rw [begins]
    exact isRooted_of_footing rooted (footing_beginRecovery _ _ _ _)
  · rw [gaveUp]
    exact isRooted_giveUp _ _
  · rw [same]
    exact rooted

theorem isRooted_runRestart (attempt : Nat) : (session.runRestart attempt).footing.IsRooted := by
  rcases session.runRestart_cases attempt with same | ⟨restart, -, -, restarting⟩
  · rw [same]
    exact rooted
  · generalize session.runRestart attempt = after at restarting
    induction restarting with
    | refl => exact rooted
    | stop former ih => exact isRooted_stop _ .soft
    | init former due ih => exact isRooted_init ih restart.params
    | start former ih => exact isRooted_start ih
    | stage former stage onward ih => exact ih
    | fail former ih => exact isRooted_failAttempt ih restart.attempt

/-- Events that are handled one after another. -/
theorem isRooted_foldl (pumps : session.footing.pumps = true) (events : List TransportEvent) :
    (events.foldl handleEvent session).footing.IsRooted := by
  induction events generalizing session with
  | nil => exact rooted
  | cons event rest ih =>
      obtain ⟨asked, asks, -⟩ := asks_handleEvent rooted pumps event
      exact ih asks.rooted asks.pumps

theorem isRooted_runPump (transport : Nat) : (session.runPump transport).footing.IsRooted := by
  rcases session.runPump_cases transport with ⟨same, -⟩ | ⟨emptied, stays, pumps, handles⟩
  · rw [same]
    exact rooted
  · rw [handles]
    exact isRooted_foldl (isRooted_of_footing rooted stays) pumps _

theorem isRooted_runTask (task : Task) : (session.runTask task).footing.IsRooted := by
  cases task with
  | pump transport => exact isRooted_runPump rooted transport
  | push publicKey => exact isRooted_runPush rooted publicKey
  | stopForPeer reason tell => exact session.isRooted_runStopForPeer reason tell
  | expire attempt => exact isRooted_runExpire rooted attempt
  | restart attempt => exact isRooted_runRestart rooted attempt

end Rooted

/-- The sessions that there can be. -/
inductive Arises : Session → Prop
  | fresh {session : Session} (fresh : session.IsFresh) (new : session.status.buildup = .new) : Arises session
  | init {session : Session} (former : Arises session) (params : InitParams) : Arises (session.init params).1
  | start {session : Session} (former : Arises session) : Arises session.start.1
  | stop {session : Session} (former : Arises session) (options : StopOptions) : Arises (session.stop options)
  | report {session : Session} (former : Arises session) (transport : Nat) (events : List TransportEvent) :
      Arises (session.report transport events).1
  | event {session : Session} (former : Arises session) (runs : session.link.pump.isSome = true)
      (event : TransportEvent) : Arises (session.handleEvent event)
  | task {session : Session} (former : Arises session) (task : Task) : Arises (session.runTask task)
  | wake {session : Session} (former : Arises session) : Arises session.wake
  | moveTo {session : Session} (former : Arises session) (time : Nat) : Arises (session.moveTo time)
  /-- Whatever else is done leaves the core and the buildup alone. -/
  | other {session after : Session} (former : Arises session) (core : after.core = session.core)
      (buildup : after.status.buildup = session.status.buildup) : Arises after

theorem Arises.isRooted (arises : Arises session) : session.footing.IsRooted := by
  induction arises with
  | fresh fresh new => exact isRooted_of_bare new (by rw [fresh.link]) (by rw [fresh.link])
  | init former params ih => exact isRooted_init ih params
  | start former ih => exact isRooted_start ih
  | stop former options ih => exact isRooted_stop _ options
  | report former transport events ih => exact isRooted_of_footing ih (footing_report _ transport events)
  | event former runs event ih => exact isRooted_foldl ih runs [event]
  | task former task ih => exact isRooted_runTask ih task
  | wake former ih => exact isRooted_of_footing ih (footing_wake _)
  | moveTo former time ih => exact isRooted_of_footing ih (footing_moveTo _ time)
  | other former core buildup ih =>
      exact isRooted_of_link ih (congrArg SessionCore.link core) (congrArg SessionCore.gate core) (.inr buildup)

end Session

end RelayClient
