import RelayClient.Proofs.Recovery.Restarting
import RelayClient.Proofs.Recovery.StandDown

/-!
# Sessions under recovery

A session is watched from the time that recovery is attached to it. Whatever the
application, the transport, the timers and the ready tasks make of it, in any order, the
last time is kept at which a report made the connection good.
-/

namespace RelayClient

/-- What a report may do to a status: an event tells of a new summary, and only a task
that is connected makes it good. -/
structure Status.IsReport (status : Status) (update : Status × List StatusEvent) : Prop where
  events : update.2 = if status.global = update.1.global then []
    else [.global ⟨status.global, update.1.global, update.1.wasConnected⟩]
  earned : update.1.global = .ok → update.1.wasConnected = true ∨
    (status.global = .ok ∧ update.1.wasConnected = status.wasConnected)
  connected : update.1.wasConnected = true → status.wasConnected = true ∨ update.1.global = .ok

namespace Status

variable {status : Status}

theorem IsReport.refl (status : Status) : status.IsReport (status, []) :=
  ⟨(if_pos rfl).symm, fun good => .inr ⟨good, rfl⟩, .inl⟩

theorem isReport_setGlobal {updated : Status} {summary : GlobalState} (same : updated.global = status.global)
    (earned : summary = .ok → updated.wasConnected = true)
    (connected : updated.wasConnected = true → status.wasConnected = true ∨ summary = .ok) :
    status.IsReport (updated.setGlobal summary) := by
  have shown : (updated.setGlobal summary).1 = { updated with global := summary } := updated.setGlobal_fst summary
  constructor
  case events =>
    rw [shown, ← same]
    unfold setGlobal
    dsimp only
    split <;> rfl
  case earned =>
    rw [shown]
    exact fun good => .inl (earned good)
  case connected =>
    rw [shown]
    exact connected

theorem isReport_reportTask (status : Status) (state : TaskState) : status.IsReport (status.reportTask state) := by
  unfold reportTask
  split
  · next summary known =>
      apply isReport_setGlobal
      case same => rfl
      case earned =>
        rintro rfl
        cases (state.summary?_eq_ok_iff).mp known
        exact Bool.or_true _
      case connected =>
        intro connected
        dsimp only at connected
        rw [Bool.or_eq_true, beq_iff_eq] at connected
        refine connected.imp_right fun connects => ?_
        rw [connects] at known
        exact (Option.some_inj.mp known).symm
  · exact .refl status

theorem isReport_reportSignaling (status : Status) (state : SignalingState) :
    status.IsReport (status.reportSignaling state) := by
  unfold reportSignaling
  split
  · next summary _ known =>
      apply isReport_setGlobal
      case same => rfl
      case earned =>
        rintro rfl
        exact absurd known state.summary?_ne_ok
      case connected => exact .inl
  · exact .refl status

end Status

/-- Recovery begins a restart with the keys that it knows, as a connection was good before. -/
structure Recovery.Begins (former latter : Recovery) : Prop where
  carried : former.carrier.isSome = true
  keys : latter.keys = former.keys
  restart : ∃ begun, latter.restart = some begun ∧ begun.params = former.params

theorem Recovery.begins_begin {recovery : Recovery} (carried : recovery.carrier.isSome = true) (phase : RecoveryPhase)
    (delay now : Nat) : recovery.Begins (recovery.begin phase delay now) :=
  ⟨carried, rfl, _, rfl, rfl⟩

namespace Session

variable {first before after session : Session}

/-- What recovery makes of a new summary: it learns of a good connection, or begins a
restart once one is lost that was good before. -/
inductive Answers (change : GlobalChange) (before after : Session) : Prop
  | goesOn (bad : change.current ≠ .ok) (continues : Continues before after)
  | settles (good : change.current = .ok) (settled : ∀ latter, after.recovery = some latter →
      ∃ former carrier, before.recovery = some former ∧ latter = former.recovered carrier before.resumeKeys)
  | begins (bad : change.current ≠ .ok) (lost : change.wasConnected = true) {former latter : Recovery}
      (watched : before.recovery = some former) (begun : after.recovery = some latter) (begins : former.Begins latter)

/-- The restart that recovery holds once it has begun one. -/
theorem params_of_begins {former latter : Recovery} (begins : former.Begins latter)
    (next : after.recovery = some latter) {held : Restart} (found : after.recovery.bind (·.restart) = some held) :
    held.params = former.params := by
  obtain ⟨begun, holds, params⟩ := begins.restart
  rw [next, Option.bind_some, holds] at found
  cases found
  exact params

theorem Answers.of_before {change : GlobalChange} (answers : Answers change before after)
    (keys : before.resumeKeys = first.resumeKeys) (recovery : before.recovery = first.recovery) :
    Answers change first after := by
  cases answers with
  | goesOn bad continues => exact .goesOn bad ((Continues.of_recovery recovery).trans continues)
  | settles good settled =>
      rw [keys, recovery] at settled
      exact .settles good settled
  | begins bad lost watched begun begins => exact .begins bad lost (recovery.symm.trans watched) begun begins

theorem answers_reactTo (session : Session) (change : GlobalChange) :
    Answers change session (session.reactTo (.global change)) := by
  by_cases good : change.current = .ok
  · refine .settles good fun latter settled => ?_
    rw [reactTo_recovery_of_good session good] at settled
    obtain ⟨former, watched, rfl⟩ := Option.map_eq_some_iff.mp settled
    exact ⟨former, session.link.task, watched, rfl⟩
  cases watched : session.recovery with
  | none =>
      have same : session.reactTo (.global change) = session := by
        unfold reactTo
        rw [watched]
      rw [same]
      exact .goesOn good (.refl session)
  | some recovery =>
      have heard := reactTo_eq_perform watched (.global change)
      have next := perform_recovery (session.heed (.status (.global change))) recovery
        (recovery.move (.status (.global change)))
      rw [← heard] at next
      have stays (move : recovery.move (.status (.global change)) = .stay) :
          Answers change session (session.reactTo (.global change)) := by
        rw [move] at next
        refine .goesOn good (.of_recovery ?_)
        rw [next, watched]
        rfl
      -- only a connection that was good before is restarted; any other change is left to the application
      by_cases lost : change.wasConnected = true
      · have begins {phase : RecoveryPhase} {delay : Nat} (carried : recovery.carrier.isSome = true)
            (move : recovery.move (.status (.global change)) = .restart phase delay) :
            Answers change session (session.reactTo (.global change)) := by
          rw [move] at next
          exact .begins good lost watched next (Recovery.begins_begin carried phase delay _)
        have move : recovery.move (.status (.global change)) = recovery.lossMove change.current := by
          unfold Recovery.move
          dsimp only
          rw [if_neg good, if_pos lost]
        unfold Recovery.lossMove at move
        split at move
        · next carried => exact begins (by rw [carried]; rfl) move
        · next carried _ => exact begins (by rw [carried]; rfl) move
        · exact stays move
      · apply stays
        unfold Recovery.move
        dsimp only
        rw [if_neg good, if_neg lost]

/-- A report moves nothing but the status and recovery, which hears of a new summary only. -/
structure Hears (before after : Session) : Prop where
  pair : after.link.pair = before.link.pair
  keys : after.resumeKeys = before.resumeKeys
  resetFields : after.link.resetFields = before.link.resetFields
  earned : after.status.global = .ok → after.status.wasConnected = true ∨
    (before.status.global = .ok ∧ after.status.wasConnected = before.status.wasConnected)
  connected : after.status.wasConnected = true → before.status.wasConnected = true ∨ after.status.global = .ok
  recovery : (before.status.global = after.status.global ∧ Continues before after) ∨
    (before.status.global ≠ after.status.global ∧
      Answers ⟨before.status.global, after.status.global, after.status.wasConnected⟩ before after)

theorem hears_applyStatus (session : Session) {update : Status × List StatusEvent}
    (report : session.status.IsReport update) : Hears session (session.applyStatus update) := by
  have bearings := session.bearings_applyStatus update
  have global := congrArg Bearings.global bearings
  have wasConnected := congrArg Bearings.wasConnected bearings
  dsimp only [Session.bearings] at global wasConnected
  constructor
  case pair => exact congrArg Bearings.pair bearings
  case keys => exact congrArg Bearings.keys bearings
  case resetFields => exact congrArg Bearings.resetFields bearings
  case earned =>
    rw [global, wasConnected]
    exact report.earned
  case connected =>
    rw [global, wasConnected]
    exact report.connected
  case recovery =>
    rw [global, wasConnected]
    have events := report.events
    unfold applyStatus postStatus
    split at events
    · next same =>
        rw [events]
        exact .inl ⟨same, .of_recovery rfl⟩
    · next differs =>
        rw [events]
        have noted := bearings_note { session with status := update.1 }
          (.status (.global ⟨session.status.global, update.1.global, update.1.wasConnected⟩))
        refine .inr ⟨differs, (answers_reactTo _ _).of_before ?_ ?_⟩
        · exact congrArg Bearings.keys noted
        · exact congrArg Bearings.recovery noted

theorem Reports.hears (report : Reports before after) : Hears before after := by
  cases report with
  | signaling state => exact hears_applyStatus before (before.status.isReport_reportSignaling state)
  | task state => exact hears_applyStatus before (before.status.isReport_reportTask state)

/-- A timer that is due leads to a second restart, or to giving up, or is merely off from then on. -/
theorem runExpire_cases (session : Session) (attempt : Nat) :
    session.runExpire attempt = session ∨
      ∃ recovery, session.recovery = some recovery ∧ recovery.timer.isSome = true ∧
        ((recovery.carrier = some .direct ∧ recovery.phase ≠ .failed ∧
            session.runExpire attempt = session.perform recovery.clearTimer (.restart .phaseTwo 0)) ∨
          (recovery.phase ≠ .failed ∧ session.runExpire attempt = session.perform recovery .giveUp) ∨
          session.runExpire attempt = { session with recovery := some recovery.clearTimer }) := by
  unfold runExpire
  split
  · exact .inl rfl
  · next recovery watched =>
      split
      · next due =>
          obtain ⟨timer, armed, -⟩ := Option.map_eq_some_iff.mp due
          refine .inr ⟨recovery, watched, by rw [armed]; rfl, ?_⟩
          have going {phase : RecoveryPhase} (here : recovery.clearTimer.phase = phase) (other : phase ≠ .failed) :
              recovery.phase ≠ .failed :=
            here ▸ other
          dsimp only
          split
          · next here carried => exact .inl ⟨carried, going here nofun, rfl⟩
          · next here _ => exact .inr (.inl ⟨going here nofun, rfl⟩)
          · next here => exact .inr (.inl ⟨going here nofun, rfl⟩)
          · exact .inr (.inr rfl)
          · exact .inr (.inr rfl)
      · exact .inl rfl

theorem moors_runExpire (session : Session) (attempt : Nat) : Moors session (session.runExpire attempt) := by
  rcases session.runExpire_cases attempt with same | ⟨recovery, -, -, ⟨-, -, begins⟩ | ⟨-, gaveUp⟩ | same⟩
  · rw [same]
    exact .refl session
  · obtain ⟨next, ready, begun⟩ := session.beginRecovery_frame recovery.clearTimer .phaseTwo 0
    rw [begins, perform, begun]
    exact ⟨rfl, rfl, .inl ⟨rfl, rfl⟩⟩
  · rw [gaveUp]
    exact session.moors_perform_giveUp recovery
  · rw [same]
    exact ⟨rfl, rfl, .inl ⟨rfl, rfl⟩⟩

theorem spares_runExpire {keys : Option ResumeKeys} (knows : session.Knows keys) (attempt : Nat) :
    Spares keys session (session.runExpire attempt) := by
  rcases session.runExpire_cases attempt with
    same | ⟨recovery, watched, -, ⟨-, going, begins⟩ | ⟨going, gaveUp⟩ | same⟩
  · rw [same]
    exact .refl keys session
  · rw [begins]
    refine .of_eq (belongings_beginRecovery _ _ _ _) ?_
    unfold Session.hasFailed
    rw [perform_recovery, watched]
    exact (beq_false_of_ne going).symm
  · rw [gaveUp]
    exact session.spares_perform_giveUp knows watched going
  · rw [same]
    refine .of_eq rfl ?_
    unfold Session.hasFailed
    rw [watched]
    rfl

theorem runExpire_recovery (session : Session) (attempt : Nat) :
    Continues session (session.runExpire attempt) ∨
      ∃ former latter, session.recovery = some former ∧ former.timer.isSome = true ∧
        (session.runExpire attempt).recovery = some latter ∧ former.Begins latter := by
  rcases session.runExpire_cases attempt with
    same | ⟨recovery, watched, armed, ⟨carried, -, begins⟩ | ⟨-, gaveUp⟩ | same⟩
  · rw [same]
    exact .inl (.refl session)
  · refine .inr ⟨recovery, recovery.clearTimer.begin .phaseTwo 0 session.now, watched, armed, ?_, ?_⟩
    · rw [begins]
      exact session.perform_recovery recovery.clearTimer (.restart .phaseTwo 0)
    · have kept : recovery.carrier.isSome = true := by
        rw [carried]
        rfl
      exact ⟨kept, rfl, _, rfl, rfl⟩
  · rw [gaveUp]
    exact .inl (session.continues_perform_giveUp watched)
  · rw [same]
    left
    rintro _ ⟨⟩
    exact ⟨recovery, watched, rfl, rfl, nofun, fun held found => ⟨held, found, rfl, rfl, id⟩⟩

/-- Only a restart that pauses waits for a time. -/
theorem isOutstanding_of_mem_wakeTimes {due attempt : Nat} (mem : (due, .restart attempt) ∈ session.wakeTimes) :
    ∃ restart, session.recovery.bind (·.restart) = some restart ∧ restart.attempt = attempt ∧
      restart.stage.isOutstanding = true := by
  unfold wakeTimes at mem
  split at mem
  · cases mem
  · next recovery watched =>
      rw [watched, Option.bind_some]
      rcases List.mem_append.mp mem with timed | paused
      · obtain ⟨timer, -, same⟩ := List.mem_map.mp timed
        cases same
      · split at paused
        · next held =>
            cases List.mem_singleton.mp paused
            exact ⟨_, held, rfl, rfl⟩
        · cases paused

/-- A restart that was woken goes on, and it goes on from there. -/
theorem wake_moors_continues (session : Session) : Moors session session.wake ∧ Continues session session.wake := by
  apply wake_induction (motive := fun current => Moors session current ∧ Continues session current)
    ⟨.refl session, .refl session⟩
  rintro current ⟨due, task⟩ timed ⟨moors, continues⟩
  cases task with
  | restart attempt =>
      obtain ⟨restart, found, rfl, due⟩ := isOutstanding_of_mem_wakeTimes timed
      refine ⟨moors.trans ⟨rfl, rfl, .inl ⟨rfl, rfl⟩⟩, ?_⟩
      exact (continues.setStage found fun _ => due).trans (.of_recovery rfl)
  | _ => exact ⟨moors.trans ⟨rfl, rfl, .inl ⟨rfl, rfl⟩⟩, continues.trans (.of_recovery rfl)⟩

/-- A report makes the connection good. -/
def TurnsGood (session : Session) (event : TransportEvent) : Prop :=
  session.status.global ≠ .ok ∧ (session.handleEvent event).status.global = .ok

/-- What can become of a session that recovery watches over, and what it was when the
connection was last good, if it was since. -/
inductive Watched (setUps : Prop) (first : Session) : Option Session → Session → Prop
  | refl : Watched setUps first none first
  /-- The application sets the session up, where it may. -/
  | init {ok : Option Session} {session : Session} (former : Watched setUps first ok session) (may : setUps)
      (params : InitParams) : Watched setUps first ok (session.init params).1
  | start {ok : Option Session} {session : Session} (former : Watched setUps first ok session) :
      Watched setUps first ok session.start.1
  | stop {ok : Option Session} {session : Session} (former : Watched setUps first ok session) (options : StopOptions) :
      Watched setUps first ok (session.stop options)
  | event {ok : Option Session} {session : Session} (former : Watched setUps first ok session) (event : TransportEvent)
      (bad : ¬ session.TurnsGood event) : Watched setUps first ok (session.handleEvent event)
  /-- The connection is good again, which takes a link that was set up. -/
  | good {ok : Option Session} {session : Session} (former : Watched setUps first ok session) (event : TransportEvent)
      (good : session.TurnsGood event) (linked : session.link.pair.isSome = true) :
      Watched setUps first (some (session.handleEvent event)) (session.handleEvent event)
  | report {ok : Option Session} {session : Session} (former : Watched setUps first ok session) (transport : Nat)
      (events : List TransportEvent) : Watched setUps first ok (session.report transport events).1
  /-- A task runs. The pump handles its events one by one. -/
  | task {ok : Option Session} {session : Session} (former : Watched setUps first ok session) (task : Task)
      (alone : ∀ transport, task ≠ .pump transport) : Watched setUps first ok (session.runTask task)
  | wake {ok : Option Session} {session : Session} (former : Watched setUps first ok session) :
      Watched setUps first ok session.wake
  | moveTo {ok : Option Session} {session : Session} (former : Watched setUps first ok session) (time : Nat) :
      Watched setUps first ok (session.moveTo time)
  /-- Whatever else the application does leaves the link, the summary and recovery alone. -/
  | other {ok : Option Session} {session after : Session} (former : Watched setUps first ok session)
      (moors : Moors session after) (recovery : after.recovery = session.recovery) : Watched setUps first ok after

theorem moors_moveTo (session : Session) (time : Nat) : Moors session (session.moveTo time) := by
  have tracks := session.status.tracks_passTo time
  simp only [Status.tracks, Prod.mk.injEq] at tracks
  exact ⟨rfl, rfl, .inl ⟨tracks.2.2.1, tracks.2.2.2⟩⟩

theorem moors_runStopForPeer (session : Session) (reason : DisconnectReason) (tell : Bool) :
    Moors session (session.runStopForPeer reason tell) := by
  have stopped := session.moors_stop (.fromPeer reason)
  unfold runStopForPeer
  dsimp only
  split
  · exact stopped.trans (.of_bearings (bearings_note _ _))
  · exact stopped

theorem runStopForPeer_recovery (session : Session) (reason : DisconnectReason) (tell : Bool) :
    (session.runStopForPeer reason tell).recovery = session.recovery := by
  unfold runStopForPeer
  dsimp only
  split
  · exact (note_recovery _ _).trans (stop_recovery _ _)
  · exact stop_recovery _ _

theorem bearings_report (session : Session) (transport : Nat) (events : List TransportEvent) :
    (session.report transport events).1.bearings = session.bearings := by
  unfold report
  split
  · split <;> rfl
  · rfl

namespace Watched

variable {setUps : Prop} {ok : Option Session} {last : Session}

/-- What holds of every watched session: it is kept by what sets nothing up, by a set-up,
by a report, by a timer of recovery and by a restart of it. -/
theorem induction {motive : Option Session → Session → Prop} (here : motive none first)
    (moored : ∀ {ok session after}, motive ok session → Moors session after → Continues session after →
        motive ok after)
    (init : ∀ {ok session}, motive ok session → setUps → ∀ params, motive ok (session.init params).1)
    (report : ∀ {ok session after}, motive ok session → Hears session after →
        (after.status.global = .ok → session.status.global = .ok) → motive ok after)
    (good : ∀ {ok session late after}, motive ok session → Hears session late → session.status.global ≠ .ok →
        late.status.global = .ok → late.link.pair.isSome = true → Drifts late after → motive (some after) after)
    (expire : ∀ {ok session}, motive ok session → ∀ attempt, motive ok (session.runExpire attempt))
    (restart : ∀ {ok session}, motive ok session → ∀ attempt, motive ok (session.runRestart attempt))
    (watched : Watched setUps first ok last) : motive ok last := by
  have drifted {ok : Option Session} {session after : Session} (holds : motive ok session)
      (drift : Drifts session after) : motive ok after :=
    moored holds drift.moors drift.continues
  induction watched with
  | refl => exact here
  | init former may params ih => exact init ih may params
  | start former ih => exact drifted ih (drifts_start _)
  | stop former options ih => exact moored ih (moors_stop _ options) (.of_recovery (stop_recovery _ options))
  | @event ok session former event bad ih =>
      cases session.sails_handleEvent event with
      | drifts drift => exact drifted ih drift
      | reports early heard late =>
          -- the drifts around the report leave the summary alone, so the report does not turn it good either
          refine drifted (report (drifted ih early) heard.hears fun turned => ?_) late
          have before := congrArg Bearings.global early.bearings
          have after := congrArg Bearings.global late.bearings
          by_contra broken
          exact bad ⟨fun same => broken (before.trans same), after.trans turned⟩
  | @good ok session former event turns linked ih =>
      cases session.sails_handleEvent event with
      | drifts drift =>
          have same := congrArg Bearings.global drift.bearings
          exact absurd (same.symm.trans turns.2) turns.1
      | reports early heard late =>
          have before := congrArg Bearings.global early.bearings
          have after := congrArg Bearings.global late.bearings
          have pair := heard.hears.pair.trans (congrArg Bearings.pair early.bearings)
          refine good (drifted ih early) heard.hears ?_ (after.symm.trans turns.2) ?_ late
          · exact fun same => turns.1 (before.symm.trans same)
          · rw [pair]
            exact linked
  | report former transport events ih => exact drifted ih (.of_bearings (bearings_report _ _ _))
  | task former task alone ih =>
      cases task with
      | pump transport => exact absurd rfl (alone transport)
      | push publicKey => exact drifted ih (drifts_runPush _ _)
      | stopForPeer reason tell =>
          exact moored ih (moors_runStopForPeer _ _ _) (.of_recovery (runStopForPeer_recovery _ _ _))
      | expire attempt => exact expire ih attempt
      | restart attempt => exact restart ih attempt
  | wake former ih => exact moored ih (wake_moors_continues _).1 (wake_moors_continues _).2
  | moveTo former time ih => exact moored ih (moors_moveTo _ time) (.of_recovery rfl)
  | other former moors recovery ih => exact moored ih moors (.of_recovery recovery)

end Watched

theorem pair_handleEvent (session : Session) (event : TransportEvent) :
    (session.handleEvent event).link.pair = session.link.pair := by
  cases session.sails_handleEvent event with
  | drifts drift => exact drift.moors.pair
  | reports early heard late => exact late.moors.pair.trans (heard.hears.pair.trans early.moors.pair)

/-- A restart that sets the session up gives it a key pair. -/
theorem linked_runRestart (linked : session.link.pair.isSome = true) (attempt : Nat) :
    (session.runRestart attempt).link.pair.isSome = true := by
  rcases session.runRestart_cases attempt with same | ⟨restart, found, -, restarting⟩
  · rw [same]
    exact linked
  · rcases (restarting.resumes found).link with ⟨moors, -⟩ | ⟨-, setUp⟩
    · rw [moors.pair]
      exact linked
    · exact setUp.linked

/-- A session that is watched and has a key pair. -/
def IsWatched (setUps : Prop) (first session : Session) : Prop :=
  session.link.pair.isSome = true ∧ ∃ ok, Watched setUps first ok session

namespace IsWatched

variable {setUps : Prop}

theorem event (watches : IsWatched setUps first session) (event : TransportEvent) :
    IsWatched setUps first (session.handleEvent event) := by
  obtain ⟨linked, ok, watched⟩ := watches
  refine ⟨(congrArg Option.isSome (session.pair_handleEvent event)).trans linked, ?_⟩
  by_cases turns : session.TurnsGood event
  · exact ⟨_, watched.good event turns linked⟩
  · exact ⟨ok, watched.event event turns⟩

theorem moored (watches : IsWatched setUps first session) (moors : Moors session after)
    (recovery : after.recovery = session.recovery) : IsWatched setUps first after := by
  obtain ⟨linked, ok, watched⟩ := watches
  exact ⟨(congrArg Option.isSome moors.pair).trans linked, ok, watched.other moors recovery⟩

/-- The pump hands its events on one after another. -/
theorem runPump (watches : IsWatched setUps first session) (transport : Nat) :
    IsWatched setUps first (session.runPump transport) := by
  unfold Session.runPump handleBatch
  split
  · next pump _ =>
      split
      · have taken : IsWatched setUps first
            { session with link := { session.link with pump := some ⟨transport, []⟩ } } :=
          watches.moored (.of_bearings rfl) rfl
        generalize pump.events.filter _ ++ pump.events.filter _ = ordered
        generalize { session with link := { session.link with pump := some ⟨transport, []⟩ } } = current at taken
        induction ordered generalizing current with
        | nil => exact taken
        | cons event rest ih => exact ih _ (taken.event event)
      · exact watches
  · exact watches

theorem runTask (watches : IsWatched setUps first session) (task : Task) :
    IsWatched setUps first (session.runTask task) := by
  obtain ⟨linked, ok, watched⟩ := watches
  cases task with
  | pump transport => exact runPump ⟨linked, ok, watched⟩ transport
  | push publicKey =>
      exact ⟨(congrArg Option.isSome (session.drifts_runPush publicKey).moors.pair).trans linked, ok,
        watched.task _ nofun⟩
  | stopForPeer reason tell =>
      exact ⟨(congrArg Option.isSome (session.moors_runStopForPeer reason tell).pair).trans linked, ok,
        watched.task _ nofun⟩
  | expire attempt =>
      exact ⟨(congrArg Option.isSome (session.moors_runExpire attempt).pair).trans linked, ok, watched.task _ nofun⟩
  | restart attempt => exact ⟨linked_runRestart linked attempt, ok, watched.task _ nofun⟩

theorem runTasks (watches : IsWatched setUps first session) (count : Nat) :
    IsWatched setUps first (session.runTasks count) :=
  runTasks_induction (fun _ _ watches => watches.moored (.of_bearings rfl) rfl)
    (fun _ task watches => watches.runTask task) watches count

theorem wake (watches : IsWatched setUps first session) : IsWatched setUps first session.wake := by
  obtain ⟨linked, ok, watched⟩ := watches
  exact ⟨(congrArg Option.isSome session.wake_moors_continues.1.pair).trans linked, ok, watched.wake⟩

theorem moveTo (watches : IsWatched setUps first session) (time : Nat) :
    IsWatched setUps first (session.moveTo time) :=
  watches.moored (session.moors_moveTo time) rfl

theorem passSteps (watches : IsWatched setUps first session) (limit stops : Nat) :
    IsWatched setUps first (session.passSteps limit stops) :=
  passSteps_induction (fun _ time watches => watches.moveTo time) (fun _ watches => watches.wake)
    (fun _ watches => watches.runTasks _) watches limit stops

end IsWatched

end Session

end RelayClient
