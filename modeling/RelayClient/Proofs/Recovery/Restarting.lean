import RelayClient.Proofs.Recovery.Continuation

/-!
# Restarts on their way

Each time a restart goes on it may stop the session, set it up, start it, and wait or
end. It sets the session up only where it has yet to, and with the keys it was begun
with; apart from that it leaves the link of the session alone, and all belongings.
-/

namespace RelayClient

namespace Session

/-- What a restart makes of a session until it has to wait. -/
inductive Restarting (restart : Restart) (first : Session) : Session → Prop
  | refl : Restarting restart first first
  | stop {session : Session} (former : Restarting restart first session) : Restarting restart first (session.stop .soft)
  | init {session : Session} (former : Restarting restart first session) (due : restart.stage.isOutstanding = true) :
      Restarting restart first (session.init restart.params).1
  | start {session : Session} (former : Restarting restart first session) : Restarting restart first session.start.1
  | stage {session : Session} (former : Restarting restart first session) (stage : RestartStage)
      (onward : stage.isOutstanding = true → restart.stage.isOutstanding = true) :
      Restarting restart first (session.setStage restart.attempt stage)
  | fail {session : Session} (former : Restarting restart first session) :
      Restarting restart first (session.failAttempt restart.attempt)

variable {restart : Restart} {first before after session : Session}

theorem Restarting.finishRestart (former : Restarting restart first session) (result : Except Failure Unit) :
    Restarting restart first (session.finishRestart restart.attempt result) := by
  have ended : Restarting restart first (session.setStage restart.attempt .ended) := former.stage .ended nofun
  unfold Session.finishRestart
  split
  · exact ended
  · exact ended
  · exact ended.fail

theorem Restarting.resumeRestart (former : Restarting restart first session)
    (due : restart.stage.isOutstanding = true) : Restarting restart first (session.resumeRestart restart) := by
  have prepared := former.init due
  unfold Session.resumeRestart
  generalize session.init restart.params = result at prepared
  obtain ⟨setUp, outcome⟩ := result
  cases outcome with
  | error failure => exact (prepared.stage .ended nofun).fail
  | ok _ =>
      -- the start may be over at once, or the restart waits for it
      dsimp only
      split
      · exact prepared.start.finishRestart _
      · exact prepared.start.stage (.starting _) nofun

theorem restarting_stepRestart (session : Session) (restart : Restart) :
    Restarting restart session (session.stepRestart restart) := by
  have here : Restarting restart session session := .refl
  unfold stepRestart
  split
  · next spawned =>
      have due : restart.stage.isOutstanding = true := by
        rw [spawned]
        rfl
      split
      · exact here.stop.resumeRestart due
      · exact here.stop.stage (.paused _) fun _ => due
  · next resuming => exact here.resumeRestart (by rw [resuming]; rfl)
  · split
    · exact here.finishRestart _
    · exact here
  · exact here
  · exact here

/-- The restart of an attempt goes on if it is the one under way. -/
theorem runRestart_cases (session : Session) (attempt : Nat) :
    session.runRestart attempt = session ∨
      ∃ restart, session.recovery.bind (·.restart) = some restart ∧ restart.attempt = attempt ∧
        Restarting restart session (session.runRestart attempt) := by
  unfold runRestart
  split
  · next restart found =>
      split
      · next same => exact .inr ⟨restart, found, same, session.restarting_stepRestart restart⟩
      · exact .inl rfl
  · exact .inl rfl

theorem IsSetUp.moors {params : InitParams} (setUp : before.IsSetUp params) (moors : Moors before after) :
    after.IsSetUp params where
  linked := by
    rw [moors.pair]
    exact setUp.linked
  pair pair given := moors.pair.trans (setUp.pair pair given)
  resetFields := moors.resetFields.trans setUp.resetFields
  global := by
    rcases moors.status with ⟨global, -⟩ | ⟨global, -⟩
    · exact global.trans setUp.global
    · exact global
  wasConnected := by
    rcases moors.status with ⟨-, wasConnected⟩ | ⟨-, wasConnected⟩
    · exact wasConnected.trans setUp.wasConnected
    · exact wasConnected

/-- What comes of a restart that went on. -/
structure Resumes (restart : Restart) (before after : Session) : Prop where
  continues : Continues before after
  spares : ∀ keys, before.Knows keys → Spares keys before after
  creations : ∃ made, after.creations = before.creations ++ made ∧ ∀ initiation ∈ made,
    restart.stage.isOutstanding = true ∧ initiation.trustedPeer = restart.params.trustedPeer ∧
      ∀ pair, restart.params.pair = some pair → initiation.pair = pair
  link : (Moors before after ∧ after.transports = before.transports) ∨
    (restart.stage.isOutstanding = true ∧ after.IsSetUp restart.params)

/-- A step that sets nothing up leaves what came of a restart before. -/
theorem Resumes.further (resumes : Resumes restart first before) (continues : Continues first after)
    (spares : ∀ keys, before.Knows keys → Spares keys before after) (moors : Moors before after)
    (transports : after.transports = before.transports)
    (creations : after.creations = before.creations) : Resumes restart first after where
  continues := continues
  spares keys knows := (resumes.spares keys knows).trans (spares keys (resumes.continues.knows knows))
  creations := by
    rw [creations]
    exact resumes.creations
  link := by
    rcases resumes.link with ⟨moored, counted⟩ | ⟨due, setUp⟩
    · exact .inl ⟨moored.trans moors, transports.trans counted⟩
    · exact .inr ⟨due, setUp.moors moors⟩

theorem Resumes.refl (restart : Restart) (session : Session) : Resumes restart session session where
  continues := .refl session
  spares keys _ := .refl keys session
  creations := ⟨[], (List.append_nil _).symm, nofun⟩
  link := .inl ⟨.refl session, rfl⟩

theorem Resumes.stop (resumes : Resumes restart first session) : Resumes restart first (session.stop .soft) := by
  have core := session.core_stop .soft
  apply resumes.further
  case continues => exact resumes.continues.trans (.of_recovery (session.stop_recovery .soft))
  case spares =>
    intro keys _
    exact .of_eq (session.belongings_stop rfl rfl) (hasFailed_of_recovery (session.stop_recovery .soft))
  case moors => exact session.moors_stop .soft
  case transports => exact congrArg SessionCore.transports core
  case creations => exact creations_of_launches (congrArg SessionCore.launches core)

theorem Resumes.init (resumes : Resumes restart first session) (due : restart.stage.isOutstanding = true) :
    Resumes restart first (session.init restart.params).1 := by
  have initiates := session.initiates_init restart.params
  constructor
  case continues => exact resumes.continues.trans (.of_recovery initiates.recovery)
  case spares =>
    intro keys knows
    exact (resumes.spares keys knows).trans
      (.of_eq (session.belongings_init _) (hasFailed_of_recovery initiates.recovery))
  case creations =>
    obtain ⟨early, begun, these⟩ := resumes.creations
    obtain ⟨initiation, created, peer, pair⟩ := initiates.creations
    refine ⟨early ++ [initiation], ?_, fun other mem => ?_⟩
    · rw [created, begun, List.append_assoc]
    · rcases List.mem_append.mp mem with mem | mem
      · exact these other mem
      · cases List.mem_singleton.mp mem
        exact ⟨due, peer, pair⟩
  case link =>
    rcases initiates.outcome with ⟨-, setUp⟩ | ⟨-, moors, transports⟩
    · exact .inr ⟨due, setUp⟩
    · rcases resumes.link with ⟨moored, counted⟩ | ⟨_, setUp⟩
      · exact .inl ⟨moored.trans moors, transports.trans counted⟩
      · exact .inr ⟨due, setUp.moors moors⟩

theorem Resumes.start (resumes : Resumes restart first session) : Resumes restart first session.start.1 := by
  have drifts := session.drifts_start
  apply resumes.further
  case continues => exact resumes.continues.trans drifts.continues
  case spares => exact fun keys _ => .of_eq session.belongings_start drifts.hasFailed
  case moors => exact drifts.moors
  case transports => exact session.transports_start
  case creations => exact session.creations_start

/-- The restart that goes on is the one that recovery holds, if it still does. -/
theorem Resumes.stage (resumes : Resumes restart first session)
    (found : first.recovery.bind (·.restart) = some restart) {stage : RestartStage}
    (onward : stage.isOutstanding = true → restart.stage.isOutstanding = true) :
    Resumes restart first (session.setStage restart.attempt stage) := by
  apply resumes.further
  case continues => exact resumes.continues.setStage found onward
  case spares => exact fun keys _ => .of_eq (session.belongings_setStage _ _) (session.hasFailed_setStage _ _)
  case moors => exact session.moors_setStage _ _
  case transports => rfl
  case creations => rfl

theorem Resumes.fail (resumes : Resumes restart first session) :
    Resumes restart first (session.failAttempt restart.attempt) := by
  apply resumes.further
  case continues => exact resumes.continues.trans (session.continues_failAttempt _)
  case spares => exact fun keys knows => spares_failAttempt session knows _
  case moors => exact session.moors_failAttempt _
  case transports => exact session.transports_failAttempt _
  case creations => exact creations_of_launches (session.launches_failAttempt _)

theorem Restarting.resumes (restarting : Restarting restart first session)
    (found : first.recovery.bind (·.restart) = some restart) : Resumes restart first session := by
  induction restarting with
  | refl => exact .refl restart first
  | stop former ih => exact ih.stop
  | init former due ih => exact ih.init due
  | start former ih => exact ih.start
  | stage former stage onward ih => exact ih.stage found onward
  | fail former ih => exact ih.fail

theorem creations_finishRestart (session : Session) (attempt : Nat) (result : Except Failure Unit) :
    (session.finishRestart attempt result).creations = session.creations :=
  creations_of_launches (session.launches_finishRestart attempt result)

/-- A restart that sets the session up asks for exactly one transport. -/
theorem creations_resumeRestart (session : Session) (restart : Restart) :
    ∃ initiation, (session.resumeRestart restart).creations = session.creations ++ [initiation] := by
  obtain ⟨initiation, created, -⟩ := (session.initiates_init restart.params).creations
  refine ⟨initiation, ?_⟩
  rw [← created]
  unfold resumeRestart
  generalize session.init restart.params = result
  obtain ⟨setUp, outcome⟩ := result
  cases outcome with
  | error failure => exact creations_of_launches (launches_failAttempt _ _)
  | ok _ =>
      dsimp only
      split
      · exact (creations_finishRestart _ _ _).trans setUp.creations_start
      · exact setUp.creations_start

end Session

/-- A restart sets the session up as soon as it runs. -/
def Restart.IsDue (session : Session) (restart : Restart) : Prop :=
  restart.stage = .resuming ∨ (restart.stage = .spawned ∧ session.holdUp? restart = none)

theorem Session.creations_of_isDue {session : Session} {restart : Restart}
    (found : session.recovery.bind (·.restart) = some restart) (due : restart.IsDue session) :
    ∃ initiation, (session.runRestart restart.attempt).creations = session.creations ++ [initiation] := by
  unfold runRestart
  rw [found]
  dsimp only
  rw [if_pos rfl]
  unfold stepRestart
  rcases due with resuming | ⟨spawned, immediate⟩
  · rw [resuming]
    exact session.creations_resumeRestart restart
  · rw [spawned]
    dsimp only
    rw [immediate]
    have stopped : (session.stop .soft).creations = session.creations :=
      creations_of_launches (congrArg SessionCore.launches (session.core_stop .soft))
    rw [← stopped]
    exact creations_resumeRestart _ restart

end RelayClient
