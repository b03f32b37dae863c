import RelayClient.Proofs.Session.RecoveryInputs
import RelayClient.Proofs.Session.KeptData

/-!
# How recovery goes on

Between two good connections recovery keeps what it knows of the last one. It calls its
timer and its restart off, lets the restart go on, or begins another one with the keys
that it knows. A restart stops the session, sets it up with those keys and starts it.
-/

namespace RelayClient

namespace Recovery

/-- What recovery knows is kept; its timer and its restart may be off, or the restart further on. -/
structure Continues (former latter : Recovery) : Prop where
  keys : latter.keys = former.keys
  carrier : latter.carrier = former.carrier
  timer : latter.timer.isSome = true → former.timer.isSome = true
  restart : ∀ held, latter.restart = some held → ∃ begun, former.restart = some begun ∧
    held.attempt = begun.attempt ∧ held.params = begun.params ∧
      (held.stage.isOutstanding = true → begun.stage.isOutstanding = true)

theorem Continues.refl (recovery : Recovery) : Continues recovery recovery :=
  ⟨rfl, rfl, id, fun held found => ⟨held, found, rfl, rfl, id⟩⟩

theorem Continues.trans {first second third : Recovery} (former : Continues first second)
    (latter : Continues second third) : Continues first third where
  keys := latter.keys.trans former.keys
  carrier := latter.carrier.trans former.carrier
  timer armed := former.timer (latter.timer armed)
  restart held found := by
    obtain ⟨middle, kept, attempt, params, outstanding⟩ := latter.restart held found
    obtain ⟨begun, was, formerAttempt, formerParams, formerOutstanding⟩ := former.restart middle kept
    exact ⟨begun, was, attempt.trans formerAttempt, params.trans formerParams, formerOutstanding ∘ outstanding⟩

theorem continues_progressed (recovery : Recovery) : Continues recovery recovery.progressed := by
  unfold progressed
  split
  · exact ⟨rfl, rfl, nofun, fun held found => ⟨held, found, rfl, rfl, id⟩⟩
  · exact ⟨rfl, rfl, nofun, fun held found => ⟨held, found, rfl, rfl, id⟩⟩
  · exact .refl recovery
  · exact .refl recovery

theorem continues_calledOff (recovery : Recovery) (phase : RecoveryPhase) :
    Continues recovery { recovery with timer := none, restart := none, phase } :=
  ⟨rfl, rfl, nofun, nofun⟩

end Recovery

/-- What a transport is asked for with. -/
def Effect.created? : Effect → Option Initiation
  | .create initiation => some initiation
  | _ => none

namespace Session

/-- The transports that were asked for. -/
def creations (session : Session) : List Initiation :=
  session.launches.filterMap Effect.created?

/-- Recovery, where there is any, goes on with what it knew. -/
def Continues (before after : Session) : Prop :=
  ∀ latter, after.recovery = some latter → ∃ former, before.recovery = some former ∧ former.Continues latter

/-- Recovery, where there is any, knows these keys of the last good connection. -/
def Knows (session : Session) (keys : Option ResumeKeys) : Prop :=
  ∀ recovery, session.recovery = some recovery → recovery.keys = keys

/-- The session was neither set up nor found to be connected. -/
structure Moors (before after : Session) : Prop where
  pair : after.link.pair = before.link.pair
  resetFields : after.link.resetFields = before.link.resetFields
  status : (after.status.global = before.status.global ∧ after.status.wasConnected = before.status.wasConnected) ∨
    (after.status.global = .error ∧ after.status.wasConnected = false)

variable {first before after session : Session}

theorem Continues.of_recovery (same : after.recovery = before.recovery) : Continues before after := by
  intro latter watched
  rw [same] at watched
  exact ⟨latter, watched, .refl latter⟩

theorem Continues.refl (session : Session) : Continues session session :=
  .of_recovery rfl

theorem Continues.trans (former : Continues first before) (latter : Continues before after) : Continues first after := by
  intro last watched
  obtain ⟨middle, held, late⟩ := latter last watched
  obtain ⟨earliest, was, early⟩ := former middle held
  exact ⟨earliest, was, early.trans late⟩

/-- A restart that goes on has no more to do than before; it is the one that recovery held. -/
theorem Continues.setStage (continues : Continues first session) {restart : Restart}
    (found : first.recovery.bind (·.restart) = some restart) {stage : RestartStage}
    (onward : stage.isOutstanding = true → restart.stage.isOutstanding = true) :
    Continues first (session.setStage restart.attempt stage) := by
  intro latter watched
  obtain ⟨middle, held, rfl⟩ := Option.map_eq_some_iff.mp watched
  obtain ⟨former, was, goesOn⟩ := continues middle held
  rw [was, Option.bind_some] at found
  refine ⟨former, was, goesOn.keys, goesOn.carrier, goesOn.timer, fun moved isHeld => ?_⟩
  obtain ⟨kept, holds, rfl⟩ := Option.map_eq_some_iff.mp isHeld
  obtain ⟨begun, begins, attempt, params, outstanding⟩ := goesOn.restart kept holds
  refine ⟨begun, begins, ?_⟩
  cases found.symm.trans begins
  -- the stage is set for the attempt that asks; a later attempt keeps its own
  by_cases same : kept.attempt = restart.attempt
  · rw [if_pos same]
    exact ⟨attempt, params, onward⟩
  · rw [if_neg same]
    exact ⟨attempt, params, outstanding⟩

/-- A restart that recovery holds later is one that it held before. -/
theorem Continues.held (continues : Continues before after) {held : Restart}
    (found : after.recovery.bind (·.restart) = some held) :
    ∃ begun, before.recovery.bind (·.restart) = some begun ∧ held.attempt = begun.attempt ∧
      held.params = begun.params ∧ (held.stage.isOutstanding = true → begun.stage.isOutstanding = true) := by
  obtain ⟨latter, watched, holds⟩ := Option.bind_eq_some_iff.mp found
  obtain ⟨former, was, goesOn⟩ := continues latter watched
  obtain ⟨begun, began, same⟩ := goesOn.restart held holds
  rw [was]
  exact ⟨begun, began, same⟩

/-- Where no restart was to forget replicated data, none is later. -/
theorem Continues.keeps (continues : Continues before after)
    (keeps : ∀ held, before.recovery.bind (·.restart) = some held → held.params.resetFields = false) (held : Restart)
    (found : after.recovery.bind (·.restart) = some held) : held.params.resetFields = false := by
  obtain ⟨begun, began, -, params, -⟩ := continues.held found
  rw [params]
  exact keeps begun began

/-- Nor does a restart that has yet to set the session up change its keys on the way. -/
theorem Continues.bound {pair : KeyPair} (continues : Continues before after)
    (bound : ∀ held, before.recovery.bind (·.restart) = some held → held.stage.isOutstanding = true →
      held.params.pair = some pair) (held : Restart) (found : after.recovery.bind (·.restart) = some held)
    (outstanding : held.stage.isOutstanding = true) : held.params.pair = some pair := by
  obtain ⟨begun, began, -, params, due⟩ := continues.held found
  rw [params]
  exact bound begun began (due outstanding)

theorem Continues.knows {keys : Option ResumeKeys} (continues : Continues before after) (knows : before.Knows keys) :
    after.Knows keys := by
  intro latter watched
  obtain ⟨former, held, goesOn⟩ := continues latter watched
  exact goesOn.keys.trans (knows former held)

theorem Moors.of_bearings (same : after.bearings = before.bearings) : Moors before after where
  pair := congrArg Bearings.pair same
  resetFields := congrArg Bearings.resetFields same
  status := .inl ⟨congrArg Bearings.global same, congrArg Bearings.wasConnected same⟩

theorem Moors.refl (session : Session) : Moors session session :=
  .of_bearings rfl

theorem Moors.trans (former : Moors first before) (latter : Moors before after) : Moors first after where
  pair := latter.pair.trans former.pair
  resetFields := latter.resetFields.trans former.resetFields
  status := by
    rcases latter.status with ⟨global, wasConnected⟩ | reset
    · rw [global, wasConnected]
      exact former.status
    · exact .inr reset

theorem Drifts.continues (drift : Drifts before after) : Continues before after := by
  intro latter watched
  rcases drift.recovery with same | progressed
  · exact Continues.of_recovery same latter watched
  · rw [progressed] at watched
    obtain ⟨former, held, rfl⟩ := Option.map_eq_some_iff.mp watched
    exact ⟨former, held, former.continues_progressed⟩

theorem Drifts.moors (drift : Drifts before after) : Moors before after where
  pair := congrArg Bearings.pair drift.bearings
  resetFields := congrArg Bearings.resetFields drift.bearings
  status := .inl ⟨congrArg Bearings.global drift.bearings, congrArg Bearings.wasConnected drift.bearings⟩

/-- Progress does not bring recovery back once it gave up. -/
theorem Drifts.hasFailed (drift : Drifts before after) : after.hasFailed = before.hasFailed := by
  rcases drift.recovery with same | progressed
  · exact hasFailed_of_recovery same
  · unfold Session.hasFailed
    rw [progressed, Option.any_map]
    congr 1
    funext recovery
    cases phase : recovery.phase <;> simp [Recovery.progressed, phase]

section Operations

variable (session : Session)

theorem bearings_enterStartup : session.enterStartup.1.bearings = session.bearings := by
  unfold enterStartup
  dsimp only
  split
  · exact bearings_settleStartup _ _ _
  · rfl

theorem bearings_refuseStartup (startup : Nat) (failure : Failure) :
    (session.refuseStartup startup failure).bearings = session.bearings :=
  bearings_settleStartup _ _ _

theorem drifts_start : Drifts session session.start.1 := by
  have entered : Drifts session session.enterStartup.1 := .of_bearings session.bearings_enterStartup
  have connects (transport : Nat) : Drifts session (session.enterStartup.1.note (.connect transport)) :=
    entered.trans (.of_bearings (bearings_note _ _))
  have starts := session.startsAs_start
  generalize session.start.1 = after at starts ⊢
  cases starts with
  | unlinked => exact entered.trans (.of_bearings (bearings_refuseStartup _ _ _))
  | refused transport => exact (connects transport).trans (.of_bearings (bearings_refuseStartup _ _ _))
  | pushing transport => exact (connects transport).trans (.of_bearings rfl)
  | byHand transport => exact (connects transport).trans (drifts_setBuildup _ _)
  | waiting transport => exact connects transport

theorem drifts_runPush (publicKey : Cipher.Key) : Drifts session (session.runPush publicKey) := by
  obtain ⟨push, sent, sends, shown⟩ := session.runPush_cases publicKey
  have same : sent.bearings = session.bearings := by
    rcases sends with rfl | ⟨request, rfl⟩
    · rfl
    · exact bearings_note _ _
  rcases shown with done | done
  · rw [done]
    exact .of_bearings same
  · rw [done]
    exact (Drifts.of_bearings same).trans (drifts_setBuildup _ _)

theorem bearings_resetStatus (forgetUnread : Bool) :
    (session.resetStatus forgetUnread).bearings =
      { session.bearings with global := .error, wasConnected := false } := by
  have tracks := session.status.tracks_reset forgetUnread session.now
  simp only [Status.tracks, Prod.mk.injEq] at tracks
  have recovery := session.resetStatus_recovery forgetUnread
  unfold resetStatus at recovery ⊢
  rw [bearings_applyStatus, recovery, tracks.2.2.1, tracks.2.2.2]
  rfl

theorem moors_takeDown (options : StopOptions) : Moors session (session.takeDown options) := by
  have link : (session.takeDown options).link = session.link.takenDown :=
    congrArg SessionCore.link (session.core_takeDown options)
  obtain ⟨former, now, status⟩ := session.status_takeDown options
  have tracks := former.tracks_reset true now
  rw [← status] at tracks
  simp only [Status.tracks, Prod.mk.injEq] at tracks
  refine ⟨?_, ?_, .inr ⟨tracks.2.2.1, tracks.2.2.2⟩⟩
  · rw [link]
    rfl
  · rw [link]
    rfl

theorem moors_stop (options : StopOptions) : Moors session (session.stop options) := by
  have down := session.moors_takeDown options
  unfold stop
  dsimp only
  split
  · exact down.trans (.of_bearings (bearings_note _ _))
  · exact down

theorem moors_giveUp (keys : Option ResumeKeys) : Moors session (session.giveUp keys) :=
  (session.moors_stop .givingUp).trans (.of_bearings (bearings_note _ _))

/-- Where recovery gives up, it stops the session and is called off. -/
theorem moors_perform_giveUp (recovery : Recovery) : Moors session (session.perform recovery .giveUp) := by
  have gaveUp := moors_giveUp { session with recovery := some (recovery.next session .giveUp) } recovery.keys
  exact ⟨gaveUp.pair, gaveUp.resetFields, gaveUp.status⟩

theorem continues_perform_giveUp {recovery : Recovery} (watched : session.recovery = some recovery) :
    Continues session (session.perform recovery .giveUp) := by
  intro latter held
  rw [perform_recovery] at held
  cases held
  exact ⟨recovery, watched, recovery.continues_calledOff .failed⟩

theorem spares_perform_giveUp {keys : Option ResumeKeys} (knows : session.Knows keys) {recovery : Recovery}
    (watched : session.recovery = some recovery) (going : recovery.phase ≠ .failed) :
    Spares keys session (session.perform recovery .giveUp) := by
  have gaveUp := belongings_giveUp { session with recovery := some (recovery.next session .giveUp) } recovery.keys
  have before : session.hasFailed = false := by
    unfold Session.hasFailed
    rw [watched]
    exact beq_false_of_ne going
  have after : (session.perform recovery .giveUp).hasFailed = true := by
    unfold Session.hasFailed
    rw [perform_recovery]
    rfl
  have given : surrendered keys session (session.perform recovery .giveUp) =
      if session.headless then [] else [keys] := by
    unfold surrendered
    rw [before, after]
    cases session.headless <;> rfl
  refine ⟨?_, fun _ => after⟩
  rw [given, ← knows recovery watched]
  exact gaveUp

/-- A start that failed makes recovery give up, unless a later attempt is under way. -/
theorem failAttempt_cases (attempt : Nat) : session.failAttempt attempt = session ∨
    ∃ recovery, session.recovery = some recovery ∧ recovery.phase ≠ .failed ∧
      session.failAttempt attempt = session.perform recovery .giveUp := by
  unfold failAttempt
  split
  · next recovery watched =>
      split
      · next current => exact .inr ⟨recovery, watched, current.2, rfl⟩
      · exact .inl rfl
  · exact .inl rfl

theorem moors_failAttempt (attempt : Nat) : Moors session (session.failAttempt attempt) := by
  rcases session.failAttempt_cases attempt with same | ⟨recovery, -, -, fails⟩
  · rw [same]
    exact .refl session
  · rw [fails]
    exact session.moors_perform_giveUp recovery

theorem continues_failAttempt (attempt : Nat) : Continues session (session.failAttempt attempt) := by
  rcases session.failAttempt_cases attempt with same | ⟨recovery, watched, -, fails⟩
  · rw [same]
    exact .refl session
  · rw [fails]
    exact session.continues_perform_giveUp watched

theorem spares_failAttempt {keys : Option ResumeKeys} (knows : session.Knows keys) (attempt : Nat) :
    Spares keys session (session.failAttempt attempt) := by
  rcases session.failAttempt_cases attempt with same | ⟨recovery, watched, going, fails⟩
  · rw [same]
    exact .refl keys session
  · rw [fails]
    exact session.spares_perform_giveUp knows watched going

theorem moors_setStage (attempt : Nat) (stage : RestartStage) : Moors session (session.setStage attempt stage) :=
  ⟨rfl, rfl, .inl ⟨rfl, rfl⟩⟩

theorem transports_start : session.start.1.transports = session.transports := by
  have entered : session.enterStartup.1.transports = session.transports := by
    unfold enterStartup
    dsimp only
    split
    · exact congrArg SessionCore.transports (core_settleStartup _ _ _)
    · rfl
  obtain ⟨launches, starts | ⟨failure, fails⟩⟩ := session.core_start
  · exact (congrArg SessionCore.transports starts).trans entered
  · exact (congrArg SessionCore.transports fails).trans entered

theorem transports_giveUp (keys : Option ResumeKeys) : (session.giveUp keys).transports = session.transports := by
  have quiet : (Effect.navigate keys).isLaunch = false := rfl
  have noted := congrArg SessionCore.transports ((session.stop .givingUp).core_note quiet)
  exact noted.trans (congrArg SessionCore.transports (session.core_stop .givingUp))

theorem transports_failAttempt (attempt : Nat) : (session.failAttempt attempt).transports = session.transports := by
  unfold failAttempt
  split
  · split
    · exact transports_giveUp _ _
    · rfl
  · rfl

theorem creations_of_launches {before after : Session} (same : after.launches = before.launches) :
    after.creations = before.creations :=
  congrArg (List.filterMap Effect.created?) same

theorem creations_note (effect : Effect) :
    (session.note effect).creations = session.creations ++ effect.created?.toList := by
  unfold creations
  rw [launches_note]
  cases effect <;> simp [Effect.isLaunch, Effect.created?]

/-- A start connects over the transport that is there. -/
theorem creations_start : session.start.1.creations = session.creations := by
  have settled (session : Session) (startup : Nat) (result : Except Failure Unit) :
      (session.settleStartup startup result).creations = session.creations :=
    creations_of_launches (congrArg SessionCore.launches (session.core_settleStartup startup result))
  have entered : session.enterStartup.1.creations = session.creations := by
    unfold enterStartup
    dsimp only
    split
    · exact settled _ _ _
    · rfl
  have connects (transport : Nat) :
      (session.enterStartup.1.note (.connect transport)).creations = session.creations := by
    rw [creations_note, entered]
    exact List.append_nil _
  have starts := session.startsAs_start
  generalize session.start.1 = after at starts ⊢
  cases starts with
  | unlinked => exact (settled _ _ _).trans entered
  | refused transport => exact (settled _ _ _).trans (connects transport)
  | pushing transport => exact connects transport
  | byHand transport =>
      exact (creations_of_launches (congrArg SessionCore.launches (core_setBuildup _ _))).trans (connects transport)
  | waiting transport => exact connects transport

end Operations

/-- A session that was just set up: its keys, and whether replicated data is forgotten. -/
structure IsSetUp (session : Session) (params : InitParams) : Prop where
  linked : session.link.pair.isSome = true
  pair : ∀ pair, params.pair = some pair → session.link.pair = some pair
  resetFields : session.link.resetFields = params.resetFields
  global : session.status.global = .error
  wasConnected : session.status.wasConnected = false

/-- Whatever it comes to, a set-up asks for one transport with the keys that it was given. -/
structure Initiates (params : InitParams) (before : Session) (setUp : Session × Except Failure Unit) : Prop where
  creations : ∃ initiation, setUp.1.creations = before.creations ++ [initiation] ∧
    initiation.trustedPeer = params.trustedPeer ∧ ∀ pair, params.pair = some pair → initiation.pair = pair
  recovery : setUp.1.recovery = before.recovery
  outcome : (setUp.2 = .ok () ∧ setUp.1.IsSetUp params) ∨
    (setUp.2 ≠ .ok () ∧ Moors before setUp.1 ∧ setUp.1.transports = before.transports)

theorem initiates_init (session : Session) (params : InitParams) : Initiates params session (session.init params) := by
  have core := (core_pairFor (session.resetStatus false) params).trans (core_resetStatus session false)
  have bearings := session.bearings_resetStatus false
  have same : ((session.resetStatus false).pairFor params).1.bearings = (session.resetStatus false).bearings := by
    unfold pairFor
    split <;> rfl
  have chosen : ∀ pair, params.pair = some pair → ((session.resetStatus false).pairFor params).2 = pair := by
    intro pair given
    unfold pairFor
    rw [given]
  rw [bearings] at same
  unfold init
  generalize (session.resetStatus false).pairFor params = result at core same chosen
  obtain ⟨prepared, pair⟩ := result
  dsimp only at core same chosen ⊢
  have created (initiation : Initiation) : (prepared.note (.create initiation)).creations =
      session.creations ++ [initiation] := by
    rw [← creations_of_launches (congrArg SessionCore.launches core)]
    exact creations_note _ _
  have noted (initiation : Initiation) : (prepared.note (.create initiation)).bearings =
      { session.bearings with global := .error, wasConnected := false } := by
    rw [bearings_note, same]
  have transports (initiation : Initiation) :
      (prepared.note (.create initiation)).transports = session.transports := by
    have counted := congrArg SessionCore.transports (prepared.core_note_eq (.create initiation))
    exact counted.trans (congrArg SessionCore.transports core)
  unfold ask
  cases prepared.surroundings.failure? .create with
  | some failure =>
      -- the former link stays, but the status was reset before the transport was asked for
      refine ⟨⟨_, created _, rfl, chosen⟩, congrArg Bearings.recovery (noted _),
        .inr ⟨nofun, ⟨?_, ?_, .inr ⟨?_, ?_⟩⟩, transports _⟩⟩
      · exact congrArg Bearings.pair (noted _)
      · exact congrArg Bearings.resetFields (noted _)
      · exact congrArg Bearings.global (noted _)
      · exact congrArg Bearings.wasConnected (noted _)
  | none =>
      refine ⟨⟨_, created _, rfl, chosen⟩, congrArg Bearings.recovery (noted _),
        .inl ⟨rfl, rfl, ?_, rfl, ?_, ?_⟩⟩
      · intro given same
        exact congrArg some (chosen given same)
      · exact congrArg Bearings.global (noted _)
      · exact congrArg Bearings.wasConnected (noted _)

theorem isSetUp_of_init {params : InitParams} (succeeded : session.init params = (after, .ok ())) :
    after.IsSetUp params := by
  have initiates := session.initiates_init params
  rw [succeeded] at initiates
  rcases initiates.outcome with ⟨-, setUp⟩ | ⟨failed, -⟩
  · exact setUp
  · exact absurd rfl failed

end Session

end RelayClient
