import RelayClient.Proofs.Replica.Queue
import RelayClient.Proofs.Session.Attempts

/-!
# Data kept across connections

What a session keeps for its user outlives a connection: the trusted keys, the push
token, and all replicated data but who is typing. A restart of the session leaves them
alone, as does a soft stop, and so does a channel that is opened without a reset.
-/

namespace RelayClient

/-- The keys that the frontend returns to the pairing screen with. -/
def Effect.handed? : Effect → Option (Option ResumeKeys)
  | .navigate keys => some keys
  | _ => none

/-- What a session keeps for its user. -/
structure Belongings where
  keys : KeyStore
  token : Option PushToken
  /-- The replicated data, with nobody typing. -/
  data : Replica.AppData
  /-- There is no frontend to give anything to. -/
  headless : Bool
  /-- What the frontend was given so far when it returned to the pairing screen. -/
  handed : List (Option ResumeKeys)

/-- A push goes out with the token that is held. -/
theorem PushService.token_send (service : PushService) (publicKey : Cipher.Key) (now : Nat) :
    (service.send publicKey now).1.token = service.token := by
  unfold send
  cases held : service.token with
  | none => exact held
  | some token =>
      dsimp only
      split
      · exact held
      · rfl

/-- Whether a stop leaves the belongings of a session alone. -/
def StopOptions.isSparing (options : StopOptions) : Bool :=
  !options.deletes && !options.clearsData && !options.dropsPush

namespace Session

def belongings (session : Session) : Belongings :=
  ⟨session.keys, session.push.token, session.replica.data.clearTyping, session.headless,
    session.effects.filterMap Effect.handed?⟩

variable {first before after : Session}

/-- Recovery has given up. -/
def hasFailed (session : Session) : Bool :=
  session.recovery.any (·.phase == .failed)

/-- What the frontend is given on the way from one session to another, where there is one: the
keys, if recovery gives up. -/
def surrendered (keys : Option ResumeKeys) (before after : Session) : List (Option ResumeKeys) :=
  if !before.headless && !before.hasFailed && after.hasFailed then [keys] else []

/-- All belongings are kept. The frontend returns to the pairing screen just where recovery
gives up, and then with these keys. -/
structure Spares (keys : Option ResumeKeys) (before after : Session) : Prop where
  belongings : after.belongings =
    { before.belongings with handed := before.belongings.handed ++ surrendered keys before after }
  failed : before.hasFailed = true → after.hasFailed = true

theorem Spares.of_eq {keys : Option ResumeKeys} (same : after.belongings = before.belongings)
    (failed : after.hasFailed = before.hasFailed) : Spares keys before after where
  belongings := by
    have none : surrendered keys before after = [] := by
      unfold surrendered
      rw [failed, Bool.and_assoc, Bool.not_and_self, Bool.and_false]
      rfl
    rw [same, none, List.append_nil]
  failed held := failed.trans held

theorem Spares.refl (keys : Option ResumeKeys) (session : Session) : Spares keys session session :=
  .of_eq rfl rfl

theorem Spares.trans {keys : Option ResumeKeys} (former : Spares keys first before) (latter : Spares keys before after) :
    Spares keys first after where
  belongings := by
    have headless : before.headless = first.headless := congrArg Belongings.headless former.belongings
    -- recovery that gave up early on does not do so again
    have both : surrendered keys first before ++ surrendered keys before after = surrendered keys first after := by
      have early := former.failed
      have late := latter.failed
      unfold surrendered
      rw [headless]
      revert early late
      cases first.hasFailed <;> cases before.hasFailed <;> cases after.hasFailed <;> simp
    rw [latter.belongings, former.belongings, List.append_assoc, both]
  failed held := latter.failed (former.failed held)

variable (session : Session)

theorem belongings_note {effect : Effect} (quiet : effect.handed? = none) :
    (session.note effect).belongings = session.belongings := by
  unfold belongings note
  split
  · rfl
  · dsimp only
    rw [List.filterMap_append, List.filterMap_cons_none quiet, List.filterMap_nil, List.append_nil]

/-- Without a frontend nothing is handed to it. -/
theorem belongings_navigate (keys : Option ResumeKeys) :
    (session.note (.navigate keys)).belongings =
      { session.belongings with
        handed := session.belongings.handed ++ if session.headless then [] else [keys] } := by
  cases headless : session.headless with
  | true =>
      have unseen : session.note (.navigate keys) = session := by
        unfold note
        rw [headless]
        rfl
      rw [unseen, if_pos rfl, List.append_nil]
  | false =>
      have seen : session.note (.navigate keys) =
          { session with effects := session.effects ++ [.navigate keys] } := by
        unfold note
        rw [headless]
        rfl
      rw [seen, if_neg Bool.false_ne_true]
      unfold belongings
      rw [List.filterMap_append]
      rfl

theorem belongings_settleStartup (startup : Nat) (result : Except Failure Unit) :
    (session.settleStartup startup result).belongings = session.belongings := by
  obtain ⟨ready, same⟩ := session.settleStartup_frame startup result
  rw [same]
  rfl

theorem belongings_pairFor (params : InitParams) : (session.pairFor params).1.belongings = session.belongings := by
  unfold pairFor
  split <;> rfl

theorem belongings_postMessage (message : Message) :
    (session.postMessage message).1.belongings = session.belongings := by
  unfold postMessage
  split
  · exact belongings_note _ rfl
  · rfl

theorem belongings_postAll (messages : List Message) : (session.postAll messages).belongings = session.belongings := by
  unfold postAll
  induction messages generalizing session with
  | nil => rfl
  | cons message rest ih => rw [List.foldl_cons, ih, belongings_postMessage]

theorem belongings_tellPeer (options : StopOptions) (transport : Option Nat) :
    (session.tellPeer options transport).belongings = session.belongings := by
  unfold tellPeer
  cases transport with
  | none => exact belongings_postMessage _ _
  | some transport => exact (belongings_note _ rfl).trans (belongings_postMessage _ _)

theorem belongings_noteFor {α : Type} {effect : α → Effect} (quiet : ∀ thing, (effect thing).handed? = none)
    (thing : Option α) : (session.noteFor effect thing).belongings = session.belongings := by
  cases thing with
  | none => rfl
  | some thing => exact belongings_note _ (quiet thing)

theorem belongings_closeLink (link : Link) : (session.closeLink link).belongings = session.belongings := by
  unfold closeLink
  rw [belongings_noteFor _ fun _ => rfl, belongings_noteFor _ fun _ => rfl, belongings_noteFor _ fun _ => rfl]

theorem belongings_beginRecovery (recovery : Recovery) (phase : RecoveryPhase) (delay : Nat) :
    (session.beginRecovery recovery phase delay).belongings = session.belongings := by
  obtain ⟨next, ready, same⟩ := session.beginRecovery_frame recovery phase delay
  rw [same]
  rfl

/-- Recovery that learns of a loss forgets who is typing, and nothing else. -/
theorem belongings_reactTo (event : StatusEvent) : (session.reactTo event).belongings = session.belongings := by
  unfold reactTo
  split
  · split
    · rfl
    split
    · unfold loseConnection
      split
      · exact belongings_beginRecovery _ _ _ _
      · exact belongings_beginRecovery _ _ _ _
      · rfl
    · rfl
  · split <;> rfl
  · rfl

theorem belongings_postStatus (events : List StatusEvent) :
    (session.postStatus events).belongings = session.belongings := by
  unfold postStatus
  induction events generalizing session with
  | nil => rfl
  | cons event rest ih => rw [List.foldl_cons, ih, belongings_reactTo, belongings_note _ rfl]

theorem belongings_applyStatus (update : Status × List StatusEvent) :
    (session.applyStatus update).belongings = session.belongings :=
  belongings_postStatus _ _

theorem belongings_setBuildup (state : Buildup) : (session.setBuildup state).belongings = session.belongings :=
  belongings_applyStatus _ _

theorem belongings_resetStatus (forgetUnread : Bool) :
    (session.resetStatus forgetUnread).belongings = session.belongings :=
  belongings_applyStatus _ _

variable {options : StopOptions}

theorem belongings_forget (sparing : options.isSparing = true) :
    (session.forget options).belongings = session.belongings := by
  simp only [StopOptions.isSparing, Bool.and_eq_true, Bool.not_eq_true'] at sparing
  obtain ⟨⟨keys, data⟩, push⟩ := sparing
  unfold forget belongings
  simp only [keys, data, push, Bool.false_eq_true, if_false]

theorem belongings_takeDown (sparing : options.isSparing = true) :
    (session.takeDown options).belongings = session.belongings := by
  have told (closed : Session) (tells : Bool) :
      (if tells then closed.tellPeer options session.link.transport else closed).belongings = closed.belongings := by
    cases tells with
    | true => exact belongings_tellPeer _ _ _
    | false => rfl
  have messenger (closed : Session) (messenger : Messenger Channel) :
      { closed with messenger }.belongings = closed.belongings := rfl
  unfold takeDown
  rw [belongings_closeLink]
  dsimp only
  rw [messenger]
  cases session.link.startup with
  | none =>
      dsimp only
      rw [belongings_forget _ sparing, belongings_resetStatus, told]
      rfl
  | some startup =>
      dsimp only
      rw [belongings_settleStartup, belongings_forget _ sparing, belongings_resetStatus, told]
      rfl

/-- A stop that forgets nothing and leaves the frontend where it is. -/
theorem belongings_stop (sparing : options.isSparing = true) (stays : options.redirect = false) :
    (session.stop options).belongings = session.belongings := by
  unfold stop
  rw [stays]
  exact session.belongings_takeDown sparing

theorem belongings_asked {session after : Session} {call : OutsideCall} {effect : Effect} {result : Except Failure Unit}
    (same : session.ask call effect = (after, result)) (quiet : effect.handed? = none) :
    after.belongings = session.belongings := by
  cases same
  exact session.belongings_note quiet

theorem belongings_init (params : InitParams) : (session.init params).1.belongings = session.belongings := by
  have paired := ((session.resetStatus false).belongings_pairFor params).trans (session.belongings_resetStatus false)
  unfold init
  generalize (session.resetStatus false).pairFor params = result at paired
  obtain ⟨prepared, pair⟩ := result
  dsimp only
  split
  · next same => exact (belongings_asked same rfl).trans paired
  · next same => exact (belongings_asked same rfl).trans paired

theorem belongings_enterStartup : session.enterStartup.1.belongings = session.belongings := by
  unfold enterStartup
  dsimp only
  split
  · exact belongings_settleStartup _ _ _
  · rfl

theorem belongings_refuseStartup (startup : Nat) (failure : Failure) :
    (session.refuseStartup startup failure).belongings = session.belongings :=
  belongings_settleStartup _ _ _

theorem belongings_start : session.start.1.belongings = session.belongings := by
  have entered := session.belongings_enterStartup
  have connects (transport : Nat) :
      (session.enterStartup.1.note (.connect transport)).belongings = session.belongings :=
    (belongings_note _ rfl).trans entered
  have starts := session.startsAs_start
  generalize session.start.1 = after at starts ⊢
  cases starts with
  | unlinked => exact (belongings_refuseStartup _ _ _).trans entered
  | refused transport => exact (belongings_refuseStartup _ _ _).trans (connects transport)
  | pushing transport => exact connects transport
  | byHand transport => exact (belongings_setBuildup _ _).trans (connects transport)
  | waiting transport => exact connects transport

theorem belongings_runPush (publicKey : Cipher.Key) : (session.runPush publicKey).belongings = session.belongings := by
  have token := session.push.token_send publicKey session.now
  unfold runPush
  generalize session.push.send publicKey session.now = sending at token
  obtain ⟨push, request⟩ := sending
  dsimp only at token ⊢
  have held : { session with push }.belongings = session.belongings := by
    unfold belongings
    rw [token]
  have shown (sent : Session) (same : sent.belongings = session.belongings) :
      (sent.setBuildup .push).belongings = session.belongings :=
    (sent.belongings_setBuildup .push).trans same
  cases request with
  | none => split <;> first | exact shown _ held | exact held
  | some request =>
      have noted : (note { session with push } (.push request)).belongings = session.belongings :=
        (belongings_note _ rfl).trans held
      split <;> first | exact shown _ noted | exact noted

theorem belongings_setStage (attempt : Nat) (stage : RestartStage) :
    (session.setStage attempt stage).belongings = session.belongings := rfl

theorem belongings_becomeReady : session.becomeReady.belongings = session.belongings := by
  have done := session.belongings_setBuildup .done
  unfold becomeReady
  dsimp only
  split
  · exact (belongings_settleStartup _ _ _).trans done
  · exact done

theorem belongings_takeNotices (notices : List Notice) :
    (notices.foldl takeNotice session).belongings = session.belongings := by
  induction notices generalizing session with
  | nil => rfl
  | cons notice rest ih =>
      rw [List.foldl_cons, ih]
      cases notice with
      | unread count => rfl
      | disconnected reason => rfl
      | startFinished number => exact belongings_becomeReady _

/-- Recovery that gives up hands the old keys to the frontend. -/
theorem belongings_giveUp (keys : Option ResumeKeys) :
    (session.giveUp keys).belongings =
      { session.belongings with
        handed := session.belongings.handed ++ if session.headless then [] else [keys] } := by
  have stopped : (session.stop .givingUp).belongings = session.belongings := session.belongings_stop rfl rfl
  have headless : (session.stop .givingUp).headless = session.headless := congrArg Belongings.headless stopped
  unfold giveUp
  rw [belongings_navigate, stopped, headless]

theorem hasFailed_of_recovery {before after : Session} (same : after.recovery = before.recovery) :
    after.hasFailed = before.hasFailed := by
  unfold hasFailed
  rw [same]

theorem hasFailed_setStage (attempt : Nat) (stage : RestartStage) :
    (session.setStage attempt stage).hasFailed = session.hasFailed := by
  unfold hasFailed setStage
  rw [Option.any_map]

end Session

/-- What waits for the initial steps of a start stores nothing. -/
theorem Replica.data_runAfter_finishStart (replica : Replica) (number : Nat) :
    (replica.runAfter InitStep.all (.finishStart number)).1.data = replica.data := by
  have finishing (list : List Pack.Value) :
      .storeConversations list ∉ (replica.gate.runAfter InitStep.all (.finishStart number)).2 := by
    unfold StepGate.runAfter
    split <;> simp
  unfold runAfter
  dsimp only
  rw [release_of_finishing _ _ _ finishing]

/-- A channel that opens without a reset keeps replicated data. -/
theorem Session.belongings_openChannel (session : Session) (keeps : session.link.resetFields = false) :
    session.openChannel.belongings = session.belongings := by
  unfold openChannel
  split
  · rfl
  · rw [keeps]
    dsimp only
    rw [belongings_postAll, belongings_takeNotices]
    have awaited (loaded : Session) (same : loaded.belongings = session.belongings) (number : Nat) :
        { loaded with replica := (loaded.replica.runAfter InitStep.all (.finishStart number)).1 }.belongings =
          session.belongings := by
      rw [← same]
      unfold belongings
      dsimp only
      rw [Replica.data_runAfter_finishStart]
    refine awaited _ ?_ _
    exact belongings_setBuildup _ _

end RelayClient
