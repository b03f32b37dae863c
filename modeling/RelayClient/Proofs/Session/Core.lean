import RelayClient.Proofs.Session.Scheduling

/-!
# The core of a session

Whether a session is ready, and when it sets out to connect, depends on its core:
the link, the starts, the gate of the initial steps and the attempts made so far.
Most of what a session does leaves the core alone; a stop empties the link and
settles the start that waits.
-/

namespace RelayClient

/-- Whether an effect sets out to connect. -/
def Effect.isLaunch : Effect → Bool
  | .create _ | .connect _ => true
  | _ => false

structure SessionCore where
  link : Link
  startups : List (Option (Except Failure Unit))
  gate : StepGate Continuation
  /-- Transports created so far. -/
  transports : Nat
  /-- What was done so far to connect. -/
  launches : List Effect

/-- A link that is taken down; the keys it was set up with are kept. -/
def Link.takenDown (link : Link) : Link :=
  { link with
    transport := none
    peer := none
    channel := none
    task := none
    startup := none
    startupDone := false
    pump := none }

namespace Session

def launches (session : Session) : List Effect :=
  session.effects.filter Effect.isLaunch

def core (session : Session) : SessionCore :=
  ⟨session.link, session.startups, session.replica.gate, session.transports, session.launches⟩

theorem launches_note (session : Session) (effect : Effect) :
    (session.note effect).launches =
      if effect.isLaunch then session.launches ++ [effect] else session.launches := by
  unfold note
  split
  · next hidden =>
      -- What concerns the frontend never sets out to connect.
      have quiet : effect.isLaunch = false := by
        cases effect <;> first | rfl | simp [Effect.isShown] at hidden
      rw [quiet, if_neg Bool.false_ne_true]
  · unfold launches
    rw [List.filter_append]
    cases launch : effect.isLaunch with
    | true => rw [List.filter_cons_of_pos launch, List.filter_nil, if_pos rfl]
    | false => rw [List.filter_cons_of_neg (by rw [launch]; exact Bool.false_ne_true), List.filter_nil,
        List.append_nil, if_neg Bool.false_ne_true]

theorem core_note (session : Session) {effect : Effect} (quiet : effect.isLaunch = false) :
    (session.note effect).core = session.core := by
  have same := session.launches_note effect
  rw [quiet, if_neg Bool.false_ne_true] at same
  unfold core
  rw [same]
  unfold note
  split <;> rfl

/-- To begin a phase changes recovery, and makes tasks ready. -/
theorem beginRecovery_frame (session : Session) (recovery : Recovery) (phase : RecoveryPhase) (delay : Nat) :
    ∃ next ready, session.beginRecovery recovery phase delay = { session with recovery := next, ready } := by
  unfold beginRecovery
  dsimp only
  split <;> exact ⟨_, _, rfl⟩

/-- Recovery that learns of an event changes itself, makes tasks ready, and forgets who is typing. -/
theorem reactTo_frame (session : Session) (event : StatusEvent) :
    ∃ data next ready,
      session.reactTo event = { session with replica := { session.replica with data }, recovery := next, ready } := by
  have same : ∃ data next ready,
      session = { session with replica := { session.replica with data }, recovery := next, ready } := ⟨_, _, _, rfl⟩
  unfold reactTo
  split
  · split
    · exact ⟨_, _, _, rfl⟩
    split
    · unfold loseConnection
      split
      · obtain ⟨next, ready, begun⟩ := beginRecovery_frame _ _ _ _
        exact ⟨_, next, ready, begun⟩
      · obtain ⟨next, ready, begun⟩ := beginRecovery_frame _ _ _ _
        exact ⟨_, next, ready, begun⟩
      · exact ⟨_, _, _, rfl⟩
    · exact same
  · split
    · exact ⟨_, _, _, rfl⟩
    · exact same
  · exact same

/-- To settle a start changes the starts, and may wake a restart that waits for it. -/
theorem settleStartup_frame (session : Session) (startup : Nat) (result : Except Failure Unit) : ∃ ready,
    session.settleStartup startup result =
      { session with startups := session.startups.set startup (some result), ready } := by
  unfold settleStartup
  dsimp only
  split
  · split <;> exact ⟨_, rfl⟩
  · exact ⟨_, rfl⟩

theorem core_beginRecovery (session : Session) (recovery : Recovery) (phase : RecoveryPhase) (delay : Nat) :
    (session.beginRecovery recovery phase delay).core = session.core := by
  obtain ⟨next, ready, same⟩ := session.beginRecovery_frame recovery phase delay
  rw [same]
  rfl

/-- Recovery may make tasks ready, but it sets out for nothing by itself. -/
theorem core_reactTo (session : Session) (event : StatusEvent) : (session.reactTo event).core = session.core := by
  obtain ⟨data, next, ready, same⟩ := session.reactTo_frame event
  rw [same]
  rfl

theorem core_postStatus (session : Session) (events : List StatusEvent) :
    (session.postStatus events).core = session.core := by
  unfold postStatus
  induction events generalizing session with
  | nil => rfl
  | cons event rest ih => rw [List.foldl_cons, ih, core_reactTo, core_note _ rfl]

theorem core_applyStatus (session : Session) (update : Status × List StatusEvent) :
    (session.applyStatus update).core = session.core :=
  core_postStatus _ _

theorem core_setBuildup (session : Session) (state : Buildup) : (session.setBuildup state).core = session.core :=
  core_applyStatus _ _

theorem core_reportSignaling (session : Session) (state : SignalingState) :
    (session.reportSignaling state).core = session.core :=
  core_applyStatus _ _

theorem core_reportTask (session : Session) (state : TaskState) : (session.reportTask state).core = session.core :=
  core_applyStatus _ _

theorem core_resetStatus (session : Session) (forgetUnread : Bool) :
    (session.resetStatus forgetUnread).core = session.core :=
  core_applyStatus _ _

theorem core_postMessage (session : Session) (message : Message) :
    (session.postMessage message).1.core = session.core := by
  unfold postMessage
  split
  · exact core_note _ rfl
  · rfl

theorem core_postAll (session : Session) (messages : List Message) :
    (session.postAll messages).core = session.core := by
  unfold postAll
  induction messages generalizing session with
  | nil => rfl
  | cons message rest ih => rw [List.foldl_cons, ih, core_postMessage]

theorem core_tellPeer (session : Session) (options : StopOptions) (transport : Option Nat) :
    (session.tellPeer options transport).core = session.core := by
  unfold tellPeer
  cases transport with
  | none => exact core_postMessage _ _
  | some transport => exact (core_note _ rfl).trans (core_postMessage _ _)

theorem core_noteFor {α : Type} (session : Session) {effect : α → Effect} (quiet : ∀ thing, (effect thing).isLaunch = false)
    (thing : Option α) : (session.noteFor effect thing).core = session.core := by
  cases thing with
  | none => rfl
  | some thing => exact core_note _ (quiet thing)

theorem core_closeLink (session : Session) (link : Link) : (session.closeLink link).core = session.core := by
  unfold closeLink
  rw [core_noteFor _ fun _ => rfl, core_noteFor _ fun _ => rfl, core_noteFor _ fun _ => rfl]

theorem core_forget (session : Session) (options : StopOptions) : (session.forget options).core = session.core := by
  unfold forget
  cases options.clearsData <;> rfl

theorem core_settleStartup (session : Session) (startup : Nat) (result : Except Failure Unit) :
    (session.settleStartup startup result).core =
      { session.core with startups := session.core.startups.set startup (some result) } := by
  obtain ⟨ready, same⟩ := session.settleStartup_frame startup result
  rw [same]
  rfl

theorem core_wake (session : Session) : session.wake.core = session.core := by
  apply wake_induction (motive := fun current => current.core = session.core) rfl
  intro current timed _ same
  rw [← same]
  unfold endPause
  split <;> rfl

/-- The starts once one of them is settled, if there is one to settle. -/
def settled (startups : List (Option (Except Failure Unit))) (startup : Option Nat) (result : Except Failure Unit) :
    List (Option (Except Failure Unit)) :=
  match startup with
  | some startup => startups.set startup (some result)
  | none => startups

/-- The push of a start may go out, and the buildup may show it. -/
theorem runPush_cases (session : Session) (publicKey : Cipher.Key) : ∃ push sent,
    (sent = { session with push } ∨ ∃ request, sent = { session with push }.note (.push request)) ∧
      (session.runPush publicKey = sent ∨ session.runPush publicKey = sent.setBuildup .push) := by
  unfold runPush
  generalize session.push.send publicKey session.now = sending
  obtain ⟨push, request⟩ := sending
  cases request with
  | none =>
      refine ⟨push, _, .inl rfl, ?_⟩
      dsimp only
      split
      all_goals first
        | exact .inl rfl
        | exact .inr rfl
  | some request =>
      refine ⟨push, _, .inr ⟨request, rfl⟩, ?_⟩
      dsimp only
      split
      all_goals first
        | exact .inl rfl
        | exact .inr rfl

/-- What becomes of a start that was entered. -/
inductive StartsAs (entered : Session) (startup : Nat) : Session → Prop
  /-- There is nothing to connect. -/
  | unlinked (failure : Failure) : StartsAs entered startup (entered.refuseStartup startup failure)
  /-- The transport does not connect. -/
  | refused (transport : Nat) (failure : Failure) :
      StartsAs entered startup ((entered.note (.connect transport)).refuseStartup startup failure)
  | pushing (transport : Nat) (publicKey : Cipher.Key) :
      StartsAs entered startup ((entered.note (.connect transport)).spawn (.push publicKey))
  /-- The device is to be woken by hand. -/
  | byHand (transport : Nat) : StartsAs entered startup ((entered.note (.connect transport)).setBuildup .manualStart)
  | waiting (transport : Nat) : StartsAs entered startup (entered.note (.connect transport))

theorem startsAs_start (session : Session) :
    StartsAs session.enterStartup.1 session.enterStartup.2 session.start.1 := by
  unfold start
  generalize session.enterStartup = result
  obtain ⟨entered, startup⟩ := result
  dsimp only
  split
  · next transport pair _ _ =>
      unfold ask
      cases entered.surroundings.failure? .connect with
      | some failure => exact .refused transport failure
      | none =>
          dsimp only
          split
          · exact .pushing transport pair.publicKey
          split
          · exact .byHand transport
          · exact .waiting transport
  · exact .unlinked _

/-- A direct connection may be refused at once. Else its peer takes the signaling over, or fails to. -/
theorem connectDirectly_cases (session : Session) (transport : Nat) :
    let made := session.note (.createPeer transport)
    (session.connectDirectly transport).1 = made ∨
      (session.connectDirectly transport).1 =
        { made with link := { made.link with peer := some transport } }.note (.handover transport) := by
  unfold connectDirectly ask
  cases session.surroundings.failure? .createPeer with
  | some failure => exact .inl rfl
  | none => exact .inr rfl

theorem core_runPush (session : Session) (publicKey : Cipher.Key) :
    (session.runPush publicKey).core = session.core := by
  obtain ⟨push, sent, sends, shown⟩ := session.runPush_cases publicKey
  have same : sent.core = session.core := by
    rcases sends with rfl | ⟨request, rfl⟩
    · rfl
    · exact core_note _ rfl
  rcases shown with done | done
  · rw [done, same]
  · rw [done, core_setBuildup, same]

theorem core_messenger (session : Session) (messenger : Messenger Channel) :
    { session with messenger }.core = session.core := rfl

theorem core_takeDown (session : Session) (options : StopOptions) :
    (session.takeDown options).core =
      { session.core with
        link := session.link.takenDown
        startups := settled session.startups session.link.startup (.error .stopped) } := by
  have told (closed : Session) (tells : Bool) :
      (if tells then closed.tellPeer options session.link.transport else closed).core = closed.core := by
    cases tells with
    | true => exact core_tellPeer _ _ _
    | false => rfl
  unfold takeDown
  rw [core_closeLink]
  dsimp only
  rw [core_messenger]
  cases session.link.startup with
  | none =>
      dsimp only
      rw [core_forget, core_resetStatus, told]
      rfl
  | some startup =>
      dsimp only
      rw [core_settleStartup, core_forget, core_resetStatus, told]
      rfl

theorem core_stop (session : Session) (options : StopOptions) :
    (session.stop options).core =
      { session.core with
        link := session.link.takenDown
        startups := settled session.startups session.link.startup (.error .stopped) } := by
  unfold stop
  dsimp only
  split
  · rw [core_note _ rfl, core_takeDown]
  · rw [core_takeDown]

end Session

end RelayClient
