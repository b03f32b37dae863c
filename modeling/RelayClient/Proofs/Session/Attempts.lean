import RelayClient.Proofs.Lists
import RelayClient.Proofs.Session.Moves

/-!
# Attempts of a session

The history of a session is a list of milestones: attempts that were set up,
channels that were opened and initial requests that were answered. A start
succeeds only when those of the last attempt allow it, however the session is set
up, started, stopped and reported to; no start is settled twice.
-/

namespace RelayClient

/-- What brings a session closer to being ready. -/
inductive Milestone where
  /-- The session was set up anew, with a transport. -/
  | setUp (transport : Nat)
  /-- The channel of a transport was opened. -/
  | opened (transport : Nat)
  /-- A response over a transport to the request of an initial step was handled. -/
  | answered (transport : Nat) (step : InitStep)

namespace Milestone

def isSetUp : Milestone → Bool
  | .setUp _ => true
  | _ => false

/-- The session was last set up with a transport, and these milestones came since. -/
def Since (history : List Milestone) (transport : Nat) (since : List Milestone) : Prop :=
  ∃ before, history = before ++ .setUp transport :: since ∧ ∀ mark ∈ since, mark.isSetUp = false

/-- Since the session was last set up, its channel was opened and all initial steps were answered. -/
def AllowsStart (history : List Milestone) : Prop :=
  ∃ transport since, Since history transport since ∧ .opened transport ∈ since ∧
    ∀ step, .answered transport step ∈ since

theorem since_setUp (history : List Milestone) (transport : Nat) :
    Since (history ++ [.setUp transport]) transport [] :=
  ⟨history, rfl, nofun⟩

theorem Since.append {history since marks : List Milestone} {transport : Nat} (former : Since history transport since)
    (within : ∀ mark ∈ marks, mark.isSetUp = false) : Since (history ++ marks) transport (since ++ marks) := by
  obtain ⟨before, rfl, none⟩ := former
  refine ⟨before, by rw [List.append_assoc, List.cons_append], fun mark mem => ?_⟩
  rcases List.mem_append.mp mem with mem | mem
  · exact none mark mem
  · exact within mark mem

end Milestone

open Milestone (Since AllowsStart)

namespace SessionCore

/-- What of a core does not depend on which start waits. -/
structure SameAttempt (before after : SessionCore) : Prop where
  transport : after.link.transport = before.link.transport
  channel : after.link.channel = before.link.channel
  peer : after.link.peer = before.link.peer
  pump : after.link.pump = before.link.pump
  gate : after.gate = before.gate

/-- A core is sound in an attempt, by the milestones since it was set up. -/
def IsSoundSince (core : SessionCore) (transport : Nat) (since : List Milestone) : Prop :=
  core.IsSound transport (fun step => .answered transport step ∈ since) (.opened transport ∈ since)

/-- What links the core of a session to its history. -/
structure Tracks (core : SessionCore) (history : List Milestone) : Prop where
  waits : core.Waits
  attempt : ∀ transport, core.link.transport = some transport →
    ∃ since, Since history transport since ∧ core.IsSoundSince transport since
  pump : ∀ pump, core.link.pump = some pump → core.link.transport = some pump.transport

variable {before after core : SessionCore} {history : List Milestone}

theorem SameAttempt.trans {first : SessionCore} (former : SameAttempt first before) (latter : SameAttempt before after) :
    SameAttempt first after where
  transport := latter.transport.trans former.transport
  channel := latter.channel.trans former.channel
  peer := latter.peer.trans former.peer
  pump := latter.pump.trans former.pump
  gate := latter.gate.trans former.gate

theorem IsSoundSince.append {transport : Nat} {since : List Milestone} (sound : core.IsSoundSince transport since)
    (marks : List Milestone) : core.IsSoundSince transport (since ++ marks) where
  linked := sound.linked
  channel := sound.channel
  peer := sound.peer
  gate := sound.gate.mono (fun _ => List.mem_append_left marks) (List.mem_append_left marks)

/-- What keeps the attempt keeps a core in step with its history. -/
theorem Tracks.of_sameAttempt (tracks : before.Tracks history) (waits : after.Waits) (same : SameAttempt before after) :
    after.Tracks history where
  waits := waits
  attempt transport linked := by
    rw [same.transport] at linked
    obtain ⟨since, last, sound⟩ := tracks.attempt transport linked
    refine ⟨since, last, ?_, ?_, ?_, ?_⟩
    · rw [same.transport]
      exact linked
    · rw [same.channel]
      exact sound.channel
    · rw [same.peer]
      exact sound.peer
    · rw [same.gate]
      exact sound.gate
  pump pump runs := by
    rw [same.pump] at runs
    rw [same.transport]
    exact tracks.pump pump runs

/-- The core with another start, which waits. -/
def enter (core : SessionCore) : SessionCore :=
  { core with
    startups := core.startups ++ [none]
    link := { core.link with startup := some core.startups.length, startupDone := false } }

theorem proceeds_enter {mayReady : Prop} (free : core.link.startup = none) : Proceeds mayReady core core.enter where
  waits waits startup := by
    have idle := waits startup
    rw [free] at idle
    dsimp only [enter]
    rw [getElem?_concat]
    split
    · next same => simp [same]
    · next differs => simp [idle, Ne.symm differs]
  kept startup result settled _ := by
    dsimp only [enter]
    rw [getElem?_concat, if_neg]
    · exact settled
    · rintro rfl
      rw [List.getElem?_eq_none (Nat.le_refl _)] at settled
      cases settled
  ready startup ok := by
    dsimp only [enter] at ok
    rw [getElem?_concat] at ok
    split at ok
    · cases ok
    · exact .inl ok

/-- The start that waits is settled with the result. -/
theorem Waits.settle (waits : core.Waits) {startup : Nat} (waiting : core.startups[startup]? = some none)
    (result : Except Failure Unit) : (core.settle result).startups[startup]? = some (some result) := by
  rw [settle_of_waiting ((waits startup).mp waiting)]
  dsimp only
  obtain ⟨inside, _⟩ := List.getElem?_eq_some_iff.mp waiting
  rw [List.getElem?_set_self inside]

end SessionCore

namespace Session

open SessionCore (Proceeds SameAttempt)

/-- The milestones that an event of a transport reaches. -/
def milestones (session : Session) (transport : Nat) (event : TransportEvent) : List Milestone :=
  (if session.opensChannel transport event then [.opened transport] else []) ++
    event.answers?.toList.map (.answered transport)

/-- What can happen to a session next, with the milestones that it reaches. -/
inductive Step : Session → List Milestone → Session → Prop
  | init (session : Session) (params : InitParams) {after : Session} (succeeded : session.init params = (after, .ok ())) :
      Step session [.setUp session.transports] after
  | initFailed (session : Session) (params : InitParams) {after : Session} {failure : Failure}
      (failed : session.init params = (after, .error failure)) : Step session [] after
  | start (session : Session) : Step session [] session.start.1
  | takeDown (session : Session) (options : StopOptions) : Step session [] (session.takeDown options)
  /-- The events that wait for the pump change. -/
  | queue (session : Session) {pump : Pump} (runs : session.link.pump = some pump) (events : List TransportEvent) :
      Step session [] { session with link := { session.link with pump := some ⟨pump.transport, events⟩ } }
  | event (session : Session) {pump : Pump} (runs : session.link.pump = some pump) (event : TransportEvent) :
      Step session (session.milestones pump.transport event) (session.handleEvent event)
  /-- Whatever else leaves the core alone. -/
  | other {session after : Session} (same : after.core = session.core) : Step session [] after

/-- The runs of a session, with the milestones that they reach, oldest first. -/
inductive Run (first : Session) : List Milestone → Session → Prop
  | refl : Run first [] first
  | step {history marks : List Milestone} {session after : Session} (run : Run first history session)
      (step : Step session marks after) : Run first (history ++ marks) after

variable {session : Session}

theorem core_pairFor (session : Session) (params : InitParams) : (session.pairFor params).1.core = session.core := by
  unfold pairFor
  split <;> rfl

/-- An effect changes no more of a core than what was done to connect. -/
theorem core_note_eq (session : Session) (effect : Effect) :
    (session.note effect).core = { session.core with launches := (session.note effect).launches } := by
  unfold core note
  split <;> rfl

/-- A core after the session was set up with a transport: a bare attempt, and the starts as they were. -/
structure SetsUp (before after : SessionCore) (transport : Nat) : Prop where
  linked : after.link.transport = some transport
  channel : after.link.channel = none
  peer : after.link.peer = none
  pump : after.link.pump = some ⟨transport, []⟩
  gate : after.gate = {}
  startups : after.startups = before.startups
  startup : after.link.startup = before.link.startup

/-- Setting up begins a new attempt, or else keeps the former one. -/
theorem init_cases (session : Session) (params : InitParams) :
    ((session.init params).2 = .ok () ∧ SetsUp session.core (session.init params).1.core session.transports) ∨
      ((session.init params).2 ≠ .ok () ∧
        ∃ launches, (session.init params).1.core = { session.core with launches }) := by
  have prepared := (core_pairFor (session.resetStatus false) params).trans (core_resetStatus session false)
  unfold init
  generalize (session.resetStatus false).pairFor params = chosen at prepared
  obtain ⟨ready, pair⟩ := chosen
  dsimp only at prepared ⊢
  have created (initiation : Initiation) : ∃ launches,
      (ready.note (.create initiation)).core = { session.core with launches } := by
    refine ⟨(ready.note (.create initiation)).launches, ?_⟩
    rw [← prepared]
    exact ready.core_note_eq (.create initiation)
  unfold ask
  cases ready.surroundings.failure? .create with
  | some failure => exact .inr ⟨nofun, created _⟩
  | none =>
      obtain ⟨launches, same⟩ := created
        { host := ready.signaling.resolveHost pair.publicKey
          port := ready.signaling.port
          serverKey := ready.signaling.serverKey
          pair
          trustedPeer := params.trustedPeer }
      have transports := congrArg SessionCore.transports same
      have startups := congrArg SessionCore.startups same
      have startup := congrArg (fun core : SessionCore => core.link.startup) same
      refine .inl ⟨rfl, ?_, rfl, rfl, ?_, rfl, startups, startup⟩
      · exact congrArg some transports
      · exact congrArg (fun transport => some (⟨transport, []⟩ : Pump)) transports

theorem core_enterStartup (waits : session.core.Waits) :
    session.enterStartup.1.core = (session.core.settle (.error .stopped)).enter := by
  unfold enterStartup
  cases waiting : session.link.startup with
  | none =>
      unfold SessionCore.settle
      dsimp only [core]
      rw [waiting]
      rfl
  | some former =>
      have inside : former < session.startups.length := by
        obtain ⟨inside, _⟩ := List.getElem?_eq_some_iff.mp ((waits former).mpr waiting)
        exact inside
      dsimp only
      rw [core_settleStartup, SessionCore.settle_of_waiting waiting]
      dsimp only [core, SessionCore.enter]
      rw [List.set_append_left _ _ inside, List.length_set]
      rfl

theorem core_refuseStartup {startup : Nat} (waiting : session.link.startup = some startup) (failure : Failure) :
    (session.refuseStartup startup failure).core = session.core.settle (.error failure) := by
  unfold refuseStartup
  rw [core_settleStartup, SessionCore.settle_of_waiting waiting]
  rfl

theorem startup_enterStartup (session : Session) :
    session.enterStartup.1.link.startup = some session.enterStartup.2 := by
  unfold enterStartup
  cases session.link.startup with
  | none => rfl
  | some former => exact congrArg (fun core : SessionCore => core.link.startup) (core_settleStartup _ _ _)

/-- A start that was entered waits, or fails at once. -/
theorem core_start (session : Session) : ∃ launches,
    session.start.1.core = { session.enterStartup.1.core with launches } ∨
      ∃ failure, session.start.1.core =
        SessionCore.settle { session.enterStartup.1.core with launches } (.error failure) := by
  have waits := session.startup_enterStartup
  have noted (transport : Nat) := session.enterStartup.1.core_note_eq (.connect transport)
  have starts := session.startsAs_start
  generalize session.start.1 = after at starts ⊢
  cases starts with
  | unlinked failure =>
      refine ⟨session.enterStartup.1.launches, .inr ⟨failure, ?_⟩⟩
      rw [core_refuseStartup waits]
      rfl
  | refused transport failure =>
      have stillWaits :
          (session.enterStartup.1.note (.connect transport)).link.startup = some session.enterStartup.2 :=
        (congrArg (fun core : SessionCore => core.link.startup) (noted transport)).trans waits
      refine ⟨(session.enterStartup.1.note (.connect transport)).launches, .inr ⟨failure, ?_⟩⟩
      rw [core_refuseStartup stillWaits, noted]
  | pushing transport => exact ⟨_, .inl (noted transport)⟩
  | byHand transport => exact ⟨_, .inl ((core_setBuildup _ _).trans (noted transport))⟩
  | waiting transport => exact ⟨_, .inl (noted transport)⟩

/-- A start stops the one before it, and touches nothing else of the attempt. -/
theorem proceeds_start (waits : session.core.Waits) {mayReady : Prop} :
    Proceeds mayReady (session.core.settle (.error .stopped)) session.start.1.core ∧
      SameAttempt session.core session.start.1.core := by
  have entered := core_enterStartup waits
  have enters : Proceeds mayReady (session.core.settle (.error .stopped)) session.enterStartup.1.core := by
    rw [entered]
    exact SessionCore.proceeds_enter rfl
  have same : SameAttempt session.core session.enterStartup.1.core := by
    rw [entered]
    exact ⟨rfl, rfl, rfl, rfl, rfl⟩
  obtain ⟨launches, waits | ⟨failure, fails⟩⟩ := session.core_start
  · rw [waits]
    exact ⟨enters.trans (.of_eq rfl rfl), same.trans ⟨rfl, rfl, rfl, rfl, rfl⟩⟩
  · have launched : Proceeds mayReady session.enterStartup.1.core { session.enterStartup.1.core with launches } :=
      .of_eq rfl rfl
    rw [fails]
    exact ⟨enters.trans (launched.trans (SessionCore.proceeds_settle _ nofun)),
      same.trans ⟨rfl, rfl, rfl, rfl, rfl⟩⟩

theorem proceeds_takeDown (session : Session) (options : StopOptions) {mayReady : Prop} :
    Proceeds mayReady (session.core.settle (.error .stopped)) (session.takeDown options).core := by
  rw [core_takeDown]
  exact .of_eq rfl rfl

/-- A waiting start that is followed by a step that settles it as stopped is stopped. -/
theorem stopped_of_proceeds {mayReady : Prop} {after : SessionCore} (waits : session.core.Waits)
    (proceeds : Proceeds mayReady (session.core.settle (.error .stopped)) after) {startup : Nat}
    (waiting : session.startups[startup]? = some none) :
    after.startups[startup]? = some (some (.error .stopped)) := by
  have stops : Proceeds mayReady session.core (session.core.settle (.error .stopped)) := session.core.proceeds_stop
  exact proceeds.kept startup _ (waits.settle waiting _) (stops.waits waits)

variable {history marks : List Milestone} {after : Session}

/-- A session that was set up is in step with a history that ends in this milestone. -/
theorem tracks_setsUp (tracks : session.core.Tracks history)
    (setsUp : SetsUp session.core after.core session.transports) :
    after.core.Tracks (history ++ [.setUp session.transports]) := by
  have starts : Proceeds False session.core after.core := .of_eq setsUp.startups setsUp.startup
  refine ⟨starts.waits tracks.waits, fun transport linked => ?_, fun pump runs => ?_⟩
  · cases setsUp.linked.symm.trans linked
    refine ⟨[], Milestone.since_setUp history _, linked, ?_, ?_, ?_⟩
    · rw [setsUp.channel]
      exact nofun
    · rw [setsUp.peer]
      exact nofun
    · rw [setsUp.gate]
      exact .empty
  · cases setsUp.pump.symm.trans runs
    exact setsUp.linked

theorem isSetUp_of_mem_milestones {transport : Nat} {event : TransportEvent} {mark : Milestone}
    (mem : mark ∈ session.milestones transport event) : mark.isSetUp = false := by
  unfold milestones at mem
  rcases List.mem_append.mp mem with mem | mem
  · split at mem
    · rw [List.mem_singleton.mp mem]
      rfl
    · cases mem
  · obtain ⟨step, _, rfl⟩ := List.mem_map.mp mem
    rfl

/-- What a transport reports moves the core as its milestones allow. -/
theorem moves_event {transport : Nat} {since : List Milestone} (sound : session.core.IsSoundSince transport since)
    (event : TransportEvent) :
    SessionCore.Moves transport
      (fun step => .answered transport step ∈ since ++ session.milestones transport event)
      (.opened transport ∈ since ++ session.milestones transport event)
      session.core (session.handleEvent event).core := by
  refine moves_handleEvent (sound.append _) event (fun step answers => ?_) fun opens => ?_
  · refine List.mem_append_right _ (List.mem_append_right _ (List.mem_map.mpr ⟨step, ?_, rfl⟩))
    rw [answers]
    exact .head _
  · refine List.mem_append_right _ (List.mem_append_left _ ?_)
    rw [if_pos opens]
    exact .head _

theorem tracks_event (tracks : session.core.Tracks history) {pump : Pump} (runs : session.link.pump = some pump)
    (event : TransportEvent) :
    (session.handleEvent event).core.Tracks (history ++ session.milestones pump.transport event) ∧
      Proceeds (AllowsStart (history ++ session.milestones pump.transport event)) session.core
        (session.handleEvent event).core := by
  obtain ⟨since, last, sound⟩ := tracks.attempt pump.transport (tracks.pump pump runs)
  have moves := moves_event sound event
  have further : Since (history ++ session.milestones pump.transport event) pump.transport
      (since ++ session.milestones pump.transport event) := last.append fun _ => isSetUp_of_mem_milestones
  have after := moves.isSound (sound.append _)
  refine ⟨⟨moves.proceeds.waits tracks.waits, fun transport linked => ?_, fun other held => ?_⟩, ?_⟩
  · cases after.linked.symm.trans linked
    exact ⟨_, further, after⟩
  · cases runs.symm.trans (moves.pump.symm.trans held)
    exact after.linked
  · exact moves.proceeds.mono fun ⟨opens, complete⟩ => ⟨_, _, further, opens, complete⟩

/-- A step keeps a session in step with its history, and lets a start succeed only where the history allows it. -/
theorem Step.tracks (tracks : session.core.Tracks history) (step : Step session marks after) :
    after.core.Tracks (history ++ marks) ∧ Proceeds (AllowsStart (history ++ marks)) session.core after.core := by
  cases step with
  | init params succeeded =>
      rcases session.init_cases params with ⟨_, setsUp⟩ | ⟨failed, _⟩
      · rw [succeeded] at setsUp
        exact ⟨tracks_setsUp tracks setsUp, .of_eq setsUp.startups setsUp.startup⟩
      · rw [succeeded] at failed
        exact absurd rfl failed
  | initFailed params failed =>
      rw [List.append_nil]
      rcases session.init_cases params with ⟨succeeded, _⟩ | ⟨_, launches, same⟩
      · rw [failed] at succeeded
        cases succeeded
      · rw [failed] at same
        rw [same]
        exact ⟨tracks.of_sameAttempt tracks.waits ⟨rfl, rfl, rfl, rfl, rfl⟩, .of_eq rfl rfl⟩
  | start =>
      rw [List.append_nil]
      obtain ⟨starts, same⟩ := proceeds_start tracks.waits
      have proceeds := session.core.proceeds_stop.trans starts
      exact ⟨tracks.of_sameAttempt (proceeds.waits tracks.waits) same, proceeds⟩
  | takeDown options =>
      rw [List.append_nil]
      have proceeds : Proceeds (AllowsStart history) session.core (session.takeDown options).core :=
        session.core.proceeds_stop.trans (session.proceeds_takeDown options)
      refine ⟨⟨proceeds.waits tracks.waits, ?_, ?_⟩, proceeds⟩
      · rw [core_takeDown]
        exact nofun
      · rw [core_takeDown]
        exact nofun
  | queue runs events =>
      rw [List.append_nil]
      refine ⟨⟨tracks.waits, fun transport linked => ?_, ?_⟩, .of_eq rfl rfl⟩
      · obtain ⟨since, last, sound⟩ := tracks.attempt transport linked
        exact ⟨since, last, sound.linked, sound.channel, sound.peer, sound.gate⟩
      · rintro _ ⟨⟩
        have linked := tracks.pump _ runs
        exact linked
  | event runs event => exact tracks_event tracks runs event
  | other same =>
      rw [List.append_nil, same]
      exact ⟨tracks, .refl _⟩

/-- A run keeps a session in step with its history, and leaves the starts alone that are settled. -/
theorem Run.tracks_append {before history : List Milestone} {later : Session} (run : Run session history later)
    (tracks : session.core.Tracks before) :
    later.core.Tracks (before ++ history) ∧ ∀ (startup : Nat) (result : Except Failure Unit),
      session.startups[startup]? = some (some result) → later.startups[startup]? = some (some result) := by
  induction run with
  | refl =>
      rw [List.append_nil]
      exact ⟨tracks, fun _ _ settled => settled⟩
  | step run step ih =>
      obtain ⟨former, kept⟩ := ih
      obtain ⟨further, proceeds⟩ := step.tracks former
      rw [← List.append_assoc]
      exact ⟨further, fun startup result settled => proceeds.kept startup result (kept startup result settled) former.waits⟩

/-- A session that was neither set up nor started yet. -/
structure IsFresh (session : Session) : Prop where
  link : session.link = {}
  startups : session.startups = []

theorem IsFresh.tracks (fresh : session.IsFresh) : session.core.Tracks [] := by
  obtain ⟨link, startups⟩ := fresh
  refine ⟨fun startup => ?_, ?_, ?_⟩
  · dsimp only [core]
    rw [startups, link, List.getElem?_nil]
    exact ⟨nofun, nofun⟩
  · dsimp only [core]
    rw [link]
    exact nofun
  · dsimp only [core]
    rw [link]
    exact nofun

theorem Run.tracks {first : Session} (run : Run first history session) (fresh : first.IsFresh) :
    session.core.Tracks history :=
  (run.tracks_append fresh.tracks).1

end Session

end RelayClient
