import RelayClient.Proofs.Session.BuildupAnnouncements

/-!
# States of the buildup that events ask for

An event of a transport asks for states of the buildup, one after another. A state
leads on if it is not further back on the way from a new session to a ready one. All
events ask for states that lead on, except a responder that joins while the data is
loaded, and a channel that opens when the session is ready.
-/

namespace RelayClient

namespace Buildup

/-- How far a state is on the way. A responder may still join after the signaling was closed. -/
def rank : Buildup → Nat
  | .new => 0
  | .push | .manualStart | .connecting | .waiting => 1
  | .peerHandshake | .closed => 2
  | .loading => 3
  | .done => 4

/-- The next state is not further back on the way. -/
def Rises (former next : Buildup) : Prop :=
  former.rank ≤ next.rank

instance (former next : Buildup) : Decidable (Rises former next) :=
  inferInstanceAs (Decidable (former.rank ≤ next.rank))

theorem Rises.refl (state : Buildup) : Rises state state :=
  Nat.le_refl state.rank

/-- Where each state leads to the next one, the first leads to the last. -/
theorem rises_of_isChain {former last : Buildup} {states : List Buildup} (chain : (former :: states).IsChain Rises)
    (ends : (former :: states).getLast? = some last) : Rises former last := by
  induction states generalizing former with
  | nil =>
      cases ends
      exact .refl former
  | cons state rest ih =>
      rw [List.isChain_cons_cons] at chain
      rw [List.getLast?_cons_cons] at ends
      exact Nat.le_trans chain.1 (ih chain.2 ends)

theorem rises_done (former : Buildup) : Rises former .done := by
  cases former <;> decide

theorem isChain_done (former : Buildup) (count : Nat) : (former :: List.replicate count .done).IsChain Rises := by
  induction count generalizing former with
  | zero => exact .singleton former
  | succ count ih => exact .cons_cons (rises_done former) (ih .done)

/-- Only a session that is ready would be set back to load its data. -/
theorem isChain_loading_iff (former : Buildup) (count : Nat) :
    (former :: .loading :: List.replicate count .done).IsChain Rises ↔ former ≠ .done := by
  rw [List.isChain_cons_cons, and_iff_left (isChain_done _ count)]
  cases former <;> decide

end Buildup

open Buildup (Rises)

namespace Display

variable {display : Display}

/-- The states announced from one moment to another lead one way, and to the current state. -/
def Advances (before after : Display) : Prop :=
  ∃ states, after.announced = before.announced ++ states ∧ (before.buildup :: states).getLast? = some after.buildup ∧
    (before.buildup :: states).IsChain Rises

/-- A display that advances has not gone back. -/
theorem Advances.rises {before after : Display} (advances : before.Advances after) :
    Rises before.buildup after.buildup := by
  obtain ⟨states, -, last, chain⟩ := advances
  exact Buildup.rises_of_isChain chain last

theorem buildup_enter (display : Display) (state : Buildup) : (display.enter state).buildup = state := by
  unfold enter
  split
  · next same => exact same
  · rfl

theorem buildup_visit (display : Display) (states : List Buildup) :
    (display.visit states).buildup = display.buildup ∨ (display.visit states).buildup ∈ states := by
  induction states generalizing display with
  | nil => exact .inl rfl
  | cons state rest ih =>
      rcases ih (display.enter state) with same | mem
      · exact .inr (by rw [visit, List.foldl_cons, ← visit, same, buildup_enter]; exact .head _)
      · exact .inr (.tail _ mem)

theorem visit_append (display : Display) (former later : List Buildup) :
    display.visit (former ++ later) = (display.visit former).visit later :=
  List.foldl_append

/-- States that are entered are announced, except where the current one is entered again, which leads nowhere. -/
theorem announced_visit (display : Display) (asked : List Buildup) :
    ∃ states, (display.visit asked).announced = display.announced ++ states ∧
      (display.buildup :: states).getLast? = some (display.visit asked).buildup ∧
      ((display.buildup :: states).IsChain Rises ↔ (display.buildup :: asked).IsChain Rises) := by
  induction asked generalizing display with
  | nil => exact ⟨[], (List.append_nil _).symm, rfl, .rfl⟩
  | cons state rest ih =>
      obtain ⟨states, announced, last, leads⟩ := ih (display.enter state)
      rw [buildup_enter] at last leads
      by_cases same : display.buildup = state
      · have kept : display.enter state = display := if_pos same
        rw [kept] at announced
        refine ⟨states, ?_, ?_, ?_⟩
        · rw [visit, List.foldl_cons, ← visit, kept, announced]
        · rw [same]
          exact last
        · rw [same, leads, List.isChain_cons_cons, and_iff_right (.refl state)]
      · have entered : (display.enter state).announced = display.announced ++ [state] :=
          congrArg Display.announced (if_neg same)
        refine ⟨state :: states, ?_, ?_, ?_⟩
        · rw [entered, List.append_assoc] at announced
          exact announced
        · rw [List.getLast?_cons_cons]
          exact last
        · rw [List.isChain_cons_cons, leads, List.isChain_cons_cons]

theorem advances_visit_iff (display : Display) (asked : List Buildup) :
    display.Advances (display.visit asked) ↔ (display.buildup :: asked).IsChain Rises := by
  obtain ⟨states, announced, last, leads⟩ := display.announced_visit asked
  rw [← leads]
  constructor
  · rintro ⟨others, same, -, chain⟩
    rw [announced] at same
    rw [List.append_cancel_left same]
    exact chain
  · intro chain
    exact ⟨states, announced, last, chain⟩

/-- States lead one way if the former ones do, and the later ones do from there on. -/
theorem isChain_visit_iff (display : Display) (former later : List Buildup) :
    (display.buildup :: (former ++ later)).IsChain Rises ↔
      (display.buildup :: former).IsChain Rises ∧ ((display.visit former).buildup :: later).IsChain Rises := by
  induction former generalizing display with
  | nil => exact (and_iff_right (.singleton _)).symm
  | cons state rest ih =>
      have further := ih (display.enter state)
      rw [buildup_enter] at further
      rw [List.cons_append, List.isChain_cons_cons, List.isChain_cons_cons, further, and_assoc]
      rfl

end Display

/-- The buildup may come to the channel where there is a task. -/
theorem Footing.IsRooted.visit {footing : Footing} (rooted : footing.IsRooted) {asked : List Buildup}
    (may : ∀ state ∈ asked, state = .loading ∨ state = .done → footing.task.isSome = true) :
    (footing.visit asked).IsRooted where
  channel := rooted.channel
  buildup far := by
    rcases footing.display.buildup_visit asked with same | mem
    · exact rooted.buildup (by rw [← same]; exact far)
    · exact may _ mem far
  gate := rooted.gate

namespace Session

/-- A channel over the relay is there for the asking. -/
def Relays (session : Session) : Prop :=
  session.link.transport.isSome = true ∧ session.surroundings.failure? .relayedChannel = none

instance (session : Session) : Decidable session.Relays :=
  inferInstanceAs (Decidable (_ ∧ _))

/-- The session has a task over the relay, which is not refused its channel. -/
def OpensRelay (session : Session) : Prop :=
  session.link.task = some .relayed ∧ session.Relays

theorem askChannel_of_opensRelay {session : Session} (opens : session.OpensRelay) :
    ∃ channel, session.askChannel.2 = some (.ok channel) := by
  obtain ⟨task, linked, accepted⟩ := opens
  obtain ⟨transport, found⟩ := Option.isSome_iff_exists.mp linked
  unfold askChannel ask
  rw [task, found, accepted]
  exact ⟨_, rfl⟩

/-- A channel is granted to a task only. -/
theorem task_of_askChannel {session : Session} {channel : Channel}
    (granted : session.askChannel.2 = some (.ok channel)) :
    session.link.task.isSome = true ∧ (session.link.task = some .relayed → session.OpensRelay) := by
  unfold askChannel at granted
  split at granted
  · next direct _ =>
      rw [direct]
      exact ⟨rfl, nofun⟩
  · next transport relayed linked =>
      rw [Option.some_inj] at granted
      unfold ask at granted
      dsimp only at granted
      split at granted
      · cases granted
      · next accepted =>
          refine ⟨by rw [relayed]; rfl, fun _ => ⟨relayed, ?_, accepted⟩⟩
          rw [linked]
          rfl
  · cases granted

/-- What sets the buildup back: a responder that joins when the handshake is over but no start is done, or a
channel that opens when the session is ready. -/
def SetsBack (session : Session) : TransportEvent → Prop
  | .newResponder => session.link.startupDone = false ∧ Buildup.peerHandshake.rank < session.status.buildup.rank
  | .channelOpen => session.link.channel.isSome = true ∧ session.status.buildup = .done
  | .taskReady .relayed => session.Relays ∧ session.status.buildup = .done
  | _ => False

instance (session : Session) : (event : TransportEvent) → Decidable (session.SetsBack event)
  | .newResponder | .channelOpen | .taskReady .relayed => inferInstanceAs (Decidable (_ ∧ _))
  | .taskReady .direct | .signaling _ | .handover | .taskState _ | .peerDisconnected | .application _
  | .connectionError _ | .connectionClosed _ | .channelFrame _ | .channelError _ | .channelClosed => .isFalse id

/-- States are asked for one after another, and the session stays rooted and goes on to handle events. -/
structure Asks (before : Session) (asked : List Buildup) (after : Session) : Prop where
  display : after.display = before.display.visit asked
  rooted : after.footing.IsRooted
  pumps : after.footing.pumps = true

variable {first session before after : Session}

theorem Asks.trans {former later : List Buildup} (early : Asks first former before) (late : Asks before later after) :
    Asks first (former ++ later) after where
  display := by rw [late.display, early.display, Display.visit_append]
  rooted := late.rooted
  pumps := late.pumps

section Handlers

variable (rooted : session.footing.IsRooted) (pumps : session.footing.pumps = true)

include rooted pumps

theorem Asks.of_footing (same : after.footing = session.footing) : Asks session [] after where
  display := congrArg Footing.display same
  rooted := by rw [same]; exact rooted
  pumps := by rw [same]; exact pumps

theorem Asks.of_visit {asked : List Buildup} (visits : after.footing = session.footing.visit asked)
    (may : ∀ state ∈ asked, state = .loading ∨ state = .done → session.link.task.isSome = true) :
    Asks session asked after where
  display := congrArg Footing.display visits
  rooted := by rw [visits]; exact rooted.visit may
  pumps := by rw [visits]; exact pumps

/-- A handling may make the session ready, which it tells of only where there is a task. -/
theorem asks_takeNotices {handling : Replica.Handling}
    (backed : handling.IsBacked (fun _ => True) (session.link.task.isSome = true)) :
    ∃ count, Asks session (List.replicate count .done)
      (handling.notices.foldl takeNotice { session with replica := handling.replica }) := by
  obtain ⟨count, visits, finished⟩ :=
    footing_takeNotices { session with replica := handling.replica } handling.notices
  refine ⟨count, ?_, ?_, ?_⟩
  · exact congrArg Footing.display visits
  · rw [visits]
    have replaced : (footing { session with replica := handling.replica }).IsRooted :=
      ⟨rooted.channel, rooted.buildup, fun _ => backed.gate⟩
    refine replaced.visit fun state mem _ => ?_
    have positive : 0 < count := Nat.pos_of_ne_zero (List.mem_replicate.mp mem).1
    obtain ⟨number, told⟩ := finished positive
    exact (backed.due number told).1
  · rw [visits]
    exact pumps

theorem asks_receiveFrame (frame : Bytes) :
    ∃ count, Asks session (List.replicate count .done) (session.receiveFrame frame) := by
  unfold receiveFrame Messenger.receive
  cases Message.decode frame with
  | error problem => exact ⟨0, .of_footing rooted pumps rfl⟩
  | ok message =>
      have backed : (session.replica.handle message).IsBacked (fun _ => True) (session.link.task.isSome = true) :=
        Replica.handle_isBacked (rooted.gate pumps) fun _ _ => trivial
      obtain ⟨count, asks⟩ := asks_takeNotices rooted pumps backed
      exact ⟨count, asks.display, asks.rooted, asks.pumps⟩

/-- With a task, the session may wait for the initial steps, and is ready at once if they are complete. -/
theorem asks_awaitSteps (tasked : session.link.task.isSome = true) (number : Nat) :
    ∃ count, Asks session (List.replicate count .done)
      ((session.replica.runAfter InitStep.all (.finishStart number)).2.foldl takeNotice
        { session with replica := (session.replica.runAfter InitStep.all (.finishStart number)).1 }) := by
  have fresh : Waiting.IsBacked (fun _ => True) (session.link.task.isSome = true)
      ⟨InitStep.all, .finishStart number⟩ := ⟨rfl, tasked⟩
  exact asks_takeNotices rooted pumps (Replica.runAfter_isBacked (rooted.gate pumps) fresh)

/-- An open channel begins to load, which may be over at once. -/
theorem asks_openChannel (attached : session.link.channel.isSome = true) :
    ∃ count, Asks session (.loading :: List.replicate count .done) session.openChannel := by
  have tasked := rooted.channel attached
  have loads (carried : Session) (same : carried.footing = session.footing) (number : Nat) :
      ∃ count, Asks session (.loading :: List.replicate count .done)
        (((carried.setBuildup .loading).replica.runAfter InitStep.all (.finishStart number)).2.foldl takeNotice
          { carried.setBuildup .loading with
            replica := ((carried.setBuildup .loading).replica.runAfter InitStep.all (.finishStart number)).1 }) := by
    have loading := carried.footing_setBuildup .loading
    rw [same] at loading
    have entered : Asks session [.loading] (carried.setBuildup .loading) :=
      .of_visit rooted pumps loading fun _ _ _ => tasked
    have task : (carried.setBuildup .loading).link.task = session.link.task := congrArg Footing.task loading
    obtain ⟨count, asks⟩ := asks_awaitSteps entered.rooted entered.pumps (by rw [task]; exact tasked) number
    exact ⟨count, entered.trans asks⟩
  unfold openChannel
  cases found : session.link.channel with
  | none =>
      rw [found] at attached
      cases attached
  | some channel =>
      dsimp only
      have same : footing { session with
          messenger := session.messenger.attach channel
          opened := session.opened + 1
          replica := if session.link.resetFields then { session.replica with data := {} } else session.replica } =
            session.footing := by
        unfold footing
        cases session.link.resetFields <;> rfl
      obtain ⟨count, asks⟩ := loads _ same session.opened
      have posted := asks.trans (.of_footing asks.rooted asks.pumps (footing_postAll _ firstRequests))
      rw [List.append_nil] at posted
      exact ⟨count, posted⟩

/-- A channel is held by a session with a task. -/
theorem asks_attach (same : after.footing = session.footing) (tasked : session.link.task.isSome = true)
    (channel : Channel) : Asks session [] { after with link := { after.link with channel := some channel } } := by
  have attached : footing { after with link := { after.link with channel := some channel } } =
      { session.footing with channel := some channel } := by
    rw [← same]
    rfl
  refine ⟨congrArg Footing.display attached, ?_, ?_⟩
  · rw [attached]
    exact ⟨fun _ => tasked, rooted.buildup, rooted.gate⟩
  · rw [attached]
    exact pumps

/-- A relayed channel is open at once. -/
theorem asks_openRelayed (attached : session.link.channel.isSome = true) :
    ∃ count, Asks session (.loading :: List.replicate count .done) (session.reportTask .connected).openChannel := by
  have same := session.footing_reportTask .connected
  have reported : Asks session [] (session.reportTask .connected) := .of_footing rooted pumps same
  have stillAttached : (session.reportTask .connected).link.channel.isSome = true := by
    rw [show (session.reportTask .connected).link.channel = session.link.channel from congrArg Footing.channel same]
    exact attached
  obtain ⟨count, opened⟩ := asks_openChannel reported.rooted reported.pumps stillAttached
  exact ⟨count, reported.trans opened⟩

/-- A task that takes over asks for nothing, unless a relayed channel opens at once. -/
theorem asks_takeOver :
    (¬ session.OpensRelay ∧ Asks session [] session.takeOver) ∨
      session.OpensRelay ∧ ∃ count, Asks session (.loading :: List.replicate count .done) session.takeOver := by
  have noted : (session.note .initNotifications).footing = session.footing := session.footing_note_of_silent rfl
  have link : (session.note .initNotifications).link = session.link :=
    congrArg SessionCore.link (session.core_note rfl)
  have asked := (footing_askChannel (session.note .initNotifications)).trans noted
  have opens_iff : (session.note .initNotifications).OpensRelay ↔ session.OpensRelay := by
    unfold OpensRelay Relays
    rw [link, note_surroundings]
  have ungranted (refused : ∀ channel, (session.note .initNotifications).askChannel.2 ≠ some (.ok channel)) :
      ¬ session.OpensRelay := by
    intro opens
    obtain ⟨channel, granted⟩ := askChannel_of_opensRelay (opens_iff.mpr opens)
    exact refused channel granted
  unfold takeOver
  dsimp only
  split
  · next after same =>
      rw [same] at asked ungranted
      exact .inl ⟨ungranted nofun, .of_footing rooted pumps asked⟩
  · next after failure same =>
      rw [same] at asked ungranted
      exact .inl ⟨ungranted nofun, .of_footing rooted pumps ((footing_failStartup _ _).trans asked)⟩
  · next after channel same =>
      rw [same] at asked
      obtain ⟨tasked, relays⟩ := task_of_askChannel (congrArg Prod.snd same)
      rw [link, opens_iff] at relays
      rw [link] at tasked
      have attached := asks_attach rooted pumps asked tasked channel
      split
      · next relayed =>
          obtain ⟨count, opened⟩ := asks_openRelayed attached.rooted attached.pumps rfl
          exact .inr ⟨relays relayed, count, attached.trans opened⟩
      · next direct => exact .inl ⟨fun opens => direct opens.1, attached⟩

theorem asks_chooseTask (task : CarrierTask) :
    (¬ (task = .relayed ∧ session.Relays) ∧ Asks session [] (session.chooseTask task)) ∨
      (task = .relayed ∧ session.Relays) ∧
        ∃ count, Asks session (.loading :: List.replicate count .done) (session.chooseTask task) := by
  have chosen : Asks session [] { session with link := { session.link with task := some task } } := by
    refine ⟨rfl, ⟨fun _ => rfl, fun _ => rfl, fun runs => ?_⟩, pumps⟩
    exact (rooted.gate runs).mono (fun _ _ => trivial) fun _ => rfl
  unfold chooseTask
  dsimp only
  split
  · next unlinked =>
      refine .inl ⟨?_, chosen⟩
      rintro ⟨-, linked, -⟩
      rw [unlinked] at linked
      cases linked
  · next transport _ =>
      have made := footing_connectDirectly { session with link := { session.link with task := some .direct } } transport
      refine .inl ⟨nofun, ?_⟩
      split
      · next same =>
          rw [same] at made
          exact chosen.trans (.of_footing chosen.rooted chosen.pumps ((footing_failStartup _ _).trans made))
      · next same =>
          rw [same] at made
          exact chosen.trans (.of_footing chosen.rooted chosen.pumps made)
  · next transport linked =>
      rcases asks_takeOver chosen.rooted chosen.pumps with ⟨refused, asks⟩ | ⟨opens, count, asks⟩
      · refine .inl ⟨?_, chosen.trans asks⟩
        rintro ⟨-, further⟩
        exact refused ⟨rfl, further⟩
      · exact .inr ⟨⟨rfl, opens.2⟩, count, chosen.trans asks⟩

theorem asks_takeSignaling (state : SignalingState) :
    ∃ asked, Asks session asked (session.takeSignaling state) ∧ (session.status.buildup :: asked).IsChain Rises := by
  unfold takeSignaling
  split
  · exact ⟨[], .of_footing rooted pumps (footing_reportSignaling _ state), .singleton _⟩
  · obtain ⟨asked, visits, which⟩ := session.footing_followSignaling state
    have low : ∀ state ∈ asked, ¬ (state = .loading ∨ state = .done) := by
      rcases which with rfl | ⟨rfl, -⟩ | ⟨rfl, -⟩ | ⟨rfl, -⟩ <;> simp
    have follows : Asks session asked (session.followSignaling state) :=
      .of_visit rooted pumps visits fun state mem far => absurd far (low state mem)
    have reported := follows.trans (.of_footing follows.rooted follows.pumps (footing_reportSignaling _ state))
    rw [List.append_nil] at reported
    refine ⟨asked, reported, ?_⟩
    rcases which with rfl | ⟨rfl, new⟩ | ⟨rfl, new | connecting⟩ | ⟨rfl, absent⟩
    · exact .singleton _
    · rw [new]
      decide
    · rw [new]
      decide
    · rw [connecting]
      decide
    · -- Without a task the buildup has not come to the channel yet.
      have near : ¬ (session.status.buildup = .loading ∨ session.status.buildup = .done) := by
        intro far
        have tasked := rooted.buildup far
        change session.link.task.isSome = true at tasked
        rw [absent] at tasked
        cases tasked
      refine List.isChain_cons_cons.mpr ⟨?_, .singleton _⟩
      cases buildup : session.status.buildup with
      | loading => exact absurd (.inl buildup) near
      | done => exact absurd (.inr buildup) near
      | _ => decide

/-- The states an event asks for lead on from the buildup, unless it is one of those that set the buildup back. -/
theorem asks_handleEvent (event : TransportEvent) :
    ∃ asked, Asks session asked (session.handleEvent event) ∧
      ((session.status.buildup :: asked).IsChain Rises ↔ ¬ session.SetsBack event) := by
  -- Most events ask for nothing, whether or not they report a state of the task.
  have silent (after : Session) (same : after.footing = session.footing) (event : TransportEvent)
      (leads : ¬ session.SetsBack event) :
      ∃ asked, Asks session asked after ∧
        ((session.status.buildup :: asked).IsChain Rises ↔ ¬ session.SetsBack event) :=
    ⟨[], .of_footing rooted pumps same, iff_of_true (.singleton _) leads⟩
  have loads {after : Session} (event : TransportEvent) {opens : Prop} (held : opens)
      (sets : session.SetsBack event ↔ opens ∧ session.status.buildup = .done)
      (asks : ∃ count, Asks session (.loading :: List.replicate count .done) after) :
      ∃ asked, Asks session asked after ∧
        ((session.status.buildup :: asked).IsChain Rises ↔ ¬ session.SetsBack event) := by
    obtain ⟨count, asks⟩ := asks
    exact ⟨_, asks, by rw [Buildup.isChain_loading_iff, sets, and_iff_right held]⟩
  cases event with
  | newResponder =>
      unfold handleEvent
      dsimp only
      split
      · next done => exact silent _ rfl .newResponder fun sets => nomatch done.symm.trans sets.1
      · next waits =>
          have joins : Asks session [.peerHandshake] (session.setBuildup .peerHandshake) :=
            .of_visit rooted pumps (footing_setBuildup _ _) (by simp)
          refine ⟨_, joins, ?_⟩
          rw [List.isChain_cons_cons, and_iff_left (.singleton _), SetsBack,
            and_iff_right (Bool.eq_false_iff.mpr waits), Nat.not_lt]
          rfl
  | signaling state =>
      obtain ⟨asked, asks, leads⟩ := asks_takeSignaling rooted pumps state
      exact ⟨asked, asks, iff_of_true leads id⟩
  | taskReady task =>
      rcases asks_chooseTask rooted pumps task with ⟨refused, asks⟩ | ⟨⟨rfl, relays⟩, asks⟩
      · refine ⟨[], asks, iff_of_true (.singleton _) ?_⟩
        cases task with
        | direct => exact id
        | relayed => exact fun sets => refused ⟨rfl, sets.1⟩
      · exact loads (.taskReady .relayed) relays .rfl asks
  | handover =>
      unfold handleEvent
      dsimp only
      split
      · next direct =>
          rcases asks_takeOver rooted pumps with ⟨-, asks⟩ | ⟨⟨relayed, -⟩, -⟩
          · exact ⟨[], asks, iff_of_true (.singleton _) id⟩
          · rw [direct] at relayed
            cases relayed
      · exact silent _ rfl .handover id
  | taskState state => exact silent _ (footing_reportTask _ state) (.taskState state) id
  | peerDisconnected =>
      unfold handleEvent
      dsimp only
      split
      · exact silent _ (footing_reportTask _ _) .peerDisconnected id
      · exact silent _ rfl .peerDisconnected id
  | application message => exact silent _ (footing_takeApplication _ message) (.application message) id
  | connectionError reason => exact silent _ (footing_failStartup _ _) (.connectionError reason) id
  | connectionClosed code =>
      unfold handleEvent
      dsimp only
      split
      · exact silent _ (footing_reportTask _ _) (.connectionClosed code) id
      · exact silent _ rfl (.connectionClosed code) id
  | channelOpen =>
      cases attached : session.link.channel with
      | none =>
          have closed : session.openChannel = session := by
            unfold openChannel
            rw [attached]
          rw [handleEvent, closed]
          exact silent _ rfl .channelOpen fun ⟨opens, _⟩ => by rw [attached] at opens; cases opens
      | some channel =>
          have opens : session.link.channel.isSome = true := by rw [attached]; rfl
          exact loads .channelOpen opens .rfl (asks_openChannel rooted pumps opens)
  | channelFrame frame =>
      obtain ⟨count, asks⟩ := asks_receiveFrame rooted pumps frame
      exact ⟨_, asks, iff_of_true (Buildup.isChain_done _ count) id⟩
  | channelError reason => exact silent _ rfl (.channelError reason) id
  | channelClosed => exact silent _ rfl .channelClosed id

end Handlers

end Session

end RelayClient
