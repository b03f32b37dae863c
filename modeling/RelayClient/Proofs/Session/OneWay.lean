import RelayClient.Proofs.Session.ChannelNeedsTask

/-!
# One way to a ready session

While no one sets a session up, starts it or stops it, its buildup moves one way, in
whatever order and batches events are reported, whatever time passes, and even if the
push of the start goes out late. It is set back where a responder joins while the data
is loaded, and where the channel opens when the session is ready, and nowhere else.
-/

namespace RelayClient

open Buildup (Rises)

namespace Session

variable {first after later : Session} {handled : List (Session × TransportEvent)}

/-- What can become of a session while it is not set up, started or stopped. Listed are the events that were
handled, each with the session that it found. -/
inductive Unfolds (first : Session) : List (Session × TransportEvent) → Session → Prop
  | refl : Unfolds first [] first
  | event {handled : List (Session × TransportEvent)} {session : Session} (former : Unfolds first handled session)
      (runs : session.link.pump.isSome = true) (event : TransportEvent) :
      Unfolds first (handled ++ [(session, event)]) (session.handleEvent event)
  /-- The push of a start goes out. -/
  | push {handled : List (Session × TransportEvent)} {session : Session} (former : Unfolds first handled session)
      (publicKey : Cipher.Key) : Unfolds first handled (session.runPush publicKey)
  /-- Whatever else is done announces no state, and leaves alone what the buildup rests on. -/
  | other {handled : List (Session × TransportEvent)} {session after : Session} (former : Unfolds first handled session)
      (same : after.footing = session.footing) : Unfolds first handled after

/-- Events that are handled one after another, each with the session that it finds. -/
def handledIn (session : Session) : List TransportEvent → List (Session × TransportEvent)
  | [] => []
  | event :: rest => (session, event) :: (session.handleEvent event).handledIn rest

theorem map_handledIn (session : Session) (events : List TransportEvent) :
    (session.handledIn events).map Prod.snd = events := by
  induction events generalizing session with
  | nil => rfl
  | cons event rest ih => exact congrArg (event :: ·) (ih _)

/-- The states that were entered, of which each leads on as long as no event set the buildup back. -/
structure Visits (first : Session) (handled : List (Session × TransportEvent)) (later : Session) : Prop where
  rooted : later.footing.IsRooted
  visits : ∃ asked, later.display = first.display.visit asked ∧
    ((first.status.buildup :: asked).IsChain Rises ↔ ∀ entry ∈ handled, ¬ entry.1.SetsBack entry.2)

namespace Visits

variable {session : Session}

theorem refl (rooted : first.footing.IsRooted) : Visits first [] first :=
  ⟨rooted, [], rfl, iff_of_true (.singleton _) (List.forall_mem_nil _)⟩

/-- More states are entered, with the events that ask for them. -/
theorem further (visits : Visits first handled session) {asked : List Buildup} {more : List (Session × TransportEvent)}
    (rooted : later.footing.IsRooted) (entered : later.display = session.display.visit asked)
    (leads : (session.status.buildup :: asked).IsChain Rises ↔ ∀ entry ∈ more, ¬ entry.1.SetsBack entry.2) :
    Visits first (handled ++ more) later := by
  obtain ⟨-, former, display, led⟩ := visits
  have buildup : (first.display.visit former).buildup = session.status.buildup :=
    (congrArg Display.buildup display).symm
  refine ⟨rooted, former ++ asked, ?_, ?_⟩
  · rw [entered, display, Display.visit_append]
  · have chain := first.display.isChain_visit_iff former asked
    rw [buildup, leads] at chain
    rw [List.forall_mem_append, ← led]
    exact chain

/-- What handles no event may enter a state that leads on. -/
theorem quietly (visits : Visits first handled session) (rooted : later.footing.IsRooted) {asked : List Buildup}
    (entered : later.footing = session.footing.visit asked) (leads : (session.status.buildup :: asked).IsChain Rises) :
    Visits first handled later := by
  rw [← List.append_nil handled]
  exact visits.further rooted (congrArg Footing.display entered) (iff_of_true leads (List.forall_mem_nil _))

theorem of_unfolds (rooted : first.footing.IsRooted) (unfolds : Unfolds first handled later) :
    Visits first handled later := by
  induction unfolds with
  | refl => exact .refl rooted
  | event former runs event ih =>
      obtain ⟨asked, asks, leads⟩ := asks_handleEvent ih.rooted runs event
      exact ih.further asks.rooted asks.display (by rw [leads, List.forall_mem_singleton])
  | @push handled session former publicKey ih =>
      have rooted := isRooted_runPush ih.rooted publicKey
      rcases session.footing_runPush publicKey with same | ⟨entered, rises⟩
      · have stays : (session.runPush publicKey).footing = session.footing.visit [] := same
        exact ih.quietly rooted stays (.singleton _)
      · have shows : (session.runPush publicKey).footing = session.footing.visit [.push] := entered
        exact ih.quietly rooted shows (.cons_cons rises (.singleton _))
  | @other handled session after former same ih =>
      have stays : after.footing = session.footing.visit [] := same
      exact ih.quietly (isRooted_of_footing ih.rooted same) stays (.singleton _)

end Visits

namespace Unfolds

variable {session : Session}

/-- Events that are handled one after another go on, for the pump keeps running. -/
theorem foldl (rooted : first.footing.IsRooted) (unfolds : Unfolds first handled session)
    (runs : session.link.pump.isSome = true) (events : List TransportEvent) :
    Unfolds first (handled ++ session.handledIn events) (events.foldl handleEvent session) := by
  induction events generalizing session handled with
  | nil =>
      rw [handledIn, List.append_nil]
      exact unfolds
  | cons event rest ih =>
      obtain ⟨asked, asks, -⟩ := asks_handleEvent (Visits.of_unfolds rooted unfolds).rooted runs event
      have later := ih (unfolds.event runs event) asks.pumps
      rw [List.append_assoc] at later
      exact later

theorem runPump (rooted : first.footing.IsRooted) (unfolds : Unfolds first handled session) (transport : Nat) :
    ∃ more, more.map Prod.snd = session.waiting transport ∧
      Unfolds first (handled ++ more) (session.runPump transport) := by
  rcases session.runPump_cases transport with ⟨same, idle⟩ | ⟨emptied, stays, pumps, handles⟩
  · rw [same, idle]
    exact ⟨[], rfl, by rw [List.append_nil]; exact unfolds⟩
  · rw [handles]
    exact ⟨_, map_handledIn _ _, (unfolds.other stays).foldl rooted pumps _⟩

end Unfolds

/-- How the buildup goes on from one session to a later one, by the events handled in between. -/
structure GoesOneWay (first : Session) (handled : List (Session × TransportEvent)) (later : Session) : Prop where
  /-- The states announced in between lead one way exactly where no event set the buildup back. -/
  advances_iff : first.display.Advances later.display ↔ ∀ entry ∈ handled, ¬ entry.1.SetsBack entry.2
  rises : (∀ entry ∈ handled, ¬ entry.1.SetsBack entry.2) → Rises first.status.buildup later.status.buildup
  /-- Events may be reported at any time, and those that wait are handled together in any batches. -/
  batches : (∀ transport events, Unfolds first handled (later.report transport events).1) ∧
    ∀ transport, ∃ more, more.map Prod.snd = later.waiting transport ∧
      Unfolds first (handled ++ more) (later.runPump transport)
  /-- Time may pass in between. -/
  passes : (∀ time, Unfolds first handled (later.moveTo time)) ∧ Unfolds first handled later.wake

theorem goesOneWay_of_unfolds (arises : Arises first) (unfolds : Unfolds first handled later) :
    GoesOneWay first handled later := by
  have rooted := arises.isRooted
  obtain ⟨-, asked, display, leads⟩ := Visits.of_unfolds rooted unfolds
  have advances_iff : first.display.Advances later.display ↔ ∀ entry ∈ handled, ¬ entry.1.SetsBack entry.2 := by
    rw [display, Display.advances_visit_iff]
    exact leads
  constructor
  case advances_iff => exact advances_iff
  case rises => exact fun held => (advances_iff.mpr held).rises
  case batches =>
    exact ⟨fun transport events => unfolds.other (footing_report _ transport events),
      fun transport => unfolds.runPump rooted transport⟩
  case passes => exact ⟨fun time => unfolds.other (footing_moveTo _ time), unfolds.other (footing_wake _)⟩

/-- From the handshake of a started session to the last answer. -/
def arrival : List TransportEvent :=
  [.signaling .peerHandshake, .newResponder, .taskReady .relayed, answer .clientInfo, answer .conversations,
    answer .receivers]

def readySession : Session :=
  arrival.foldl handleEvent startedSession

theorem arises_startedSession : Arises startedSession :=
  ((Arises.fresh isFresh_freshSession rfl).init { pair := some ⟨default, default⟩ }).start

theorem unfolds_readySession : Unfolds startedSession (startedSession.handledIn arrival) readySession :=
  Unfolds.refl.foldl arises_startedSession.isRooted rfl arrival

/-- A session that gets ready goes one way, over the handshake and the data that is loaded. -/
theorem goesOneWay_readySession :
    Arises startedSession ∧ Unfolds startedSession (startedSession.handledIn arrival) readySession ∧
      GoesOneWay startedSession (startedSession.handledIn arrival) readySession ∧
      startedSession.display.Advances readySession.display ∧
      readySession.display.announced = [.waiting, .peerHandshake, .loading, .done] := by
  have oneWay := goesOneWay_of_unfolds arises_startedSession unfolds_readySession
  exact ⟨arises_startedSession, unfolds_readySession, oneWay, oneWay.advances_iff.mpr (by decide +kernel),
    by decide +kernel⟩

theorem arises_unansweredSession : Arises unansweredSession := by
  have chosen := arises_startedSession.event rfl (.taskReady .relayed)
  exact (chosen.event (by decide +kernel) (answer .clientInfo)).event (by decide +kernel) (answer .conversations)

/-- A responder joins while the data is loaded. -/
def rejoinedSession : Session :=
  unansweredSession.handleEvent .newResponder

/-- The responder sets the buildup back, though the session was not set up, started or stopped. -/
theorem not_advances_rejoinedSession :
    Arises unansweredSession ∧ Unfolds unansweredSession [(unansweredSession, .newResponder)] rejoinedSession ∧
      unansweredSession.status.buildup = .loading ∧ rejoinedSession.status.buildup = .peerHandshake ∧
      ¬ unansweredSession.display.Advances rejoinedSession.display := by
  have unfolds : Unfolds unansweredSession [(unansweredSession, .newResponder)] rejoinedSession :=
    Unfolds.refl.event (by decide +kernel) .newResponder
  have falls : ¬ Rises unansweredSession.status.buildup rejoinedSession.status.buildup := by decide +kernel
  exact ⟨arises_unansweredSession, unfolds, by decide +kernel, by decide +kernel, fun advances => falls advances.rises⟩

end Session

end RelayClient
