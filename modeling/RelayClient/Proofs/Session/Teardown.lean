import RelayClient.Proofs.Credential.Contents
import RelayClient.Proofs.Session.Accounts
import RelayClient.Proofs.Session.Stopped
import RelayClient.Proofs.Status.Forgetting

/-!
# Stops tear down

One stop leaves nothing of an attempt, and further ones, after it or while it still
waits, find nothing left: the first tells the device and closes what there was, and
each one forgets what its options say. Whatever else happens in between, nothing is
closed twice.
-/

namespace RelayClient

namespace Messenger

variable {κ : Type} {messenger : Messenger κ}

/-- Where nothing is pending, there is nothing to give up. -/
theorem clear_of_empty (empty : messenger.table.entries = .empty) : messenger.clear.1 = messenger := by
  obtain ⟨limit, draw, drawn, channel, ⟨entries, mailboxes⟩, replies⟩ := messenger
  cases empty
  rfl

theorem clear_clear (messenger : Messenger κ) :
    messenger.detach.clear.1.detach.clear.1 = messenger.detach.clear.1 :=
  clear_of_empty messenger.table.entries_clear

/-- A waiter whose request was given up learns that at any time. -/
theorem poll_of_stopped {reply : Nat} (stopped : messenger.fate reply = some .stopped) (now : Nat) :
    (messenger.poll now reply).2 = some (.error .stopped) := by
  obtain ⟨expected, found, fate⟩ := Option.map_eq_some_iff.mp stopped
  unfold ExpectedReply.fate at fate
  unfold poll
  cases finished : expected.finished with
  | true =>
      rw [finished, if_pos rfl] at fate
      cases fate
  | false =>
      rw [finished, if_neg Bool.false_ne_true] at fate
      rw [found]
      dsimp only
      rw [finished, if_neg Bool.false_ne_true]
      unfold PendingTable.receive
      cases box : messenger.table.mailbox expected.waiter with
      | vacant =>
          rw [box] at fate
          cases fate
      | delivered reply =>
          rw [box] at fate
          cases fate
      | closed => rfl
      | abandoned => rfl

end Messenger

namespace Session

/-- The end of a stop: the frontend may return to the pairing screen. -/
def leave (session : Session) (options : StopOptions) : Session :=
  if options.redirect then session.note (.navigate none) else session

/-- A stop that nothing comes between. -/
theorem stop_eq (session : Session) (options : StopOptions) :
    session.stop options = (session.takeDown options).leave options :=
  rfl

/-- Stops of a session, one after another or overlapping, and nothing else in between. Listed
are those after the first, and those that still wait for the direct connection to close. -/
inductive Stops (session : Session) (first : StopOptions) : List StopOptions → List StopOptions → Session → Prop
  | first : Stops session first [] [first] (session.takeDown first)
  | enter {rest waiting : List StopOptions} {current : Session} (former : Stops session first rest waiting current)
      (options : StopOptions) : Stops session first (rest ++ [options]) (waiting ++ [options]) (current.takeDown options)
  | leave {rest before after : List StopOptions} {current : Session} {options : StopOptions}
      (former : Stops session first rest (before ++ options :: after) current) :
      Stops session first rest (before ++ after) (current.leave options)

/-- What stops leave of trusted keys. -/
structure LeavesKeys (stops : List StopOptions) (before after : KeyStore) : Prop where
  kept : stops.any (·.deletes) = false → after = before
  /-- The record, the flag and the password are gone, where storage does not fail. -/
  gone : stops.any (·.deletes) = true → before.storage.Reliable → after.IsEmpty ∧ after.password = none
  reliable : before.storage.Reliable → after.storage.Reliable

/-- What is left of a session after its first stop and the rest of them. -/
structure IsTornDown (session : Session) (first : StopOptions) (rest : List StopOptions) (after : Session) : Prop where
  /-- Both tracks, the summary, the buildup and the number of unread messages are initial. -/
  status : after.status = { clocked := session.status.clocked }
  detached : after.messenger.isAttached = false
  pending : after.messenger.table.size = 0
  waiters : ∀ reply id now, session.messenger.fate reply = some (.waiting id) →
    (after.messenger.poll now reply).2 = some (.error .stopped)
  startups : ∀ startup : Nat, session.startups[startup]? = some none →
    after.startups[startup]? = some (some (.error .stopped))
  settled : ∀ (startup : Nat) result, session.startups[startup]? = some (some result) →
    after.startups[startup]? = some (some result)
  link : after.link = session.link.takenDown
  /-- The device is told, the reset is posted, and then the channel, the signaling and the direct
  connection are closed, each by the first stop alone. -/
  effects : ∃ more, after.effects = session.effects ++ session.lastWords first ++
      (session.status.reset true session.now).2.map .status ++ session.link.closed ++ more ∧
    ∀ effect ∈ more, effect = .status .reset ∨ effect = .navigate none
  told : ∀ transport message, .application transport message ∈ after.effects.drop session.effects.length ↔
    first.byUs = true ∧ session.status.task = .connected ∧ session.link.transport = some transport ∧
      message = farewell first.deletes
  keys : LeavesKeys (first :: rest) session.keys after.keys
  data : after.replica.data = if (first :: rest).any (·.clearsData) then {} else session.replica.data
  push : after.push = if (first :: rest).any (·.dropsPush) then session.push.reset else session.push
  /-- Nothing was closed twice, whatever the session closed before. -/
  once : after.closings.Nodup

variable {session current after : Session} {first : StopOptions} {rest waiting : List StopOptions}

theorem any_concat (stops : List StopOptions) (options : StopOptions) (forgets : StopOptions → Bool) :
    (stops ++ [options]).any forgets = (stops.any forgets || forgets options) := by
  rw [List.any_append, List.any_cons, List.any_nil, Bool.or_false]

theorem LeavesKeys.refl (keys : KeyStore) : LeavesKeys [] keys keys :=
  ⟨fun _ => rfl, nofun, id⟩

theorem LeavesKeys.next {stops : List StopOptions} {before keys : KeyStore} (leaves : LeavesKeys stops before keys)
    (options : StopOptions) :
    LeavesKeys (stops ++ [options]) before (if options.deletes then keys.clear else keys) := by
  have all := any_concat stops options (·.deletes)
  cases deletes : options.deletes with
  | true =>
      rw [if_pos rfl]
      constructor
      · rw [all, deletes, Bool.or_true]
        exact nofun
      · intro _ reliable
        obtain ⟨empty, -, locked⟩ := KeyStore.clear_spec (leaves.reliable reliable)
        exact ⟨empty, locked⟩
      · intro reliable
        exact (KeyStore.clear_spec (leaves.reliable reliable)).2.1
  | false =>
      rw [if_neg Bool.false_ne_true]
      rw [deletes, Bool.or_false] at all
      exact ⟨all ▸ leaves.kept, all ▸ leaves.gone, leaves.reliable⟩

/-- What stops make of a session, by the keys they leave, the tasks that are ready then, and
what is noted after all is closed. -/
def leftBy (session : Session) (first : StopOptions) (rest : List StopOptions) (keys : KeyStore) (ready : List Task)
    (more : List Effect) : Session :=
  { session with
    link := session.link.takenDown
    status := { clocked := session.status.clocked }
    keys
    replica := if (first :: rest).any (·.clearsData) then { session.replica with data := {} } else session.replica
    push := if (first :: rest).any (·.dropsPush) then session.push.reset else session.push
    startups := settled session.startups session.link.startup (.error .stopped)
    messenger := session.messenger.detach.clear.1
    ready
    effects := session.effects ++ session.lastWords first ++
      (session.status.reset true session.now).2.map .status ++ session.link.closed ++ more }

theorem takeDown_eq_leftBy (still : session.status.IsStill) (options : StopOptions) : ∃ ready,
    session.takeDown options =
      session.leftBy options [] (if options.deletes then session.keys.clear else session.keys) ready [] := by
  obtain ⟨ready, down⟩ := session.takeDown_frame options
  have initial := session.status.reset_fst still true session.now
  rw [if_pos rfl] at initial
  refine ⟨ready, ?_⟩
  unfold leftBy
  rw [down, initial, List.append_nil, List.any_cons, List.any_nil, Bool.or_false, List.any_cons, List.any_nil,
    Bool.or_false]

variable (keys : KeyStore) (ready : List Task) (more : List Effect)

/-- A stop of what a stop has left finds nothing to close and nobody to tell. -/
theorem takeDown_leftBy (session : Session) (first : StopOptions) (rest : List StopOptions) (options : StopOptions) :
    ∃ later, (session.leftBy first rest keys ready more).takeDown options =
      session.leftBy first (rest ++ [options]) (if options.deletes then keys.clear else keys) later
        (more ++ [.status .reset]) := by
  obtain ⟨later, down⟩ := (session.leftBy first rest keys ready more).takeDown_frame options
  have silent : (session.leftBy first rest keys ready more).lastWords options = [] :=
    if_neg fun tells => nomatch tells.2
  have empty : (session.leftBy first rest keys ready more).link.closed = [] := rfl
  have idle : (session.leftBy first rest keys ready more).messenger.detach.clear.1 =
      session.messenger.detach.clear.1 :=
    session.messenger.clear_clear
  have all (forgets : StopOptions → Bool) : (first :: (rest ++ [options])).any forgets =
      ((first :: rest).any forgets || forgets options) :=
    any_concat (first :: rest) options forgets
  have data (any clears : Bool) (replica : Replica) :
      (if clears then { (if any then { replica with data := {} } else replica) with data := {} }
        else if any then { replica with data := {} } else replica) =
        if any || clears then { replica with data := {} } else replica := by
    cases any <;> cases clears <;> rfl
  have push (any drops : Bool) (service : PushService) :
      (if drops then (if any then service.reset else service).reset else if any then service.reset else service) =
        if any || drops then service.reset else service := by
    cases any <;> cases drops <;> rfl
  refine ⟨later, ?_⟩
  rw [down, silent, empty, idle, List.append_nil, List.append_nil, leftBy, leftBy, all, all, ← data, ← push,
    ← List.append_assoc]
  rfl

/-- The frontend learns of the end, where there is one, and nothing else changes. -/
theorem leave_leftBy (session : Session) (first : StopOptions) (rest : List StopOptions) (options : StopOptions) :
    (session.leftBy first rest keys ready more).leave options = session.leftBy first rest keys ready more ∨
      (session.leftBy first rest keys ready more).leave options =
        session.leftBy first rest keys ready (more ++ [.navigate none]) := by
  unfold leave note
  split
  · split
    · exact .inl rfl
    · refine .inr ?_
      rw [leftBy, leftBy, ← List.append_assoc]
  · exact .inl rfl

/-- Stops leave nothing but what the keys, the ready tasks and the last effects tell. -/
theorem Stops.frame (still : session.status.IsStill) (stops : Stops session first rest waiting after) :
    ∃ keys ready more, LeavesKeys (first :: rest) session.keys keys ∧
      (∀ effect ∈ more, effect = .status .reset ∨ effect = .navigate none) ∧
      after = session.leftBy first rest keys ready more := by
  induction stops with
  | first =>
      obtain ⟨ready, down⟩ := takeDown_eq_leftBy still first
      exact ⟨_, ready, [], (LeavesKeys.refl session.keys).next first, nofun, down⟩
  | enter former options ih =>
      obtain ⟨keys, ready, more, leaves, quiet, rfl⟩ := ih
      obtain ⟨later, down⟩ := takeDown_leftBy keys ready more session first _ options
      refine ⟨_, later, more ++ [.status .reset], leaves.next options, fun effect mem => ?_, down⟩
      rcases List.mem_append.mp mem with earlier | mem
      · exact quiet effect earlier
      · exact .inl (List.mem_singleton.mp mem)
  | @leave rest _ _ _ options former ih =>
      obtain ⟨keys, ready, more, leaves, quiet, rfl⟩ := ih
      rcases leave_leftBy keys ready more session first rest options with same | same
      · exact ⟨keys, ready, more, leaves, quiet, same⟩
      · refine ⟨keys, ready, more ++ [.navigate none], leaves, fun effect mem => ?_, same⟩
        rcases List.mem_append.mp mem with earlier | mem
        · exact quiet effect earlier
        · exact .inr (List.mem_singleton.mp mem)

theorem application_mem_lastWords_iff (session : Session) (options : StopOptions) (transport : Nat)
    (message : Pack.Value) :
    .application transport message ∈ session.lastWords options ↔
      options.byUs = true ∧ session.status.task = .connected ∧ session.link.transport = some transport ∧
        message = farewell options.deletes := by
  unfold lastWords
  by_cases tells : options.byUs ∧ session.status.task = .connected
  · rw [if_pos tells, List.mem_append]
    simp only [Option.mem_toList, Option.map_eq_some_iff, reduceCtorEq, and_false, exists_false, false_or,
      Effect.application.injEq, tells, true_and]
    constructor
    · rintro ⟨own, linked, rfl, rfl⟩
      exact ⟨linked, rfl⟩
    · rintro ⟨linked, rfl⟩
      exact ⟨transport, linked, rfl, rfl⟩
  · rw [if_neg tells]
    constructor
    · exact nofun
    · rintro ⟨byUs, connected, -⟩
      exact absurd ⟨byUs, connected⟩ tells

/-- Nothing but the last words tells the device outside the channel. -/
theorem application_mem_leftBy_iff (session : Session) (first : StopOptions) (rest : List StopOptions)
    (quiet : ∀ effect ∈ more, effect = .status .reset ∨ effect = .navigate none) (transport : Nat)
    (message : Pack.Value) :
    .application transport message ∈ (session.leftBy first rest keys ready more).effects.drop session.effects.length ↔
      .application transport message ∈ session.lastWords first := by
  have posted : Effect.application transport message ∉ (session.status.reset true session.now).2.map .status := by
    simp
  have closed : Effect.application transport message ∉ session.link.closed := by
    simp [Link.closed]
  have after : Effect.application transport message ∉ more := fun mem => by
    rcases quiet _ mem with same | same <;> cases same
  have since : (session.leftBy first rest keys ready more).effects.drop session.effects.length =
      session.lastWords first ++ (session.status.reset true session.now).2.map .status ++ session.link.closed ++ more := by
    unfold leftBy
    rw [List.append_assoc, List.append_assoc, List.append_assoc, List.drop_left, List.append_assoc, List.append_assoc]
  rw [since]
  simp only [List.mem_append, posted, closed, after, or_false]

theorem Lives.leave (lives : Lives session) (options : StopOptions) : Lives (session.leave options) := by
  unfold Session.leave
  split
  · have upholds := session.upholds_note (rfl : (Effect.navigate none).closing? = none)
    exact lives.other (core_note _ rfl) (congrArg Watch.status (session.watch_note rfl)) (session.messenger_note _)
      upholds.closings
  · exact lives

theorem Stops.lives (stops : Stops session first rest waiting after) (lives : Lives session) : Lives after := by
  induction stops with
  | first => exact lives.takeDown first
  | enter former options ih => exact ih.takeDown options
  | leave former ih => exact ih.leave _

theorem isTornDown_of_stops (lives : Lives session) (stops : Stops session first rest waiting after) :
    IsTornDown session first rest after := by
  have accounted := lives.isAccounted
  obtain ⟨history, tracks⟩ := accounted.tracks
  have once := (stops.lives lives).isAccounted.once
  obtain ⟨keys, ready, more, leaves, quiet, rfl⟩ := stops.frame accounted.still
  constructor
  case status => rfl
  case detached => rfl
  case pending => exact (Messenger.isIdle_clear session.messenger).size_eq_zero
  case waiters =>
    intro reply id now waits
    have detached : session.messenger.detach.Sound := accounted.sound.congr rfl rfl
    refine Messenger.poll_of_stopped ?_ now
    exact (Messenger.fate_clear detached reply).trans (congrArg (Option.map Fate.giveUp) waits)
  case startups =>
    intro startup waits
    exact tracks.waits.settle waits _
  case settled =>
    intro startup result known
    have stops : SessionCore.Proceeds False session.core (session.core.settle (.error .stopped)) :=
      session.core.proceeds_stop
    exact stops.kept startup result known tracks.waits
  case link => rfl
  case effects => exact ⟨more, rfl, quiet⟩
  case told =>
    intro transport message
    rw [application_mem_leftBy_iff keys ready more session first rest quiet, application_mem_lastWords_iff]
  case keys => exact leaves
  case data =>
    unfold leftBy
    dsimp only
    split <;> rfl
  case push => rfl
  case once => exact once

/-- Whatever a session holds, each way to stop it leaves nothing of that, and closes it once. -/
structure StopsCleanly (session : Session) : Prop where
  alone : ∀ options, IsTornDown session options [] (session.stop options)
  /-- Any number of stops, one after another or overlapping. -/
  together : ∀ first rest waiting after, Stops session first rest waiting after → IsTornDown session first rest after

/-- A session that is connected directly and whose start still waits for the initial steps. -/
def openSession : Session :=
  (startedSession.report 0 [.taskReady .direct, .handover, .taskState .connected, .channelOpen]).1.runTask (.pump 0)

end Session

end RelayClient
