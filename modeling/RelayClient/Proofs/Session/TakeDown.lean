import RelayClient.Proofs.Recovery.Frame
import RelayClient.Proofs.Session.Closings

/-!
# What taking down does

All that is left of a session that is taken down: the link without what it held, the
initial status, what the options leave of keys, data and push, and a messenger with
nothing attached and nothing pending. On the way the device is told, where it can be,
and what the link held is closed.
-/

namespace RelayClient

/-- What is closed of a link, in this order. -/
def Link.closed (link : Link) : List Effect :=
  (link.channel.map .closeChannel).toList ++ (link.transport.map .disconnect).toList ++ (link.peer.map .closePeer).toList

/-- The ends of what a link holds, in the order in which a stop comes to them. -/
def Link.endings (link : Link) (told : Bool) : List Closing :=
  (if told then (link.transport.map (Closing.mk .device)).toList else []) ++
    ((link.channel.map fun channel => ⟨.channel, channel.transport⟩).toList ++
      (link.transport.map (Closing.mk .signaling)).toList ++ (link.peer.map (Closing.mk .peer)).toList)

/-- What a link holds belongs to its transport. -/
structure Link.IsCoherent (link : Link) : Prop where
  channel : ∀ channel, link.channel = some channel → link.transport = some channel.transport
  peer : ∀ peer, link.peer = some peer → link.transport = some peer

namespace Link

variable {link : Link}

theorem closing_closed (link : Link) :
    link.closed.filterMap Effect.closing? =
      (link.channel.map fun channel => ⟨.channel, channel.transport⟩).toList ++
        (link.transport.map (Closing.mk .signaling)).toList ++ (link.peer.map (Closing.mk .peer)).toList := by
  unfold closed
  rw [List.filterMap_append, List.filterMap_append]
  cases link.channel <;> cases link.transport <;> cases link.peer <;> rfl

/-- Without a transport nothing ends, and with one its parts do, each at most once. -/
theorem IsCoherent.endings_cases (coherent : link.IsCoherent) (told : Bool) :
    link.endings told = [] ∨ ∃ transport, link.transport = some transport ∧
      (link.endings told).Sublist
        [⟨.device, transport⟩, ⟨.channel, transport⟩, ⟨.signaling, transport⟩, ⟨.peer, transport⟩] := by
  cases linked : link.transport with
  | none =>
      have detached : link.channel = none := by
        cases held : link.channel with
        | none => rfl
        | some channel => cases linked.symm.trans (coherent.channel channel held)
      have alone : link.peer = none := by
        cases held : link.peer with
        | none => rfl
        | some peer => cases linked.symm.trans (coherent.peer peer held)
      refine .inl ?_
      unfold endings
      rw [linked, detached, alone]
      cases told <;> rfl
  | some transport =>
      have tells : (if told then (link.transport.map (Closing.mk .device)).toList else []).Sublist
          [⟨.device, transport⟩] := by
        rw [linked]
        cases told with
        | true => exact .refl _
        | false => exact List.nil_sublist _
      have channel : (link.channel.map fun channel => (⟨.channel, channel.transport⟩ : Closing)).toList.Sublist
          [⟨.channel, transport⟩] := by
        cases held : link.channel with
        | none => exact List.nil_sublist _
        | some channel =>
            cases linked.symm.trans (coherent.channel channel held)
            exact .refl _
      have signaling : (link.transport.map (Closing.mk .signaling)).toList.Sublist [⟨.signaling, transport⟩] := by
        rw [linked]
        exact .refl _
      have peer : (link.peer.map (Closing.mk .peer)).toList.Sublist [⟨.peer, transport⟩] := by
        cases held : link.peer with
        | none => exact List.nil_sublist _
        | some peer =>
            cases linked.symm.trans (coherent.peer peer held)
            exact .refl _
      exact .inr ⟨transport, rfl, tells.append ((channel.append signaling).append peer)⟩

theorem IsCoherent.nodup_endings (coherent : link.IsCoherent) (told : Bool) : (link.endings told).Nodup := by
  rcases coherent.endings_cases told with none | ⟨transport, -, within⟩
  · rw [none]
    exact .nil
  · exact within.nodup (by simp)

theorem IsCoherent.transport_of_mem (coherent : link.IsCoherent) {told : Bool} {closing : Closing}
    (mem : closing ∈ link.endings told) : link.transport = some closing.transport := by
  rcases coherent.endings_cases told with none | ⟨transport, linked, within⟩
  · rw [none] at mem
    cases mem
  · have known := within.subset mem
    rw [linked]
    simp only [List.mem_cons, List.not_mem_nil, or_false] at known
    rcases known with rfl | rfl | rfl | rfl <;> rfl

end Link

namespace Session

/-- What the device is told: the reason over the channel, if that takes it, and then, outside of it, whether to forget. -/
def lastWords (session : Session) (options : StopOptions) : List Effect :=
  if options.byUs ∧ session.status.task = .connected then
    ((session.messenger.post (session.surroundings.failure? .send)).toOption.map fun channel =>
        .send channel ⟨.update, .connectionDisconnect, none, some options.effectiveReason.data⟩).toList ++
      (session.link.transport.map fun transport => .application transport (farewell options.deletes)).toList
  else []

theorem note_of_visible (session : Session) {effect : Effect} (visible : effect.isShown = false) :
    session.note effect = { session with effects := session.effects ++ [effect] } := by
  unfold note
  rw [visible, Bool.and_false]
  rfl

theorem noteFor_eq {α : Type} (session : Session) {effect : α → Effect} (visible : ∀ thing, (effect thing).isShown = false)
    (thing : Option α) :
    session.noteFor effect thing = { session with effects := session.effects ++ (thing.map effect).toList } := by
  cases thing with
  | none =>
      rw [Option.map_none, Option.toList_none, List.append_nil]
      rfl
  | some thing => exact session.note_of_visible (visible thing)

theorem closeLink_eq (session : Session) (link : Link) :
    session.closeLink link = { session with effects := session.effects ++ link.closed } := by
  unfold closeLink
  rw [noteFor_eq _ fun _ => rfl, noteFor_eq _ fun _ => rfl, noteFor_eq _ fun _ => rfl]
  unfold Link.closed
  rw [List.append_assoc, List.append_assoc, List.append_assoc]

/-- Events in which recovery has no part are posted, and nothing else comes of them. -/
theorem postStatus_of_isQuiet (session : Session) {events : List StatusEvent}
    (quiet : ∀ event ∈ events, event.isQuiet = true) :
    session.postStatus events = { session with effects := session.effects ++ events.map .status } := by
  induction events generalizing session with
  | nil =>
      rw [List.map_nil, List.append_nil]
      rfl
  | cons event rest ih =>
      have later := ih { session with effects := session.effects ++ [.status event] } fun other mem =>
        quiet other (.tail _ mem)
      rw [List.append_assoc] at later
      rw [postStatus, List.foldl_cons, reactTo_of_isQuiet _ (quiet event (.head _)), session.note_of_visible rfl]
      exact later

theorem resetStatus_eq (session : Session) (forgetUnread : Bool) :
    session.resetStatus forgetUnread = { session with
      status := (session.status.reset forgetUnread session.now).1
      effects := session.effects ++ (session.status.reset forgetUnread session.now).2.map .status } :=
  postStatus_of_isQuiet { session with status := (session.status.reset forgetUnread session.now).1 } fun _ posted =>
    Status.isQuiet_of_mem_reset posted

/-- The last words are said before anything is closed, and nothing else comes of them. -/
theorem tellPeer_eq (session : Session) (options : StopOptions) (link : Link) :
    (if options.byUs && session.status.task = .connected then
        tellPeer { session with link } options session.link.transport
      else { session with link }) =
      { session with link, effects := session.effects ++ session.lastWords options } := by
  unfold lastWords
  by_cases tells : options.byUs ∧ session.status.task = .connected
  · have posted : (postMessage { session with link }
          ⟨.update, .connectionDisconnect, none, some options.effectiveReason.data⟩).1 =
        { session with
          link
          effects := session.effects ++
            ((session.messenger.post (session.surroundings.failure? .send)).toOption.map fun channel =>
              .send channel ⟨.update, .connectionDisconnect, none, some options.effectiveReason.data⟩).toList } := by
      unfold postMessage
      dsimp only
      cases session.messenger.post (session.surroundings.failure? .send) with
      | ok channel => exact note_of_visible _ rfl
      | error failure =>
          dsimp only [Except.toOption]
          rw [Option.map_none, Option.toList_none, List.append_nil]
    rw [if_pos tells, if_pos (by simpa using tells)]
    unfold tellPeer
    dsimp only
    rw [posted]
    cases session.link.transport with
    | none =>
        rw [Option.map_none, Option.toList_none, List.append_nil]
    | some transport =>
        dsimp only
        rw [note_of_visible _ rfl, List.append_assoc]
        rfl
  · rw [if_neg tells, if_neg (by simpa using tells), List.append_nil]

theorem takeDown_frame (session : Session) (options : StopOptions) : ∃ ready,
    session.takeDown options = { session with
      link := session.link.takenDown
      status := (session.status.reset true session.now).1
      keys := if options.deletes then session.keys.clear else session.keys
      replica := if options.clearsData then { session.replica with data := {} } else session.replica
      push := if options.dropsPush then session.push.reset else session.push
      startups := settled session.startups session.link.startup (.error .stopped)
      messenger := session.messenger.detach.clear.1
      ready
      effects := session.effects ++ session.lastWords options ++
        (session.status.reset true session.now).2.map .status ++ session.link.closed } := by
  unfold takeDown
  dsimp only
  rw [closeLink_eq]
  rw [session.tellPeer_eq options, resetStatus_eq]
  cases session.link.startup with
  | none => exact ⟨_, rfl⟩
  | some startup =>
      dsimp only
      obtain ⟨ready, settles⟩ := settleStartup_frame
        (forget { session with
          link := session.link.takenDown
          status := (session.status.reset true session.now).1
          effects := session.effects ++ session.lastWords options ++
            (session.status.reset true session.now).2.map .status } options) startup (.error .stopped)
      exact ⟨ready, congrArg (fun settled : Session => { settled with
        messenger := settled.messenger.detach.clear.1
        effects := settled.effects ++ session.link.closed }) settles⟩

theorem closing_lastWords (session : Session) (options : StopOptions) :
    (session.lastWords options).filterMap Effect.closing? =
      if decide (options.byUs ∧ session.status.task = .connected) then
        (session.link.transport.map (Closing.mk .device)).toList
      else [] := by
  unfold lastWords
  by_cases tells : options.byUs ∧ session.status.task = .connected
  · rw [if_pos tells, if_pos (decide_eq_true tells), List.filterMap_append]
    cases session.messenger.post (session.surroundings.failure? .send) <;> cases session.link.transport <;> rfl
  · rw [if_neg tells, if_neg (by simpa using tells), List.filterMap_nil]

theorem closings_takeDown (session : Session) (options : StopOptions) :
    (session.takeDown options).closings =
      session.closings ++ session.link.endings (options.byUs ∧ session.status.task = .connected) := by
  obtain ⟨ready, down⟩ := session.takeDown_frame options
  have silent (events : List StatusEvent) : (events.map Effect.status).filterMap Effect.closing? = [] := by
    rw [List.filterMap_map]
    exact List.filterMap_eq_nil_iff.mpr fun _ _ => rfl
  rw [down]
  unfold closings
  rw [List.filterMap_append, List.filterMap_append, List.filterMap_append, silent, List.append_nil, List.append_assoc,
    session.closing_lastWords options, session.link.closing_closed, Link.endings]

end Session

end RelayClient
