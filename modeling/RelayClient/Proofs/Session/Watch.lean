import RelayClient.Proofs.Recovery.Moves
import RelayClient.Proofs.Session.Core

/-!
# What recovery goes by

Recovery goes by the status of a session, by itself, and by the losses that were
reported. Most of what a session does leaves all of it alone.
-/

namespace RelayClient

/-- Whether an effect tells that a connection that was up is lost. -/
def Effect.isLoss : Effect → Bool
  | .status event => (RecoveryInput.status event).isLoss
  | _ => false

/-- What recovery goes by: the status, recovery itself and the losses reported so far. -/
structure Watch where
  status : Status
  recovery : Option Recovery
  losses : Nat

namespace Session

def losses (session : Session) : Nat :=
  session.effects.countP Effect.isLoss

def watch (session : Session) : Watch :=
  ⟨session.status, session.recovery, session.losses⟩

theorem losses_note (session : Session) (effect : Effect) :
    (session.note effect).losses = session.losses + if effect.isLoss then 1 else 0 := by
  unfold note
  split
  · next hidden =>
      -- What concerns the frontend is no report of a loss.
      have quiet : effect.isLoss = false := by
        cases effect <;> first | rfl | simp [Effect.isShown] at hidden
      rw [quiet]
      rfl
  · exact List.countP_append.trans (congrArg _ List.countP_singleton)

theorem watch_note (session : Session) {effect : Effect} (quiet : effect.isLoss = false) :
    (session.note effect).watch = session.watch := by
  have same := session.losses_note effect
  rw [quiet, if_neg Bool.false_ne_true, Nat.add_zero] at same
  unfold watch
  rw [same]
  unfold note
  split <;> rfl

theorem watch_spawn (session : Session) (task : Task) : (session.spawn task).watch = session.watch := rfl

theorem watch_settleStartup (session : Session) (startup : Nat) (result : Except Failure Unit) :
    (session.settleStartup startup result).watch = session.watch := by
  obtain ⟨ready, same⟩ := session.settleStartup_frame startup result
  rw [same]
  rfl

theorem watch_failStartup (session : Session) (failure : Failure) :
    (session.failStartup failure).watch = session.watch := by
  unfold failStartup
  split
  · exact watch_settleStartup _ _ _
  · rfl

theorem watch_pairFor (session : Session) (params : InitParams) :
    (session.pairFor params).1.watch = session.watch := by
  unfold pairFor
  split <;> rfl

theorem watch_enterStartup (session : Session) : session.enterStartup.1.watch = session.watch := by
  unfold enterStartup
  dsimp only
  split
  · exact watch_settleStartup _ _ _
  · rfl

theorem watch_refuseStartup (session : Session) (startup : Nat) (failure : Failure) :
    (session.refuseStartup startup failure).watch = session.watch :=
  watch_settleStartup _ _ _

theorem watch_postMessage (session : Session) (message : Message) :
    (session.postMessage message).1.watch = session.watch := by
  unfold postMessage
  split
  · exact watch_note _ rfl
  · rfl

theorem watch_postAll (session : Session) (messages : List Message) :
    (session.postAll messages).watch = session.watch := by
  unfold postAll
  induction messages generalizing session with
  | nil => rfl
  | cons message rest ih => rw [List.foldl_cons, ih, watch_postMessage]

theorem watch_tellPeer (session : Session) (options : StopOptions) (transport : Option Nat) :
    (session.tellPeer options transport).watch = session.watch := by
  unfold tellPeer
  cases transport with
  | none => exact watch_postMessage _ _
  | some transport => exact (watch_note _ rfl).trans (watch_postMessage _ _)

theorem watch_noteFor {α : Type} (session : Session) {effect : α → Effect}
    (quiet : ∀ thing, (effect thing).isLoss = false) (thing : Option α) :
    (session.noteFor effect thing).watch = session.watch := by
  cases thing with
  | none => rfl
  | some thing => exact watch_note _ (quiet thing)

theorem watch_closeLink (session : Session) (link : Link) : (session.closeLink link).watch = session.watch := by
  unfold closeLink
  rw [watch_noteFor _ fun _ => rfl, watch_noteFor _ fun _ => rfl, watch_noteFor _ fun _ => rfl]

theorem watch_ask (session : Session) (call : OutsideCall) {effect : Effect} (quiet : effect.isLoss = false) :
    (session.ask call effect).1.watch = session.watch :=
  watch_note session quiet

theorem watch_asked {session after : Session} {call : OutsideCall} {effect : Effect} {result : Except Failure Unit}
    (same : session.ask call effect = (after, result)) (quiet : effect.isLoss = false) :
    after.watch = session.watch := by
  rw [← session.watch_ask call quiet, same]

theorem watch_askChannel (session : Session) : session.askChannel.1.watch = session.watch := by
  unfold askChannel
  split
  · exact watch_ask session .openChannel rfl
  · exact watch_ask session .relayedChannel rfl
  · rfl

theorem watch_connectDirectly (session : Session) (transport : Nat) :
    (session.connectDirectly transport).1.watch = session.watch := by
  rcases session.connectDirectly_cases transport with same | same
  · rw [same, watch_note _ rfl]
  · rw [same, watch_note _ rfl]
    exact session.watch_note rfl

theorem watch_beginRecovery (session : Session) (recovery : Recovery) (phase : RecoveryPhase) (delay : Nat) :
    (session.beginRecovery recovery phase delay).status = session.status ∧
      (session.beginRecovery recovery phase delay).losses = session.losses := by
  obtain ⟨next, ready, same⟩ := session.beginRecovery_frame recovery phase delay
  rw [same]
  exact ⟨rfl, rfl⟩

/-- Recovery that learns of an event changes nothing that it goes by except itself. -/
theorem watch_reactTo (session : Session) (event : StatusEvent) :
    (session.reactTo event).status = session.status ∧ (session.reactTo event).losses = session.losses := by
  obtain ⟨data, next, ready, same⟩ := session.reactTo_frame event
  rw [same]
  exact ⟨rfl, rfl⟩

theorem watch_messenger (session : Session) (messenger : Messenger Channel) :
    { session with messenger }.watch = session.watch := rfl

theorem watch_forget (session : Session) (options : StopOptions) : (session.forget options).watch = session.watch := rfl

end Session

end RelayClient
