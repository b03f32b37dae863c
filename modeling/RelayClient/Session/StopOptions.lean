import RelayClient.Envelope.Kind

/-!
# Ways to stop

A session is stopped by its user or by the device, for a reason that decides
what is forgotten. Where no reason is given, one follows from whether stored
data is deleted.
-/

namespace RelayClient

/-- How a session is stopped. -/
structure StopOptions where
  /-- The stop is asked for here, so the device is told when it is connected. -/
  byUs : Bool := true
  /-- The trusted keys are forgotten. -/
  deleteStored : Bool := false
  /-- The push token is forgotten. -/
  resetPush : Bool := true
  /-- The frontend returns to the pairing screen. -/
  redirect : Bool := false
  reason : Option DisconnectReason := none

namespace StopOptions

/-- Ends the connection only. -/
def soft : StopOptions :=
  { resetPush := false }

/-- The device ended the session. -/
def fromPeer (reason : DisconnectReason) : StopOptions :=
  { byUs := false
    deleteStored := reason = .sessionDeleted
    redirect := true
    reason := some reason }

/-- Recovery gave up. -/
def givingUp : StopOptions :=
  { byUs := false, resetPush := false }

/-- The reason that is given, or the one that follows. -/
def effectiveReason (options : StopOptions) : DisconnectReason :=
  options.reason.getD (if options.deleteStored then .sessionDeleted else .sessionStopped)

/-- Whether the trusted keys are forgotten. -/
def deletes (options : StopOptions) : Bool :=
  options.deleteStored || options.effectiveReason = .sessionDeleted

/-- Whether replicated data is forgotten. -/
def clearsData (options : StopOptions) : Bool :=
  options.deletes || options.effectiveReason.closesSession

/-- Whether the push token is forgotten. -/
def dropsPush (options : StopOptions) : Bool :=
  options.resetPush || options.effectiveReason.closesSession

end StopOptions

end RelayClient
