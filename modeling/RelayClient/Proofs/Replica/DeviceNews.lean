import RelayClient.Replica.Routing

/-!
# What a device tells of itself

Alerts and the state of the battery are news of the device itself, which two kinds of
messages bring. Any other message leaves the alerts and the battery as they are, also
where it lets in what had waited.
-/

namespace RelayClient

open Pack (Value)
open Replica (AppData BatteryStatus)

namespace Message

/-- The alert that a message raises; one without data is nil. -/
def alert? (message : Message) : Option Value :=
  match message.kind, message.subject with
  | .update, .alert => some (message.data.getD .nil)
  | _, _ => none

/-- Whether a message is about the battery. -/
def IsBatteryNews (message : Message) : Prop :=
  (message.kind = .response ∨ message.kind = .update) ∧ message.subject = .batteryStatus

theorem eq_alert_of_alert? {message : Message} {alert : Value} (raised : message.alert? = some alert) :
    message.kind = .update ∧ message.subject = .alert ∧ message.data.getD .nil = alert := by
  unfold alert? at raised
  split at raised
  · next kind subject => exact ⟨kind, subject, Option.some.inj raised⟩
  · cases raised

end Message

namespace Replica

/-- Two states of the data have the same alerts and the same entry of the battery. -/
structure KeepsOwnNews (before after : AppData) : Prop where
  alerts : after.alerts = before.alerts
  battery : after.device.get? batteryKey = before.device.get? batteryKey

namespace KeepsOwnNews

variable {before middle after : AppData}

theorem refl (data : AppData) : KeepsOwnNews data data := ⟨rfl, rfl⟩

theorem trans (first : KeepsOwnNews before middle) (second : KeepsOwnNews middle after) : KeepsOwnNews before after :=
  ⟨second.alerts.trans first.alerts, second.battery.trans first.battery⟩

theorem setDevice (data : AppData) (key : String) (value : Option Value) (other : batteryKey ≠ key) :
    KeepsOwnNews data (Replica.setDevice data key value) := by
  unfold Replica.setDevice
  split
  · exact ⟨rfl, (Dictionary.get?_insert _ _ _ _).trans (if_neg other)⟩
  · exact refl data

theorem applyReceiver (data : AppData) (message : Message) : KeepsOwnNews data (Replica.applyReceiver data message) := by
  unfold Replica.applyReceiver
  repeat' split
  all_goals exact ⟨rfl, rfl⟩

end KeepsOwnNews

variable {replica : Replica} {message : Message}

/-- Routines that were released store conversations, and no news of the device. -/
theorem keepsOwnNews_release (replica : Replica) (notices : List Notice) (work : List Continuation) :
    KeepsOwnNews replica.data (replica.release notices work).1.data := by
  induction replica, notices, work using release.induct with
  | case1 replica notices =>
      rw [release]
      exact .refl _
  | case2 replica notices list rest stored ih =>
      rw [release]
      have first : KeepsOwnNews replica.data stored.1 := ⟨rfl, rfl⟩
      exact first.trans ih
  | case3 replica notices number rest ih =>
      rw [release]
      exact ih

theorem keepsOwnNews_completeStep (replica : Replica) (step : InitStep) :
    KeepsOwnNews replica.data (replica.completeStep step).1.data :=
  keepsOwnNews_release { replica with gate := (replica.gate.register step).1 } [] _

theorem keepsOwnNews_runAfter (replica : Replica) (required : List InitStep) (routine : Continuation) :
    KeepsOwnNews replica.data (replica.runAfter required routine).1.data :=
  keepsOwnNews_release { replica with gate := (replica.gate.runAfter required routine).1 } [] _

theorem keepsOwnNews_onResponse (replica : Replica) (other : message.subject ≠ .batteryStatus) :
    KeepsOwnNews replica.data (replica.onResponse message).replica.data := by
  unfold onResponse
  cases subject : message.subject with
  | batteryStatus => exact absurd subject other
  | clientInfo =>
      refine .trans ?_ (keepsOwnNews_completeStep _ .clientInfo)
      exact .setDevice replica.data clientInfoKey message.data (by decide)
  | profile => exact .setDevice _ profileKey _ (by decide)
  | receivers =>
      refine .trans ?_ (keepsOwnNews_completeStep _ .receivers)
      cases message.data <;> exact ⟨rfl, rfl⟩
  | conversations =>
      dsimp only
      exact keepsOwnNews_runAfter _ _ _
  | messages =>
      dsimp only
      repeat' split
      all_goals exact ⟨rfl, rfl⟩
  | avatar | thumbnail | blob | contactDetail =>
      dsimp only
      split <;> exact ⟨rfl, rfl⟩
  | _ => exact .refl _

theorem keepsOwnNews_onUpdate (replica : Replica) (other : message.subject ≠ .batteryStatus)
    (quiet : message.subject ≠ .alert) : KeepsOwnNews replica.data (replica.onUpdate message).replica.data := by
  unfold onUpdate
  cases subject : message.subject with
  | batteryStatus => exact absurd subject other
  | alert => exact absurd subject quiet
  | receiver | contact | group | distributionList => exact .applyReceiver _ _
  | profile => exact .setDevice _ profileKey _ (by decide)
  | conversation | message | typing | avatar =>
      dsimp only
      repeat' split
      all_goals exact ⟨rfl, rfl⟩
  | _ => exact .refl _

theorem keepsOwnNews_onCreate (replica : Replica) (message : Message) :
    KeepsOwnNews replica.data (replica.onCreate message).replica.data := by
  unfold onCreate
  repeat' split
  all_goals first
    | exact .applyReceiver _ _
    | exact .refl _

theorem keepsOwnNews_onDelete (replica : Replica) (message : Message) :
    KeepsOwnNews replica.data (replica.onDelete message).replica.data := by
  unfold onDelete
  repeat' split
  all_goals exact ⟨rfl, rfl⟩

/-- A message that brings no news of the device leaves its alerts and its battery. -/
theorem keepsOwnNews_handle (replica : Replica) (quiet : message.alert? = none) (other : ¬ message.IsBatteryNews) :
    KeepsOwnNews replica.data (replica.handle message).replica.data := by
  unfold handle
  cases kind : message.kind with
  | response => exact keepsOwnNews_onResponse replica fun subject => other ⟨.inl kind, subject⟩
  | update =>
      refine keepsOwnNews_onUpdate replica (fun subject => other ⟨.inr kind, subject⟩) fun subject => ?_
      rw [Message.alert?, kind, subject] at quiet
      cases quiet
  | create => exact keepsOwnNews_onCreate replica message
  | delete => exact keepsOwnNews_onDelete replica message
  | request => exact .refl _

theorem handle_of_alert? (replica : Replica) {alert : Value} (raised : message.alert? = some alert) :
    (replica.handle message).replica = { replica with data := replica.data.addAlert alert } := by
  obtain ⟨kind, subject, rfl⟩ := Message.eq_alert_of_alert? raised
  unfold handle onUpdate
  rw [kind, subject]
  rfl

theorem handle_of_isBatteryNews (replica : Replica) (news : message.IsBatteryNews) :
    (replica.handle message).replica =
      { replica with data := message.data.elim replica.data replica.data.setBattery } := by
  obtain ⟨kind, subject⟩ := news
  unfold handle onResponse onUpdate
  rcases kind with kind | kind
  · rw [kind, subject]
    cases message.data <;> rfl
  · rw [kind, subject]
    cases message.data <;> rfl

/-- What is done with the data of a replica. -/
inductive DataCall where
  | handle (message : Message)
  | takeAlerts
  /-- Forgets all data. -/
  | clear

/-- A replica with the alerts that were handed out, call by call. -/
structure Course where
  replica : Replica
  taken : List (List Value) := []

namespace Course

def step (course : Course) : DataCall → Course
  | .handle message => { course with replica := (course.replica.handle message).replica }
  | .takeAlerts =>
      { replica := { course.replica with data := course.replica.data.takeAlerts.1 }
        taken := course.taken ++ [course.replica.data.takeAlerts.2] }
  | .clear => { course with replica := { course.replica with data := {} } }

/-- A replica that began without data, after these calls. -/
def ofCalls (gate : StepGate Continuation) (calls : List DataCall) : Course :=
  calls.foldl step { replica := { gate } }

theorem ofCalls_concat (gate : StepGate Continuation) (calls : List DataCall) (last : DataCall) :
    ofCalls gate (calls ++ [last]) = (ofCalls gate calls).step last := by
  rw [ofCalls, List.foldl_append]
  rfl

end Course

end Replica

end RelayClient
