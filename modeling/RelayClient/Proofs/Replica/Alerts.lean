import Mathlib.Data.List.DropRight
import RelayClient.Proofs.Replica.DeviceNews
import RelayClient.Proofs.Replica.Messages

/-!
# Alerts that wait to be taken

Alerts wait in a list that keeps the newest of them. Cutting it at every alert comes to
the same as cutting the whole history once, so that what is handed out is the end of what
was raised since alerts were last taken or forgotten. No alert is handed out twice, and
they come in the order in which they were raised.
-/

namespace RelayClient

open Pack (Value)
open Replica (AppData Container)

namespace Replica

/-! ## The newest entries -/

theorem newest_suffix (max : Nat) (entries : List Value) : newest max entries <:+ entries :=
  List.drop_suffix _ _

theorem length_newest (max : Nat) (entries : List Value) :
    (newest max entries).length = min max entries.length := by
  rw [newest, List.length_drop]
  omega

/-- Entries that were cut before need no other cut for those that went. -/
theorem newest_newest_append (max : Nat) (former added : List Value) :
    newest max (newest max former ++ added) = newest max (former ++ added) := by
  have lost : former.length - max ≤ former.length := Nat.sub_le _ _
  unfold newest
  rw [← List.drop_append_of_le_length lost, List.drop_drop, List.length_drop, List.length_append]
  congr 1
  omega

/-! ## Calls -/

namespace DataCall

/-- The alert that a call brings. -/
def alert? : DataCall → Option Value
  | .handle message => message.alert?
  | .takeAlerts | .clear => none

def isHandle : DataCall → Bool
  | .handle _ => true
  | .takeAlerts | .clear => false

end DataCall

/-- The alerts that were raised since alerts were last taken or forgotten. -/
def alertsSince (calls : List DataCall) : List Value :=
  (calls.rtakeWhile DataCall.isHandle).filterMap DataCall.alert?

theorem alertsSince_concat_handle (calls : List DataCall) (message : Message) :
    alertsSince (calls ++ [.handle message]) = alertsSince calls ++ message.alert?.toList := by
  rw [alertsSince, List.rtakeWhile_concat_pos _ _ _ rfl, List.filterMap_append, alertsSince]
  cases raised : message.alert? <;> simp [DataCall.alert?, raised]

theorem alertsSince_concat_other {call : DataCall} (calls : List DataCall) (other : call.isHandle = false) :
    alertsSince (calls ++ [call]) = [] := by
  rw [alertsSince, List.rtakeWhile_concat_neg _ _ _ (by simp [other])]
  rfl

/-! ## Runs -/

/-- Handling a message adds its alert to those that wait, and cuts them. -/
theorem listAt_alerts_handle (replica : Replica) (message : Message) :
    (replica.handle message).replica.data.alerts.listAt alertsKey =
      match message.alert? with
      | some alert => newest maxAlerts (replica.data.alerts.listAt alertsKey ++ [alert])
      | none => replica.data.alerts.listAt alertsKey := by
  cases raised : message.alert? with
  | some alert =>
      rw [handle_of_alert? replica raised]
      exact (Container.listAt_insert _ _ _ _).trans (if_pos rfl)
  | none =>
      by_cases battery : message.IsBatteryNews
      · rw [handle_of_isBatteryNews replica battery]
        cases message.data with
        | none => rfl
        | some value =>
            dsimp only [Option.elim, AppData.setBattery]
            split <;> rfl
      · rw [(keepsOwnNews_handle replica raised battery).alerts]

/-- The alerts that wait are the newest of those that were raised and not taken. -/
theorem listAt_alerts_ofCalls (gate : StepGate Continuation) (calls : List DataCall) :
    (Course.ofCalls gate calls).replica.data.alerts.listAt alertsKey = newest maxAlerts (alertsSince calls) := by
  induction calls using List.reverseRecOn with
  | nil => rfl
  | append_singleton calls last ih =>
      rw [Course.ofCalls_concat]
      cases last with
      | handle message =>
          rw [alertsSince_concat_handle]
          refine (listAt_alerts_handle _ message).trans ?_
          rw [ih]
          cases message.alert? with
          | some alert => exact newest_newest_append _ _ _
          | none => exact congrArg (newest maxAlerts) (List.append_nil _).symm
      | takeAlerts =>
          rw [alertsSince_concat_other calls rfl]
          exact (Container.listAt_erase _ _ _).trans (if_pos rfl)
      | clear =>
          rw [alertsSince_concat_other calls rfl]
          rfl

/-- What was handed out and what waits is part of what was raised, in the same order. -/
theorem taken_sublist (gate : StepGate Continuation) (calls : List DataCall) :
    ((Course.ofCalls gate calls).taken.flatten ++
      (Course.ofCalls gate calls).replica.data.alerts.listAt alertsKey).Sublist (calls.filterMap DataCall.alert?) := by
  induction calls using List.reverseRecOn with
  | nil => exact .slnil
  | append_singleton calls last ih =>
      rw [Course.ofCalls_concat, List.filterMap_append]
      generalize Course.ofCalls gate calls = course at ih
      cases last with
      | handle message =>
          dsimp only [Course.step]
          rw [listAt_alerts_handle]
          cases raised : message.alert? with
          | some alert =>
              have kept := (newest_suffix maxAlerts (course.replica.data.alerts.listAt alertsKey ++ [alert])).sublist
              refine (kept.append_left course.taken.flatten).trans ?_
              rw [← List.append_assoc]
              simpa [DataCall.alert?, raised] using ih.append_right [alert]
          | none => simpa [DataCall.alert?, raised] using ih
      | takeAlerts =>
          have silent : [DataCall.takeAlerts].filterMap DataCall.alert? = [] := rfl
          dsimp only [Course.step, AppData.takeAlerts]
          rw [Container.listAt_erase, if_pos rfl, silent]
          simpa using ih
      | clear =>
          have forgotten : Container.listAt (.empty : Container) alertsKey = [] := rfl
          dsimp only [Course.step]
          rw [forgotten, List.append_nil]
          refine .trans ?_ (ih.trans (List.sublist_append_left _ _))
          exact List.sublist_append_left _ _

/-- What taking alerts hands out after some calls, and what it leaves. -/
structure HandsOutOnce (calls : List DataCall) (course : Course) : Prop where
  /-- The last of the alerts that were raised since alerts were taken or forgotten, oldest first,
  and as many as are kept. -/
  handsOut : ∃ alerts, (course.step .takeAlerts).taken = course.taken ++ [alerts] ∧ alerts <:+ alertsSince calls ∧
    alerts.length = min maxAlerts (alertsSince calls).length
  /-- None is left. -/
  leavesNone : (course.step .takeAlerts).replica.data.alerts.get? alertsKey = none
  /-- All that was ever handed out was raised before, in this order and no less often. -/
  once : course.taken.flatten.Sublist (calls.filterMap DataCall.alert?)

/-- Whatever messages are handled, and whenever alerts are taken or all data is forgotten, each alert
is handed out once or dropped for newer ones. -/
theorem handsOutOnce_ofCalls (gate : StepGate Continuation) (calls : List DataCall) :
    HandsOutOnce calls (Course.ofCalls gate calls) where
  handsOut := by
    refine ⟨newest maxAlerts (alertsSince calls), ?_, newest_suffix _ _, length_newest _ _⟩
    rw [← listAt_alerts_ofCalls gate calls]
    rfl
  leavesNone := (Dictionary.get?_erase _ _ _).trans (if_pos rfl)
  once := (List.sublist_append_left _ _).trans (taken_sublist gate calls)

end Replica

end RelayClient
