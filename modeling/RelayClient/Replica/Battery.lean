import RelayClient.Pack.Value

/-!
# Battery status

A device reports its battery as a map or as a list of the two fields. Keys of
the map are texts, the bytes of texts, or field numbers; other keys of these
kinds are passed over, and a repeated field is refused. A status is written back
as a map with both fields, and what is written reads back.
-/

namespace RelayClient.Replica

open Pack (Value Integer)

/-- The charge in percent, if the device can tell, and whether it is charging. -/
structure BatteryStatus where
  percent : Option UInt8
  isCharging : Bool
  deriving DecidableEq

inductive BatteryKey where
  | percent
  | isCharging
  | other

namespace BatteryKey

def ofName (name : Bytes) : BatteryKey :=
  if name = Text.utf8 "percent" then .percent
  else if name = Text.utf8 "isCharging" then .isCharging
  else .other

/-- The field a key names, when it is of a kind that can name one. -/
def ofValue? : Value → Option BatteryKey
  | .text name => some (ofName (Text.utf8 name))
  | .binary name | .brokenText name => some (ofName name)
  | .int number =>
      if number.value < 0 then none
      else if number.value = 0 then some .percent
      else if number.value = 1 then some .isCharging
      else some .other
  | _ => none

end BatteryKey

namespace BatteryStatus

/-- A charge is nil or a number of one byte. -/
def percent? : Value → Option (Option UInt8)
  | .nil => some none
  | .int number =>
      if 0 ≤ number.value ∧ number.value < 256 then some (some (UInt8.ofNat number.value.toNat)) else none
  | _ => none

/-- The fields read so far. -/
structure Fields where
  percent : Option (Option UInt8) := none
  isCharging : Option Bool := none

def Fields.take (fields : Fields) (entry : Value × Value) : Option Fields :=
  match BatteryKey.ofValue? entry.1 with
  | none => none
  | some .other => some fields
  | some .percent =>
      match fields.percent, percent? entry.2 with
      | none, some percent => some { fields with percent := some percent }
      | _, _ => none
  | some .isCharging =>
      match fields.isCharging, entry.2.bool? with
      | none, some flag => some { fields with isCharging := some flag }
      | _, _ => none

def ofValue? : Value → Option BatteryStatus
  | .list [percent, isCharging] =>
      match percent? percent, isCharging.bool? with
      | some percent, some isCharging => some ⟨percent, isCharging⟩
      | _, _ => none
  | .map entries =>
      match entries.foldlM Fields.take {} with
      | some ⟨percent, some isCharging⟩ => some ⟨percent.getD none, isCharging⟩
      | _ => none
  | _ => none

def percentValue : Option UInt8 → Value
  | none => .nil
  | some percent => .int (.ofNat percent.toNat (Nat.lt_trans percent.toNat_lt (by decide)))

def toValue (status : BatteryStatus) : Value :=
  .record [("percent", percentValue status.percent), ("isCharging", .bool status.isCharging)]

end BatteryStatus

end RelayClient.Replica
