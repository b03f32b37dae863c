import Mathlib.Data.List.Induction
import RelayClient.Proofs.Lists
import RelayClient.Proofs.Replica.DeviceNews

/-!
# Readings of the battery

A payload carries a status of the battery as a list of its two fields or as a map in which
every key can name a field, the flag stands once and the charge at most once. What is read
of a replica is the last status that a message carried since all data was forgotten. A
message about the battery that carries none changes nothing, and what is stored for the
battery can always be read.
-/

namespace RelayClient

open Pack (Value Integer)
open Replica (AppData BatteryStatus BatteryKey)

namespace Replica

deriving instance DecidableEq for BatteryKey

/-! ## Payloads -/

namespace BatteryStatus

/-- A value spells a charge: nil if the device cannot tell, or a number of one byte. -/
inductive SpellsCharge : Value → Option UInt8 → Prop
  | unknown : SpellsCharge .nil none
  | known {number : Integer} {percent : UInt8} (same : number.value = percent.toNat) :
      SpellsCharge (.int number) (some percent)

/-- The values of a field, in the order of the entries. -/
def valuesOf (field : BatteryKey) (entries : List (Value × Value)) : List Value :=
  (entries.filter fun entry => BatteryKey.ofValue? entry.1 = some field).map (·.2)

/-- A payload carries a status. -/
inductive Carries : Value → BatteryStatus → Prop
  | pair {charge : Value} {status : BatteryStatus} (spelled : SpellsCharge charge status.percent) :
      Carries (.list [charge, .bool status.isCharging]) status
  | fields {entries : List (Value × Value)} {status : BatteryStatus}
      (keys : ∀ entry ∈ entries, ∃ field, BatteryKey.ofValue? entry.1 = some field)
      (percent : valuesOf .percent entries = [] ∧ status.percent = none ∨
        ∃ charge, valuesOf .percent entries = [charge] ∧ SpellsCharge charge status.percent)
      (isCharging : valuesOf .isCharging entries = [.bool status.isCharging]) : Carries (.map entries) status

theorem percent?_eq_some_iff {value : Value} {percent : Option UInt8} :
    percent? value = some percent ↔ SpellsCharge value percent := by
  constructor
  · intro read
    unfold percent? at read
    split at read
    · cases read
      exact .unknown
    · split at read
      · next fits =>
          cases read
          refine .known ?_
          have small : (UInt8.ofNat _).toNat = _ := UInt8.toNat_ofNat_of_lt' ((Int.toNat_lt fits.1).mpr fits.2)
          rw [small]
          exact (Int.toNat_of_nonneg fits.1).symm
      · cases read
    · cases read
  · rintro (_ | ⟨same⟩)
    · rfl
    · next number percent =>
        have small := percent.toNat_lt
        rw [percent?, if_pos (by omega), same]
        simp

theorem bool?_eq_some_iff {value : Value} {flag : Bool} : value.bool? = some flag ↔ value = .bool flag := by
  cases value <;> simp [Value.bool?]

/-- What the values of a field, in their order, make of it: nothing, or what the only one reads as. -/
inductive Gathered {α : Type} (read : Value → Option α) : Option α → List Value → Option α → Prop
  | none (before : Option α) : Gathered read before [] before
  | one {value : Value} {content : α} (reads : read value = some content) : Gathered read .none [value] (some content)

theorem gathered_cons_iff {α : Type} {read : Value → Option α} {before after : Option α} {value : Value}
    {rest : List Value} : Gathered read before (value :: rest) after ↔
      before = none ∧ ∃ content, read value = some content ∧ Gathered read (some content) rest after := by
  constructor
  · rintro ⟨⟩
    next content reads => exact ⟨rfl, content, reads, .none _⟩
  · rintro ⟨rfl, content, reads, ⟨⟩⟩
    exact .one reads

theorem gathered_none_iff {α : Type} {read : Value → Option α} {values : List Value} {after : Option α} :
    Gathered read none values after ↔
      values = [] ∧ after = none ∨ ∃ value content, values = [value] ∧ read value = some content ∧ after = some content := by
  constructor
  · rintro (_ | ⟨reads⟩)
    · exact .inl ⟨rfl, rfl⟩
    · exact .inr ⟨_, _, rfl, reads, rfl⟩
  · rintro (⟨rfl, rfl⟩ | ⟨value, content, rfl, reads, rfl⟩)
    · exact .none _
    · exact .one reads

theorem valuesOf_cons (field : BatteryKey) (entry : Value × Value) (rest : List (Value × Value)) :
    valuesOf field (entry :: rest) =
      if BatteryKey.ofValue? entry.1 = some field then entry.2 :: valuesOf field rest else valuesOf field rest := by
  unfold valuesOf
  rw [List.filter_cons]
  split <;> simp_all

/-- Taking the entries of a map one after the other reads each field from its own values. -/
theorem foldlM_take_eq_some_iff {entries : List (Value × Value)} {before after : Fields} :
    entries.foldlM Fields.take before = some after ↔
      (∀ entry ∈ entries, ∃ field, BatteryKey.ofValue? entry.1 = some field) ∧
        Gathered percent? before.percent (valuesOf .percent entries) after.percent ∧
        Gathered Value.bool? before.isCharging (valuesOf .isCharging entries) after.isCharging := by
  induction entries generalizing before with
  | nil =>
      obtain ⟨percent, isCharging⟩ := before
      obtain ⟨percentAfter, isChargingAfter⟩ := after
      constructor
      · rintro ⟨⟩
        exact ⟨nofun, .none _, .none _⟩
      · rintro ⟨-, ⟨⟩, ⟨⟩⟩
        rfl
  | cons entry rest ih =>
      rw [List.foldlM_cons, valuesOf_cons, valuesOf_cons, List.forall_mem_cons]
      cases key : BatteryKey.ofValue? entry.1 with
      | none =>
          have refused : before.take entry = none := by rw [Fields.take, key]
          rw [refused]
          exact iff_of_false nofun (by simp)
      | some field =>
          cases field with
          | other =>
              have passed : before.take entry = some before := by rw [Fields.take, key]
              rw [passed]
              simpa using ih
          | percent =>
              rw [if_pos rfl, if_neg (by decide), gathered_cons_iff, Fields.take, key]
              dsimp only
              cases before.percent <;> cases percent? entry.2 <;> simp [ih]
          | isCharging =>
              rw [if_neg (by decide), if_pos rfl, gathered_cons_iff, Fields.take, key]
              dsimp only
              cases before.isCharging <;> cases entry.2.bool? <;> simp [ih]

/-- The values of the charge, if any, leave a charge that is known or not. -/
theorem gathered_percent_iff {values : List Value} {percent : Option UInt8} :
    (∃ gathered, Gathered percent? none values gathered ∧ gathered.getD none = percent) ↔
      values = [] ∧ percent = none ∨ ∃ charge, values = [charge] ∧ SpellsCharge charge percent := by
  constructor
  · rintro ⟨gathered, read, rfl⟩
    rcases gathered_none_iff.mp read with ⟨rfl, rfl⟩ | ⟨charge, content, rfl, reads, rfl⟩
    · exact .inl ⟨rfl, rfl⟩
    · exact .inr ⟨charge, rfl, percent?_eq_some_iff.mp reads⟩
  · rintro (⟨rfl, rfl⟩ | ⟨charge, rfl, spelled⟩)
    · exact ⟨none, .none _, rfl⟩
    · exact ⟨some percent, .one (percent?_eq_some_iff.mpr spelled), rfl⟩

theorem gathered_isCharging_iff {values : List Value} {flag : Bool} :
    Gathered Value.bool? none values (some flag) ↔ values = [.bool flag] := by
  rw [gathered_none_iff]
  constructor
  · rintro (⟨-, ⟨⟩⟩ | ⟨value, content, rfl, reads, ⟨⟩⟩)
    rw [bool?_eq_some_iff.mp reads]
  · rintro rfl
    exact .inr ⟨_, flag, rfl, rfl, rfl⟩

theorem carries_map_iff {entries : List (Value × Value)} {status : BatteryStatus} :
    Carries (.map entries) status ↔
      ∃ fields, entries.foldlM Fields.take {} = some fields ∧ fields.percent.getD none = status.percent ∧
        fields.isCharging = some status.isCharging := by
  constructor
  · rintro ⟨⟩
    next keys percent isCharging =>
      obtain ⟨gathered, read, known⟩ := gathered_percent_iff.mpr percent
      refine ⟨⟨gathered, some status.isCharging⟩, foldlM_take_eq_some_iff.mpr ⟨keys, read, ?_⟩, known, rfl⟩
      exact gathered_isCharging_iff.mpr isCharging
  · rintro ⟨⟨percent, isCharging⟩, folded, known, rfl⟩
    obtain ⟨keys, read, flag⟩ := foldlM_take_eq_some_iff.mp folded
    exact .fields keys (gathered_percent_iff.mp ⟨percent, read, known⟩) (gathered_isCharging_iff.mp flag)

/-- Exactly the payloads that carry a status are read, each as the status it carries. -/
theorem ofValue?_eq_some_iff {value : Value} {status : BatteryStatus} :
    ofValue? value = some status ↔ Carries value status := by
  constructor
  · intro read
    unfold ofValue? at read
    split at read
    · next charge flag =>
        split at read
        · next percent isCharging charges flagged =>
            cases read
            have spelled : SpellsCharge charge (mk percent isCharging).percent := percent?_eq_some_iff.mp charges
            rw [bool?_eq_some_iff.mp flagged]
            exact .pair spelled
        · cases read
    · next entries =>
        split at read
        · next percent isCharging folded =>
            cases read
            exact carries_map_iff.mpr ⟨_, folded, rfl, rfl⟩
        · cases read
    · cases read
  · intro carries
    cases value with
    | list items =>
        obtain ⟨spelled⟩ := carries
        rw [ofValue?, percent?_eq_some_iff.mpr spelled]
        rfl
    | map entries =>
        obtain ⟨⟨percent, isCharging⟩, folded, known, rfl⟩ := carries_map_iff.mp carries
        rw [ofValue?, folded]
        exact congrArg some (congrArg (BatteryStatus.mk · status.isCharging) known)
    | _ => nomatch carries

theorem spellsCharge_percentValue (percent : Option UInt8) : SpellsCharge (percentValue percent) percent := by
  cases percent with
  | none => exact .unknown
  | some percent => exact .known rfl

/-- A status is written as a payload that carries it. -/
theorem carries_toValue (status : BatteryStatus) : Carries status.toValue status := by
  have percentKey : BatteryKey.ofValue? (.text "percent") = some .percent := by decide
  have flagKey : BatteryKey.ofValue? (.text "isCharging") = some .isCharging := by decide
  refine .fields ?_ (.inr ⟨percentValue status.percent, ?_, spellsCharge_percentValue status.percent⟩) ?_
  · simp [percentKey, flagKey]
  · simp [valuesOf, percentKey, flagKey]
  · simp [valuesOf, percentKey, flagKey]

theorem ofValue?_toValue (status : BatteryStatus) : ofValue? status.toValue = some status :=
  ofValue?_eq_some_iff.mpr (carries_toValue status)

end BatteryStatus

/-! ## Readings -/

namespace DataCall

/-- A call handles a message about the battery that carries a status. -/
def Reports (status : BatteryStatus) : DataCall → Prop
  | .handle message => message.IsBatteryNews ∧ ∃ payload, message.data = some payload ∧ BatteryStatus.Carries payload status
  | .takeAlerts | .clear => False

/-- A reading counts until all data is forgotten or another status is reported. -/
def EndsReading (call : DataCall) : Prop :=
  call = .clear ∨ ∃ status, call.Reports status

end DataCall

/-- The last status that was reported is this one, and not all data was forgotten since. -/
def IsReported (calls : List DataCall) (status : BatteryStatus) : Prop :=
  Stands (DataCall.Reports status) DataCall.EndsReading calls

variable {calls : List DataCall} {last : DataCall} {status other : BatteryStatus} {replica : Replica}

theorem DataCall.Reports.eq (reports : last.Reports status) (reportsToo : last.Reports other) : status = other := by
  cases last with
  | handle message =>
      obtain ⟨-, payload, given, carries⟩ := reports
      obtain ⟨-, payloadToo, givenToo, carriesToo⟩ := reportsToo
      rw [given] at givenToo
      cases givenToo
      rw [← BatteryStatus.ofValue?_eq_some_iff] at carries carriesToo
      exact Option.some.inj (carries.symm.trans carriesToo)
  | takeAlerts => exact reports.elim
  | clear => exact reports.elim

theorem isReported_concat_iff : IsReported (calls ++ [last]) status ↔
    last.Reports status ∨ IsReported calls status ∧ ¬ last.EndsReading :=
  stands_concat_iff

/-- A report after which not all data was forgotten leaves a last one. -/
theorem exists_isReported (reported : Stands (DataCall.Reports status) (· = .clear) calls) :
    ∃ status, IsReported calls status := by
  induction calls using List.reverseRecOn with
  | nil => exact absurd reported not_stands_nil
  | append_singleton calls last ih =>
      rcases stands_concat_iff.mp reported with reports | ⟨former, kept⟩
      · exact ⟨status, isReported_concat_iff.mpr (.inl reports)⟩
      · obtain ⟨before, standing⟩ := ih former
        by_cases ends : last.EndsReading
        · obtain ⟨after, reports⟩ := ends.resolve_left kept
          exact ⟨after, isReported_concat_iff.mpr (.inl reports)⟩
        · exact ⟨before, isReported_concat_iff.mpr (.inr ⟨standing, ends⟩)⟩

/-- A message about the battery that carries no status changes nothing. -/
theorem handle_of_unreadable (replica : Replica) {message : Message} (news : message.IsBatteryNews)
    (unreadable : ∀ payload, message.data = some payload → ∀ status, ¬ BatteryStatus.Carries payload status) :
    (replica.handle message).replica = replica := by
  rw [handle_of_isBatteryNews replica news]
  cases given : message.data with
  | none => rfl
  | some payload =>
      have refused : BatteryStatus.ofValue? payload = none := by
        refine Option.eq_none_iff_forall_ne_some.mpr fun status read => ?_
        exact unreadable payload given status (BatteryStatus.ofValue?_eq_some_iff.mp read)
      dsimp only [Option.elim]
      rw [AppData.setBattery, refused]

/-- A status that is reported is stored as it is written. -/
theorem battery_of_reports (course : Course) (reports : last.Reports status) :
    (course.step last).replica.data.device.get? batteryKey = some status.toValue := by
  cases last with
  | handle message =>
      obtain ⟨news, payload, given, carries⟩ := reports
      dsimp only [Course.step]
      rw [handle_of_isBatteryNews _ news, given]
      dsimp only [Option.elim]
      rw [AppData.setBattery, BatteryStatus.ofValue?_eq_some_iff.mpr carries]
      exact (Dictionary.get?_insert _ _ _ _).trans (if_pos rfl)
  | takeAlerts => exact reports.elim
  | clear => exact reports.elim

/-- Whatever neither reports a status nor forgets leaves the battery. -/
theorem battery_of_not_endsReading (course : Course) (going : ¬ last.EndsReading) :
    (course.step last).replica.data.device.get? batteryKey = course.replica.data.device.get? batteryKey := by
  cases last with
  | handle message =>
      dsimp only [Course.step]
      by_cases news : message.IsBatteryNews
      · rw [handle_of_unreadable _ news]
        exact fun payload given status carries => going (.inr ⟨status, news, payload, given, carries⟩)
      · cases raised : message.alert? with
        | some alert => rw [handle_of_alert? _ raised]; rfl
        | none => exact (keepsOwnNews_handle _ raised news).battery
  | takeAlerts => rfl
  | clear => exact absurd (.inl rfl) going

/-- What is stored for the battery is the status that was reported last, as it is written. -/
theorem battery_ofCalls (gate : StepGate Continuation) (calls : List DataCall) (payload : Value) :
    (Course.ofCalls gate calls).replica.data.device.get? batteryKey = some payload ↔
      ∃ status, IsReported calls status ∧ payload = status.toValue := by
  induction calls using List.reverseRecOn with
  | nil => exact iff_of_false nofun fun ⟨status, reported, _⟩ => not_stands_nil reported
  | append_singleton calls last ih =>
      rw [Course.ofCalls_concat]
      simp only [isReported_concat_iff]
      by_cases ends : last.EndsReading
      · rcases ends with rfl | ⟨status, reports⟩
        · refine iff_of_false nofun ?_
          rintro ⟨status, reports | ⟨-, going⟩, -⟩
          · exact reports
          · exact going (.inl rfl)
        · rw [battery_of_reports _ reports, Option.some_inj, eq_comm]
          constructor
          · exact fun same => ⟨status, .inl reports, same⟩
          · rintro ⟨other, again | ⟨-, going⟩, same⟩
            · rw [reports.eq again, same]
            · exact absurd (.inr ⟨status, reports⟩) going
      · have silent : ∀ status, ¬ last.Reports status := fun status reports => ends (.inr ⟨status, reports⟩)
        rw [battery_of_not_endsReading _ ends, ih]
        simp [silent, ends]

/-- What is read of the battery after some calls. -/
structure ReadsBattery (calls : List DataCall) (replica : Replica) : Prop where
  /-- It is the status that was reported last, unless all data was forgotten since. -/
  reads : ∀ status, replica.data.battery = some status ↔ IsReported calls status
  /-- There is none exactly if none was reported since all data was forgotten. -/
  unread : replica.data.battery = none ↔ ∀ status, ¬ Stands (DataCall.Reports status) (· = .clear) calls
  /-- A message about the battery without a payload, or with one that carries no status, changes nothing. -/
  ignores : ∀ message : Message, message.IsBatteryNews →
    (∀ payload, message.data = some payload → ∀ status, ¬ BatteryStatus.Carries payload status) →
    (replica.handle message).replica = replica
  /-- Whatever is stored for the battery carries a status, which is the one that is read. -/
  decodes : ∀ payload, replica.data.device.get? batteryKey = some payload →
    ∃ status, BatteryStatus.Carries payload status ∧ replica.data.battery = some status

/-- Whatever messages are handled, whenever alerts are taken and all data is forgotten, the battery shows
the last status that could be read. -/
theorem readsBattery_ofCalls (gate : StepGate Continuation) (calls : List DataCall) :
    ReadsBattery calls (Course.ofCalls gate calls).replica := by
  have stored := battery_ofCalls gate calls
  generalize (Course.ofCalls gate calls).replica = replica at stored
  have reads (status : BatteryStatus) : replica.data.battery = some status ↔ IsReported calls status := by
    rw [AppData.battery, Option.bind_eq_some_iff]
    constructor
    · rintro ⟨payload, found, read⟩
      obtain ⟨other, reported, rfl⟩ := (stored payload).mp found
      rw [BatteryStatus.ofValue?_toValue] at read
      rwa [← Option.some.inj read]
    · exact fun reported => ⟨_, (stored _).mpr ⟨status, reported, rfl⟩, BatteryStatus.ofValue?_toValue status⟩
  constructor
  case reads => exact reads
  case unread =>
    rw [Option.eq_none_iff_forall_ne_some]
    constructor
    · intro unread status reported
      obtain ⟨other, standing⟩ := exists_isReported reported
      exact unread other ((reads other).mpr standing)
    · intro silent status read
      exact silent status (((reads status).mp read).imp (fun _ => id) fun _ cleared => .inl cleared)
  case ignores => exact fun message news unreadable => handle_of_unreadable replica news unreadable
  case decodes =>
    intro payload found
    obtain ⟨status, reported, rfl⟩ := (stored payload).mp found
    exact ⟨status, BatteryStatus.carries_toValue status, (reads status).mpr reported⟩

end Replica

end RelayClient
