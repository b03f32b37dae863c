import RelayClient.Proofs.Replica.Queue

/-!
# Messages about one receiver

Receivers, conversations, messages and avatars are kept by a key made of the type
and the id of a receiver. As long as no type holds the separator a key tells its
receiver. A message about one receiver writes under its key alone, and one about
none writes nothing there.
-/

namespace RelayClient

open Pack (Value)
open Replica (AppData Container ContainerName receiverKey)

/-- The receiver that a message names by its arguments, or by its subject where they give no type. -/
def Message.receiver? (message : Message) : Option (String × String) :=
  match (message.argText? "type").or (Replica.impliedType? message.subject), message.argText? "id" with
  | some type, some id => some (type, id)
  | _, _ => none

/-- Whether a message is an answer that lists receivers or conversations. -/
def Message.IsListing (message : Message) : Prop :=
  message.kind = .response ∧ (message.subject = .receivers ∨ message.subject = .conversations)

namespace Replica

theorem receiverKey?_eq (message : Message) :
    receiverKey? message = message.receiver?.map fun receiver => receiverKey receiver.1 receiver.2 := by
  unfold receiverKey? Message.receiver?
  cases (message.argText? "type").or (impliedType? message.subject) with
  | none => rfl
  | some type => cases message.argText? "id" <;> rfl

theorem toList_receiverKey (type id : String) : (receiverKey type id).toList = type.toList ++ ':' :: id.toList := by
  simp [receiverKey]

/-- What stands before the first separator of a key is its type. -/
theorem takeWhile_receiverKey {type : String} (free : ':' ∉ type.toList) (id : String) :
    (receiverKey type id).toList.takeWhile (· != ':') = type.toList := by
  have before : ∀ letter ∈ type.toList, (letter != ':') = true := by
    intro letter mem
    exact bne_iff_ne.mpr fun same => free (same ▸ mem)
  rw [toList_receiverKey, List.takeWhile_append_of_pos before]
  simp

/-- So a key tells its receiver. -/
theorem receiverKey_inj {type other id name : String} (free : ':' ∉ type.toList) (freeToo : ':' ∉ other.toList)
    (same : receiverKey type id = receiverKey other name) : type = other ∧ id = name := by
  have types : type.toList = other.toList := by
    rw [← takeWhile_receiverKey free id, same, takeWhile_receiverKey freeToo name]
  have lists := congrArg String.toList same
  rw [toList_receiverKey, toList_receiverKey, types, List.append_cancel_left_eq, List.cons.injEq] at lists
  exact ⟨String.toList_inj.mp types, String.toList_inj.mp lists.2⟩

/-! ## Containers -/

namespace Container

/-- Two containers hold the same under every key but one. -/
def AgreesOff (key : String) (before after : Container) : Prop :=
  ∀ other, other ≠ key → after.get? other = before.get? other

variable {key : String} {before middle after : Container}

theorem AgreesOff.refl (container : Container) : AgreesOff key container container := fun _ _ => rfl

theorem AgreesOff.trans (first : AgreesOff key before middle) (second : AgreesOff key middle after) :
    AgreesOff key before after := fun other distinct => (second other distinct).trans (first other distinct)

theorem agreesOff_insert (container : Container) (key : String) (value : Value) :
    AgreesOff key container (container.insert key value) := by
  intro other distinct
  rw [Dictionary.get?_insert, if_neg distinct]

theorem agreesOff_erase (container : Container) (key : String) : AgreesOff key container (container.erase key) := by
  intro other distinct
  rw [Dictionary.get?_erase, if_neg distinct]

theorem agreesOff_upsertIn (container : Container) (key : String) (value : Value) :
    AgreesOff key container (container.upsertIn key value) := by
  unfold upsertIn
  split
  · exact agreesOff_insert container key _
  · exact agreesOff_insert container key _
  · exact .refl container

theorem agreesOff_removeFrom (container : Container) (key : String) (id : Value) :
    AgreesOff key container (container.removeFrom key id).1 := by
  unfold removeFrom
  split
  · exact agreesOff_insert container key _
  · exact .refl container

theorem agreesOff_applyMessage (key mode : String) (messages : Container) (entry : Value) :
    AgreesOff key messages (AppData.applyMessage key mode messages entry) := by
  unfold AppData.applyMessage
  split
  · split
    · exact agreesOff_removeFrom messages key _
    · exact .refl messages
  · exact agreesOff_upsertIn messages key entry

theorem agreesOff_foldl_applyMessage (key mode : String) (entries : List Value) (messages : Container) :
    AgreesOff key messages (entries.foldl (AppData.applyMessage key mode) messages) := by
  induction entries generalizing messages with
  | nil => exact .refl messages
  | cons entry rest ih => exact (agreesOff_applyMessage key mode messages entry).trans (ih _)

end Container

/-! ## Data -/

/-- The containers that are kept by receiver. -/
def receiverContainers : List ContainerName :=
  [.receivers, .conversations, .messages, .avatars]

theorem forall_receiverContainers {property : ContainerName → Prop} (receivers : property .receivers)
    (conversations : property .conversations) (messages : property .messages) (avatars : property .avatars) :
    ∀ name ∈ receiverContainers, property name := by
  simp [receiverContainers, receivers, conversations, messages, avatars]

/-- A change of what is kept by receiver that concerns one key, or no key at all. -/
structure Touches (key? : Option String) (before after : AppData) : Prop where
  named : ∀ key, key? = some key → ∀ name ∈ receiverContainers,
    Container.AgreesOff key (before.container name) (after.container name)
  nameless : key? = none → ∀ name ∈ receiverContainers, after.container name = before.container name

namespace Touches

variable {key? : Option String} {key : String} {data after : AppData}

theorem of_same (same : ∀ name ∈ receiverContainers, after.container name = data.container name) :
    Touches key? data after := by
  constructor
  case named =>
    intro key _ name mem
    rw [same name mem]
    exact .refl _
  case nameless => exact fun _ => same

theorem refl (data : AppData) : Touches key? data data := of_same fun _ _ => rfl

theorem of_agrees (named : key? = some key)
    (agrees : ∀ name ∈ receiverContainers, Container.AgreesOff key (data.container name) (after.container name)) :
    Touches key? data after := by
  constructor
  case named =>
    intro other same
    cases named.symm.trans same
    exact agrees
  case nameless =>
    intro none
    rw [named] at none
    cases none

theorem receivers (named : key? = some key) {receivers : Container}
    (agrees : Container.AgreesOff key data.receivers receivers) : Touches key? data { data with receivers } :=
  of_agrees named (forall_receiverContainers agrees (.refl _) (.refl _) (.refl _))

theorem conversations (named : key? = some key) {conversations : Container}
    (agrees : Container.AgreesOff key data.conversations conversations) :
    Touches key? data { data with conversations } :=
  of_agrees named (forall_receiverContainers (.refl _) agrees (.refl _) (.refl _))

theorem messages (named : key? = some key) {messages : Container}
    (agrees : Container.AgreesOff key data.messages messages) : Touches key? data { data with messages } :=
  of_agrees named (forall_receiverContainers (.refl _) (.refl _) agrees (.refl _))

theorem avatars (named : key? = some key) {avatars : Container}
    (agrees : Container.AgreesOff key data.avatars avatars) : Touches key? data { data with avatars } :=
  of_agrees named (forall_receiverContainers (.refl _) (.refl _) (.refl _) agrees)

/-- What a device tells about itself is not kept by receiver. -/
theorem device (device : Container) : Touches key? data { data with device } :=
  of_same (forall_receiverContainers rfl rfl rfl rfl)

theorem setDevice (key : String) (value : Option Value) :
    Touches key? data (Replica.setDevice data key value) := by
  unfold Replica.setDevice
  split
  · exact device _
  · exact refl data

theorem setBattery (value : Value) : Touches key? data (data.setBattery value) := by
  unfold AppData.setBattery
  split
  · exact device _
  · exact refl data

end Touches

variable {replica : Replica}

theorem touches_applyReceiver (data : AppData) (message : Message) :
    Touches (receiverKey? message) data (applyReceiver data message) := by
  unfold applyReceiver
  split
  · exact .refl data
  · next key named =>
      split
      · exact .receivers named (Container.agreesOff_erase _ _)
      · split
        · exact .receivers named (Container.agreesOff_insert _ _ _)
        · exact .refl data

theorem touches_onUpdate (replica : Replica) (message : Message) :
    Touches (receiverKey? message) replica.data (replica.onUpdate message).replica.data := by
  unfold onUpdate
  cases message.subject with
  | receiver | contact | group | distributionList => exact touches_applyReceiver replica.data message
  | conversation =>
      dsimp only
      split
      · exact .refl _
      · next key named =>
          split
          · exact .conversations named (Container.agreesOff_erase _ _)
          · split
            · exact .conversations named (Container.agreesOff_insert _ _ _)
            · exact .refl _
  | message =>
      dsimp only
      split
      · exact .refl _
      · next key named =>
          split
          · exact .messages named (Container.agreesOff_foldl_applyMessage key _ _ _)
          · exact .messages named (Container.agreesOff_applyMessage key _ _ _)
          · exact .refl _
  | avatar =>
      dsimp only
      split
      · next key avatar named given => exact .avatars named (Container.agreesOff_insert _ _ _)
      · next key named absent => exact .avatars named (Container.agreesOff_erase _ _)
      · exact .refl _
  | typing =>
      dsimp only
      split
      · exact .of_same (forall_receiverContainers rfl rfl rfl rfl)
      · exact .refl _
  | profile => exact .setDevice _ _
  | batteryStatus =>
      dsimp only
      split
      · exact .setBattery _
      · exact .refl _
  | alert => exact .of_same (forall_receiverContainers rfl rfl rfl rfl)
  | _ => exact .refl _

theorem touches_onCreate (replica : Replica) (message : Message) :
    Touches (receiverKey? message) replica.data (replica.onCreate message).replica.data := by
  unfold onCreate
  cases message.subject with
  | contact | group | distributionList =>
      dsimp only
      split
      · exact touches_applyReceiver replica.data message
      · exact .refl _
  | _ => exact .refl _

theorem touches_onDelete (replica : Replica) (message : Message) :
    Touches (receiverKey? message) replica.data (replica.onDelete message).replica.data := by
  unfold onDelete
  cases message.subject with
  | message =>
      dsimp only
      split
      · next key id done named given => exact .messages named (Container.agreesOff_removeFrom _ _ _)
      · exact .refl _
  | contact | group | distributionList =>
      dsimp only
      split
      · next key done named =>
          refine .of_agrees named (forall_receiverContainers ?_ ?_ ?_ (.refl _))
          · exact Container.agreesOff_erase _ _
          · exact Container.agreesOff_erase _ _
          · exact Container.agreesOff_erase _ _
      · exact .refl _
  | cleanReceiver =>
      dsimp only
      split
      · next key done named => exact .messages named (Container.agreesOff_erase _ _)
      · exact .refl _
  | _ => exact .refl _

/-- An answer that lists neither receivers nor conversations concerns the receiver it names, or none. -/
theorem touches_onResponse (orderly : replica.gate.IsOrderly) {message : Message}
    (single : message.subject ≠ .receivers ∧ message.subject ≠ .conversations) :
    Touches (receiverKey? message) replica.data (replica.onResponse message).replica.data := by
  unfold onResponse
  cases subject : message.subject with
  | receivers => exact absurd subject single.1
  | conversations => exact absurd subject single.2
  | clientInfo =>
      let stored : Replica := { replica with data := setDevice replica.data clientInfoKey message.data }
      have stillOrderly : stored.gate.IsOrderly := orderly
      have same : (stored.completeStep .clientInfo).1.data = stored.data :=
        data_completeStep stillOrderly (by decide)
      have changed : Touches (receiverKey? message) replica.data stored.data := .setDevice _ _
      rwa [← same] at changed
  | profile => exact .setDevice _ _
  | messages =>
      dsimp only
      split
      · exact .refl _
      · next key named =>
          split
          · exact .messages named (Container.agreesOff_insert _ _ _)
          · exact .refl _
  | avatar =>
      dsimp only
      split
      · next key avatar named given => exact .avatars named (Container.agreesOff_insert _ _ _)
      · exact .refl _
  | thumbnail | blob | contactDetail =>
      dsimp only
      split <;> exact .refl _
  | batteryStatus =>
      dsimp only
      split
      · exact .setBattery _
      · exact .refl _
  | _ => exact .refl _

theorem touches_handle (orderly : replica.gate.IsOrderly) {message : Message} (single : ¬ message.IsListing) :
    Touches (receiverKey? message) replica.data (replica.handle message).replica.data := by
  unfold handle
  cases kind : message.kind with
  | response =>
      refine touches_onResponse orderly ⟨fun same => single ⟨kind, .inl same⟩, fun same => single ⟨kind, .inr same⟩⟩
  | update => exact touches_onUpdate replica message
  | create => exact touches_onCreate replica message
  | delete => exact touches_onDelete replica message
  | request => exact .refl _

end Replica

end RelayClient
