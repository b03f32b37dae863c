import RelayClient.Envelope.Message
import RelayClient.Proofs.Dictionary
import RelayClient.Proofs.Pack.Values

/-!
# Messages read back

A message that is written to a frame and read again comes back, whatever follows
the frame. Absent, empty and nil fields stay apart. Text that is not UTF-8 comes
back as binary, since no frame holds it as text.
-/

namespace RelayClient

open Pack (Value)

namespace Dictionary

variable {α β : Type}

def mapValues (change : α → β) (dictionary : Dictionary α) : Dictionary β where
  entries := dictionary.entries.map fun entry => (entry.1, change entry.2)
  ascending := List.pairwise_map.mpr dictionary.ascending

end Dictionary

namespace SubType

/-- The subjects this client has a name for. -/
def known : List SubType :=
  [.receiver, .receivers, .conversation, .conversations, .message, .messages, .avatar, .thumbnail, .blob,
    .typing, .read, .clientInfo, .profile, .contact, .contactDetail, .group, .groupSync, .distributionList,
    .alert, .batteryStatus, .cleanReceiver, .keyPersisted, .ack, .textMessage, .fileMessage,
    .connectionDisconnect]

/-- The texts that read as one of them: its name, or the short name of a deleted conversation. -/
def knownNames : List String :=
  "cleanReceiver" :: known.map name

theorem ofName_of_not_mem {text : String} (free : text ∉ knownNames) : ofName text = .unknown text := by
  simp only [knownNames, known, List.map_cons, List.map_nil, name, List.mem_cons, not_or] at free
  unfold ofName
  split <;> first | rfl | simp at free

/-- A subject without a name of its own reads back unless its text is one of the known names. -/
theorem ofName_name_of_free {subject : SubType} (free : ∀ text, subject = .unknown text → text ∉ knownNames) :
    ofName subject.name = subject := by
  cases subject with
  | unknown text => exact ofName_of_not_mem (free text rfl)
  | _ => rfl

end SubType

namespace Message

/-- A message as it is written: text that is not UTF-8 goes out as binary. -/
def written (message : Message) : Message :=
  { message with
    args := message.args.map (·.mapValues Value.written)
    data := message.data.map Value.written }

theorem textEntries_record (fields : List (String × Value)) :
    textEntries (fields.map fun field => (.text field.1, field.2)) = fields := by
  induction fields with
  | nil => rfl
  | cons field rest ih => rw [List.map_cons, textEntries, ih]

theorem args?_argsValue (args : Args) : args? (argsValue args) = some args := by
  rw [argsValue, Value.record, args?, textEntries_record, Dictionary.ofList_entries]

theorem writtenEntries_record (fields : List (String × Value)) :
    Value.writtenEntries (fields.map fun field => (.text field.1, field.2)) =
      (fields.map fun field => (field.1, field.2.written)).map fun field => (.text field.1, field.2) := by
  induction fields with
  | nil => rfl
  | cons field rest ih =>
      rw [List.map_cons, Value.writtenEntries, ih]
      rfl

theorem written_argsValue (args : Args) : (argsValue args).written = argsValue (args.mapValues Value.written) := by
  rw [argsValue, Value.record, Value.written, writtenEntries_record]
  rfl

/-- Writing the tree of a message is the tree of the message as written. -/
theorem written_toValue (message : Message) : message.toValue.written = message.written.toValue := by
  obtain ⟨kind, subject, args, data⟩ := message
  cases args <;> cases data <;>
    simp [toValue, written, field, Value.written, Value.writtenEntries, written_argsValue]

theorem ofValue_toValue (message : Message)
    (free : ∀ text, message.subject = .unknown text → text ∉ SubType.knownNames) :
    ofValue message.toValue = .ok message := by
  obtain ⟨kind, subject, args, data⟩ := message
  have named : SubType.ofName subject.name = subject := SubType.ofName_name_of_free free
  have typed := MessageType.ofName?_name kind
  cases args <;> cases data <;>
    simp [ofValue, toValue, field, Fields.take, Value.text?, Fields.message, named, typed, args?_argsValue]

/-- What a message comes back as is itself where all its text is UTF-8, and only there. -/
theorem written_eq_self_iff (message : Message)
    (free : ∀ text, message.subject = .unknown text → text ∉ SubType.knownNames) :
    message.written = message ↔ message.toValue.Whole := by
  rw [← Value.written_eq_self_iff, written_toValue]
  constructor
  · intro same
    rw [same]
  · intro same
    have holds := ofValue_toValue message.written free
    rw [same, ofValue_toValue message free] at holds
    exact (Except.ok.inj holds).symm

theorem decode_encode_eq (message : Message) (rest : Bytes) (fits : message.toValue.Fits)
    (free : ∀ text, message.subject = .unknown text → text ∉ SubType.knownNames) :
    decode (message.encode ++ rest) =
      if message.toValue.levels ≤ Value.depthLimit then .ok message.written
      else .error (.unreadable .tooDeep) := by
  have read := Pack.read_encode message.toValue fits Value.depthLimit rest
  unfold decode Value.decode encode
  rw [read, Pack.afford]
  by_cases enough : message.toValue.levels ≤ Value.depthLimit
  · rw [if_pos enough, if_pos enough]
    exact (congrArg ofValue message.written_toValue).trans (ofValue_toValue message.written free)
  · rw [if_neg enough, if_neg enough]
    rfl

/-- Reading the frame of a message, whatever follows it, gives the message with its
broken text as binary, exactly when its tree stays within the levels of a frame. -/
theorem decode_encode_append (message : Message) (rest : Bytes) (fits : message.toValue.Fits)
    (free : ∀ text, message.subject = .unknown text → text ∉ SubType.knownNames) :
    decode (message.encode ++ rest) =
        (if message.toValue.levels ≤ Value.depthLimit then .ok message.written
        else .error (.unreadable .tooDeep)) ∧
      (message.written = message ↔ message.toValue.Whole) :=
  ⟨decode_encode_eq message rest fits free, written_eq_self_iff message free⟩

/-- A message about a subject without a name, with an empty list, a repeated key and
the least integer inside. -/
def sample : Message where
  kind := .response
  subject := .unknown "weather"
  args := some (Dictionary.empty.insert temporaryIdKey (.text "7"))
  data := some (.list [.list [], .map [(.nil, .int (.clamp (-(2 ^ 63)))), (.nil, .double 0)],
    .ext (-1) [1, 2, 3], .binary []])

theorem decode_encode_sample : sample.toValue.Fits ∧ sample.toValue.Whole ∧
    decode (sample.encode ++ [0xc1]) = .ok sample := by
  have fits : sample.toValue.Fits := by decide
  have whole : sample.toValue.Whole := by decide
  have free : ∀ text, sample.subject = .unknown text → text ∉ SubType.knownNames := by
    intro text same
    cases same
    decide
  have read := decode_encode_append sample [0xc1] fits free
  refine ⟨fits, whole, ?_⟩
  rw [read.1, read.2.mpr whole]
  exact if_pos (by decide)

/-- Text that is not UTF-8. -/
def brokenMessage : Message :=
  ⟨.update, .alert, none, some (.brokenText [0xff, 0x80])⟩

/-- Broken text does not come back as text. -/
theorem decode_encode_brokenText : brokenMessage.toValue.Fits ∧
    brokenMessage.toValue.levels ≤ Value.depthLimit ∧ decode (brokenMessage.encode ++ []) ≠ .ok brokenMessage := by
  have fits : brokenMessage.toValue.Fits := by decide
  have free : ∀ text, brokenMessage.subject = .unknown text → text ∉ SubType.knownNames := nofun
  have enough : brokenMessage.toValue.levels ≤ Value.depthLimit := by decide
  refine ⟨fits, enough, fun same => ?_⟩
  rw [decode_encode_eq brokenMessage [] fits free, if_pos enough] at same
  cases same

end Message

end RelayClient
