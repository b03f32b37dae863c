import RelayClient.Dictionary
import RelayClient.Envelope.Kind
import RelayClient.Pack.Writer
import RelayClient.Pack.Reader
import RelayClient.Pack.Display

/-!
# Messages

A message is a map with a type, a subject, optional arguments and optional
data. Reading takes the last of each of these entries and leaves out the rest;
among arguments the last of a key stays, and keys that are no text are left out.
-/

namespace RelayClient

open Pack (Value ReadError)

abbrev Args := Dictionary Value

/-- A message between client and device. -/
structure Message where
  kind : MessageType
  subject : SubType
  args : Option Args
  data : Option Value
  deriving Inhabited

/-- The argument that correlates a request with its answer. -/
def temporaryIdKey : String := "temporaryId"

/-- Why a frame is no message. -/
inductive DecodeError where
  | unreadable (cause : ReadError)
  | notMap (found : Value)
  | missingType
  | missingSubType
  | unknownType (name : String)

namespace DecodeError

/-- The kind of an error; a frame that holds no map is malformed. -/
def kind : DecodeError → String
  | .unreadable _ | .notMap _ => "Malformed"
  | .missingType => "MissingType"
  | .missingSubType => "MissingSubType"
  | .unknownType _ => "UnknownType"

/-- The text shown for a frame that is no message. -/
def message : DecodeError → String
  | .unreadable cause => "not a MessagePack map: " ++ cause.message
  | .notMap found => "not a MessagePack map: found " ++ found.display
  | .missingType => "missing type"
  | .missingSubType => "missing subType"
  | .unknownType name => "unknown type " ++ Text.quoted name

end DecodeError

namespace Message

/-- A message without arguments and data. -/
def plain (kind : MessageType) (subject : SubType) : Message :=
  ⟨kind, subject, none, none⟩

def arg? (message : Message) (key : String) : Option Value :=
  message.args.bind fun args => args.get? key

def argText? (message : Message) (key : String) : Option String :=
  (message.arg? key).bind Value.text?

def argBool? (message : Message) (key : String) : Option Bool :=
  (message.arg? key).bind Value.bool?

/-- The id that correlates a message with a request, if it has one. -/
def temporaryId? (message : Message) : Option String :=
  message.argText? temporaryIdKey

def field (key : String) : Option Value → List (Value × Value)
  | none => []
  | some value => [(.text key, value)]

def argsValue (args : Args) : Value :=
  .record args.entries

def toValue (message : Message) : Value :=
  .map ((.text "type", .text message.kind.name) :: (.text "subType", .text message.subject.name) ::
    (field "args" (message.args.map argsValue) ++ field "data" message.data))

def encode (message : Message) : Bytes :=
  message.toValue.encode

/-- The entries of a map whose key is text. -/
def textEntries : List (Value × Value) → List (String × Value)
  | [] => []
  | (.text key, value) :: rest => (key, value) :: textEntries rest
  | _ :: rest => textEntries rest

def args? : Value → Option Args
  | .map entries => some (.ofList (textEntries entries))
  | _ => none

/-- The four entries of a message, as far as they were read. -/
structure Fields where
  type : Option String := none
  subject : Option SubType := none
  args : Option Args := none
  data : Option Value := none

def Fields.take (fields : Fields) (entry : Value × Value) : Fields :=
  match entry.1.text? with
  | some "type" => { fields with type := entry.2.text? }
  | some "subType" => { fields with subject := entry.2.text?.map SubType.ofName }
  | some "args" => { fields with args := args? entry.2 }
  | some "data" => { fields with data := some entry.2 }
  | _ => fields

/-- The message of the fields, once all entries were read. -/
def Fields.message (fields : Fields) : Except DecodeError Message :=
  match fields.type, fields.subject with
  | none, _ => .error .missingType
  | some _, none => .error .missingSubType
  | some name, some subject =>
      match MessageType.ofName? name with
      | none => .error (.unknownType name)
      | some kind => .ok ⟨kind, subject, fields.args, fields.data⟩

def ofValue : Value → Except DecodeError Message
  | .map entries => (entries.foldl Fields.take {}).message
  | other => .error (.notMap other)

def decode (frame : Bytes) : Except DecodeError Message :=
  match Value.decode frame with
  | .error cause => .error (.unreadable cause)
  | .ok value => ofValue value

/-- Equality of argument entries in order. -/
def sameArgs : List (String × Value) → List (String × Value) → Bool
  | [], [] => true
  | (key, value) :: rest, (name, content) :: others => key == name && value.same content && sameArgs rest others
  | _, _ => false

/-- Equality of messages as frames compare values. -/
def same (first second : Message) : Bool :=
  first.kind == second.kind && first.subject == second.subject &&
    (match first.args, second.args with
      | none, none => true
      | some args, some others => sameArgs args.entries others.entries
      | _, _ => false) &&
    (match first.data, second.data with
      | none, none => true
      | some data, some other => data.same other
      | _, _ => false)

end Message

end RelayClient
