import RelayClient.Credential.WorkFactor
import RelayClient.Json.Value
import RelayClient.Text.Blank
import RelayClient.Text.Hex

/-!
# Key records

A trusted key is stored as a JSON object that names its nonce, salt, work factor
and ciphertext. Deprecated records are two runs of hexadecimal digits with a
colon between them. Reading a record for use is lenient: it notes every problem
and gives up only when a value that decryption needs cannot be had.
-/

namespace RelayClient

structure KeyRecord where
  nonce : String
  salt : String
  n : UInt64
  r : UInt32
  p : UInt32
  encrypted : String
  deriving DecidableEq

structure DecodedRecord where
  nonce : Bytes
  salt : Bytes
  work : WorkFactor
  encrypted : Bytes
  deriving DecidableEq

inductive StoredFormat where
  | current (text : String)
  | deprecated (nonce ciphertext : String)

namespace StoredFormat

def isHexRun (chars : List Char) : Bool :=
  !chars.isEmpty && chars.all fun c => (Text.Hex.digitValue? c).isSome

/-- Tells the formats apart, without white space at the ends. -/
def classify (raw : String) : StoredFormat :=
  let chars := Text.trimChars raw.toList
  let nonce := chars.takeWhile (· != ':')
  let ciphertext := (chars.dropWhile (· != ':')).drop 1
  if isHexRun nonce && isHexRun ciphertext then
    .deprecated (String.ofList nonce) (String.ofList ciphertext)
  else .current (String.ofList chars)

end StoredFormat

namespace KeyRecord

def ofParts (nonce salt : Bytes) (work : WorkFactor) (encrypted : Bytes) : KeyRecord :=
  ⟨Text.Hex.encode nonce, Text.Hex.encode salt, work.n, work.r, work.p, Text.Hex.encode encrypted⟩

/-- A record as a JSON value with its fields in stored order. -/
def render (record : KeyRecord) : String :=
  "\x7b\"nonce\":" ++ Json.quoted record.nonce ++ ",\"salt\":" ++ Json.quoted record.salt ++
    ",\"N\":" ++ toString record.n.toNat ++ ",\"r\":" ++ toString record.r.toNat ++
    ",\"p\":" ++ toString record.p.toNat ++ ",\"encrypted\":" ++ Json.quoted record.encrypted ++ "\x7d"

def string? : Json.Tree → Option String
  | .string pieces => Json.text? pieces
  | _ => none

/-- A whole number of a tree, below a bound. -/
def natural? (bound : Nat) : Json.Tree → Option Nat
  | .number literal =>
      match Json.Number.ofLiteral? literal with
      | some (.natural value) => if value < bound then some value else none
      | _ => none
  | _ => none

/-- The fields read so far. -/
structure Fields where
  nonce : Option String := none
  salt : Option String := none
  n : Option Nat := none
  r : Option Nat := none
  p : Option Nat := none
  encrypted : Option String := none

/-- A field that was not read before. -/
def fresh {α : Type} (before after : Option α) : Option α :=
  if before.isSome then none else after

/-- Takes one entry into the fields; a repeated field is refused and an unknown one passed over. -/
def Fields.take (fields : Fields) (entry : List Json.Piece × Json.Tree) : Option Fields :=
  match Json.text? entry.1 with
  | none => none
  | some "nonce" => (fresh fields.nonce (string? entry.2)).map fun nonce => { fields with nonce }
  | some "salt" => (fresh fields.salt (string? entry.2)).map fun salt => { fields with salt }
  | some "N" => (fresh fields.n (natural? (2 ^ 64) entry.2)).map fun n => { fields with n }
  | some "r" => (fresh fields.r (natural? (2 ^ 32) entry.2)).map fun r => { fields with r }
  | some "p" => (fresh fields.p (natural? (2 ^ 32) entry.2)).map fun p => { fields with p }
  | some "encrypted" =>
      (fresh fields.encrypted (string? entry.2)).map fun encrypted => { fields with encrypted }
  | some _ => some fields

def Fields.record? : Fields → Option KeyRecord
  | ⟨some nonce, some salt, some n, some r, some p, some encrypted⟩ =>
      some ⟨nonce, salt, UInt64.ofNat n, UInt32.ofNat r, UInt32.ofNat p, encrypted⟩
  | _ => none

/-- The record a text spells, as an object or as the list of its six values. -/
def parse? (text : String) : Option KeyRecord :=
  match Json.Tree.parse? text with
  | some (.object entries) => (entries.foldlM Fields.take {}).bind Fields.record?
  | some (.array [nonce, salt, n, r, p, encrypted]) =>
      Fields.record? ⟨string? nonce, string? salt, natural? (2 ^ 64) n, natural? (2 ^ 32) r,
        natural? (2 ^ 32) p, string? encrypted⟩
  | _ => none

end KeyRecord

inductive RecordField where
  | nonce
  | salt
  | n
  | r
  | p
  | encrypted
  deriving DecidableEq

def RecordField.name : RecordField → String
  | .nonce => "nonce"
  | .salt => "salt"
  | .n => "N"
  | .r => "r"
  | .p => "p"
  | .encrypted => "encrypted"

/-- What is wrong with a field of a record. -/
inductive RecordFault where
  | missing
  | notHex (problem : Text.Hex.Problem)
  | notString (found : JsonValue)
  | notNumber (found : JsonValue)
  | notNatural (found : Json.Number)
  | wrongNonceLength (found : Nat)
  | shortSalt (found : Nat)
  | notPowerOfTwo (found : Nat)
  | belowMinimum (found : Nat)
  | zero
  | emptyCiphertext

structure RecordProblem where
  field : RecordField
  fault : RecordFault

namespace RecordFault

def message : RecordFault → String
  | .missing => "missing"
  | .notHex problem => "not valid hex (" ++ problem.message ++ ")"
  | .notString found => "expected hex string, found " ++ found.compact
  | .notNumber found => "expected number, found " ++ found.compact
  | .notNatural found => "not a non-negative integer (" ++ found.render ++ ")"
  | .wrongNonceLength found => "expected " ++ toString Cipher.nonceLength ++ " bytes, found " ++ toString found
  | .shortSalt found =>
      "expected at least " ++ toString WorkFactor.saltLength ++ " bytes, found " ++ toString found
  | .notPowerOfTwo found => toString found ++ " is not a power of two"
  | .belowMinimum found => toString found ++ " is below the minimum"
  | .zero => "must be at least 1"
  | .emptyCiphertext => "ciphertext is empty"

end RecordFault

/-- The text shown for a problem. -/
def RecordProblem.message (problem : RecordProblem) : String :=
  problem.field.name ++ ": " ++ problem.fault.message

namespace DecodedRecord

/-- A value that may be missing, with what was wrong on the way to it. -/
structure Recovered (α : Type) where
  value : Option α
  faults : List RecordFault := []

def hexField : Option JsonValue → Recovered Bytes
  | none => ⟨none, [.missing]⟩
  | some (.string text) =>
      match Text.Hex.decode text with
      | .ok bytes => ⟨some bytes, []⟩
      | .error problem => ⟨none, [.notHex problem]⟩
  | some other => ⟨none, [.notString other]⟩

/-- The natural number a double-width number stands for, when it is whole. -/
def wholeOf? (value : Float) : Option Nat :=
  if value.floor == value && value >= 0 then some value.toUInt64.toNat else none

/-- The natural number of a field. A whole number written with a point is noted and used. -/
def numberField : Option JsonValue → Recovered Nat
  | none => ⟨none, [.missing]⟩
  | some (.number (.natural value)) => ⟨some value, []⟩
  | some (.number number) => ⟨wholeOf? number.toFloat, [.notNatural number]⟩
  | some other => ⟨none, [.notNumber other]⟩

def Recovered.check {α : Type} (recovered : Recovered α) (fault? : α → Option RecordFault) : Recovered α :=
  match recovered.value.bind fault? with
  | some fault => { recovered with faults := recovered.faults ++ [fault] }
  | none => recovered

/-- What is wrong with a count of table entries. -/
def entriesFault (n : Nat) : Option RecordFault :=
  match WorkFactor.logOf? n with
  | none => some (.notPowerOfTwo n)
  | some log => if log < WorkFactor.minLogN then some (.belowMinimum n) else none

/-- A parameter must not be zero. -/
def zeroFault (value : Nat) : Option RecordFault :=
  if value = 0 then some .zero else none

def nonceFault (nonce : Bytes) : Option RecordFault :=
  if nonce.length ≠ Cipher.nonceLength then some (.wrongNonceLength nonce.length) else none

def saltFault (salt : Bytes) : Option RecordFault :=
  if salt.length < WorkFactor.saltLength then some (.shortSalt salt.length) else none

def ciphertextFault (encrypted : Bytes) : Option RecordFault :=
  if encrypted.length ≤ Cipher.Poly1305.tagLength then some .emptyCiphertext else none

def problemsOf (field : RecordField) (faults : List RecordFault) : List RecordProblem :=
  faults.map fun fault => ⟨field, fault⟩

/-- A natural number of 32 bits. -/
def word? (value : Nat) : Option UInt32 :=
  if value < 2 ^ 32 then some (UInt32.ofNat value) else none

/-- The record of a JSON value, when all that decryption needs is there, and its problems. -/
def ofJson (json : JsonValue) : Option DecodedRecord × List RecordProblem :=
  let nonce := (hexField (json.get? "nonce")).check nonceFault
  let salt := (hexField (json.get? "salt")).check saltFault
  let n := (numberField (json.get? "N")).check entriesFault
  let r := (numberField (json.get? "r")).check zeroFault
  let p := (numberField (json.get? "p")).check zeroFault
  let encrypted := (hexField (json.get? "encrypted")).check ciphertextFault
  let problems := problemsOf .nonce nonce.faults ++ problemsOf .salt salt.faults ++
    problemsOf .n n.faults ++ problemsOf .r r.faults ++ problemsOf .p p.faults ++
    problemsOf .encrypted encrypted.faults
  match nonce.value, salt.value, n.value.bind WorkFactor.logOf?, r.value.bind word?, p.value.bind word?,
      encrypted.value with
  | some nonce, some salt, some logN, some r, some p, some encrypted =>
      (some ⟨nonce, salt, ⟨UInt8.ofNat logN, r, p⟩, encrypted⟩, problems)
  | _, _, _, _, _, _ => (none, problems)

/-- The record of a stored text, and its problems. A text that cannot be held as a value has neither. -/
def decode (raw : String) : Option DecodedRecord × List RecordProblem :=
  match JsonValue.parse? raw with
  | none => (none, [])
  | some json => ofJson json

end DecodedRecord

end RelayClient
