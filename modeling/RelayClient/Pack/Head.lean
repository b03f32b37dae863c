import RelayClient.Pack.Value

/-!
# Heads of packed values

A packed value starts with a head: a scalar written whole, or the kind and the
length of what follows. Writing always takes the shortest form; reading takes
every form. One marker is reserved and reads as nil.
-/

namespace RelayClient.Pack

/-- What stands at the start of a packed value. -/
inductive Head where
  | nil
  | bool (flag : Bool)
  | int (number : Integer)
  | single (bits : UInt32)
  | double (bits : UInt64)
  | text (length : Nat)
  | binary (length : Nat)
  | list (length : Nat)
  | map (length : Nat)
  | ext (length : Nat)

/-- Why bytes are no packed value. -/
inductive ReadError where
  /-- The bytes end where a value should start. -/
  | noMarker
  /-- The bytes end inside a value. -/
  | cutShort
  | tooDeep
  deriving DecidableEq

namespace ReadError

def message : ReadError → String
  | .noMarker => "I/O error while reading marker byte"
  | .cutShort => "I/O error while reading non-marker bytes"
  | .tooDeep => "depth limit exceeded"

end ReadError

namespace Head

/-- A marker and a number over a fixed count of bytes. -/
def sized (marker : UInt8) (count value : Nat) : Bytes :=
  marker :: Bytes.bigEndian count value

/-- The shortest form of an integer. -/
def writeInteger (value : Int) : Bytes :=
  if 0 ≤ value then
    let n := value.toNat
    if n < 128 then [UInt8.ofNat n]
    else if n < 2 ^ 8 then sized 0xcc 1 n
    else if n < 2 ^ 16 then sized 0xcd 2 n
    else if n < 2 ^ 32 then sized 0xce 4 n
    else sized 0xcf 8 n
  else if -32 ≤ value then [UInt8.ofNat (256 + value).toNat]
  else if -(2 ^ 7) ≤ value then sized 0xd0 1 (2 ^ 8 + value).toNat
  else if -(2 ^ 15) ≤ value then sized 0xd1 2 (2 ^ 16 + value).toNat
  else if -(2 ^ 31) ≤ value then sized 0xd2 4 (2 ^ 32 + value).toNat
  else sized 0xd3 8 (2 ^ 64 + value).toNat

/-- The bytes of a head. An extension's head ends before its tag. -/
def write : Head → Bytes
  | .nil => [0xc0]
  | .bool false => [0xc2]
  | .bool true => [0xc3]
  | .int number => writeInteger number.value
  | .single bits => sized 0xca 4 bits.toNat
  | .double bits => sized 0xcb 8 bits.toNat
  | .text n =>
      if n < 32 then [UInt8.ofNat (0xa0 + n)]
      else if n < 2 ^ 8 then sized 0xd9 1 n
      else if n < 2 ^ 16 then sized 0xda 2 n
      else sized 0xdb 4 n
  | .binary n =>
      if n < 2 ^ 8 then sized 0xc4 1 n
      else if n < 2 ^ 16 then sized 0xc5 2 n
      else sized 0xc6 4 n
  | .list n =>
      if n < 16 then [UInt8.ofNat (0x90 + n)]
      else if n < 2 ^ 16 then sized 0xdc 2 n
      else sized 0xdd 4 n
  | .map n =>
      if n < 16 then [UInt8.ofNat (0x80 + n)]
      else if n < 2 ^ 16 then sized 0xde 2 n
      else sized 0xdf 4 n
  | .ext n =>
      if n = 1 then [0xd4]
      else if n = 2 then [0xd5]
      else if n = 4 then [0xd6]
      else if n = 8 then [0xd7]
      else if n = 16 then [0xd8]
      else if n < 2 ^ 8 then sized 0xc7 1 n
      else if n < 2 ^ 16 then sized 0xc8 2 n
      else sized 0xc9 4 n

/-- Reads a number over a fixed count of bytes. -/
def number (count : Nat) (bytes : Bytes) : Except ReadError (Nat × Bytes) :=
  match Bytes.split? count bytes with
  | some (digits, rest) => .ok (Bytes.ofBigEndian digits, rest)
  | none => .error .cutShort

/-- Reads a number over a fixed count of bytes into a head. -/
def withNumber (count : Nat) (head : Nat → Head) (bytes : Bytes) : Except ReadError (Head × Bytes) :=
  match number count bytes with
  | .ok (value, rest) => .ok (head value, rest)
  | .error problem => .error problem

def unsigned (n : Nat) : Head :=
  .int (.clamp n)

/-- The head of an integer in two's complement over `width` bits. -/
def signed (width n : Nat) : Head :=
  .int (.clamp (if n < 2 ^ (width - 1) then (n : Int) else n - 2 ^ width))

def readAfter (marker : UInt8) (rest : Bytes) : Except ReadError (Head × Bytes) :=
  let low := marker.toNat
  if low < 0x80 then .ok (unsigned low, rest)
  else if low < 0x90 then .ok (.map (low - 0x80), rest)
  else if low < 0xa0 then .ok (.list (low - 0x90), rest)
  else if low < 0xc0 then .ok (.text (low - 0xa0), rest)
  else if 0xe0 ≤ low then .ok (signed 8 low, rest)
  else
    match low with
    | 0xc2 => .ok (.bool false, rest)
    | 0xc3 => .ok (.bool true, rest)
    | 0xc4 => withNumber 1 .binary rest
    | 0xc5 => withNumber 2 .binary rest
    | 0xc6 => withNumber 4 .binary rest
    | 0xc7 => withNumber 1 .ext rest
    | 0xc8 => withNumber 2 .ext rest
    | 0xc9 => withNumber 4 .ext rest
    | 0xca => withNumber 4 (fun n => .single (UInt32.ofNat n)) rest
    | 0xcb => withNumber 8 (fun n => .double (UInt64.ofNat n)) rest
    | 0xcc => withNumber 1 unsigned rest
    | 0xcd => withNumber 2 unsigned rest
    | 0xce => withNumber 4 unsigned rest
    | 0xcf => withNumber 8 unsigned rest
    | 0xd0 => withNumber 1 (signed 8) rest
    | 0xd1 => withNumber 2 (signed 16) rest
    | 0xd2 => withNumber 4 (signed 32) rest
    | 0xd3 => withNumber 8 (signed 64) rest
    | 0xd4 => .ok (.ext 1, rest)
    | 0xd5 => .ok (.ext 2, rest)
    | 0xd6 => .ok (.ext 4, rest)
    | 0xd7 => .ok (.ext 8, rest)
    | 0xd8 => .ok (.ext 16, rest)
    | 0xd9 => withNumber 1 .text rest
    | 0xda => withNumber 2 .text rest
    | 0xdb => withNumber 4 .text rest
    | 0xdc => withNumber 2 .list rest
    | 0xdd => withNumber 4 .list rest
    | 0xde => withNumber 2 .map rest
    | 0xdf => withNumber 4 .map rest
    | _ => .ok (.nil, rest)

def read : Bytes → Except ReadError (Head × Bytes)
  | [] => .error .noMarker
  | marker :: rest => readAfter marker rest

end Head

end RelayClient.Pack
