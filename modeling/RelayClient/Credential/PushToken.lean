/-!
# Push tokens

A push token belongs to one of three push systems. It is written as the tag of
its system, a colon and its text. A text without a known tag is a token of the
first system as it stands, and the empty text is no token.
-/

namespace RelayClient

/-- A system that wakes a device. -/
inductive PushSystem where
  | gcm
  | apns
  | hms
  deriving DecidableEq, Inhabited

namespace PushSystem

def tag : PushSystem → Char
  | .gcm => 'g'
  | .apns => 'a'
  | .hms => 'h'

def ofTag? : Char → Option PushSystem
  | 'g' => some .gcm
  | 'a' => some .apns
  | 'h' => some .hms
  | _ => none

def name : PushSystem → String
  | .gcm => "gcm"
  | .apns => "apns"
  | .hms => "hms"

def ofName? (name : String) : Option PushSystem :=
  [gcm, apns, hms].find? fun system => system.name == name

theorem ofTag?_tag (system : PushSystem) : ofTag? system.tag = some system := by
  cases system <;> rfl

end PushSystem

/-- A token and the system it belongs to. -/
structure PushToken where
  system : PushSystem
  text : String
  deriving DecidableEq, Inhabited

namespace PushToken

/-- What stands between the tag and the text. -/
def delimiter : Char := ':'

/-- The written form of a token. -/
def encode (token : PushToken) : String :=
  String.ofList (token.system.tag :: delimiter :: token.text.toList)

def ofChars? : List Char → Option PushToken
  | [] => none
  | tag :: ':' :: rest =>
      match PushSystem.ofTag? tag with
      | some system => some ⟨system, String.ofList rest⟩
      | none => some ⟨.gcm, String.ofList (tag :: ':' :: rest)⟩
  | chars => some ⟨.gcm, String.ofList chars⟩

def decode? (text : String) : Option PushToken :=
  ofChars? text.toList

end PushToken

end RelayClient
