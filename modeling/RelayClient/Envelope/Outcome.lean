import RelayClient.Envelope.Message

/-!
# Outcomes of messages

What handling a message came to: the message was taken, was not understood, or
was answered in its own way. A message that answers a request carries a reply.
-/

namespace RelayClient

open Pack (Value)

/-- The answer to a request: its data, or the reason it was refused. -/
inductive Reply where
  | ok (data : Value)
  | rejected (reason : String)
  deriving Inhabited

/-- What handling a message came to. -/
inductive Outcome where
  | handled
  | unhandled
  | reply (reply : Reply)
  deriving Inhabited

end RelayClient
