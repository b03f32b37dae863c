import RelayClient.Exchange.PendingTable

/-!
# Exchange of messages

A messenger sends messages over the channel that is attached and hands incoming
ones to a handler. A request that expects a reply carries an id; a message with
the same id that the handler took answers it. Times are in milliseconds.
-/

namespace RelayClient

open Pack (Value)

/-- A request that was sent and whose reply is expected. -/
structure ExpectedReply where
  id : String
  waiter : Nat
  /-- The time from which on no reply is awaited. -/
  deadline : Option Nat
  finished : Bool := false

/-- The channel, the pending requests and the expected replies. -/
structure Messenger (κ : Type) where
  /-- How long a reply is awaited. -/
  limit : Option Nat := none
  /-- The ids that are drawn by chance. -/
  draw : Nat → String
  drawn : Nat := 0
  channel : Option κ := none
  table : PendingTable := {}
  replies : List ExpectedReply := []

/-- A request on its way: the channel and message it was sent as, its id, and
the number of its expected reply. -/
structure SentRequest (κ : Type) where
  channel : κ
  message : Message
  id : String
  reply : Nat

/-- An id that is not pending in a table, and the number of ids drawn by the time it came up. -/
structure FreshId (table : PendingTable) where
  id : String
  drawn : Nat
  free : table.contains id = false

/-- A table is finite, and some id is longer than all of its own. -/
instance (table : PendingTable) : Nonempty (FreshId table) :=
  let ⟨id, free⟩ := table.exists_free
  ⟨⟨id, 0, free⟩⟩

/-- What a handled message answers a request with. -/
def Message.replyOf (message : Message) : Outcome → Option Reply
  | .unhandled => none
  | .reply reply => some reply
  | .handled =>
      if (message.argBool? "success").getD true then some (.ok (message.data.getD .nil))
      else some (.rejected ((message.argText? "error").getD "unknown error"))

namespace Messenger

variable {κ : Type}

def isAttached (messenger : Messenger κ) : Bool :=
  messenger.channel.isSome

def attach (messenger : Messenger κ) (channel : κ) : Messenger κ :=
  { messenger with channel := some channel }

def detach (messenger : Messenger κ) : Messenger κ :=
  { messenger with channel := none }

/-- Gives up all pending requests, and tells how many there were. -/
def clear (messenger : Messenger κ) : Messenger κ × Nat :=
  let (table, count) := messenger.table.clear
  ({ messenger with table }, count)

/-- Sends a message without expecting a reply. The channel may refuse it. -/
def post (messenger : Messenger κ) (refusal : Option Failure) : Except Failure κ :=
  match messenger.channel, refusal with
  | none, _ => .error (.transport "secure channel not open")
  | some _, some failure => .error failure
  | some channel, none => .ok channel

/-- One try at a fresh id. A draw that is pending leaves the next one to be tried. -/
def tryDraw (messenger : Messenger κ) (drawn : Nat) : Nat ⊕ FreshId messenger.table :=
  if pending : messenger.table.contains (messenger.draw drawn) = true then .inl (drawn + 1)
  else .inr ⟨messenger.draw drawn, drawn + 1, Bool.eq_false_iff.mpr pending⟩

/-- Draws ids until one comes up that is not pending, however long that takes. Where none ever comes
up the draws do not end; then nothing is known of the id but that it is not pending. -/
def freshId (messenger : Messenger κ) (drawn : Nat) : FreshId messenger.table :=
  Id.run (repeatM (fun drawn => pure (messenger.tryDraw drawn)) drawn)

/-- The id of a request and the arguments that carry it. An id that is given is
kept; otherwise one is drawn. -/
def correlate (messenger : Messenger κ) (args : Args) : Messenger κ × String × Args :=
  match (args.get? temporaryIdKey).bind Value.text? with
  | some id => (messenger, id, args)
  | none =>
      let fresh := messenger.freshId messenger.drawn
      ({ messenger with drawn := fresh.drawn }, fresh.id, args.insert temporaryIdKey (.text fresh.id))

/-- Sends a request and expects a reply. A request that fails leaves nothing pending. -/
def send (messenger : Messenger κ) (now : Nat) (refusal : Option Failure) (message : Message) :
    Messenger κ × Except Failure (SentRequest κ) :=
  if message.kind = .response then (messenger, .error (.protocol "responses cannot wait for a reply"))
  else
    let (messenger, id, args) := messenger.correlate (message.args.getD .empty)
    match messenger.table.register id with
    | (_, .error failure) => (messenger, .error failure)
    | (table, .ok waiter) =>
        match messenger.post refusal with
        | .error failure =>
            ({ messenger with table := ((table.evict id).1).abandon waiter }, .error failure)
        | .ok channel =>
            let reply := messenger.replies.length
            ({ messenger with
                table
                replies := messenger.replies ++ [⟨id, waiter, messenger.limit.map (now + ·), false⟩] },
              .ok ⟨channel, { message with args := some args }, id, reply⟩)

def finish (messenger : Messenger κ) (reply : Nat) : Messenger κ :=
  { messenger with replies := messenger.replies.modify reply fun expected => { expected with finished := true } }

/-- Stops waiting for a reply, and gives up its request if that is still pending. -/
def abandon (messenger : Messenger κ) (reply : Nat) : Messenger κ :=
  match messenger.replies[reply]? with
  | none => messenger
  | some expected =>
      if expected.finished then messenger
      else
        let table := ((messenger.table.abandon expected.waiter).evictAbandoned expected.id).1
        { messenger.finish reply with table }

/-- Looks whether an expected reply has come or is overdue. -/
def poll (messenger : Messenger κ) (now reply : Nat) : Messenger κ × Option (Except Failure Value) :=
  match messenger.replies[reply]? with
  | none => (messenger, none)
  | some expected =>
      if expected.finished then (messenger, none)
      else
        match messenger.table.receive expected.waiter with
        | (table, .reply (.ok data)) => ({ messenger.finish reply with table }, some (.ok data))
        | (table, .reply (.rejected reason)) =>
            ({ messenger.finish reply with table }, some (.error (.rejected reason)))
        | (_, .closed) | (_, .abandoned) => (messenger.finish reply, some (.error .stopped))
        | (_, .empty) =>
            if expected.deadline.any (· ≤ now) then
              (messenger.abandon reply, some (.error (.timeout expected.id)))
            else (messenger, none)

/-- Polls expected replies in order, and tells which have finished. -/
def pollAll (messenger : Messenger κ) (now : Nat) :
    List Nat → Messenger κ × List (Nat × Except Failure Value)
  | [] => (messenger, [])
  | reply :: rest =>
      let (after, result) := messenger.poll now reply
      let (last, results) := after.pollAll now rest
      (last, (result.toList.map fun outcome => (reply, outcome)) ++ results)

/-- All expected replies that have finished since they were last collected. -/
def collect (messenger : Messenger κ) (now : Nat) : Messenger κ × List (Nat × Except Failure Value) :=
  messenger.pollAll now (List.range messenger.replies.length)

/-- Answers the request that a handled message belongs to. -/
def settle (messenger : Messenger κ) (message : Message) (outcome : Outcome) : Messenger κ :=
  match message.replyOf outcome, message.temporaryId? with
  | some reply, some id => { messenger with table := (messenger.table.resolve id reply).1 }
  | _, _ => messenger

/-- Hands a message to a handler and answers the request it belongs to. -/
def dispatch {σ : Type} (messenger : Messenger κ) (handle : σ → Message → σ × Outcome) (state : σ)
    (message : Message) : Messenger κ × σ :=
  let (state, outcome) := handle state message
  (messenger.settle message outcome, state)

/-- Takes an incoming frame. A frame that is no message has no effect. -/
def receive {σ : Type} (messenger : Messenger κ) (handle : σ → Message → σ × Outcome) (state : σ)
    (frame : Bytes) : Messenger κ × σ :=
  match Message.decode frame with
  | .error _ => (messenger, state)
  | .ok message => messenger.dispatch handle state message

end Messenger

end RelayClient
