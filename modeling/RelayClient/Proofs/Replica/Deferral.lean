import RelayClient.Proofs.Replica.Threads

/-!
# News of a conversation

An answer with conversations that comes before the receivers takes effect when they
come, and so after news that came in between. News of a conversation lasts unless an
older one was held when it came and the receivers came after it, which then bring the
older one back.
-/

namespace RelayClient

open Pack (Value)
open Replica (AppData)

/-- Whether a message says nothing of the conversation under a key. The answer with the receivers does not. -/
def Message.IsQuietOn (message : Message) (key : String) : Prop :=
  message.news? key = none ∧ lastListed message.listed key = none

namespace Replica

variable {replica : Replica} {key : String}

theorem Thread.hear_of_isQuietOn {key : String} (thread : Thread) {message : Message} (quiet : message.IsQuietOn key) :
    thread.hear key message =
      if message.bringsReceivers then ⟨true, none, thread.held.or thread.stored⟩ else thread := by
  unfold hear
  rw [quiet.1, quiet.2]
  cases message.bringsReceivers with
  | true => rfl
  | false =>
      obtain ⟨came, held, stored⟩ := thread
      cases came <;> rfl

/-- Messages that say nothing of a conversation let in what was held, once the receivers are among them. -/
theorem Thread.foldl_hear_of_isQuietOn {key : String} (thread : Thread) {messages : List Message}
    (quiet : ∀ message ∈ messages, message.IsQuietOn key) :
    messages.foldl (hear key) thread =
      if messages.any (·.bringsReceivers) then ⟨true, none, thread.held.or thread.stored⟩ else thread := by
  induction messages generalizing thread with
  | nil => rfl
  | cons message rest ih =>
      rw [List.foldl_cons, thread.hear_of_isQuietOn (quiet message (.head rest)),
        ih _ fun other mem => quiet other (.tail _ mem), List.any_cons]
      cases message.bringsReceivers with
      | true => exact ite_self _
      | false => rfl

theorem kind_of_news {message : Message} {key : String} {said : Option Value}
    (news : message.news? key = some said) : message.kind ≠ .response := by
  intro kind
  rw [Message.news?_eq_none (by rw [kind]; decide)] at news
  cases news

/-- Until the receivers come, a conversation that is listed is held in place of the one before. -/
theorem Thread.hear_of_not_brings (key : String) (thread : Thread) {message : Message}
    (brings : message.bringsReceivers = false) :
    (thread.hear key message).receiversCame = thread.receiversCame ∧
      (thread.hear key message).held =
        if thread.receiversCame then thread.held else (lastListed message.listed key).or thread.held := by
  unfold hear
  rw [if_neg (by rw [brings]; exact Bool.false_ne_true)]
  cases news : message.news? key with
  | some said =>
      rw [(silent_of_ne_response (kind_of_news news)).2]
      exact ⟨rfl, (ite_self _).symm⟩
  | none =>
      cases came : thread.receiversCame with
      | true => exact ⟨rfl, rfl⟩
      | false => exact ⟨rfl, rfl⟩

/-- What is held after messages: the last conversation that was listed, until the receivers came. -/
theorem Thread.held_foldl_hear {key : String} (thread : Thread) (messages : List Message)
    (sane : thread.receiversCame = true → thread.held = none) :
    (messages.foldl (hear key) thread).held =
      if thread.receiversCame || messages.any (·.bringsReceivers) then none
      else (lastListed (messages.flatMap (·.listed)) key).or thread.held := by
  induction messages generalizing thread with
  | nil =>
      cases came : thread.receiversCame with
      | true => exact sane came
      | false => rfl
  | cons message rest ih =>
      rw [List.foldl_cons, List.any_cons, List.flatMap_cons]
      cases brings : message.bringsReceivers with
      | true =>
          have heard : thread.hear key message = ⟨true, none, thread.held.or thread.stored⟩ := if_pos brings
          rw [heard, ih _ fun _ => rfl, Bool.true_or, Bool.or_true]
          rfl
      | false =>
          obtain ⟨came, held⟩ := thread.hear_of_not_brings key brings
          have stillSane : (thread.hear key message).receiversCame = true → (thread.hear key message).held = none := by
            intro complete
            rw [came] at complete
            rw [held, if_pos complete]
            exact sane complete
          rw [ih _ stillSane, came, held, Bool.false_or, lastListed_append]
          cases complete : thread.receiversCame with
          | true => rfl
          | false => rw [if_neg Bool.false_ne_true, Option.or_assoc]

/-- How long the news of a conversation lasts that came after some messages and before others. -/
structure KeepsNews (replica : Replica) (before : List Message) (news : Message) (later : List Message)
    (key : String) (said : Option Value) : Prop where
  /-- It lasts if no conversation was held when it came, or the receivers do not come after it. -/
  kept : ((replica.handleAll before).thread key).held = none ∨ later.any (·.bringsReceivers) = false →
    (replica.handleAll (before ++ news :: later)).data.conversations.get? key = said
  /-- Otherwise the receivers let in what was held, and that overwrites it. -/
  overwritten : ∀ former, ((replica.handleAll before).thread key).held = some former →
    later.any (·.bringsReceivers) = true →
    (replica.handleAll (before ++ news :: later)).data.conversations.get? key = some former
  /-- What was held is the conversation listed last, as long as the receivers had not come. -/
  held : ((replica.handleAll before).thread key).held =
    if (replica.thread key).receiversCame || before.any (·.bringsReceivers) then none
    else (lastListed (before.flatMap (·.listed)) key).or (replica.thread key).held

/-- News of a conversation that no later message speaks of lasts in every sequence of messages,
unless an older answer with the conversation still waited for the receivers. -/
theorem keepsNews_of_isQuietOn (arises : replica.Arises) (before : List Message) {news : Message} {later : List Message}
    {said : Option Value} (told : news.news? key = some said) (quiet : ∀ message ∈ later, message.IsQuietOn key) :
    replica.KeepsNews before news later key said := by
  have heard : ((replica.handleAll before).thread key).hear key news =
      { (replica.handleAll before).thread key with stored := said } := by
    rw [Thread.hear_of_ne_response key _ (kind_of_news told), told]
    rfl
  have ends : (replica.handleAll (before ++ news :: later)).thread key =
      if later.any (·.bringsReceivers) then ⟨true, none, ((replica.handleAll before).thread key).held.or said⟩
      else { (replica.handleAll before).thread key with stored := said } := by
    rw [handleAll_append, thread_handleAll (arises.handleAll before), List.foldl_cons, heard,
      Thread.foldl_hear_of_isQuietOn _ quiet]
  constructor
  case kept =>
    intro spared
    show ((replica.handleAll (before ++ news :: later)).thread key).stored = said
    rw [ends]
    rcases spared with free | absent
    · rw [free]
      split <;> rfl
    · rw [absent]
      rfl
  case overwritten =>
    intro former waits comes
    show ((replica.handleAll (before ++ news :: later)).thread key).stored = some former
    rw [ends, comes, waits]
    rfl
  case held =>
    rw [thread_handleAll arises]
    exact Thread.held_foldl_hear _ before (held_of_receiversCame arises.isOrderly key)

/-- An update that removes a conversation. -/
def removedConversation : Message :=
  ⟨.update, .conversation, some (.ofList [("type", .text "contact"), ("id", .text "a"), ("mode", .text "removed")]), none⟩

theorem news_removedConversation : removedConversation.news? "contact:a" = some none := by
  have named : receiverKey? removedConversation = some "contact:a" := by decide +kernel
  have removed : removedConversation.argText? "mode" = some "removed" := by decide +kernel
  unfold Message.news?
  rw [if_pos named]
  exact if_pos removed

theorem isQuietOn_lateReceivers (key : String) : ∀ message ∈ [lateReceivers], message.IsQuietOn key := by
  intro message mem
  cases List.mem_singleton.mp mem
  exact ⟨ite_self _, rfl⟩

/-- What was removed stays so when the receivers come a second time. -/
theorem keepsNews_removedConversation :
    KeepsNews {} [lateReceivers, earlyConversations] removedConversation [lateReceivers] "contact:a" none ∧
      (handleAll {} [lateReceivers, earlyConversations]).data.conversations.keys = ["contact:a", "contact:b"] ∧
      (handleAll {} [lateReceivers, earlyConversations, removedConversation, lateReceivers]).data.conversations.keys =
        ["contact:b"] :=
  ⟨keepsNews_of_isQuietOn .start [lateReceivers, earlyConversations] news_removedConversation
    (isQuietOn_lateReceivers "contact:a"), by decide +kernel, by decide +kernel⟩

/-- Receivers that come late bring back what was removed since its answer came. -/
theorem not_kept_removedConversation :
    removedConversation.news? "contact:a" = some none ∧
      (∀ message ∈ [lateReceivers], message.IsQuietOn "contact:a") ∧
      (handleAll {} ([earlyConversations] ++ removedConversation :: [lateReceivers])).data.conversations.get? "contact:a" ≠
        none := by
  refine ⟨news_removedConversation, isQuietOn_lateReceivers "contact:a", fun gone => ?_⟩
  have present : ((handleAll {} ([earlyConversations] ++ removedConversation :: [lateReceivers])).data.conversations.get?
      "contact:a").isSome = true := by
    decide +kernel
  rw [gone] at present
  cases present

end Replica

end RelayClient
