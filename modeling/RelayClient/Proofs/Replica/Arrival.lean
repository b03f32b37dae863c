import Mathlib.Data.List.Induction
import RelayClient.Proofs.Replica.Separation

/-!
# The first snapshot, in any order

A session asks for the client info, the receivers and the conversations, and waits
for all three. Their answers may come in any order, and the conversations are kept
back until the receivers came. What has come tells all: the data, the completed
steps and what the session is told depend on which answers came, and not on their order.
-/

namespace RelayClient

open Pack (Value)
open Replica (AppData)

def InitStep.subject : InitStep → SubType
  | .clientInfo => .clientInfo
  | .conversations => .conversations
  | .receivers => .receivers

/-- The answers to the three requests, whatever they hold. -/
structure Snapshot where
  args : InitStep → Option Args
  data : InitStep → Option Value

/-- What arrives: the answer that completes a step, or a start that waits for all steps. -/
inductive Arrival where
  | answer (step : InitStep)
  | start (number : Nat)

namespace Arrival

def step? : Arrival → Option InitStep
  | answer step => some step
  | start _ => none

def number? : Arrival → Option Nat
  | answer _ => none
  | start number => some number

/-- The answers among arrivals. -/
def answers (arrivals : List Arrival) : List InitStep :=
  arrivals.filterMap step?

/-- The starts among arrivals. -/
def starts (arrivals : List Arrival) : List Nat :=
  arrivals.filterMap number?

end Arrival

namespace Snapshot

def message (snapshot : Snapshot) (step : InitStep) : Message :=
  ⟨.response, step.subject, snapshot.args step, snapshot.data step⟩

/-- The conversations in their answer, which may hold no list. -/
def conversations (snapshot : Snapshot) : List Value :=
  ((snapshot.data .conversations).bind Value.list?).getD []

/-- What an arrival comes to: the replica after it, and what the session is told. -/
def arrive (snapshot : Snapshot) (replica : Replica) : Arrival → Replica × List Notice
  | .answer step =>
      let handling := replica.handle (snapshot.message step)
      (handling.replica, handling.notices)
  | .start number => replica.runAfter InitStep.all (.finishStart number)

/-- What arrivals come to from a new gate, one after another, with all notices. -/
def arriveAll (snapshot : Snapshot) (data : AppData) (arrivals : List Arrival) : Replica × List Notice :=
  arrivals.foldl (fun state arrival =>
    let (replica, notices) := snapshot.arrive state.1 arrival
    (replica, state.2 ++ notices)) (⟨data, {}⟩, [])

/-- What an arrival releases: the replica that the released routines find, and the routines. -/
def released (snapshot : Snapshot) (replica : Replica) : Arrival → Replica × List Continuation
  | .answer .clientInfo =>
      let registered := replica.gate.register .clientInfo
      (⟨Replica.setDevice replica.data Replica.clientInfoKey (snapshot.data .clientInfo), registered.1⟩, registered.2)
  | .answer .receivers =>
      let registered := replica.gate.register .receivers
      (⟨Replica.withReceivers replica.data (snapshot.message .receivers), registered.1⟩, registered.2)
  | .answer .conversations =>
      let queued := replica.gate.runAfter [.receivers] (.storeConversations snapshot.conversations)
      ({ replica with gate := queued.1 }, queued.2)
  | .start number =>
      let queued := replica.gate.runAfter InitStep.all (.finishStart number)
      ({ replica with gate := queued.1 }, queued.2)

theorem arrive_eq_release (snapshot : Snapshot) (replica : Replica) (arrival : Arrival) :
    snapshot.arrive replica arrival =
      (snapshot.released replica arrival).1.release [] (snapshot.released replica arrival).2 := by
  cases arrival with
  | start number => rfl
  | answer step =>
      unfold arrive
      cases step with
      | clientInfo => rfl
      | receivers =>
          have routed : replica.handle (snapshot.message .receivers) = replica.onResponse (snapshot.message .receivers) := rfl
          dsimp only
          rw [routed, Replica.onResponse_receivers rfl]
          rfl
      | conversations => rfl

end Snapshot

/-! ## Routines that run -/

namespace Replica

/-- A start is finished in a replica, as released routines run one after another. -/
inductive FinishesIn (number : Nat) : Replica → List Continuation → Replica → Prop
  | now (replica : Replica) (rest : List Continuation) :
      FinishesIn number replica (.finishStart number :: rest) replica
  | next {replica found : Replica} {rest : List Continuation} (other : Nat)
      (finishes : FinishesIn number replica rest found) : FinishesIn number replica (.finishStart other :: rest) found
  | stored {replica found : Replica} {rest : List Continuation} (list : List Value)
      (finishes : FinishesIn number
        ⟨(replica.data.storeConversations list).1, (replica.gate.register .conversations).1⟩
        ((replica.gate.register .conversations).2 ++ rest) found) :
      FinishesIn number replica (.storeConversations list :: rest) found

/-- A start that is told to be over was finished so. -/
theorem exists_finishesIn (replica : Replica) (notices : List Notice) (work : List Continuation) {number : Nat}
    (told : .startFinished number ∈ (replica.release notices work).2) :
    .startFinished number ∈ notices ∨ ∃ found, FinishesIn number replica work found := by
  induction replica, notices, work using release.induct with
  | case1 replica notices =>
      unfold release at told
      exact .inl told
  | case2 replica notices list rest stored ih =>
      unfold release at told
      rcases ih told with former | ⟨found, finishes⟩
      · rcases List.mem_append.mp former with before | now
        · exact .inl before
        · cases List.mem_singleton.mp now
      · exact .inr ⟨found, .stored list finishes⟩
  | case3 replica notices other rest ih =>
      unfold release at told
      rcases ih told with former | ⟨found, finishes⟩
      · rcases List.mem_append.mp former with before | now
        · exact .inl before
        · cases List.mem_singleton.mp now
          exact .inr ⟨replica, .now replica rest⟩
      · exact .inr ⟨found, .next other finishes⟩

/-- What released routines come to. Starts are finished last, when nothing changes any more. -/
structure Yields (replica : Replica) (work : List Continuation) (after : Replica) (notices : List Notice) : Prop where
  release : ∀ told, replica.release told work = (after, told ++ notices)
  finishes : ∀ number found, FinishesIn number replica work found → found = after ∧ .startFinished number ∈ notices

variable {replica : Replica}

theorem yields_starts (replica : Replica) (numbers : List Nat) :
    Yields replica (numbers.map .finishStart) replica (numbers.map .startFinished) := by
  induction numbers with
  | nil =>
      refine ⟨fun told => ?_, nofun⟩
      unfold Replica.release
      simp
  | cons number rest ih =>
      refine ⟨fun told => ?_, fun other found finishes => ?_⟩
      · rw [List.map_cons]
        unfold Replica.release
        rw [ih.release, List.append_assoc]
        rfl
      · cases finishes with
        | now => exact ⟨rfl, .head _⟩
        | next _ later =>
            obtain ⟨same, told⟩ := ih.finishes other found later
            exact ⟨same, .tail _ told⟩

/-- Conversations that are let in are stored, before the starts are finished that waited for them. -/
theorem yields_store (list : List Value) {numbers : List Nat}
    (starts : (replica.gate.register .conversations).2 = numbers.map .finishStart) :
    Yields replica [.storeConversations list]
      ⟨(replica.data.storeConversations list).1, (replica.gate.register .conversations).1⟩
      (.unread (replica.data.storeConversations list).2 :: numbers.map .startFinished) := by
  have rest := yields_starts
    ⟨(replica.data.storeConversations list).1, (replica.gate.register .conversations).1⟩ numbers
  refine ⟨fun told => ?_, fun number found finishes => ?_⟩
  · unfold Replica.release
    dsimp only
    rw [starts, List.append_nil, rest.release, List.append_assoc]
    rfl
  · cases finishes with
    | stored _ later =>
        rw [starts, List.append_nil] at later
        obtain ⟨same, told⟩ := rest.finishes number found later
        exact ⟨same, .tail _ told⟩

end Replica

/-! ## What waits -/

namespace StepGate

def waitingStart (number : Nat) : Waiting Continuation := ⟨InitStep.all, .finishStart number⟩

def waitingStore (list : List Value) : Waiting Continuation := ⟨[.receivers], .storeConversations list⟩

end StepGate

def Waiting.isStart (waiting : Waiting Continuation) : Bool :=
  match waiting.routine with
  | .finishStart _ => true
  | .storeConversations _ => false

/-- The completed steps of a gate, the starts that wait for all steps and the conversations that
wait for the receivers, each in the order in which they came. -/
structure StepGate.Awaits (gate : StepGate Continuation) (completed : StepSet) (starts : List Nat)
    (stores : List (List Value)) : Prop where
  completed : gate.completed = completed
  starts : gate.queue.filter (·.isStart) = starts.map waitingStart
  stores : gate.queue.filter (!·.isStart) = stores.map waitingStore

namespace StepGate.Awaits

variable {gate : StepGate Continuation} {completed : StepSet} {starts : List Nat} {stores : List (List Value)}

/-- What waits needs all steps if it is a start, and the receivers otherwise. -/
theorem covers_iff (awaits : gate.Awaits completed starts stores) (steps : StepSet) {waiting : Waiting Continuation}
    (mem : waiting ∈ gate.queue) :
    steps.covers waiting.required = if waiting.isStart then steps.covers InitStep.all else steps.receivers := by
  cases kind : waiting.isStart with
  | true =>
      have listed : waiting ∈ starts.map waitingStart := awaits.starts ▸ List.mem_filter.mpr ⟨mem, kind⟩
      obtain ⟨number, -, rfl⟩ := List.mem_map.mp listed
      rfl
  | false =>
      have listed : waiting ∈ stores.map waitingStore :=
        awaits.stores ▸ List.mem_filter.mpr ⟨mem, by rw [kind]; rfl⟩
      obtain ⟨list, -, rfl⟩ := List.mem_map.mp listed
      simp [waitingStore, StepSet.covers, StepSet.contains]

/-- What a completed step leaves waiting: of the starts and of the conversations, all or none. -/
theorem rest (awaits : gate.Awaits completed starts stores) (steps : StepSet) :
    (⟨steps, gate.queue.filter (not ∘ fun waiting => steps.covers waiting.required)⟩ : StepGate Continuation).Awaits steps
      (if steps.covers InitStep.all then [] else starts) (if steps.receivers then [] else stores) := by
  refine ⟨rfl, ?_, ?_⟩
  · have left : ∀ waiting ∈ gate.queue,
        (waiting.isStart && (not ∘ fun waiting => steps.covers waiting.required) waiting) =
          (waiting.isStart && !steps.covers InitStep.all) := by
      intro waiting mem
      cases kind : waiting.isStart with
      | true => simp [awaits.covers_iff steps mem, kind]
      | false => rfl
    rw [List.filter_filter, List.filter_congr left]
    cases steps.covers InitStep.all with
    | true => simp
    | false => simpa using awaits.starts
  · have left : ∀ waiting ∈ gate.queue,
        (!waiting.isStart && (not ∘ fun waiting => steps.covers waiting.required) waiting) =
          (!waiting.isStart && !steps.receivers) := by
      intro waiting mem
      cases kind : waiting.isStart with
      | true => rfl
      | false => simp [awaits.covers_iff steps mem, kind]
    rw [List.filter_filter, List.filter_congr left]
    cases steps.receivers with
    | true => simp
    | false => simpa using awaits.stores

/-- The routines that a completed step releases: conversations once the receivers came, starts once all
came. Both are not released by one step. -/
theorem routines (awaits : gate.Awaits completed starts stores) (steps : StepSet)
    (free : steps.covers InitStep.all = true → stores = []) :
    (gate.queue.filter fun waiting => steps.covers waiting.required).map (·.routine) =
      (if steps.receivers then stores.map .storeConversations else []) ++
        (if steps.covers InitStep.all then starts.map .finishStart else []) := by
  have chosen : ∀ waiting ∈ gate.queue, steps.covers waiting.required =
      if waiting.isStart then steps.covers InitStep.all else steps.receivers :=
    fun waiting mem => awaits.covers_iff steps mem
  cases all : steps.covers InitStep.all with
  | true =>
      have came : steps.receivers = true := by
        simp [StepSet.covers, InitStep.all, StepSet.contains] at all
        exact all.2.2
      have onlyStarts : gate.queue.filter (·.isStart) = gate.queue := by
        have none : gate.queue.filter (!·.isStart) = [] := by rw [awaits.stores, free all]; rfl
        rw [List.filter_eq_self]
        intro waiting mem
        simpa using List.filter_eq_nil_iff.mp none waiting mem
      have everything : gate.queue = starts.map waitingStart := onlyStarts.symm.trans awaits.starts
      have covered : ∀ waiting ∈ gate.queue, steps.covers waiting.required = true := by
        intro waiting mem
        rw [chosen waiting mem, all, came, ite_self]
      rw [List.filter_eq_self.mpr covered, everything, free all, List.map_map]
      rw [came]
      rfl
  | false =>
      have onlyStores : ∀ waiting ∈ gate.queue, steps.covers waiting.required = (!waiting.isStart && steps.receivers) := by
        intro waiting mem
        rw [chosen waiting mem, all]
        cases waiting.isStart <;> rfl
      rw [List.filter_congr onlyStores]
      cases steps.receivers with
      | false => simp
      | true =>
          simp only [Bool.and_true]
          rw [awaits.stores, List.map_map]
          exact (List.append_nil _).symm

/-- Completing a step lets in the conversations if the receivers came, and the starts if all came. -/
theorem register (awaits : gate.Awaits completed starts stores) {step : InitStep}
    (fresh : completed.contains step = false)
    (free : (completed.insert step).covers InitStep.all = true → stores = []) :
    (gate.register step).1.Awaits (completed.insert step)
        (if (completed.insert step).covers InitStep.all then [] else starts)
        (if (completed.insert step).receivers then [] else stores) ∧
      (gate.register step).2 =
        (if (completed.insert step).receivers then stores.map .storeConversations else []) ++
          (if (completed.insert step).covers InitStep.all then starts.map .finishStart else []) := by
  have unregistered : ¬ gate.completed.contains step = true := by
    rw [awaits.completed, fresh]
    exact Bool.false_ne_true
  unfold StepGate.register
  rw [if_neg unregistered, awaits.completed]
  simp only [List.partition_eq_filter_filter]
  exact ⟨awaits.rest _, awaits.routines _ free⟩

/-- A start that cannot be finished yet waits behind the others. -/
theorem runAfter_start (awaits : gate.Awaits completed starts stores) (number : Nat) :
    (gate.runAfter InitStep.all (.finishStart number)).1.Awaits completed
        (if completed.covers InitStep.all then starts else starts ++ [number]) stores ∧
      (gate.runAfter InitStep.all (.finishStart number)).2 =
        if completed.covers InitStep.all then [.finishStart number] else [] := by
  unfold StepGate.runAfter
  rw [awaits.completed]
  cases completed.covers InitStep.all with
  | true => exact ⟨awaits, rfl⟩
  | false =>
      rw [if_neg Bool.false_ne_true]
      refine ⟨⟨rfl, ?_, ?_⟩, rfl⟩
      · rw [List.filter_append, awaits.starts]
        simp [waitingStart, Waiting.isStart]
      · rw [List.filter_append, awaits.stores]
        simp [Waiting.isStart]

/-- Conversations that cannot be stored yet wait for the receivers. -/
theorem runAfter_store (awaits : gate.Awaits completed starts stores) (list : List Value) :
    (gate.runAfter [.receivers] (.storeConversations list)).1.Awaits completed starts
        (if completed.receivers then stores else stores ++ [list]) ∧
      (gate.runAfter [.receivers] (.storeConversations list)).2 =
        if completed.receivers then [.storeConversations list] else [] := by
  have covers : completed.covers [.receivers] = completed.receivers := by simp [StepSet.covers, StepSet.contains]
  unfold StepGate.runAfter
  rw [awaits.completed, covers]
  cases completed.receivers with
  | true => exact ⟨awaits, rfl⟩
  | false =>
      rw [if_neg Bool.false_ne_true]
      refine ⟨⟨rfl, ?_, ?_⟩, rfl⟩
      · rw [List.filter_append, awaits.starts]
        simp [Waiting.isStart]
      · rw [List.filter_append, awaits.stores]
        simp [waitingStore, Waiting.isStart]

end StepGate.Awaits

/-! ## What has come -/

/-- The steps that are complete once some answers came: the conversations wait for the receivers. -/
def StepSet.inEffect (came : StepSet) : StepSet :=
  { came with conversations := came.conversations && came.receivers }

def StepSet.full : StepSet := ⟨true, true, true⟩

namespace Snapshot

variable (snapshot : Snapshot) (data : AppData)

/-- The data once some answers took effect on it. -/
def stored (came : StepSet) : AppData :=
  { data with
    device :=
      if came.clientInfo then (Replica.setDevice data Replica.clientInfoKey (snapshot.data .clientInfo)).device
      else data.device
    receivers :=
      if came.receivers then (Replica.withReceivers data (snapshot.message .receivers)).receivers else data.receivers
    conversations :=
      if came.conversations && came.receivers then (data.storeConversations snapshot.conversations).1.conversations
      else data.conversations }

/-- The unread count that the conversations come to. -/
def unread : Nat :=
  (data.storeConversations snapshot.conversations).2

/-- What the session is told once some answers came: the unread count once the conversations are stored,
and then of each start that it is over, once all answers came. -/
def notices (came : StepSet) (numbers : List Nat) : List Notice :=
  (if came.conversations && came.receivers then [.unread (snapshot.unread data)] else []) ++
    (if came.covers InitStep.all then numbers.map .startFinished else [])

/-- What has come tells all: the data, the gate and what the session was told. -/
structure Stands (came : StepSet) (numbers : List Nat) (state : Replica × List Notice) : Prop where
  stored : state.1.data = snapshot.stored data came
  gate : state.1.gate.Awaits came.inEffect (if came.covers InitStep.all then [] else numbers)
    (if came.conversations && !came.receivers then [snapshot.conversations] else [])
  told : state.2 = snapshot.notices data came numbers

/-- An arrival leads to where what has come by then stands, and finishes starts there only. -/
def Lands (came : StepSet) (numbers : List Nat) (state : Replica × List Notice) (arrival : Arrival) : Prop :=
  ∃ after told, Replica.Yields (snapshot.released state.1 arrival).1 (snapshot.released state.1 arrival).2 after told ∧
    snapshot.Stands data came numbers (after, state.2 ++ told)

variable {snapshot data} {came : StepSet} {numbers : List Nat} {state : Replica × List Notice} {arrival : Arrival}

/-- Until the conversations are stored, the session is told nothing. -/
theorem Stands.told_of_early (stands : snapshot.Stands data came numbers state)
    (early : (came.conversations && came.receivers) = false) : state.2 = [] := by
  have partly : came.covers InitStep.all = false := by
    obtain ⟨clientInfo, conversations, receivers⟩ := came
    cases clientInfo <;> cases conversations <;> cases receivers <;> first | rfl | cases early
  rw [stands.told, notices, early, partly]
  rfl

/-- Conversations that are let in complete their step, which may be the last. -/
theorem lands_of_store {clientInfo : Bool}
    (work : (snapshot.released state.1 arrival).2 = [.storeConversations snapshot.conversations])
    (gate : (snapshot.released state.1 arrival).1.gate.Awaits ⟨clientInfo, false, true⟩ numbers [])
    (stored : (snapshot.released state.1 arrival).1.data = snapshot.stored data ⟨clientInfo, false, true⟩)
    (told : state.2 = []) : snapshot.Lands data ⟨clientInfo, true, true⟩ numbers state arrival := by
  obtain ⟨awaits, routines⟩ := gate.register (rfl : StepSet.contains _ .conversations = false) fun _ => rfl
  have starts : ((snapshot.released state.1 arrival).1.gate.register .conversations).2 =
      (if clientInfo then numbers else []).map .finishStart := by
    rw [routines]
    cases clientInfo <;> rfl
  have yields := Replica.yields_store snapshot.conversations starts
  rw [← work] at yields
  refine ⟨_, _, yields, ?_, ?_, ?_⟩
  · rw [stored]
    rfl
  · cases clientInfo <;> exact awaits
  · rw [told, stored]
    cases clientInfo <;> rfl

/-- Starts that are released are over, once what released them has taken effect. -/
theorem lands_of_starts (finished : List Nat)
    (work : (snapshot.released state.1 arrival).2 = finished.map .finishStart)
    (stands : snapshot.Stands data came numbers
      ((snapshot.released state.1 arrival).1, state.2 ++ finished.map .startFinished)) :
    snapshot.Lands data came numbers state arrival := by
  have yields := Replica.yields_starts (snapshot.released state.1 arrival).1 finished
  rw [← work] at yields
  exact ⟨_, _, yields, stands⟩

/-- The client info and the receivers are stored where no other answer is. -/
theorem setDevice_stored (snapshot : Snapshot) (data : AppData) (conversations receivers : Bool) :
    Replica.setDevice (snapshot.stored data ⟨false, conversations, receivers⟩) Replica.clientInfoKey
        (snapshot.data .clientInfo) =
      snapshot.stored data ⟨true, conversations, receivers⟩ := by
  unfold stored Replica.setDevice
  cases given : snapshot.data .clientInfo with
  | none => rfl
  | some info => rfl

theorem withReceivers_stored (snapshot : Snapshot) (data : AppData) (clientInfo conversations : Bool) :
    Replica.withReceivers (snapshot.stored data ⟨clientInfo, conversations, false⟩) (snapshot.message .receivers) =
      snapshot.stored data ⟨clientInfo, false, true⟩ := by
  have unlisted : (conversations && false) = false := Bool.and_false conversations
  unfold stored Replica.withReceivers
  rw [unlisted]
  cases given : (snapshot.message .receivers).data with
  | none => rfl
  | some table => rfl

theorem Stands.clientInfo (stands : snapshot.Stands data came numbers state) (fresh : came.clientInfo = false) :
    snapshot.Lands data (came.insert .clientInfo) numbers state (.answer .clientInfo) := by
  obtain ⟨clientInfo, conversations, receivers⟩ := came
  cases (fresh : clientInfo = false)
  -- it is the last answer where both others came, and then no conversations wait
  have free : (StepSet.insert (StepSet.inEffect ⟨false, conversations, receivers⟩) .clientInfo).covers InitStep.all = true →
      (if conversations && !receivers then [snapshot.conversations] else []) = [] := by
    intro all
    cases receivers with
    | true => cases conversations <;> rfl
    | false => cases conversations <;> cases all
  obtain ⟨awaits, routines⟩ := stands.gate.register (rfl : StepSet.contains _ .clientInfo = false) free
  refine lands_of_starts (if conversations && receivers then numbers else []) ?_ ⟨?_, ?_, ?_⟩
  · refine routines.trans ?_
    cases conversations <;> cases receivers <;> rfl
  · refine Eq.trans ?_ (setDevice_stored snapshot data conversations receivers)
    rw [← stands.stored]
    rfl
  · cases conversations <;> cases receivers <;> exact awaits
  · rw [stands.told]
    cases conversations <;> cases receivers <;> simp [notices, StepSet.insert, StepSet.covers, InitStep.all, StepSet.contains]

theorem Stands.receivers (stands : snapshot.Stands data came numbers state) (fresh : came.receivers = false) :
    snapshot.Lands data (came.insert .receivers) numbers state (.answer .receivers) := by
  obtain ⟨clientInfo, conversations, receivers⟩ := came
  cases (fresh : receivers = false)
  -- the receivers alone complete nothing: conversations that wait still have to be stored
  have partly : (StepSet.insert (StepSet.inEffect ⟨clientInfo, conversations, false⟩) .receivers).covers InitStep.all = false := by
    cases clientInfo <;> cases conversations <;> rfl
  obtain ⟨awaits, routines⟩ := stands.gate.register (rfl : StepSet.contains _ .receivers = false)
    fun all => by rw [partly] at all; cases all
  have stored : Replica.withReceivers state.1.data (snapshot.message .receivers) =
      snapshot.stored data ⟨clientInfo, false, true⟩ := by
    rw [stands.stored]
    exact withReceivers_stored snapshot data clientInfo conversations
  cases conversations with
  | true =>
      refine lands_of_store ?_ ?_ stored ?_
      · refine routines.trans ?_
        cases clientInfo <;> rfl
      · cases clientInfo <;> exact awaits
      · exact stands.told_of_early rfl
  | false =>
      refine lands_of_starts [] ?_ ⟨stored, ?_, ?_⟩
      · refine routines.trans ?_
        cases clientInfo <;> rfl
      · cases clientInfo <;> exact awaits
      · rw [stands.told_of_early rfl]
        cases clientInfo <;> rfl

theorem Stands.conversations (stands : snapshot.Stands data came numbers state) (fresh : came.conversations = false) :
    snapshot.Lands data (came.insert .conversations) numbers state (.answer .conversations) := by
  obtain ⟨clientInfo, conversations, receivers⟩ := came
  cases (fresh : conversations = false)
  obtain ⟨awaits, routines⟩ := stands.gate.runAfter_store snapshot.conversations
  cases receivers with
  | true =>
      refine lands_of_store routines ?_ stands.stored (stands.told_of_early rfl)
      cases clientInfo <;> exact awaits
  | false =>
      refine lands_of_starts [] routines ⟨stands.stored, ?_, ?_⟩
      · cases clientInfo <;> exact awaits
      · rw [stands.told_of_early rfl]
        cases clientInfo <;> rfl

theorem Stands.start (stands : snapshot.Stands data came numbers state) (number : Nat) :
    snapshot.Lands data came (numbers ++ [number]) state (.start number) := by
  obtain ⟨awaits, routines⟩ := stands.gate.runAfter_start number
  have effect : came.inEffect.covers InitStep.all = came.covers InitStep.all := by
    obtain ⟨clientInfo, conversations, receivers⟩ := came
    cases clientInfo <;> cases conversations <;> cases receivers <;> rfl
  rw [effect] at awaits routines
  refine lands_of_starts (if came.covers InitStep.all then [number] else []) ?_ ⟨stands.stored, ?_, ?_⟩
  · refine routines.trans ?_
    split <;> rfl
  · cases all : came.covers InitStep.all with
    | true =>
        rw [all] at awaits
        exact awaits
    | false =>
        rw [all] at awaits
        exact awaits
  · rw [stands.told]
    unfold notices
    cases came.covers InitStep.all with
    | true => simp
    | false => simp

/-- Nothing has come where a gate is new. -/
theorem stands_start (snapshot : Snapshot) (data : AppData) : snapshot.Stands data {} [] (⟨data, {}⟩, []) where
  stored := rfl
  gate := ⟨rfl, rfl, rfl⟩
  told := rfl

/-- An arrival leads on from where what has come stands, if it is no answer that came before. -/
theorem Stands.lands (stands : snapshot.Stands data came numbers state) (arrival : Arrival)
    (fresh : ∀ step, arrival.step? = some step → came.contains step = false) :
    snapshot.Lands data (arrival.step?.toList.foldl StepSet.insert came) (numbers ++ arrival.number?.toList) state arrival := by
  cases arrival with
  | start number => exact stands.start number
  | answer step =>
      have unseen : came.contains step = false := fresh step rfl
      rw [Arrival.number?, Option.toList_none, List.append_nil]
      cases step with
      | clientInfo => exact stands.clientInfo unseen
      | receivers => exact stands.receivers unseen
      | conversations => exact stands.conversations unseen

theorem arriveAll_concat (snapshot : Snapshot) (data : AppData) (arrivals : List Arrival) (arrival : Arrival) :
    snapshot.arriveAll data (arrivals ++ [arrival]) =
      ((snapshot.arrive (snapshot.arriveAll data arrivals).1 arrival).1,
        (snapshot.arriveAll data arrivals).2 ++ (snapshot.arrive (snapshot.arriveAll data arrivals).1 arrival).2) := by
  unfold arriveAll
  rw [List.foldl_append]
  rfl

theorem contains_foldl_insert (steps : List InitStep) (came : StepSet) (step : InitStep) :
    (steps.foldl StepSet.insert came).contains step = (came.contains step || steps.contains step) := by
  induction steps generalizing came with
  | nil => rw [List.foldl_nil, List.contains_nil, Bool.or_false]
  | cons first rest ih =>
      rw [List.foldl_cons, ih, StepSet.contains_insert, List.contains_cons, Bool.beq_comm, ← Bool.or_assoc,
        Bool.or_comm (step == first)]

/-- An arrival after others leads on from where they stand, if no answer came twice. -/
theorem lands_concat (snapshot : Snapshot) (data : AppData) {earlier : List Arrival} {arrival : Arrival}
    (once : (Arrival.answers (earlier ++ [arrival])).Nodup)
    (stands : snapshot.Stands data ((Arrival.answers earlier).foldl StepSet.insert {}) (Arrival.starts earlier)
      (snapshot.arriveAll data earlier)) :
    snapshot.Lands data ((Arrival.answers (earlier ++ [arrival])).foldl StepSet.insert {})
      (Arrival.starts (earlier ++ [arrival])) (snapshot.arriveAll data earlier) arrival := by
  have unseen : ∀ step, arrival.step? = some step →
      ((Arrival.answers earlier).foldl StepSet.insert {}).contains step = false := by
    intro step answers
    rw [Arrival.answers, List.filterMap_append, List.nodup_append] at once
    have absent : step ∉ Arrival.answers earlier := by
      intro mem
      exact once.2.2 step mem step (by simp [answers]) rfl
    rw [contains_foldl_insert, Bool.or_eq_false_iff]
    refine ⟨by cases step <;> rfl, ?_⟩
    simpa using absent
  have lands := stands.lands arrival unseen
  have answers : Arrival.answers (earlier ++ [arrival]) = Arrival.answers earlier ++ arrival.step?.toList := by
    rw [Arrival.answers, List.filterMap_append]
    cases arrival <;> rfl
  have starts : Arrival.starts (earlier ++ [arrival]) = Arrival.starts earlier ++ arrival.number?.toList := by
    rw [Arrival.starts, List.filterMap_append]
    cases arrival <;> rfl
  rw [answers, starts, List.foldl_append]
  exact lands

/-- Where no answer came twice, what has come tells how arrivals stand. -/
theorem stands_arriveAll (snapshot : Snapshot) (data : AppData) {arrivals : List Arrival}
    (once : (Arrival.answers arrivals).Nodup) :
    snapshot.Stands data ((Arrival.answers arrivals).foldl StepSet.insert {}) (Arrival.starts arrivals)
      (snapshot.arriveAll data arrivals) := by
  induction arrivals using List.reverseRecOn with
  | nil => exact stands_start snapshot data
  | append_singleton earlier arrival ih =>
      have onceBefore : (Arrival.answers earlier).Nodup := by
        rw [Arrival.answers, List.filterMap_append] at once
        exact (List.nodup_append.mp once).1
      obtain ⟨after, told, yields, stands⟩ := snapshot.lands_concat data once (ih onceBefore)
      rw [arriveAll_concat, arrive_eq_release, yields.release]
      exact stands

/-- All answers have come where each of the three did. -/
theorem foldl_insert_of_perm {steps : List InitStep} (all : steps.Perm InitStep.all) :
    steps.foldl StepSet.insert {} = .full := by
  have came : ∀ step, (steps.foldl StepSet.insert {}).contains step = true := by
    intro step
    have mem : step ∈ steps := all.mem_iff.mpr (by cases step <;> decide)
    rw [contains_foldl_insert, Bool.or_eq_true]
    exact .inr (by simpa using mem)
  have clientInfo := came .clientInfo
  have conversations := came .conversations
  have receivers := came .receivers
  generalize steps.foldl StepSet.insert {} = found at clientInfo conversations receivers
  obtain ⟨first, second, third⟩ := found
  cases (clientInfo : first = true)
  cases (conversations : second = true)
  cases (receivers : third = true)
  rfl

end Snapshot

def Notice.unread? : Notice → Option Nat
  | .unread count => some count
  | _ => none

namespace Snapshot

/-- A start is finished by an arrival, in a replica as a released routine finds it. -/
def Finishes (snapshot : Snapshot) (replica : Replica) (arrival : Arrival) (number : Nat) (found : Replica) : Prop :=
  Replica.FinishesIn number (snapshot.released replica arrival).1 (snapshot.released replica arrival).2 found

/-- What the three answers come to, with starts that wait for them at any point, from a new gate. -/
structure Settles (snapshot : Snapshot) (data : AppData) (arrivals : List Arrival) : Prop where
  /-- The data is that of the answers, and no step is left open. -/
  stored : (snapshot.arriveAll data arrivals).1.data = snapshot.stored data .full
  complete : ∀ step, (snapshot.arriveAll data arrivals).1.gate.isComplete step = true
  /-- The session is told the unread count, and then of each start once that it is over. -/
  told : (snapshot.arriveAll data arrivals).2 =
    .unread (snapshot.unread data) :: (Arrival.starts arrivals).map .startFinished
  /-- All this is the same for every order. -/
  alike : ∀ others, (Arrival.answers others).Perm InitStep.all →
    (snapshot.arriveAll data others).1.data = (snapshot.arriveAll data arrivals).1.data ∧
      (snapshot.arriveAll data others).1.gate.completed = (snapshot.arriveAll data arrivals).1.gate.completed ∧
      (snapshot.arriveAll data others).2.filterMap Notice.unread? =
        (snapshot.arriveAll data arrivals).2.filterMap Notice.unread?
  /-- The conversations are never complete before the receivers. -/
  gated : ∀ earlier, earlier <+: arrivals →
    (snapshot.arriveAll data earlier).1.gate.isComplete .conversations = true →
    (snapshot.arriveAll data earlier).1.gate.isComplete .receivers = true
  /-- A start that is told to be over was finished by a routine, and where that ran all answers had
  taken effect. -/
  finished : ∀ earlier arrival, earlier ++ [arrival] <+: arrivals → ∀ number,
    (.startFinished number ∈ (snapshot.arrive (snapshot.arriveAll data earlier).1 arrival).2 →
      ∃ found, snapshot.Finishes (snapshot.arriveAll data earlier).1 arrival number found) ∧
    ∀ found, snapshot.Finishes (snapshot.arriveAll data earlier).1 arrival number found →
      found.data = snapshot.stored data .full ∧ ∀ step, found.gate.isComplete step = true

section Settling

variable {snapshot : Snapshot} {data : AppData}

/-- A start is over only once all answers came. -/
theorem covers_of_startFinished {came : StepSet} {numbers : List Nat} {number : Nat}
    (told : .startFinished number ∈ snapshot.notices data came numbers) : came = .full := by
  unfold notices at told
  rcases List.mem_append.mp told with unread | starts
  · split at unread
    · cases List.mem_singleton.mp unread
    · cases unread
  · split at starts
    · next all =>
        obtain ⟨clientInfo, conversations, receivers⟩ := came
        simp [StepSet.covers, InitStep.all, StepSet.contains] at all
        obtain ⟨rfl, rfl, rfl⟩ := all
        rfl
    · cases starts

/-- The only count that is told is that of the conversations. -/
theorem Stands.unread {numbers : List Nat} {state : Replica × List Notice}
    (stands : snapshot.Stands data .full numbers state) :
    state.2.filterMap Notice.unread? = [snapshot.unread data] := by
  have starts : (numbers.map Notice.startFinished).filterMap Notice.unread? = [] := by
    rw [List.filterMap_map]
    exact List.filterMap_eq_nil_iff.mpr fun _ _ => rfl
  have told : state.2 = .unread (snapshot.unread data) :: numbers.map .startFinished := stands.told
  rw [told, List.filterMap_cons, starts]
  rfl

theorem Stands.isComplete {numbers : List Nat} {state : Replica × List Notice}
    (stands : snapshot.Stands data .full numbers state) (step : InitStep) : state.1.gate.isComplete step = true := by
  rw [StepGate.isComplete, stands.gate.completed]
  cases step <;> rfl

/-- The initial snapshot is the same in whatever order its answers come, and what waits for all of
them runs once they are all in. -/
theorem settles_of_perm {arrivals : List Arrival} (all : (Arrival.answers arrivals).Perm InitStep.all) :
    snapshot.Settles data arrivals := by
  have stands : ∀ {others : List Arrival}, (Arrival.answers others).Perm InitStep.all →
      snapshot.Stands data .full (Arrival.starts others) (snapshot.arriveAll data others) := by
    intro others complete
    rw [← foldl_insert_of_perm complete]
    exact stands_arriveAll snapshot data (complete.nodup_iff.mpr (by decide))
  have once : ∀ {earlier : List Arrival}, earlier <+: arrivals → (Arrival.answers earlier).Nodup := by
    intro earlier start
    exact (all.nodup_iff.mpr (by decide)).sublist (start.sublist.filterMap _)
  have told := (stands all).told
  constructor
  case stored => exact (stands all).stored
  case complete => exact (stands all).isComplete
  case told => exact told
  case alike =>
    intro others complete
    refine ⟨?_, ?_, ?_⟩
    · rw [(stands complete).stored, (stands all).stored]
    · rw [(stands complete).gate.completed, (stands all).gate.completed]
    · rw [(stands complete).unread, (stands all).unread]
  case gated =>
    intro earlier start conversations
    have gate := (stands_arriveAll snapshot data (once start)).gate.completed
    rw [StepGate.isComplete, gate] at conversations ⊢
    exact (Bool.and_eq_true_iff.mp conversations).2
  case finished =>
    intro earlier arrival start number
    constructor
    · intro ended
      rw [arrive_eq_release] at ended
      rcases Replica.exists_finishesIn _ _ _ ended with former | finishes
      · cases former
      · exact finishes
    · intro found finishes
      have before := stands_arriveAll snapshot data (once ((List.prefix_append earlier [arrival]).trans start))
      obtain ⟨after, now, yields, standsNow⟩ := snapshot.lands_concat data (once start) before
      obtain ⟨rfl, ended⟩ := yields.finishes number found finishes
      have listed : .startFinished number ∈ (snapshot.arriveAll data earlier).2 ++ now := List.mem_append_right _ ended
      have full := covers_of_startFinished (standsNow.told.subst listed)
      rw [full] at standsNow
      exact ⟨standsNow.stored, standsNow.isComplete⟩

end Settling

/-- Answers with conversations and receivers, and without any client info. -/
def smallSnapshot : Snapshot where
  args _ := none
  data
    | .clientInfo => none
    | .receivers => Replica.lateReceivers.data
    | .conversations => Replica.earlyConversations.data

/-- The conversations come first and the receivers last, with a start that waits before and one between. -/
def receiversLast : List Arrival :=
  [.start 0, .answer .conversations, .answer .clientInfo, .start 1, .answer .receivers]

theorem settles_smallSnapshot : smallSnapshot.Settles {} receiversLast ∧
    (smallSnapshot.arriveAll {} receiversLast).1.data.conversations.keys = ["contact:a", "contact:b"] := by
  have all : (Arrival.answers receiversLast).Perm InitStep.all := by decide
  exact ⟨settles_of_perm all, by decide +kernel⟩

end Snapshot

end RelayClient
