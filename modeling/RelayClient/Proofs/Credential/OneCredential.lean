import RelayClient.Proofs.Credential.Contents
import RelayClient.Proofs.Lists

/-!
# One optional credential

Over any calls a key store on reliable storage is one optional credential: what
it holds is what the last successful write gave it, or nothing after it was
cleared, and its password opens it.
-/

namespace RelayClient

inductive KeyStoreEvent where
  | store (trusted : TrustedKey) (password : String) (auto : Bool) (result : Except Failure Unit)
  | retrieve (password : String) (result : Except Failure (Option TrustedKey))
  | setPassword (password : String)
  | clear

namespace KeyStoreEvent

/-- Whether a call decides what the store holds: a write that succeeded, or clearing. -/
def Writes : KeyStoreEvent → Prop
  | .store _ _ _ result => result = .ok ()
  | .clear => True
  | .retrieve _ _ | .setPassword _ => False

/-- The password of the session after a call, from the one before it. -/
def password (before : Option String) : KeyStoreEvent → Option String
  | .setPassword password => some password
  | .clear => none
  | .store _ _ _ _ | .retrieve _ _ => before

end KeyStoreEvent

namespace KeyStore

/-- A run of a key store: any calls in any order, with anything drawn by chance. A
write may pick any cost within the bounds, or fail to pick one. -/
inductive Run (first : KeyStore) : List KeyStoreEvent → KeyStore → Prop
  | start : Run first [] first
  | store {history : List KeyStoreEvent} {keys : KeyStore} (run : Run first history keys) (trusted : TrustedKey)
      (password : String) (auto : Bool) (draw : Draw) {cost : Except Failure Nat} (bounded : IsWithinBounds cost) :
      Run first (history ++ [.store trusted password auto (keys.storeAt cost trusted password auto draw).2])
        (keys.storeAt cost trusted password auto draw).1
  | retrieve {history : List KeyStoreEvent} {keys : KeyStore} (run : Run first history keys) (password : String)
      (draw : Draw) :
      Run first (history ++ [.retrieve password (keys.retrieve password draw).2]) (keys.retrieve password draw).1
  | setPassword {history : List KeyStoreEvent} {keys : KeyStore} (run : Run first history keys) (password : String) :
      Run first (history ++ [.setPassword password]) (keys.setPassword password)
  | clear {history : List KeyStoreEvent} {keys : KeyStore} (run : Run first history keys) :
      Run first (history ++ [.clear]) keys.clear

variable {first keys : KeyStore} {history : List KeyStoreEvent}

/-- What links a key store to the history that led to it. -/
structure Tracks (keys : KeyStore) (history : List KeyStoreEvent) : Prop where
  reliable : keys.storage.Reliable
  stored : ∀ before later trusted password auto,
    history = before ++ .store trusted password auto (.ok ()) :: later → (∀ event ∈ later, ¬ event.Writes) →
      keys.Holds trusted password auto
  cleared : ∀ before later, history = before ++ .clear :: later → (∀ event ∈ later, ¬ event.Writes) →
    keys.IsEmpty ∧ keys.password = later.foldl KeyStoreEvent.password none

namespace Tracks

/-- A call that writes nothing keeps a store in step with its history, if it leaves what is held alone. -/
theorem quiet (tracks : keys.Tracks history) {after : KeyStore} {event : KeyStoreEvent} (silent : ¬ event.Writes)
    (reliable : after.storage.Reliable)
    (holds : ∀ trusted password auto, keys.Holds trusted password auto → after.Holds trusted password auto)
    (empty : keys.IsEmpty → after.IsEmpty ∧ after.password = event.password keys.password) :
    after.Tracks (history ++ [event]) := by
  refine ⟨reliable, fun before later trusted password auto split unwritten => ?_, fun before later split unwritten => ?_⟩
  · rcases concat_eq_split_iff.mp split with ⟨-, -, rfl⟩ | ⟨middle, rfl, rfl⟩
    · exact absurd rfl silent
    · refine holds trusted password auto (tracks.stored before middle trusted password auto rfl fun other mem => ?_)
      exact unwritten other (List.mem_append_left _ mem)
  · rcases concat_eq_split_iff.mp split with ⟨-, -, rfl⟩ | ⟨middle, rfl, rfl⟩
    · exact absurd trivial silent
    · have former := tracks.cleared before middle rfl fun other mem => unwritten other (List.mem_append_left _ mem)
      obtain ⟨none, password⟩ := empty former.1
      rw [List.foldl_append, List.foldl_cons, List.foldl_nil, ← former.2]
      exact ⟨none, password⟩

/-- A call that leaves the store as it was keeps it in step with its history. -/
theorem unchanged (tracks : keys.Tracks history) {event : KeyStoreEvent} (silent : ¬ event.Writes)
    (same : ∀ before, event.password before = before) : keys.Tracks (history ++ [event]) :=
  tracks.quiet silent tracks.reliable (fun _ _ _ holds => holds) fun empty => ⟨empty, (same _).symm⟩

theorem store (tracks : keys.Tracks history) (trusted : TrustedKey) (password : String) (auto : Bool) (draw : Draw)
    {cost : Except Failure Nat} (bounded : IsWithinBounds cost) :
    (keys.storeAt cost trusted password auto draw).1.Tracks
      (history ++ [.store trusted password auto (keys.storeAt cost trusted password auto draw).2]) := by
  rcases storeAt_cases tracks.reliable bounded draw with ⟨failed, same⟩ | ⟨succeeded, holds, reliable⟩
  · rw [same]
    exact tracks.unchanged failed fun _ => rfl
  · rw [succeeded]
    refine ⟨reliable, fun before later other key flag split unwritten => ?_, fun before later split unwritten => ?_⟩
    · rcases concat_eq_split_iff.mp split with ⟨-, -, same⟩ | ⟨middle, rfl, -⟩
      · cases same
        exact holds
      · exact absurd rfl (unwritten _ (List.mem_append_right _ (.head _)))
    · rcases concat_eq_split_iff.mp split with ⟨-, -, same⟩ | ⟨middle, rfl, -⟩
      · cases same
      · exact absurd rfl (unwritten _ (List.mem_append_right _ (.head _)))

theorem retrieve (tracks : keys.Tracks history) (attempt : String) (draw : Draw) :
    (keys.retrieve attempt draw).1.Tracks (history ++ [.retrieve attempt (keys.retrieve attempt draw).2]) := by
  refine tracks.quiet id (reliable_retrieve tracks.reliable attempt draw) (fun trusted password auto holds => ?_)
    fun empty => ?_
  · rw [(holds.retrieve tracks.reliable attempt draw).1]
    exact holds
  · rw [empty.retrieve tracks.reliable]
    exact ⟨empty, rfl⟩

theorem clear (tracks : keys.Tracks history) : keys.clear.Tracks (history ++ [.clear]) := by
  obtain ⟨empty, reliable, none⟩ := clear_spec tracks.reliable
  refine ⟨reliable, fun before later trusted password auto split unwritten => ?_, fun before later split unwritten => ?_⟩
  · rcases concat_eq_split_iff.mp split with ⟨-, -, same⟩ | ⟨middle, rfl, -⟩
    · cases same
    · exact absurd trivial (unwritten _ (List.mem_append_right _ (.head _)))
  · rcases concat_eq_split_iff.mp split with ⟨rfl, -, -⟩ | ⟨middle, rfl, -⟩
    · exact ⟨empty, none⟩
    · exact absurd trivial (unwritten _ (List.mem_append_right _ (.head _)))

end Tracks

theorem Run.tracks (run : Run first history keys) (reliable : first.storage.Reliable) : keys.Tracks history := by
  induction run with
  | start => exact ⟨reliable, by simp, by simp⟩
  | store run trusted password auto draw bounded ih => exact ih.store trusted password auto draw bounded
  | retrieve run password draw ih => exact ih.retrieve password draw
  | setPassword run password ih =>
      exact ih.quiet id ih.reliable (fun _ _ _ holds => holds) fun empty => ⟨empty, rfl⟩
  | clear run ih => exact ih.clear

/-- A key store behaves as the one credential that was last written, or as none. -/
structure IsOneCredential (first keys : KeyStore) (history : List KeyStoreEvent) : Prop where
  /-- A write at the cost that its timed run lets expect goes on with the run. -/
  goesOn : ∀ trusted password auto draw,
    Run first (history ++ [.store trusted password auto (keys.store trusted password auto draw).2])
      (keys.store trusted password auto draw).1
  /-- The password of the last write that succeeded gives back what was written. -/
  stored : ∀ before later trusted password auto,
    history = before ++ .store trusted password auto (.ok ()) :: later → (∀ event ∈ later, ¬ event.Writes) →
      (∀ draw, keys.retrieve password draw = (keys, .ok (some trusted))) ∧ keys.isAutoSession = auto
  /-- Once it was cleared nothing is left, but for a password that was set since. -/
  cleared : ∀ before later, history = before ++ .clear :: later → (∀ event ∈ later, ¬ event.Writes) →
    (∀ password draw, keys.retrieve password draw = (keys, .ok none)) ∧ keys.hasTrustedKey = false ∧
      keys.isAutoSession = false ∧ keys.password = later.foldl KeyStoreEvent.password none

/-- In every run on reliable storage a key store is one optional credential. -/
theorem isOneCredential_of_run (reliable : first.storage.Reliable) (run : Run first history keys) :
    first.IsOneCredential keys history := by
  have tracks := run.tracks reliable
  refine ⟨fun trusted password auto draw => ?_, fun before later trusted password auto split unwritten => ?_,
    fun before later split unwritten => ?_⟩
  · exact run.store trusted password auto draw (isWithinBounds_extrapolate _ _ _)
  · have holds := tracks.stored before later trusted password auto split unwritten
    exact ⟨fun draw => (holds.retrieve tracks.reliable password draw).2, holds.isAutoSession tracks.reliable⟩
  · obtain ⟨empty, password⟩ := tracks.cleared before later split unwritten
    exact ⟨empty.retrieve tracks.reliable, empty.hasTrustedKey tracks.reliable,
      empty.isAutoSession tracks.reliable, password⟩

/-- A key store over empty memory. -/
def emptyKeys : KeyStore := ⟨{}, 0, none⟩

/-- Two credentials, the first of them with a token whose text is empty. -/
def formerKey : TrustedKey := ⟨.fit 32 [1], .fit 32 [2], some ⟨.apns, ""⟩⟩
def latterKey : TrustedKey := ⟨.fit 32 [3], .fit 32 [4], some ⟨.gcm, "a:b"⟩⟩

/-- A credential is written and cleared, another one is written, and a write over it finds no cost. -/
def rewritingHistory : List KeyStoreEvent :=
  [.store formerKey "former" true (.ok ()), .clear, .store latterKey "latter" false (.ok ()),
    .store formerKey "former" true (.error (.crypto "")), .setPassword "former"]

/-- A write that fails spares the credential that was written before it. -/
theorem isOneCredential_rewriting : ∃ keys, Run emptyKeys rewritingHistory keys ∧
    (∀ draw, keys.retrieve "latter" draw = (keys, .ok (some latterKey))) ∧ keys.isAutoSession = false := by
  have reliable : emptyKeys.storage.Reliable := Storage.reliable_memory .empty
  have bounded : IsWithinBounds (.ok 14) := by
    intro logN picked
    cases picked
    decide
  have unpicked : IsWithinBounds (.error (.crypto "")) := nofun
  have written := (Run.start : Run emptyKeys [] emptyKeys).store formerKey "former" true default bounded
  have cleared := written.clear
  have rewritten := cleared.store latterKey "latter" false default bounded
  rw [storeAt_ok (cleared.tracks reliable).reliable (by decide) (by decide),
    storeAt_ok reliable (by decide) (by decide)] at rewritten
  have failed := rewritten.store formerKey "former" true default unpicked
  have run : Run emptyKeys rewritingHistory _ := failed.setPassword "former"
  have one := isOneCredential_of_run reliable run
  exact ⟨_, run, one.stored [_, _] [_, _] latterKey "latter" false rfl (by simp [KeyStoreEvent.Writes])⟩

/-- A password that is set once the store was cleared is kept. -/
theorem password_setPassword_clear : emptyKeys.storage.Reliable ∧
    ∃ keys, Run emptyKeys [.clear, .setPassword "p"] keys ∧ keys.password = some "p" :=
  ⟨Storage.reliable_memory .empty, _, Run.start.clear.setPassword "p", rfl⟩

end KeyStore

end RelayClient
